/-
More exceptions never bring a failure forward. A `Site` is a field at any depth of an entry as one rule looks at it; the
sites of a catalog are in order by partition, entry, rule and path. With rules that exceptions ease (`Rule.Eased`), a
run ends with the failure of the least site that fails, and with more exceptions no site fails more.

- `Rule.Eased.least_visit`: what a check reports is about the least field.
- `Linter.passes_iff_no_site`, `Linter.least_site`: so a run passes exactly when no site fails, and otherwise its failure
  is that of the least site that fails.
- `Linter.sites_of_failures`: of two runs, where the second has the exceptions of the first and perhaps more, the second
  fails at the same site or at a later one.
- `Registry.builtin_eased`: the rules of this library are eased by exceptions.
-/
import CatalogLint.Proofs.Lint.FirstFailure
import CatalogLint.Proofs.Rule.LeastOffence

namespace CatalogLint

/-! ## Rules that exceptions ease -/

/-- what a rule says of a single field under excepted names -/
abbrev Verdict := NameSet → String → Field → Option Violation

/-- the rule looks at one field at a time, and excepting more names gives no field a violation -/
structure Rule.Eased (rule : Rule) (verdict : Verdict) : Prop where
  check : rule.check = Rule.fieldCheck verdict
  own : ∀ exceptions name field violation, verdict exceptions name field = some violation →
    violation.fieldName = name ∧ violation.parents = []
  antitone : ∀ {exceptions more : NameSet}, (∀ n ∈ exceptions, n ∈ more) → ∀ name field,
    verdict more name field ≠ none → verdict exceptions name field ≠ none

/-- where exceptions may be declared for the rule, it says nothing of a field whose name is excepted -/
def Rule.Silenced (rule : Rule) (verdict : Verdict) : Prop :=
  rule.supportsExceptions = true → ∀ exceptions name field, Text.lower name ∈ exceptions →
    verdict exceptions name field = none

theorem Rule.eased_of_judges {rule : Rule} {verdict : Verdict} {offends : NameSet → String → Field → Prop}
    {family : Field → Violation.Family} (hcheck : rule.check = Rule.fieldCheck verdict)
    (h : ∀ exceptions, Rule.Judges (verdict exceptions) (offends exceptions) family)
    (hoffends : ∀ {exceptions more : NameSet}, (∀ n ∈ exceptions, n ∈ more) → ∀ name field,
      offends more name field → offends exceptions name field) : rule.Eased verdict := by
  refine ⟨hcheck, fun exceptions name field violation hv => ?_, fun hmore name field hv hnone => ?_⟩
  · obtain ⟨hname, hparents, _⟩ := (h exceptions).own name field violation hv
    exact ⟨hname, hparents⟩
  · obtain ⟨violation, hviolation⟩ := Option.ne_none_iff_exists'.1 hv
    have ho := (h _).offends_of_some hviolation
    exact ((h _).none_iff name field).1 hnone (hoffends hmore name field ho)

namespace Rule.Eased

variable {rule : Rule} {verdict : Verdict} (h : rule.Eased verdict) {s : Schema} {exceptions : NameSet}

include h in
theorem check_eq_none_iff : rule.check s exceptions = none ↔
    ∀ v ∈ s.visits, verdict exceptions v.name v.field = none := by
  rw [h.check, Rule.fieldCheck, Schema.firstViolation_eq_findSome?, List.findSome?_eq_none_iff]
  simp only [Visit.verdict, Option.map_eq_none_iff]

include h in
/-- A check that reports something reports the least field of which the rule says something. -/
theorem least_visit {violation : Violation} (hcheck : rule.check s exceptions = some violation) :
    ∃ v ∈ s.visits, verdict exceptions v.name v.field ≠ none ∧ violation.fieldName = v.name ∧
      violation.fieldPath = v.path ∧
      ∀ w ∈ s.visits, verdict exceptions w.name w.field ≠ none → w = v ∨ v.path < w.path := by
  rw [h.check, Rule.fieldCheck, Schema.firstViolation_eq_findSome?] at hcheck
  obtain ⟨v, hv, hverdict, hleast⟩ := first_hit_least (Fields.visits_ordered s.ordered) hcheck
  obtain ⟨own, hown, rfl⟩ := Option.map_eq_some_iff.1 hverdict
  obtain ⟨hname, hparents⟩ := h.own _ _ _ _ hown
  refine ⟨v, hv, ?_, hname, ?_, fun w hw hfails => hleast w hw fun hnone => hfails (Option.map_eq_none_iff.1 hnone)⟩
  · rw [hown]
    exact Option.some_ne_none _
  · rw [Violation.fieldPath, Visit.path, Visit.report, hparents, hname, List.append_nil]

end Rule.Eased

theorem Sensitivity.eased {rule : Rule} (h : rule.check = Sensitivity.check) : rule.Eased Sensitivity.verdict :=
  Rule.eased_of_judges h Sensitivity.verdict_judges fun _ _ _ ho => ho

theorem BooleanNaming.eased {rule : Rule} (h : rule.check = BooleanNaming.check) : rule.Eased BooleanNaming.verdict :=
  Rule.eased_of_judges h BooleanNaming.verdict_judges fun hmore _ _ ho => ⟨ho.1, ho.2.1, fun hn => ho.2.2 (hmore _ hn)⟩

theorem RedundantDefault.eased {rule : Rule} (h : rule.check = RedundantDefault.check) :
    rule.Eased RedundantDefault.verdict :=
  Rule.eased_of_judges h RedundantDefault.verdict_judges fun hmore _ _ ho =>
    ⟨ho.1, ho.2.1, fun hn => ho.2.2 (hmore _ hn)⟩

/-- the verdicts of the rules of this library, by the name of the rule -/
def builtinVerdict (rule : Rule) : Verdict :=
  if rule.name = Sensitivity.rule.name then Sensitivity.verdict
  else if rule.name = BooleanNaming.rule.name then BooleanNaming.verdict
  else RedundantDefault.verdict

/-- **The rules of this library are eased by exceptions**, and silenced where these may be declared. -/
theorem Registry.builtin_eased : ∀ rule ∈ Registry.builtin.rules,
    rule.Eased (builtinVerdict rule) ∧ rule.Silenced (builtinVerdict rule) := by
  have hsecret : Sensitivity.rule.Silenced Sensitivity.verdict :=
    fun hsupports => absurd hsupports Bool.false_ne_true
  have hswitch : BooleanNaming.rule.Silenced BooleanNaming.verdict := by
    intro _ exceptions name field hn
    exact ((BooleanNaming.verdict_judges exceptions).none_iff name field).2 fun ho => ho.2.2 hn
  have hname : RedundantDefault.rule.Silenced RedundantDefault.verdict := by
    intro _ exceptions name field hn
    exact ((RedundantDefault.verdict_judges exceptions).none_iff name field).2 fun ho => ho.2.2 (ho.1 ▸ hn)
  have hfirst : builtinVerdict Sensitivity.rule = Sensitivity.verdict := if_pos rfl
  have hsecond : builtinVerdict BooleanNaming.rule = BooleanNaming.verdict := (if_neg (by decide)).trans (if_pos rfl)
  have hthird : builtinVerdict RedundantDefault.rule = RedundantDefault.verdict :=
    (if_neg (by decide)).trans (if_neg (by decide))
  simp only [Registry.builtin, List.forall_mem_cons, List.not_mem_nil, false_implies, implies_true, and_true, hfirst,
    hsecond, hthird]
  exact ⟨⟨Sensitivity.eased rfl, hsecret⟩, ⟨BooleanNaming.eased rfl, hswitch⟩, ⟨RedundantDefault.eased rfl, hname⟩⟩

/-! ## Sites and their order -/

/-- a field at some depth of an entry, looked at by one rule -/
structure Site where
  check : Check
  visit : Visit

namespace Site

/-- the check is made of the catalog, and the field is in the entry -/
structure Reached (l : Linter) (c : Catalog) (s : Site) : Prop where
  present : s.check.Present c
  registered : s.check.Registered l
  visited : s.visit ∈ s.check.schema.visits

/-- by check, then by path -/
def Before (a b : Site) : Prop := a.check.Before b.check ∨ (a.check = b.check ∧ a.visit.path < b.visit.path)

/-- the names excepted there -/
def excepted (x : ExceptionRegistry) (s : Site) : NameSet :=
  (x.exceptionsFor s.check.rule.name s.check.partition).forEntry s.check.entry

/-- the rule says something of the field -/
def Fails (verdicts : Rule → Verdict) (x : ExceptionRegistry) (s : Site) : Prop :=
  verdicts s.check.rule (s.excepted x) s.visit.name s.visit.field ≠ none

end Site

/-- the failure is that of the site -/
structure Failure.At (f : Failure) (s : Site) : Prop where
  partition : f.partition = s.check.partition
  entry : f.entry = s.check.entry
  rule : f.rule = s.check.rule.name
  fieldName : f.violation.fieldName = s.visit.name
  fieldPath : f.violation.fieldPath = s.visit.path

/-- every exception of the first is one of the second -/
def ExceptionRegistry.Within (x y : ExceptionRegistry) : Prop :=
  ∀ rule p entry, ∀ n ∈ (x.exceptionsFor rule p).forEntry entry, n ∈ (y.exceptionsFor rule p).forEntry entry

theorem ExceptionRegistry.Within.trans {x y z : ExceptionRegistry} (hxy : x.Within y) (hyz : y.Within z) :
    x.Within z := fun rule p entry n hn => hyz rule p entry n (hxy rule p entry n hn)

/-! ## Runs and sites -/

namespace Linter

variable {l : Linter} {c : Catalog} {verdicts : Rule → Verdict}

theorem result_eq_none_iff (hrules : ∀ rule ∈ l.registry.rules, rule.Eased (verdicts rule)) {k : Check}
    (hk : k.Registered l) : k.result l.exceptions = none ↔
      ∀ v ∈ k.schema.visits, ¬ Site.Fails verdicts l.exceptions ⟨k, v⟩ := by
  have hrule := hrules k.rule (List.mem_of_getElem? hk)
  rw [Check.result, hrule.check_eq_none_iff]
  simp only [Site.Fails, Classical.not_not]
  rfl

/-- A run passes exactly when no site fails. -/
theorem passes_iff_no_site (hrules : ∀ rule ∈ l.registry.rules, rule.Eased (verdicts rule)) :
    (∃ counts, (l.checkCatalog c).outcome = .ok counts) ↔
      ∀ s : Site, s.Reached l c → ¬ s.Fails verdicts l.exceptions := by
  simp only [outcome_checkCatalog_eq_ok_iff, exists_and_left, exists_eq, and_true]
  constructor
  · intro hall s hs
    exact (result_eq_none_iff hrules hs.registered).1 (hall s.check hs.present hs.registered) s.visit hs.visited
  · intro hall k hpresent hregistered
    rw [result_eq_none_iff hrules hregistered]
    intro v hv
    exact hall ⟨k, v⟩ ⟨hpresent, hregistered, hv⟩

/-- **The failure of a run is that of the least site that fails.** -/
theorem least_site (hrules : ∀ rule ∈ l.registry.rules, rule.Eased (verdicts rule)) {f : Failure}
    (h : (l.checkCatalog c).outcome = .error f) :
    ∃ s : Site, s.Reached l c ∧ s.Fails verdicts l.exceptions ∧ f.At s ∧
      ∀ other : Site, other.Reached l c → other.Fails verdicts l.exceptions → other = s ∨ s.Before other := by
  obtain ⟨k, hk, hfailure⟩ := l.outcome_checkCatalog_eq_error_iff.1 h
  obtain ⟨violation, hresult, rfl⟩ := Option.map_eq_some_iff.1 hfailure
  have hrule := hrules k.rule (List.mem_of_getElem? hk.registered)
  obtain ⟨v, hv, hfails, hname, hpath, hvisits⟩ := hrule.least_visit hresult
  refine ⟨⟨k, v⟩, ⟨hk.present, hk.registered, hv⟩, hfails, ⟨rfl, rfl, rfl, hname, hpath⟩, fun other ho hother => ?_⟩
  obtain ⟨k', v'⟩ := other
  have hfail : k'.result l.exceptions ≠ none := fun hnone =>
    (result_eq_none_iff hrules ho.registered).1 hnone v' ho.visited hother
  rcases hk.least k' ho.present ho.registered hfail with rfl | hbefore
  · -- the same check, so the paths decide
    rcases hvisits v' ho.visited hother with rfl | hlt
    · exact Or.inl rfl
    · exact Or.inr (Or.inr ⟨rfl, hlt⟩)
  · exact Or.inr (Or.inl hbefore)

/-- With more exceptions, a site that fails has failed before. -/
theorem fails_of_within (hrules : ∀ rule ∈ l.registry.rules, rule.Eased (verdicts rule)) {x y : ExceptionRegistry}
    (hxy : x.Within y) {s : Site} (hs : s.Reached l c) (h : s.Fails verdicts y) : s.Fails verdicts x :=
  (hrules s.check.rule (List.mem_of_getElem? hs.registered)).antitone (hxy _ _ _) _ _ h

/-- **A run with more exceptions fails at the same site or at a later one.** -/
theorem sites_of_failures (hrules : ∀ rule ∈ l.registry.rules, rule.Eased (verdicts rule)) {more : Linter}
    (hregistry : more.registry = l.registry) (hx : l.exceptions.Within more.exceptions) {f g : Failure}
    (hf : (l.checkCatalog c).outcome = .error f) (hg : (more.checkCatalog c).outcome = .error g) :
    ∃ s t : Site, s.Reached l c ∧ t.Reached l c ∧ f.At s ∧ g.At t ∧ t.Fails verdicts more.exceptions ∧
      (t = s ∨ s.Before t) := by
  obtain ⟨s, hs, _, hfs, hleast⟩ := least_site hrules hf
  obtain ⟨t, ht, hfails, hgt, _⟩ := least_site (hregistry ▸ hrules) hg
  have hreached : t.Reached l c := ⟨ht.present, by
    have hregistered := ht.registered
    rw [Check.Registered, hregistry] at hregistered
    exact hregistered, ht.visited⟩
  exact ⟨s, t, hs, hreached, hfs, hgt, hfails, hleast t hreached (fails_of_within hrules hx hreached hfails)⟩

end Linter

/-! ## The order of failures -/

/-- how many rules are registered before the one of a name -/
def Registry.position (r : Registry) (name : String) : Nat := (r.rules.map Rule.name).idxOf name

/-- a failure stands before another: by partition, entry and rule, then by the path of the field -/
def Failure.Before (r : Registry) (f g : Failure) : Prop :=
  (f.partition = .dataSources ∧ g.partition = .resources) ∨
    (f.partition = g.partition ∧ (f.entry < g.entry ∨
      (f.entry = g.entry ∧ (r.position f.rule < r.position g.rule ∨
        (f.rule = g.rule ∧ f.violation.fieldPath < g.violation.fieldPath)))))

theorem Check.Registered.position_eq {l : Linter} {k : Check} (h : k.Registered l) :
    l.registry.position k.rule.name = k.position := by
  obtain ⟨hlt, hget⟩ := List.getElem?_eq_some_iff.1 h
  have hlt' : k.position < (l.registry.rules.map Rule.name).length := by rwa [List.length_map]
  have hname : (l.registry.rules.map Rule.name)[k.position] = k.rule.name := by rw [List.getElem_map, hget]
  rw [Registry.position, ← hname]
  exact l.registry.distinct.idxOf_getElem k.position hlt'

theorem Site.Before.failure_before {l : Linter} {c : Catalog} {s t : Site} (h : s.Before t) (hs : s.Reached l c)
    (ht : t.Reached l c) {f g : Failure} (hf : f.At s) (hg : g.At t) : f.Before l.registry g := by
  rw [Failure.Before, hf.partition, hg.partition, hf.entry, hg.entry, hf.rule, hg.rule, hf.fieldPath, hg.fieldPath,
    hs.registered.position_eq, ht.registered.position_eq]
  rcases h with (hpartition | ⟨hpartition, hentry | ⟨hentry, hposition⟩⟩) | ⟨hcheck, hpath⟩
  · exact Or.inl hpartition
  · exact Or.inr ⟨hpartition, Or.inl hentry⟩
  · exact Or.inr ⟨hpartition, Or.inr ⟨hentry, Or.inl hposition⟩⟩
  · rw [hcheck]
    exact Or.inr ⟨rfl, Or.inr ⟨rfl, Or.inr ⟨rfl, hpath⟩⟩⟩

end CatalogLint
