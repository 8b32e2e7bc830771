/-
What the checks of single fields report. `Rule.Judges` says that a verdict names exactly the fields that offend, each
with a violation of its own; `UnmarkedSecret`, `FalseSwitch` and `DefaultedName` say which those are.

- `Rule.Judges.reportsLeast`: a check made from such a verdict reports nothing exactly when no field offends, and else
  the offence with the least path, with the labels of the fields that enclose it.

The three rules of this library report so, each under its own name.
-/
import CatalogLint.Proofs.Schema.FlatSearch
import CatalogLint.Rule.Registry

namespace CatalogLint

/-! ## What offends -/

/-- a field whose name says secret, in any letter case, and that is not marked as sensitive -/
def UnmarkedSecret (name : String) (field : Field) : Prop :=
  field.sensitive = false ∧
    (Text.lower name ∈ ["api_key", "api_secret_key", "password", "private_key", "ssh_private_key"] ∨
      (∃ stem, Text.lower name = stem ++ "_api_key") ∧ field.type = .string)

/-- a field named like a switch, not excepted, that is no boolean -/
def FalseSwitch (exceptions : NameSet) (name : String) (field : Field) : Prop :=
  (∃ stem, Text.lower name = stem ++ "_enabled") ∧ field.type ≠ .bool ∧ Text.lower name ∉ exceptions

/-- a name, not excepted, that defaults to the word for a default -/
def DefaultedName (exceptions : NameSet) (name : String) (field : Field) : Prop :=
  Text.lower name = "name" ∧ (∃ text, field.default = .text text ∧ Text.lower text = "default") ∧ "name" ∉ exceptions

theorem Rule.endsIn_iff {suffix text : String} : Rule.endsIn suffix text ↔ ∃ stem, text = stem ++ suffix := by
  rw [Rule.endsIn, List.isSuffixOf_iff_suffix]
  constructor
  · rintro ⟨stem, h⟩
    exact ⟨String.ofList stem, String.toList_inj.1 (by rw [String.toList_append, String.toList_ofList, h])⟩
  · rintro ⟨stem, rfl⟩
    exact ⟨stem.toList, String.toList_append.symm⟩

theorem Sensitivity.offends_iff {name : String} {field : Field} :
    Sensitivity.Offends name field ↔ UnmarkedSecret name field := by
  rw [Sensitivity.Offends, UnmarkedSecret, Rule.endsIn_iff, Sensitivity.secretNames, NameSet.mem_ofList]
  rfl

theorem BooleanNaming.offends_iff {exceptions : NameSet} {name : String} {field : Field} :
    BooleanNaming.Offends exceptions name field ↔ FalseSwitch exceptions name field := by
  rw [BooleanNaming.Offends, FalseSwitch, Rule.endsIn_iff, BooleanNaming.suffix]
  exact and_congr_right fun _ => And.comm

theorem RedundantDefault.isRedundant_iff {default : Document} :
    RedundantDefault.isRedundant default ↔ ∃ text, default = .text text ∧ Text.lower text = "default" := by
  unfold RedundantDefault.isRedundant
  split
  · simp [RedundantDefault.redundantText]
  · rename_i hno
    constructor
    · intro h; cases h
    · rintro ⟨text, rfl, _⟩
      exact absurd rfl (hno text)

theorem RedundantDefault.offends_iff {exceptions : NameSet} {name : String} {field : Field} :
    RedundantDefault.Offends exceptions name field ↔ DefaultedName exceptions name field := by
  rw [RedundantDefault.Offends, DefaultedName, RedundantDefault.isRedundant_iff, RedundantDefault.nameField]
  constructor
  · rintro ⟨hname, hfree, hdefault⟩
    exact ⟨hname, hdefault, hname ▸ hfree⟩
  · rintro ⟨hname, hdefault, hfree⟩
    exact ⟨hname, hname.symm ▸ hfree, hdefault⟩

/-! ## Verdicts on single fields -/

/-- a verdict gives a violation exactly to the fields that offend, of the field itself and of the family given for it -/
structure Rule.Judges (verdict : String → Field → Option Violation) (offends : String → Field → Prop)
    (family : Field → Violation.Family) : Prop where
  none_iff : ∀ name field, verdict name field = none ↔ ¬ offends name field
  own : ∀ name field violation, verdict name field = some violation →
    violation.fieldName = name ∧ violation.parents = [] ∧ violation.family = family field

theorem Rule.judges_of_decide {offends : String → Field → Prop} [∀ name field, Decidable (offends name field)]
    {describe : String → Field → Violation} {family : Field → Violation.Family}
    (h : ∀ name field, (describe name field).fieldName = name ∧ (describe name field).parents = [] ∧
      (describe name field).family = family field) :
    Rule.Judges (fun name field => if offends name field then some (describe name field) else none) offends family := by
  refine ⟨fun name field => ?_, fun name field violation hv => ?_⟩
  · by_cases ho : offends name field <;> simp [ho]
  · by_cases ho : offends name field
    · simp only [ho, if_true, Option.some.injEq] at hv
      rw [← hv]
      exact h name field
    · simp [ho] at hv

namespace Rule.Judges

variable {verdict : String → Field → Option Violation} {offends : String → Field → Prop}
  {family : Field → Violation.Family}

theorem congr (h : Judges verdict offends family) {same : String → Field → Prop}
    (hsame : ∀ name field, offends name field ↔ same name field) : Judges verdict same family :=
  ⟨fun name field => (h.none_iff name field).trans (not_congr (hsame name field)), h.own⟩

theorem offends_of_some (h : Judges verdict offends family) {name : String} {field : Field} {violation : Violation}
    (hv : verdict name field = some violation) : offends name field := by
  refine Classical.byContradiction fun hno => ?_
  rw [(h.none_iff name field).2 hno] at hv
  cases hv

end Rule.Judges

theorem Sensitivity.verdict_judges (exceptions : NameSet) :
    Rule.Judges (Sensitivity.verdict exceptions) UnmarkedSecret fun _ => .sensitivity := by
  have h : Rule.Judges (Sensitivity.verdict exceptions) Sensitivity.Offends fun _ => .sensitivity :=
    Rule.judges_of_decide fun _ _ => ⟨rfl, rfl, rfl⟩
  exact h.congr fun _ _ => Sensitivity.offends_iff

theorem BooleanNaming.verdict_judges (exceptions : NameSet) :
    Rule.Judges (BooleanNaming.verdict exceptions) (FalseSwitch exceptions)
      fun field => .booleanNaming (some field.type) := by
  have h : Rule.Judges (BooleanNaming.verdict exceptions) (BooleanNaming.Offends exceptions)
      fun field => .booleanNaming (some field.type) := Rule.judges_of_decide fun _ _ => ⟨rfl, rfl, rfl⟩
  exact h.congr fun _ _ => BooleanNaming.offends_iff

theorem RedundantDefault.verdict_judges (exceptions : NameSet) :
    Rule.Judges (RedundantDefault.verdict exceptions) (DefaultedName exceptions) fun _ => .redundantDefault := by
  have h : Rule.Judges (RedundantDefault.verdict exceptions) (RedundantDefault.Offends exceptions)
      fun _ => .redundantDefault := Rule.judges_of_decide fun _ _ => ⟨rfl, rfl, rfl⟩
  exact h.congr fun _ _ => RedundantDefault.offends_iff

/-! ## Reports -/

/-- what a check must report of a schema: nothing when no field offends; else a violation of the offending field with
the least path, which tells where the field stands, the labels of all fields around it, and the family given for it -/
structure Schema.ReportsLeast (s : Schema) (offends : String → Field → Prop) (family : Field → Violation.Family)
    (report : Option Violation) : Prop where
  none_iff : report = none ↔ ∀ path name field, s.Leads path name field → ¬ offends name field
  reached : ∀ violation, report = some violation → ∃ field,
    s.Leads (violation.parents.map Prod.fst) violation.fieldName field ∧ offends violation.fieldName field ∧
      violation.family = family field
  least : ∀ violation, report = some violation → ∀ path name field, s.Leads path name field → offends name field →
    violation.fieldPath = path ++ [name] ∨ violation.fieldPath < path ++ [name]
  labels : ∀ violation, report = some violation → ∀ before outer after,
    violation.parents = before ++ outer :: after → ∃ around,
      s.Leads (before.map Prod.fst) outer.1 around ∧ outer.2 = around.type.label ∧
        (outer.2 = "List" ∨ outer.2 = "Set")

namespace Rule.Judges

variable {verdict : String → Field → Option Violation} {offends : String → Field → Prop}
  {family : Field → Violation.Family}

theorem firstViolation_eq_none_iff (h : Judges verdict offends family) (s : Schema) :
    s.firstViolation verdict = none ↔
      ∀ parents name field, s.fields.At parents name field → ¬ offends name field := by
  rw [Schema.firstViolation_eq_findSome?, List.findSome?_eq_none_iff]
  simp only [Visit.verdict, Option.map_eq_none_iff, h.none_iff]
  constructor
  · intro hall parents name field ha
    exact hall ⟨parents, name, field⟩ (Fields.mem_visits.2 ha)
  · intro hall v hv
    exact hall v.parents v.name v.field (Fields.mem_visits.1 hv)

/-- A hit at a stop is the verdict on its field, told from the whole schema. -/
theorem hit (h : Judges verdict offends family) {v : Visit} {violation : Violation}
    (hv : v.verdict verdict = some violation) :
    offends v.name v.field ∧ violation.parents = v.parents ∧ violation.fieldName = v.name ∧
      violation.family = family v.field := by
  obtain ⟨own, hown, rfl⟩ := Option.map_eq_some_iff.1 hv
  obtain ⟨hname, hparents, hfamily⟩ := h.own _ _ _ hown
  exact ⟨h.offends_of_some hown, by simp [Visit.report, hparents], hname, hfamily⟩

/-- The violation that is reported is the verdict on the offending field with the least path. -/
theorem least_hit (h : Judges verdict offends family) {s : Schema} {violation : Violation}
    (hfirst : s.firstViolation verdict = some violation) :
    ∃ v ∈ s.visits, v.verdict verdict = some violation ∧
      ∀ parents name field, s.fields.At parents name field → offends name field →
        (⟨parents, name, field⟩ : Visit) = v ∨ v.path < parents.map Prod.fst ++ [name] := by
  rw [Schema.firstViolation_eq_findSome?] at hfirst
  obtain ⟨v, hv, hverdict, hleast⟩ := first_hit_least (Fields.visits_ordered s.ordered) hfirst
  refine ⟨v, hv, hverdict, fun parents name field ha ho => hleast ⟨parents, name, field⟩ (Fields.mem_visits.2 ha) ?_⟩
  intro hnone
  exact (h.none_iff name field).1 (Option.map_eq_none_iff.1 hnone) ho

/-- **A check of single fields reports the least offence, and truthfully.** -/
theorem reportsLeast (h : Judges verdict offends family) (s : Schema) :
    s.ReportsLeast offends family (s.firstViolation verdict) := by
  constructor
  case none_iff =>
    rw [h.firstViolation_eq_none_iff]
    constructor
    · intro hall path name field hl
      obtain ⟨parents, _, ha⟩ := Schema.leads_iff.1 hl
      exact hall parents name field ha
    · intro hall parents name field ha
      exact hall _ name field (Schema.leads_iff.2 ⟨parents, rfl, ha⟩)
  case reached =>
    intro violation hfirst
    obtain ⟨v, hv, hverdict, _⟩ := h.least_hit hfirst
    obtain ⟨ho, hparents, hname, hfamily⟩ := h.hit hverdict
    rw [hparents, hname]
    exact ⟨v.field, Schema.leads_iff.2 ⟨v.parents, rfl, Fields.mem_visits.1 hv⟩, ho, hfamily⟩
  case least =>
    intro violation hfirst path name field hl ho
    obtain ⟨v, hv, hverdict, hleast⟩ := h.least_hit hfirst
    obtain ⟨_, hparents, hname, _⟩ := h.hit hverdict
    obtain ⟨parents, rfl, ha⟩ := Schema.leads_iff.1 hl
    have hpath : violation.fieldPath = v.path := by rw [Violation.fieldPath, Visit.path, hparents, hname]
    rw [hpath]
    exact (hleast parents name field ha ho).imp_left fun heq => by rw [← heq]; rfl
  case labels =>
    intro violation hfirst before outer after hsplit
    obtain ⟨v, hv, hverdict, _⟩ := h.least_hit hfirst
    obtain ⟨_, hparents, _, _⟩ := h.hit hverdict
    rw [hparents] at hsplit
    obtain ⟨around, ha, hlabel, hshape⟩ := (Fields.mem_visits.1 hv).enclosing hsplit
    exact ⟨around, Schema.leads_iff.2 ⟨before, rfl, ha⟩, hlabel, hshape⟩

end Rule.Judges

/-! ## The rules of this library -/

/-- **The three checks report the least offence, and truthfully**, each with a violation that names its own rule. -/
theorem builtin_checks_report_least (s : Schema) (exceptions : NameSet) :
    (s.ReportsLeast UnmarkedSecret (fun _ => .sensitivity) (Sensitivity.check s exceptions) ∧
      ∀ violation, Sensitivity.check s exceptions = some violation →
        Registry.builtin.get? violation.ruleName = some Sensitivity.rule) ∧
    (s.ReportsLeast (FalseSwitch exceptions) (fun field => .booleanNaming (some field.type))
        (BooleanNaming.check s exceptions) ∧
      ∀ violation, BooleanNaming.check s exceptions = some violation →
        Registry.builtin.get? violation.ruleName = some BooleanNaming.rule) ∧
    (s.ReportsLeast (DefaultedName exceptions) (fun _ => .redundantDefault) (RedundantDefault.check s exceptions) ∧
      ∀ violation, RedundantDefault.check s exceptions = some violation →
        Registry.builtin.get? violation.ruleName = some RedundantDefault.rule) := by
  have hsecret := (Sensitivity.verdict_judges exceptions).reportsLeast s
  have hswitch := (BooleanNaming.verdict_judges exceptions).reportsLeast s
  have hname := (RedundantDefault.verdict_judges exceptions).reportsLeast s
  refine ⟨⟨hsecret, fun violation h => ?_⟩, ⟨hswitch, fun violation h => ?_⟩, ⟨hname, fun violation h => ?_⟩⟩
  · obtain ⟨field, _, _, hfamily⟩ := hsecret.reached violation h
    rw [Violation.ruleName, hfamily]
    rfl
  · obtain ⟨field, _, _, hfamily⟩ := hswitch.reached violation h
    rw [Violation.ruleName, hfamily]
    rfl
  · obtain ⟨field, _, _, hfamily⟩ := hname.reached violation h
    rw [Violation.ruleName, hfamily]
    rfl

end CatalogLint
