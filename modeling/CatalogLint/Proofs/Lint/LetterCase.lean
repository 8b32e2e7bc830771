/-
Letter case makes no difference to a verdict. Two catalogs have the same entries up to letter case when each entry of
one is in the other, with a schema that differs in letter case alone. The walks through two such schemas may visit
fields in different orders and may report different ones; whether there is anything to report is the same.

- `Registry.builtin_sameVerdicts`: the rules of this library pass both schemas or neither.
- `Check.FailsFirst.of_sameVerdicts`: the step from one check to a catalog. Where each check passes both schemas or
  neither, the check that fails first is the same.
-/
import CatalogLint.Proofs.Lint.Admission
import CatalogLint.Proofs.Schema.Alike
import CatalogLint.Proofs.Schema.Recasing

namespace CatalogLint

/-! ## The same verdicts -/

/-- every rule passes both schemas or neither, whatever names are excepted -/
def Registry.SameVerdicts (r : Registry) (s s' : Schema) : Prop :=
  ∀ rule ∈ r.rules, ∀ names, rule.check s names = none ↔ rule.check s' names = none

/-- The three checks of this library see no letter case. -/
theorem builtin_checks_none_iff_of_recased {s s' : Schema} (h : s.Recased s') (names : NameSet) :
    (Sensitivity.check s names = none ↔ Sensitivity.check s' names = none) ∧
    (BooleanNaming.check s names = none ↔ BooleanNaming.check s' names = none) ∧
    (RedundantDefault.check s names = none ↔ RedundantDefault.check s' names = none) :=
  ⟨(Sensitivity.verdict_judges names).none_iff_of_recased UnmarkedSecret.seesNoCase h,
    (BooleanNaming.verdict_judges names).none_iff_of_recased (FalseSwitch.seesNoCase names) h,
    (RedundantDefault.verdict_judges names).none_iff_of_recased (DefaultedName.seesNoCase names) h⟩

theorem Registry.builtin_sameVerdicts {s s' : Schema} (h : s.Recased s') : Registry.builtin.SameVerdicts s s' := by
  intro rule hrule names
  obtain ⟨hsecret, hswitch, hname⟩ := builtin_checks_none_iff_of_recased h names
  simp only [Registry.builtin, List.mem_cons, List.not_mem_nil, or_false] at hrule
  rcases hrule with rfl | rfl | rfl
  · exact hsecret
  · exact hswitch
  · exact hname

/-- both catalogs have the same entries, with schemas that are related -/
def Catalog.SameEntries (related : Schema → Schema → Prop) (c c' : Catalog) : Prop :=
  ∀ p entry, Option.Rel related ((c.get p).get? entry) ((c'.get p).get? entry)

namespace Catalog.SameEntries

variable {related : Schema → Schema → Prop} {c c' : Catalog} (h : c.SameEntries related c')

include h

theorem exists_right {p : Partition} {entry : String} {s : Schema} (hs : (c.get p).get? entry = some s) :
    ∃ s', (c'.get p).get? entry = some s' ∧ related s s' := by
  have hrel := h p entry
  rwa [hs, rel_some_iff] at hrel

theorem exists_left {p : Partition} {entry : String} {s' : Schema} (hs' : (c'.get p).get? entry = some s') :
    ∃ s, (c.get p).get? entry = some s ∧ related s s' := by
  cases hs : (c.get p).get? entry with
  | none =>
    have hrel := h p entry
    rw [hs, rel_none_iff, hs'] at hrel
    cases hrel
  | some s =>
    obtain ⟨other, hother, hrelated⟩ := h.exists_right hs
    cases hs'.symm.trans hother
    exact ⟨s, rfl, hrelated⟩

theorem size_eq (p : Partition) : c.size p = c'.size p :=
  (Entries.alike_of_lookup? (c.get p).ordered (c'.get p).ordered (h p)).length_eq

end Catalog.SameEntries

/-! ## Whole runs -/

variable {l : Linter} {c c' : Catalog}

/-- **The check that fails first is the same**, but for the schema of its entry. -/
theorem Check.FailsFirst.of_sameVerdicts {k : Check} (hk : k.FailsFirst l c)
    (h : c.SameEntries l.registry.SameVerdicts c') : ∃ s', Check.FailsFirst l c' { k with schema := s' } := by
  obtain ⟨s', hs', hsame⟩ := h.exists_right hk.present
  have hrule : k.rule ∈ l.registry.rules := List.mem_of_getElem? hk.registered
  refine ⟨s', hs', hk.registered, fun hpass => hk.fails ((hsame k.rule hrule _).2 hpass), ?_⟩
  intro other hpresent hregistered hfails
  obtain ⟨p, entry, schema', position, rule⟩ := other
  obtain ⟨schema, hschema, hother⟩ := h.exists_left hpresent
  have hfails' : Check.result l.exceptions ⟨p, entry, schema, position, rule⟩ ≠ none := fun hpass =>
    hfails ((hother rule (List.mem_of_getElem? hregistered) _).1 hpass)
  rcases hk.least ⟨p, entry, schema, position, rule⟩ hschema hregistered hfails' with rfl | hbefore
  · -- the same entry of the other catalog, which has one schema
    cases hs'.symm.trans hpresent
    exact Or.inl rfl
  · exact Or.inr hbefore

namespace Linter

/-- A run fails where a run on a catalog with the same verdicts fails: in the same entry, by the same rule. -/
theorem exists_error_of_sameVerdicts (h : c.SameEntries l.registry.SameVerdicts c') {f : Failure}
    (hf : (l.checkCatalog c).outcome = .error f) : ∃ f', (l.checkCatalog c').outcome = .error f' ∧
      f.partition = f'.partition ∧ f.entry = f'.entry ∧ f.rule = f'.rule := by
  obtain ⟨k, hk, hfailure⟩ := l.outcome_checkCatalog_eq_error_iff.1 hf
  obtain ⟨violation, _, rfl⟩ := Option.map_eq_some_iff.1 hfailure
  obtain ⟨s', hk'⟩ := hk.of_sameVerdicts h
  obtain ⟨violation', hviolation'⟩ := Option.ne_none_iff_exists'.1 hk'.fails
  have hfailure' : Check.failure? l.exceptions { k with schema := s' } =
      some ⟨k.entry, k.partition, k.rule.name, violation', k.rule.failureSummary⟩ := by
    rw [Check.failure?, hviolation']
    rfl
  exact ⟨_, l.outcome_checkCatalog_eq_error_iff.2 ⟨_, hk', hfailure'⟩, rfl, rfl, rfl⟩

/-- A run passes if a run on a catalog with the same verdicts passes, and gives the same numbers. -/
theorem passes_of_sameVerdicts (h : c.SameEntries l.registry.SameVerdicts c') {counts : Partitioned Nat}
    (hpass : (l.checkCatalog c).outcome = .ok counts) : (l.checkCatalog c').outcome = .ok counts := by
  obtain ⟨hall, hcounts⟩ := l.outcome_checkCatalog_eq_ok_iff.1 hpass
  refine l.outcome_checkCatalog_eq_ok_iff.2 ⟨fun k hpresent hregistered => ?_, ?_⟩
  · obtain ⟨s, hs, hsame⟩ := h.exists_left hpresent
    exact (hsame k.rule (List.mem_of_getElem? hregistered) _).1 (hall { k with schema := s } hs hregistered)
  · rw [hcounts, h.size_eq .dataSources, h.size_eq .resources]

theorem outcome_eq_ok_iff_of_sameVerdicts (h : c.SameEntries l.registry.SameVerdicts c') {counts : Partitioned Nat} :
    (l.checkCatalog c).outcome = .ok counts ↔ (l.checkCatalog c').outcome = .ok counts := by
  constructor
  · exact passes_of_sameVerdicts h
  · intro hpass
    cases hout : (l.checkCatalog c).outcome with
    | ok others =>
      have hothers := passes_of_sameVerdicts h hout
      rw [hpass] at hothers
      rw [Except.ok.inj hothers]
    | error f =>
      obtain ⟨f', hf', _⟩ := exists_error_of_sameVerdicts h hout
      rw [hpass] at hf'
      cases hf'

end Linter

/-- **The verdict ignores letter case.** Take a schema and change the letter case of names at any depth, as long as
names side by side stay different, and that of texts that are defaults. Each of the three checks of this library reports
something in one of both schemas if and only if it does in the other, whatever names are excepted. So a linter with
these checks passes two catalogs whose entries differ in this way, or fails in the same entry by the same rule. -/
theorem verdict_ignores_letter_case :
    (∀ (s s' : Schema) (names : NameSet), s.Recased s' →
      (Sensitivity.check s names = none ↔ Sensitivity.check s' names = none) ∧
      (BooleanNaming.check s names = none ↔ BooleanNaming.check s' names = none) ∧
      (RedundantDefault.check s names = none ↔ RedundantDefault.check s' names = none)) ∧
    ∀ (x : ExceptionRegistry) (l : Linter) (c c' : Catalog), Linter.make .builtin x = .ok l →
      c.SameEntries Schema.Recased c' →
      (∀ counts, (l.checkCatalog c).outcome = .ok counts ↔ (l.checkCatalog c').outcome = .ok counts) ∧
      ∀ f, (l.checkCatalog c).outcome = .error f → ∃ f', (l.checkCatalog c').outcome = .error f' ∧
        f.partition = f'.partition ∧ f.entry = f'.entry ∧ f.rule = f'.rule := by
  constructor
  · intro s s' names h
    exact builtin_checks_none_iff_of_recased h names
  · intro x l c c' hl h
    have hsame : c.SameEntries l.registry.SameVerdicts c' := by
      rw [(Linter.make_eq_ok hl).1]
      exact fun p entry => rel_imp (h p entry) fun s s' _ _ hs => Registry.builtin_sameVerdicts hs
    exact ⟨fun counts => Linter.outcome_eq_ok_iff_of_sameVerdicts hsame,
      fun f hf => Linter.exists_error_of_sameVerdicts hsame hf⟩

/-- two switches that are none, where the capital letter puts the second one first -/
def capitalSecond : Schema :=
  ⟨[("B_enabled", ⟨.primitive .string, false, .null⟩), ("a_enabled", ⟨.primitive .int, false, .null⟩)], by decide⟩

def capitalFirst : Schema :=
  ⟨[("A_enabled", ⟨.primitive .int, false, .null⟩), ("b_enabled", ⟨.primitive .string, false, .null⟩)], by decide⟩

def diskOf (s : Schema) : Catalog := ⟨.empty, ⟨[("disk", s)], List.pairwise_singleton _ _⟩⟩

theorem Registry.admits_none (r : Registry) : ∀ name ∈ ExceptionRegistry.ruleNames .empty, r.refusal? name = none :=
  fun _ h => absurd h List.not_mem_nil

def plainLinter : Linter := ⟨.builtin, .empty, Registry.admits_none .builtin⟩

/-- The two are reported by different fields, and both fail in the same entry by the same rule. -/
theorem switches_swap_and_fail_alike : capitalSecond.Recased capitalFirst ∧
    BooleanNaming.check capitalSecond .empty = some (BooleanNaming.violation "B_enabled" .string) ∧
    BooleanNaming.check capitalFirst .empty = some (BooleanNaming.violation "A_enabled" (.primitive .int)) ∧
    ∃ f f', (plainLinter.checkCatalog (diskOf capitalSecond)).outcome = .error f ∧
      (plainLinter.checkCatalog (diskOf capitalFirst)).outcome = .error f' ∧
      f.partition = f'.partition ∧ f.entry = f'.entry ∧ f.rule = f'.rule := by
  have hrecased : capitalSecond.Recased capitalFirst := by
    refine .reorder (.swap _ _ _) ?_ (.refl _)
    exact .cons (by decide) (.primitive _ _ (.same _)) (.cons (by decide) (.primitive _ _ (.same _)) .nil)
  have hentries : (diskOf capitalSecond).SameEntries Schema.Recased (diskOf capitalFirst) := by
    intro p entry
    cases p with
    | dataSources => exact .none
    | resources =>
      by_cases hentry : "disk" = entry
      · subst hentry
        exact .some hrecased
      · simp [diskOf, Partitioned.get, NameMap.get?, Entries.lookup?, hentry]
  obtain ⟨f, hf⟩ : ∃ f, (plainLinter.checkCatalog (diskOf capitalSecond)).outcome = .error f := ⟨_, rfl⟩
  obtain ⟨f', hf', hsame⟩ := (verdict_ignores_letter_case.2 .empty plainLinter _ _ rfl hentries).2 f hf
  exact ⟨hrecased, by decide, by decide, f, f', hf, hf', hsame⟩

end CatalogLint
