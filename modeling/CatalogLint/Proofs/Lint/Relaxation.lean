/-
Exceptions only relax a linter. `FieldCheck` names the checks that look at one field at a time: those of this library
and those that refuse flagged fields. A rule with such a check is eased by exceptions, whatever its name is and wherever
it is registered.

- `FieldCheck.eased`: the step, for one check.
- `Rule.Eased.passes_of_subset`, `Rule.Eased.path_of_subset`: one rule with more excepted names passes what it passed,
  and else reports the same field or a later one.
- `Linter.passes_of_within`: the same for a whole run that passes; `Linter.sites_of_failures` is that of runs that fail.

At the end this is said of registries with rules of this kind, in any order.
-/
import CatalogLint.Proofs.Lint.Easing
import CatalogLint.Proofs.Lint.Gate
import CatalogLint.Rule.Flagged

namespace CatalogLint

/-! ## Checks of single fields -/

/-- the checks that look at one field at a time -/
inductive FieldCheck where
  | sensitivity
  | booleanNaming
  | redundantDefault
  | flagged (names : List String) (reason : String)

namespace FieldCheck

def verdict : FieldCheck → Verdict
  | .sensitivity => Sensitivity.verdict
  | .booleanNaming => BooleanNaming.verdict
  | .redundantDefault => RedundantDefault.verdict
  | .flagged names reason => Flagged.verdict names reason

def check : FieldCheck → Schema → NameSet → Option Violation
  | .sensitivity => Sensitivity.check
  | .booleanNaming => BooleanNaming.check
  | .redundantDefault => RedundantDefault.check
  | .flagged names reason => Flagged.check names reason

end FieldCheck

/-- the rule checks single fields, under any name -/
def Rule.ChecksFields (rule : Rule) : Prop := ∃ kind : FieldCheck, rule.check = kind.check

theorem Flagged.verdict_judges (flagged : List String) (reason : String) (exceptions : NameSet) :
    Rule.Judges (Flagged.verdict flagged reason exceptions) (fun name _ => Flagged.Offends flagged exceptions name)
      fun _ => .plain :=
  Rule.judges_of_decide fun _ _ => ⟨rfl, rfl, rfl⟩

theorem Flagged.eased {rule : Rule} {flagged : List String} {reason : String}
    (h : rule.check = Flagged.check flagged reason) : rule.Eased (Flagged.verdict flagged reason) :=
  Rule.eased_of_judges h (Flagged.verdict_judges flagged reason) fun hmore _ _ ho => ⟨ho.1, fun hn => ho.2 (hmore _ hn)⟩

/-- **Checks of single fields are eased by exceptions.** -/
theorem FieldCheck.eased {rule : Rule} {kind : FieldCheck} (h : rule.check = kind.check) : rule.Eased kind.verdict := by
  cases kind with
  | sensitivity => exact Sensitivity.eased h
  | booleanNaming => exact BooleanNaming.eased h
  | redundantDefault => exact RedundantDefault.eased h
  | flagged names reason => exact Flagged.eased h

/-- The verdicts of the rules of a registry can be chosen by rule. -/
theorem Registry.exists_verdicts {registry : Registry} (hrules : ∀ rule ∈ registry.rules, rule.ChecksFields) :
    ∃ verdicts : Rule → Verdict, ∀ rule ∈ registry.rules, rule.Eased (verdicts rule) := by
  have heach : ∀ rule, ∃ verdict, rule ∈ registry.rules → rule.Eased verdict := by
    intro rule
    by_cases hrule : rule ∈ registry.rules
    · obtain ⟨kind, hcheck⟩ := hrules rule hrule
      exact ⟨kind.verdict, fun _ => FieldCheck.eased hcheck⟩
    · exact ⟨Sensitivity.verdict, fun hno => absurd hno hrule⟩
  exact Classical.axiomOfChoice heach

/-! ## One rule -/

namespace Rule.Eased

variable {rule : Rule} {verdict : Verdict} (h : rule.Eased verdict) {s : Schema} {exceptions more : NameSet}
  (hmore : ∀ n ∈ exceptions, n ∈ more)

include h hmore

/-- With more excepted names, a rule passes what it passed before. -/
theorem passes_of_subset (hpass : rule.check s exceptions = none) : rule.check s more = none := by
  rw [h.check_eq_none_iff] at hpass ⊢
  intro v hv
  refine Classical.byContradiction fun hfails => ?_
  exact h.antitone hmore v.name v.field hfails (hpass v hv)

/-- With more excepted names, a rule reports the same field or a later one. -/
theorem path_of_subset {v w : Violation} (hv : rule.check s exceptions = some v) (hw : rule.check s more = some w) :
    w.fieldPath = v.fieldPath ∨ v.fieldPath < w.fieldPath := by
  obtain ⟨first, _, _, _, hfirst, hleast⟩ := h.least_visit hv
  obtain ⟨later, hvisited, hfails, _, hlater, _⟩ := h.least_visit hw
  rw [hfirst, hlater]
  exact (hleast later hvisited (h.antitone hmore _ _ hfails)).imp_left (congrArg Visit.path)

end Rule.Eased

/-! ## Whole runs -/

namespace Linter

variable {l more : Linter} {c : Catalog} {verdicts : Rule → Verdict}

/-- A run with more exceptions passes what passed before, and gives the same numbers. -/
theorem passes_of_within (hrules : ∀ rule ∈ l.registry.rules, rule.Eased (verdicts rule))
    (hregistry : more.registry = l.registry) (hx : l.exceptions.Within more.exceptions) {counts : Partitioned Nat}
    (hpass : (l.checkCatalog c).outcome = .ok counts) : (more.checkCatalog c).outcome = .ok counts := by
  obtain ⟨hall, hcounts⟩ := l.outcome_checkCatalog_eq_ok_iff.1 hpass
  refine more.outcome_checkCatalog_eq_ok_iff.2 ⟨fun k hpresent hregistered => ?_, hcounts⟩
  rw [Check.Registered, hregistry] at hregistered
  have hrule := hrules k.rule (List.mem_of_getElem? hregistered)
  exact hrule.passes_of_subset (hx _ _ _) (hall k hpresent hregistered)

end Linter

/-- both failures are about the same field of the same entry, and of the same rule -/
structure Failure.SamePlace (f g : Failure) : Prop where
  partition : g.partition = f.partition
  entry : g.entry = f.entry
  rule : g.rule = f.rule
  fieldPath : g.violation.fieldPath = f.violation.fieldPath

theorem Failure.At.samePlace {f g : Failure} {s : Site} (hf : f.At s) (hg : g.At s) : f.SamePlace g :=
  ⟨hg.partition.trans hf.partition.symm, hg.entry.trans hf.entry.symm, hg.rule.trans hf.rule.symm,
    hg.fieldPath.trans hf.fieldPath.symm⟩

/-- **More exceptions never hurt.** Take a registry with rules that check single fields, in any order and under any
names, and two exceptions that it admits, where all names that the first excepts from a rule in an entry are excepted by
the second too. A catalog that passes under the first passes under the second, with the same numbers; and if it fails
under both, it fails under the second at the same place as under the first or at a later one, by partition, entry, rule
and path. Likewise a single such rule, under excepted names and under more of them. -/
theorem more_exceptions_never_hurt {registry : Registry} (hrules : ∀ rule ∈ registry.rules, rule.ChecksFields)
    {x y : ExceptionRegistry} (hxy : x.Within y) {l more : Linter} (hl : Linter.make registry x = .ok l)
    (hmore : Linter.make registry y = .ok more) (c : Catalog) :
    (∀ counts, (l.checkCatalog c).outcome = .ok counts → (more.checkCatalog c).outcome = .ok counts) ∧
    (∀ f g, (l.checkCatalog c).outcome = .error f → (more.checkCatalog c).outcome = .error g →
      f.SamePlace g ∨ f.Before registry g) ∧
    ∀ rule : Rule, rule.ChecksFields → ∀ (s : Schema) {names others : NameSet}, (∀ n ∈ names, n ∈ others) →
      (rule.check s names = none → rule.check s others = none) ∧
        ∀ v w, rule.check s names = some v → rule.check s others = some w →
          w.fieldPath = v.fieldPath ∨ v.fieldPath < w.fieldPath := by
  obtain ⟨rfl, rfl⟩ := Linter.make_eq_ok hl
  obtain ⟨hregistry, rfl⟩ := Linter.make_eq_ok hmore
  obtain ⟨verdicts, heased⟩ := Registry.exists_verdicts hrules
  refine ⟨?passes, ?fails, ?single⟩
  case passes =>
    intro counts hpass
    exact Linter.passes_of_within heased hregistry hxy hpass
  case fails =>
    intro f g hf hg
    obtain ⟨s, t, hs, ht, hfs, hgt, _, rfl | hbefore⟩ := Linter.sites_of_failures heased hregistry hxy hf hg
    · exact Or.inl (hfs.samePlace hgt)
    · exact Or.inr (hbefore.failure_before hs ht hfs hgt)
  case single =>
    rintro rule ⟨kind, hcheck⟩ s names others hsubset
    have hrule := FieldCheck.eased hcheck
    exact ⟨hrule.passes_of_subset hsubset, fun v w hv hw => hrule.path_of_subset hsubset hv hw⟩

/-- a rule that refuses a field by its exact name -/
def zoneRule : Rule where
  name := "no_zone"
  description := "There is no field for a zone"
  check := Flagged.check ["Zone"] "a zone is given"
  failureSummary := "has a zone"

/-- the rule for switches, and after it the one for zones -/
def switchThenZone : Registry := ⟨[BooleanNaming.rule, zoneRule], by decide⟩

/-- one entry that breaks both rules -/
def zonedDisk : Catalog :=
  ⟨⟨[("disk", ⟨[("Cache_Enabled", ⟨.primitive .string, false, .null⟩), ("Zone", ⟨.primitive .string, false, .null⟩)],
    by decide⟩)], by decide⟩, .empty⟩

def diskSwitchExcepted : ExceptionRegistry :=
  ⟨[("boolean_naming", ⟨⟨[("disk", .ofList ["cache_enabled"])], by decide⟩, .empty⟩)], by decide⟩

/-- Once the switch is excepted, it is the zone that fails, which stands later. -/
theorem zone_fails_after_switch : ∃ l more f g, Linter.make switchThenZone .empty = .ok l ∧
    Linter.make switchThenZone diskSwitchExcepted = .ok more ∧ (l.checkCatalog zonedDisk).outcome = .error f ∧
    (more.checkCatalog zonedDisk).outcome = .error g ∧ ¬ f.SamePlace g ∧ f.Before switchThenZone g := by
  have hrules : ∀ rule ∈ switchThenZone.rules, rule.ChecksFields := by
    simp only [switchThenZone, List.forall_mem_cons, List.not_mem_nil, false_implies, implies_true, and_true]
    exact ⟨⟨.booleanNaming, rfl⟩, .flagged ["Zone"] "a zone is given", rfl⟩
  have hwithin : ExceptionRegistry.Within .empty diskSwitchExcepted := fun _ p _ _ hn => by cases p <;> cases hn
  let l : Linter := ⟨switchThenZone, .empty, by decide⟩
  let more : Linter := ⟨switchThenZone, diskSwitchExcepted, by decide⟩
  have hl : Linter.make switchThenZone .empty = .ok l := rfl
  have hmore : Linter.make switchThenZone diskSwitchExcepted = .ok more := rfl
  obtain ⟨_, hfails, _⟩ := more_exceptions_never_hurt hrules hwithin hl hmore zonedDisk
  have hother : zoneRule.name ≠ BooleanNaming.rule.name := by decide
  exact ⟨l, more, _, _, hl, hmore, rfl, rfl, fun hsame => hother hsame.rule,
    (hfails _ _ rfl rfl).resolve_left fun hsame => hother hsame.rule⟩

end CatalogLint
