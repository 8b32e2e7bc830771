/-
Repairing one report at a time. No check lists all that offends, so whoever repairs a schema runs the check, repairs the
field that is reported, and runs the check again: `RepairLoop`. `Schema.offencePaths` lists the offences of a schema in
the order of the walk.

- `Rule.Judges.fieldPath_firstViolation`: a check of single fields reports the first of these.
- `Repair.Cures.offencePaths_repairAt`: a repair takes its own path from the list; it hides no other offence and makes
  no new one.
- `Rule.Judges.repairLoop_reports_offences`: so the loop ends, and what it has reported is the whole list.

Secrets that are marked as sensitive, and names that lose their default, are repaired in this way.
-/
import CatalogLint.Proofs.Rule.LeastOffence
import CatalogLint.Proofs.Schema.Repair
import Mathlib.Data.List.Basic

namespace CatalogLint

/-! ## The loop -/

/-- a check is run until it reports nothing, and each field that it reports is repaired before the next run; with the
paths of the reports and the schema at the end -/
inductive RepairLoop (check : Schema → Option Violation) (fix : Repair) :
    Schema → List (List String) → Schema → Prop where
  | done {s : Schema} (h : check s = none) : RepairLoop check fix s [] s
  | step {s t : Schema} {violation : Violation} {paths : List (List String)} (h : check s = some violation)
    (rest : RepairLoop check fix (s.repairAt fix violation.fieldPath) paths t) :
    RepairLoop check fix s (violation.fieldPath :: paths) t

/-- A schema is repaired in one way only. -/
theorem RepairLoop.unique {check : Schema → Option Violation} {fix : Repair} {s t t' : Schema}
    {paths paths' : List (List String)} (h : RepairLoop check fix s paths t) (h' : RepairLoop check fix s paths' t') :
    paths' = paths ∧ t' = t := by
  induction h generalizing paths' t' with
  | done hnone =>
    cases h' with
    | done => exact ⟨rfl, rfl⟩
    | step hsome => cases hnone.symm.trans hsome
  | step hsome _ ih =>
    cases h' with
    | done hnone => cases hsome.symm.trans hnone
    | step hsome' rest' =>
      cases hsome.symm.trans hsome'
      obtain ⟨hpaths, hend⟩ := ih rest'
      exact ⟨congrArg _ hpaths, hend⟩

theorem RepairLoop.check_end {check : Schema → Option Violation} {fix : Repair} {s t : Schema}
    {paths : List (List String)} (h : RepairLoop check fix s paths t) : check t = none := by
  induction h with
  | done hnone => exact hnone
  | step _ _ ih => exact ih

/-! ## All offences -/

/-- the path of a stop, if its field offends -/
def Visit.offence? (verdict : String → Field → Option Violation) (v : Visit) : Option (List String) :=
  (verdict v.name v.field).map fun _ => v.path

/-- the paths of all fields that offend, in the order of the walk -/
def Schema.offencePaths (verdict : String → Field → Option Violation) (s : Schema) : List (List String) :=
  s.visits.filterMap (Visit.offence? verdict)

section

variable {verdict : String → Field → Option Violation}

theorem Visit.offence?_eq_some_iff {v : Visit} {path : List String} :
    v.offence? verdict = some path ↔ verdict v.name v.field ≠ none ∧ v.path = path := by
  rw [Visit.offence?]
  cases verdict v.name v.field <;> simp

theorem Schema.offencePaths_increase (verdict : String → Field → Option Violation) (s : Schema) :
    (s.offencePaths verdict).Pairwise (· < ·) := by
  refine (Fields.visits_ordered s.ordered).filterMap _ fun v w hlt path hpath path' hpath' => ?_
  rw [← (Visit.offence?_eq_some_iff.1 hpath).2, ← (Visit.offence?_eq_some_iff.1 hpath').2]
  exact hlt

namespace Rule.Judges

variable {offends : String → Field → Prop} {family : Field → Violation.Family}

theorem mem_offencePaths_iff (h : Judges verdict offends family) {s : Schema} {path : List String} :
    path ∈ s.offencePaths verdict ↔
      ∃ outer name field, path = outer ++ [name] ∧ s.Leads outer name field ∧ offends name field := by
  rw [Schema.offencePaths, List.mem_filterMap]
  simp only [Visit.offence?_eq_some_iff, Ne, h.none_iff, Classical.not_not]
  constructor
  · rintro ⟨v, hv, ho, rfl⟩
    exact ⟨_, v.name, v.field, rfl, Schema.leads_iff.2 ⟨v.parents, rfl, Fields.mem_visits.1 hv⟩, ho⟩
  · rintro ⟨outer, name, field, rfl, hl, ho⟩
    obtain ⟨parents, rfl, ha⟩ := Schema.leads_iff.1 hl
    exact ⟨⟨parents, name, field⟩, Fields.mem_visits.2 ha, ho, rfl⟩

/-- **The check reports the first of all offences**, and nothing if there is none. -/
theorem fieldPath_firstViolation (h : Judges verdict offends family) (s : Schema) :
    (s.firstViolation verdict).map Violation.fieldPath = (s.offencePaths verdict).head? := by
  have hpath : Option.map Violation.fieldPath ∘ Visit.verdict verdict = Visit.offence? verdict := by
    funext v
    rw [Function.comp_apply, Visit.verdict, Visit.offence?, Option.map_map]
    cases hv : verdict v.name v.field with
    | none => rfl
    | some violation =>
      obtain ⟨hname, hparents, _⟩ := h.own _ _ _ hv
      simp [Violation.fieldPath, Visit.report, Visit.path, hname, hparents]
  rw [Schema.firstViolation_eq_findSome?, List.map_findSome?, hpath, Schema.offencePaths, List.head?_filterMap]

end Rule.Judges

/-! ## What a repair does -/

/-- the verdict on a field passes once the field is repaired, and never looks at the elements -/
structure Repair.Cures (fix : Repair) (verdict : String → Field → Option Violation) : Prop where
  cured : ∀ name f, verdict name (fix.apply f) = none
  bare : ∀ name f, verdict name f.bare = verdict name f

namespace Repair.Cures

variable {fix : Repair} (h : fix.Cures verdict)

include h

theorem offence?_bare (v : Visit) : v.bare.offence? verdict = v.offence? verdict :=
  congrArg (Option.map fun _ => v.path) (h.bare v.name v.field)

theorem offence?_repairAt (path : List String) (v : Visit) :
    (v.repairAt fix path).offence? verdict = (v.offence? verdict).filter (· ≠ path) := by
  by_cases hpath : v.path = path
  · rw [Visit.repairAt, if_pos hpath, Visit.offence?, h.cured, Visit.offence?]
    cases verdict v.name v.field <;> simp [Option.filter, hpath]
  · rw [Visit.repairAt_of_path_ne hpath, Visit.offence?]
    cases verdict v.name v.field <;> simp [Option.filter, hpath]

/-- **A repair takes away the offence at its path and no other one, and makes none.** -/
theorem offencePaths_repairAt (s : Schema) (path : List String) :
    (s.repairAt fix path).offencePaths verdict = (s.offencePaths verdict).filter (· ≠ path) := by
  have hbare : Visit.offence? verdict ∘ Visit.bare = Visit.offence? verdict := funext h.offence?_bare
  calc (s.repairAt fix path).offencePaths verdict
      = ((s.repairAt fix path).visits.map Visit.bare).filterMap (Visit.offence? verdict) := by
        rw [List.filterMap_map, hbare, Schema.offencePaths]
    _ = s.visits.filterMap fun v => (v.offence? verdict).filter (· ≠ path) := by
        rw [Schema.visits_repairAt, List.filterMap_map]
        exact List.filterMap_congr fun v _ => (h.offence?_bare _).trans (h.offence?_repairAt path v)
    _ = (s.offencePaths verdict).filter (· ≠ path) := by
        rw [Schema.offencePaths, List.filter_filterMap]

/-- A repair of the first offence leaves the others. -/
theorem offencePaths_repairAt_first {s : Schema} {first : List String} {later : List (List String)}
    (hs : s.offencePaths verdict = first :: later) : (s.repairAt fix first).offencePaths verdict = later := by
  have hincrease := s.offencePaths_increase verdict
  rw [hs, List.pairwise_cons] at hincrease
  have hlater : later.filter (· ≠ first) = later := by
    refine List.filter_eq_self.2 fun path hpath => decide_eq_true ?_
    rintro rfl
    exact List.lt_irrefl _ (hincrease.1 _ hpath)
  rw [h.offencePaths_repairAt, hs, List.filter_cons_of_neg (by simp), hlater]

end Repair.Cures

end

/-! ## The whole loop -/

/-- **The loop ends, and has reported all offences.** -/
theorem Rule.Judges.repairLoop_reports_offences {verdict : String → Field → Option Violation}
    {offends : String → Field → Prop} {family : Field → Violation.Family} (hjudges : Judges verdict offends family)
    {fix : Repair} (hcures : fix.Cures verdict) (s : Schema) :
    ∃ t, RepairLoop (·.firstViolation verdict) fix s (s.offencePaths verdict) t := by
  -- a repair makes the list shorter by its first path
  induction hs : s.offencePaths verdict generalizing s with
  | nil =>
    have hfirst := hjudges.fieldPath_firstViolation s
    rw [hs] at hfirst
    exact ⟨s, .done (Option.map_eq_none_iff.1 hfirst)⟩
  | cons first later ih =>
    have hfirst := hjudges.fieldPath_firstViolation s
    rw [hs] at hfirst
    obtain ⟨violation, hviolation, hpath⟩ := Option.map_eq_some_iff.1 hfirst
    subst hpath
    obtain ⟨t, hloop⟩ := ih _ (hcures.offencePaths_repairAt_first hs)
    exact ⟨t, .step hviolation hloop⟩

/-- what a loop of repairs must come to, with the paths of its reports and the schema at its end: it is the only one, and
it has reported all that offends, each once and in increasing order -/
structure RepairLoop.Enumerates (check : Schema → Option Violation) (fix : Repair) (offends : String → Field → Prop)
    (s : Schema) (paths : List (List String)) (t : Schema) : Prop where
  loop : RepairLoop check fix s paths t
  only : ∀ paths' t', RepairLoop check fix s paths' t' → paths' = paths ∧ t' = t
  increase : paths.Pairwise (· < ·)
  mem_iff : ∀ path, path ∈ paths ↔
    ∃ outer name field, path = outer ++ [name] ∧ s.Leads outer name field ∧ offends name field
  passes : check t = none

theorem Rule.Judges.exists_enumerates {verdict : String → Field → Option Violation} {offends : String → Field → Prop}
    {family : Field → Violation.Family} (hjudges : Judges verdict offends family) {fix : Repair}
    (hcures : fix.Cures verdict) (s : Schema) :
    ∃ paths t, RepairLoop.Enumerates (·.firstViolation verdict) fix offends s paths t := by
  obtain ⟨t, hloop⟩ := hjudges.repairLoop_reports_offences hcures s
  exact ⟨s.offencePaths verdict, t, hloop, fun _ _ hother => hloop.unique hother, s.offencePaths_increase verdict,
    fun _ => hjudges.mem_offencePaths_iff, hloop.check_end⟩

/-! ## The rules of this library -/

theorem Sensitivity.markSensitive_cures (exceptions : NameSet) :
    Repair.markSensitive.Cures (Sensitivity.verdict exceptions) where
  cured _ _ := if_neg fun ho => Bool.noConfusion ho.1
  bare _ _ := by
    rw [Sensitivity.verdict, Sensitivity.verdict]
    simp only [Sensitivity.Offends, Field.type_bare]
    rfl

theorem RedundantDefault.dropDefault_cures (exceptions : NameSet) :
    Repair.dropDefault.Cures (RedundantDefault.verdict exceptions) where
  cured _ _ := if_neg fun ho => Bool.noConfusion ho.2.2
  bare _ _ := rfl

/-- **Repairing one report at a time enumerates every offence.** Take any schema. Run the check of secrets, mark the
field that is reported as sensitive, and repeat: this ends, in one way only, and the paths of the reports are those of
all unmarked secrets that the schema had at first, at any depth, in increasing order and so each once; afterwards the
check passes. With any exceptions, the same is true of the check of names that default to the word for a default, when
the field that is reported loses its default. -/
theorem repair_loop_enumerates_offences (s : Schema) (exceptions : NameSet) :
    (∃ paths t, RepairLoop.Enumerates (Sensitivity.check · exceptions) .markSensitive UnmarkedSecret s paths t) ∧
    (∃ paths t, RepairLoop.Enumerates (RedundantDefault.check · exceptions) .dropDefault (DefaultedName exceptions) s
      paths t) :=
  ⟨(Sensitivity.verdict_judges exceptions).exists_enumerates (Sensitivity.markSensitive_cures exceptions) s,
    (RedundantDefault.verdict_judges exceptions).exists_enumerates (RedundantDefault.dropDefault_cures exceptions) s⟩

end CatalogLint
