/-
Schemas that extend others. `Schema.Extends` says that one schema has all that another has: each field of the other
stands in it under the same name, says the same of itself there, and has at least the elements that it had. On every
level there may be more fields, and a collection may declare elements where it declared none.

- `Schema.Extends.exists_leads`: a path that leads to a field leads to its extension in the extended schema.
- `Rule.Judges.reports_of_extends`: a check of single fields that looks only at what a field says of itself reports
  something of the extended schema if it does of the other, and at the same path or at an earlier one.

The checks of this library are of this kind, so adding to a schema hides no violation.
-/
import CatalogLint.Proofs.Rule.LeastOffence

namespace CatalogLint

/-! ## The relation -/

/-- both fields say the same of themselves, whatever is nested in them -/
structure Field.SaysSame (f g : Field) : Prop where
  type : f.type = g.type
  sensitive : f.sensitive = g.sensitive
  default : f.default = g.default

mutual
/-- the first field says the same of itself as the second and has at least what is nested in that one -/
inductive Field.Extends : Field → Field → Prop where
  | bare {larger f : Field} (same : larger.SaysSame f) (bare : f.nested? = none) : Field.Extends larger f
  | nested {larger f : Field} {more elem : Fields} (same : larger.SaysSame f) (before : f.nested? = some elem)
    (after : larger.nested? = some more) (inside : Fields.Extends more elem) : Field.Extends larger f

/-- each of the second fields is extended by one of the first under its name -/
inductive Fields.Extends : Fields → Fields → Prop where
  | nil (more : Fields) : Fields.Extends more []
  | cons {more rest : Fields} {name : String} {larger field : Field} (here : (name, larger) ∈ more)
    (hfield : Field.Extends larger field) (hrest : Fields.Extends more rest) :
    Fields.Extends more ((name, field) :: rest)
end

/-- the first schema has all that the second has, at every depth -/
def Schema.Extends (more s : Schema) : Prop := Fields.Extends more.fields s.fields

/-! ## Fields at any depth -/

theorem Field.Extends.saysSame {larger f : Field} (h : larger.Extends f) : larger.SaysSame f := by
  cases h with
  | bare same => exact same
  | nested same => exact same

theorem Field.Extends.exists_nested {larger f : Field} (h : larger.Extends f) {elem : Fields}
    (helem : f.nested? = some elem) : ∃ more, larger.nested? = some more ∧ more.Extends elem := by
  cases h with
  | bare _ hbare => cases hbare.symm.trans helem
  | nested _ hbefore hafter hinside =>
    cases hbefore.symm.trans helem
    exact ⟨_, hafter, hinside⟩

theorem Fields.Extends.exists_mem : ∀ {more fields : Fields}, more.Extends fields → ∀ e ∈ fields,
    ∃ larger, (e.1, larger) ∈ more ∧ larger.Extends e.2
  | _, _, .nil _, e, he => absurd he List.not_mem_nil
  | _, _, .cons here hfield hrest, e, he => by
    rcases List.mem_cons.1 he with rfl | he
    · exact ⟨_, here, hfield⟩
    · exact hrest.exists_mem e he

/-- Every field at any depth is extended below the same fields, which keep their labels. -/
theorem Fields.Extends.exists_at {more fields : Fields} (h : more.Extends fields) {parents : List (String × String)}
    {name : String} {field : Field} (ha : fields.At parents name field) :
    ∃ larger, more.At parents name larger ∧ larger.Extends field := by
  induction ha generalizing more with
  | here hm =>
    obtain ⟨larger, hlarger, hfield⟩ := h.exists_mem _ hm
    exact ⟨larger, .here hlarger, hfield⟩
  | inside hm he _ ih =>
    obtain ⟨around, haround, hextends⟩ := h.exists_mem _ hm
    obtain ⟨inner, hinner, hinside⟩ := hextends.exists_nested he
    obtain ⟨larger, hat, hfield⟩ := ih hinside
    rw [← hextends.saysSame.type]
    exact ⟨larger, .inside haround hinner hat, hfield⟩

theorem Schema.Extends.exists_leads {more s : Schema} (h : more.Extends s) {path : List String} {name : String}
    {field : Field} (hl : s.Leads path name field) : ∃ larger, more.Leads path name larger ∧ larger.Extends field := by
  obtain ⟨parents, hpath, ha⟩ := Schema.leads_iff.1 hl
  obtain ⟨larger, hat, hfield⟩ := Fields.Extends.exists_at h ha
  exact ⟨larger, Schema.leads_iff.2 ⟨parents, hpath, hat⟩, hfield⟩

/-! ## Checks of what a field says of itself -/

/-- what offends does so by its name and by what it says of itself -/
def SeesItself (offends : String → Field → Prop) : Prop :=
  ∀ name f g, f.SaysSame g → offends name g → offends name f

theorem UnmarkedSecret.seesItself : SeesItself UnmarkedSecret := by
  intro name f g hsame ho
  rw [UnmarkedSecret, hsame.sensitive, hsame.type]
  exact ho

theorem FalseSwitch.seesItself (exceptions : NameSet) : SeesItself (FalseSwitch exceptions) := by
  intro name f g hsame ho
  rw [FalseSwitch, hsame.type]
  exact ho

theorem DefaultedName.seesItself (exceptions : NameSet) : SeesItself (DefaultedName exceptions) := by
  intro name f g hsame ho
  rw [DefaultedName, hsame.default]
  exact ho

/-- **The report on an extended schema is about the same path or an earlier one.** The field that is reported of the
smaller schema stands in the larger one too and offends there, so the least offence there is not after it. -/
theorem Rule.Judges.reports_of_extends {verdict : String → Field → Option Violation} {offends : String → Field → Prop}
    {family : Field → Violation.Family} (hjudges : Judges verdict offends family) (hself : SeesItself offends)
    {more s : Schema} (h : more.Extends s) {violation : Violation} (hv : s.firstViolation verdict = some violation) :
    ∃ found, more.firstViolation verdict = some found ∧
      (found.fieldPath = violation.fieldPath ∨ found.fieldPath < violation.fieldPath) := by
  obtain ⟨field, hl, ho, _⟩ := (hjudges.reportsLeast s).reached violation hv
  obtain ⟨larger, hlarger, hextends⟩ := h.exists_leads hl
  have hoffends : offends violation.fieldName larger := hself _ _ _ hextends.saysSame ho
  have hreports := hjudges.reportsLeast more
  cases hfound : more.firstViolation verdict with
  | none => exact absurd hoffends (hreports.none_iff.1 hfound _ _ _ hlarger)
  | some found => exact ⟨found, rfl, hreports.least found hfound _ _ _ hlarger hoffends⟩

/-- **Extending a schema never hides a violation.** If a rule of this library reports a violation of a schema under
excepted names, it reports one of every schema that extends it under the same names, and the path of that one is the
same or comes before. So what passes as a part of a larger schema also passes on its own. -/
theorem extension_never_hides {more s : Schema} (h : more.Extends s) (exceptions : NameSet) :
    ∀ rule ∈ Registry.builtin.rules,
      (∀ violation, rule.check s exceptions = some violation → ∃ found, rule.check more exceptions = some found ∧
        (found.fieldPath = violation.fieldPath ∨ found.fieldPath < violation.fieldPath)) ∧
      (rule.check more exceptions = none → rule.check s exceptions = none) := by
  have hreports : ∀ rule ∈ Registry.builtin.rules, ∀ violation, rule.check s exceptions = some violation →
      ∃ found, rule.check more exceptions = some found ∧
        (found.fieldPath = violation.fieldPath ∨ found.fieldPath < violation.fieldPath) := by
    simp only [Registry.builtin, List.forall_mem_cons, List.not_mem_nil, false_implies, implies_true, and_true]
    refine ⟨fun violation hv => ?_, fun violation hv => ?_, fun violation hv => ?_⟩
    · exact (Sensitivity.verdict_judges exceptions).reports_of_extends UnmarkedSecret.seesItself h hv
    · exact (BooleanNaming.verdict_judges exceptions).reports_of_extends (FalseSwitch.seesItself exceptions) h hv
    · exact (RedundantDefault.verdict_judges exceptions).reports_of_extends (DefaultedName.seesItself exceptions) h hv
  intro rule hrule
  refine ⟨hreports rule hrule, fun hpass => ?_⟩
  cases hcheck : rule.check s exceptions with
  | none => rfl
  | some violation =>
    obtain ⟨found, hfound, _⟩ := hreports rule hrule violation hcheck
    cases hpass.symm.trans hfound

/-- a list without a declaration of its elements, and a switch that is no boolean -/
def shed : Schema :=
  ⟨[("bins", ⟨.collection .list none, false, .null⟩), ("light_enabled", ⟨.primitive .string, false, .null⟩)], by decide⟩

/-- the same with a field more, and with elements for the list -/
def furnishedShed : Schema :=
  ⟨[("bins", ⟨.collection .list (some [("Lid_Enabled", ⟨.primitive .int, false, .null⟩)]), false, .null⟩),
    ("door", ⟨.primitive .bool, false, .null⟩), ("light_enabled", ⟨.primitive .string, false, .null⟩)], by decide⟩

/-- The new switch inside the list comes before the one that was there. -/
theorem furnished_shed_reports_lid : furnishedShed.Extends shed ∧
    ∃ violation found, BooleanNaming.check shed .empty = some violation ∧
      BooleanNaming.check furnishedShed .empty = some found ∧ found.fieldPath = ["bins", "Lid_Enabled"] ∧
      found.fieldPath < violation.fieldPath := by
  have hextends : furnishedShed.Extends shed :=
    .cons List.mem_cons_self (.bare ⟨rfl, rfl, rfl⟩ rfl)
      (.cons (List.mem_cons_of_mem _ (List.mem_cons_of_mem _ List.mem_cons_self)) (.bare ⟨rfl, rfl, rfl⟩ rfl) (.nil _))
  have hmember : BooleanNaming.rule ∈ Registry.builtin.rules := List.mem_cons_of_mem _ List.mem_cons_self
  obtain ⟨hreports, _⟩ := extension_never_hides hextends .empty BooleanNaming.rule hmember
  obtain ⟨found, hfound, hpath⟩ := hreports _ rfl
  have hlid : found.fieldPath = ["bins", "Lid_Enabled"] := by
    cases hfound
    rfl
  refine ⟨hextends, _, found, rfl, hfound, hlid, hpath.resolve_left ?_⟩
  rw [hlid]
  decide

end CatalogLint
