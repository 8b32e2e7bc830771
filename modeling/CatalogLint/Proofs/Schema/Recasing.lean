/-
Schemas up to letter case. `Schema.Recased` relates two schemas whose fields are the same at every depth but for the
letter case of their names and of the texts that are their defaults. Names that differ in letter case alone may stand
side by side, and the order of the fields follows the names, so on each level the fields may come in another order.

- `Fields.Recased.exists_at`: every field at any depth of one schema has its like in the other, under a name with the
  same lower case.
- `Rule.Judges.none_iff_of_recased`: so a check of single fields that sees no letter case passes one schema if and only
  if it passes the other. The checks of this library are of this kind.
-/
import CatalogLint.Proofs.Rule.LeastOffence

namespace CatalogLint

/-! ## The relation -/

/-- the same document, or another text with the same lower case -/
inductive Document.Recased : Document → Document → Prop where
  | same (d : Document) : Recased d d
  | text {s s' : String} (h : Text.lower s = Text.lower s') : Recased (.text s) (.text s')

mutual
/-- the same field but for the letter case of its default and of what is inside -/
inductive Field.Recased : Field → Field → Prop where
  | primitive (type : PrimitiveType) (sensitive : Bool) {default default' : Document}
    (hdefault : default.Recased default') :
    Field.Recased ⟨.primitive type, sensitive, default⟩ ⟨.primitive type, sensitive, default'⟩
  | bare (shape : Shape) (sensitive : Bool) {default default' : Document} (hdefault : default.Recased default') :
    Field.Recased ⟨.collection shape none, sensitive, default⟩ ⟨.collection shape none, sensitive, default'⟩
  | nested (shape : Shape) (sensitive : Bool) {default default' : Document} (hdefault : default.Recased default')
    {elem elem' : Fields} (inside : Fields.Recased elem elem') :
    Field.Recased ⟨.collection shape (some elem), sensitive, default⟩
      ⟨.collection shape (some elem'), sensitive, default'⟩

/-- the same fields under names with the same lower case, in any order -/
inductive Fields.Recased : Fields → Fields → Prop where
  | nil : Fields.Recased [] []
  | cons {name name' : String} {field field' : Field} {rest rest' : Fields}
    (hname : Text.lower name = Text.lower name') (hfield : Field.Recased field field')
    (hrest : Fields.Recased rest rest') : Fields.Recased ((name, field) :: rest) ((name', field') :: rest')
  | reorder {fields fields' first first' : Fields} (before : first.Perm fields)
    (h : Fields.Recased fields fields') (after : fields'.Perm first') : Fields.Recased first first'
end

/-- the same schema but for letter case -/
def Schema.Recased (s s' : Schema) : Prop := Fields.Recased s.fields s'.fields

theorem Document.Recased.symm {d d' : Document} (h : d.Recased d') : d'.Recased d := by
  cases h with
  | same => exact .same d
  | text h => exact .text h.symm

mutual
theorem Field.Recased.symm : ∀ {f f' : Field}, f.Recased f' → f'.Recased f
  | _, _, .primitive type sensitive hdefault => .primitive type sensitive hdefault.symm
  | _, _, .bare shape sensitive hdefault => .bare shape sensitive hdefault.symm
  | _, _, .nested shape sensitive hdefault inside => .nested shape sensitive hdefault.symm inside.symm

theorem Fields.Recased.symm : ∀ {fields fields' : Fields}, fields.Recased fields' → fields'.Recased fields
  | _, _, .nil => .nil
  | _, _, .cons hname hfield hrest => .cons hname.symm hfield.symm hrest.symm
  | _, _, .reorder before h after => .reorder after.symm h.symm before.symm
end

/-! ## What is kept -/

namespace Field.Recased

variable {f f' : Field} (h : f.Recased f')

include h

theorem type_eq : f.type = f'.type := by
  cases h <;> rfl

theorem sensitive_eq : f.sensitive = f'.sensitive := by
  cases h <;> rfl

theorem default_recased : f.default.Recased f'.default := by
  cases h <;> assumption

theorem exists_nested {elem : Fields} (helem : f.nested? = some elem) :
    ∃ elem', f'.nested? = some elem' ∧ elem.Recased elem' := by
  cases h with
  | primitive | bare => cases helem
  | nested _ _ _ inside =>
    cases helem
    exact ⟨_, rfl, inside⟩

end Field.Recased

theorem Fields.Recased.exists_mem : ∀ {fields fields' : Fields}, fields.Recased fields' → ∀ e ∈ fields,
    ∃ e' ∈ fields', Text.lower e.1 = Text.lower e'.1 ∧ e.2.Recased e'.2
  | _, _, .nil, e, he => absurd he List.not_mem_nil
  | _, _, .cons hname hfield hrest, e, he => by
    rcases List.mem_cons.1 he with rfl | he
    · exact ⟨_, List.mem_cons_self, hname, hfield⟩
    · obtain ⟨e', he', hsame⟩ := hrest.exists_mem e he
      exact ⟨e', List.mem_cons_of_mem _ he', hsame⟩
  | _, _, .reorder before h after, e, he => by
    obtain ⟨e', he', hsame⟩ := h.exists_mem e (before.mem_iff.1 he)
    exact ⟨e', after.mem_iff.1 he', hsame⟩

/-- **Every field at any depth has its like**, under a name with the same lower case. -/
theorem Fields.Recased.exists_at {fields fields' : Fields} (h : fields.Recased fields')
    {parents : List (String × String)} {name : String} {field : Field} (ha : fields.At parents name field) :
    ∃ parents' name' field', fields'.At parents' name' field' ∧ Text.lower name = Text.lower name' ∧
      field.Recased field' := by
  induction ha generalizing fields' with
  | here hm =>
    obtain ⟨⟨name', field'⟩, hm', hname, hfield⟩ := h.exists_mem _ hm
    exact ⟨[], name', field', .here hm', hname, hfield⟩
  | inside hm he inner ih =>
    obtain ⟨⟨outer', around'⟩, hm', _, haround⟩ := h.exists_mem _ hm
    obtain ⟨elem', he', hinside⟩ := haround.exists_nested he
    obtain ⟨parents', name', field', ha', hname, hfield⟩ := ih hinside
    exact ⟨_, name', field', .inside hm' he' ha', hname, hfield⟩

/-! ## Checks that see no letter case -/

/-- what offends does so in any letter case -/
def SeesNoCase (offends : String → Field → Prop) : Prop :=
  ∀ name name' field field', Text.lower name = Text.lower name' → field.Recased field' →
    (offends name field ↔ offends name' field')

theorem Schema.Recased.symm {s s' : Schema} (h : s.Recased s') : s'.Recased s := Fields.Recased.symm h

/-- A check that sees no letter case passes what it passes in any letter case. -/
theorem Rule.Judges.passes_of_recased {verdict : String → Field → Option Violation} {offends : String → Field → Prop}
    {family : Field → Violation.Family} (hjudges : Judges verdict offends family) (hcase : SeesNoCase offends)
    {s s' : Schema} (h : s.Recased s') (hpass : s'.firstViolation verdict = none) :
    s.firstViolation verdict = none := by
  rw [hjudges.firstViolation_eq_none_iff] at hpass ⊢
  intro parents name field ha ho
  obtain ⟨parents', name', field', ha', hname, hfield⟩ := Fields.Recased.exists_at h ha
  exact hpass parents' name' field' ha' ((hcase name name' field field' hname hfield).1 ho)

/-- **A check that sees no letter case passes both schemas or neither.** -/
theorem Rule.Judges.none_iff_of_recased {verdict : String → Field → Option Violation}
    {offends : String → Field → Prop} {family : Field → Violation.Family} (hjudges : Judges verdict offends family)
    (hcase : SeesNoCase offends) {s s' : Schema} (h : s.Recased s') :
    s.firstViolation verdict = none ↔ s'.firstViolation verdict = none :=
  ⟨hjudges.passes_of_recased hcase h.symm, hjudges.passes_of_recased hcase h⟩

theorem UnmarkedSecret.seesNoCase : SeesNoCase UnmarkedSecret := by
  intro name name' field field' hname hfield
  rw [UnmarkedSecret, UnmarkedSecret, hname, hfield.sensitive_eq, hfield.type_eq]

theorem FalseSwitch.seesNoCase (exceptions : NameSet) : SeesNoCase (FalseSwitch exceptions) := by
  intro name name' field field' hname hfield
  rw [FalseSwitch, FalseSwitch, hname, hfield.type_eq]

/-- whether a default is a text with a given lower case does not depend on its letter case -/
theorem Document.Recased.exists_text {d d' : Document} (h : d.Recased d') {lowered : String}
    (hd : ∃ text, d = .text text ∧ Text.lower text = lowered) :
    ∃ text, d' = .text text ∧ Text.lower text = lowered := by
  cases h with
  | same => exact hd
  | text h =>
    obtain ⟨text, heq, hlower⟩ := hd
    cases heq
    exact ⟨_, rfl, h.symm.trans hlower⟩

theorem DefaultedName.seesNoCase (exceptions : NameSet) : SeesNoCase (DefaultedName exceptions) := by
  intro name name' field field' hname hfield
  have hdefault := hfield.default_recased
  rw [DefaultedName, DefaultedName, hname]
  exact and_congr_right fun _ => and_congr_left fun _ => ⟨hdefault.exists_text, hdefault.symm.exists_text⟩

end CatalogLint
