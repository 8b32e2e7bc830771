/-
The flat form of fields. `Field.flatForm` writes a field as a flat declaration: its type, its elements where it declares
some, whether it is sensitive, and its default. Elements are written in the same way under their own names, so a field
that is named like a key of a declaration stands one level below the keys.

- `Declaration.field_flatForm`: the step, a field is read back from its flat form if its elements are.
- `Declaration.schema_flatForms`: from it, by induction over the tree, schemas at every depth.

So every tree has a flat declaration, and writing what was read of a declaration and reading it again changes nothing.
-/
import CatalogLint.Proofs.Validation.Spelling

namespace CatalogLint

open Document (lookup?)

/-! ## Flat declarations -/

/-- the keys of a flat declaration, with one for the elements if there are any -/
def Declaration.flatEntries (type : String) (elem : Option Document) (sensitive : Bool) (default : Document) :
    List (Scalar × Document) :=
  (.text "type", .text type) :: (elem.toList.map fun d => (.text "elem", d)) ++
    [(.text "sensitive", .bool sensitive), (.text "default", default)]

mutual
/-- the flat declaration of a field -/
def Field.flatForm : Field → Document
  | ⟨.primitive t, sensitive, default⟩ => .mapping (Declaration.flatEntries t.name none sensitive default)
  | ⟨.collection s none, sensitive, default⟩ => .mapping (Declaration.flatEntries s.name none sensitive default)
  | ⟨.collection s (some elem), sensitive, default⟩ =>
    .mapping (Declaration.flatEntries s.name (some (.mapping (Fields.flatForms elem))) sensitive default)

/-- the flat declarations of fields, under their names -/
def Fields.flatForms : List (String × Field) → List (Scalar × Document)
  | [] => []
  | (name, field) :: rest => (.text name, field.flatForm) :: Fields.flatForms rest
end

/-! ## Reading one flat declaration -/

namespace Declaration

section

variable (type : String) (elem : Option Document) (sensitive : Bool) (default : Document)

theorem lookup?_kind_flatEntries : lookup? "kind" (flatEntries type elem sensitive default) = none := by
  cases elem <;> simp [flatEntries, lookup?]

theorem lookup?_type_flatEntries :
    lookup? "type" (flatEntries type elem sensitive default) = some (.text type) := by
  simp [flatEntries, lookup?]

theorem lookup?_elem_flatEntries : lookup? "elem" (flatEntries type elem sensitive default) = elem := by
  cases elem <;> simp [flatEntries, lookup?]

theorem withKind_flatEntries : withKind (flatEntries type elem sensitive default) =
    [(.text "kind", .null), (.text "sensitive", .bool sensitive), (.text "default", default)] := by
  cases elem <;> simp [flatEntries, withKind]

/-- What stands beside the kind is read as it was written. -/
theorem fieldWith_flatEntries (kind : Kind Schema) :
    fieldWith (.accepted kind) (withKind (flatEntries type elem sensitive default)) =
      .accepted (Field.ofKind kind sensitive default) := by
  rw [withKind_flatEntries]
  have htexts : ∀ e ∈ [(Scalar.text "kind", Document.null), (.text "sensitive", .bool sensitive),
      (.text "default", default)], ∃ name, e.1 = .text name := by
    simp
  refine (fieldWith_eq_accepted_iff htexts ?plain).2 ⟨?keys, kind, sensitive, rfl, .given (.bool sensitive), rfl⟩
  case plain =>
    intro d hd
    cases hd
    exact .scalar fun _ h => nomatch h
  case keys => simp [KeysAmong]

end

/-- **A field is read back from its flat form**, if the elements that it declares are. -/
theorem field_flatForm (f : { f : Field // f.isOrdered }) (inner : ∀ elem (h : f.1.nested? = some elem),
    schema (.mapping (Fields.flatForms elem)) = .accepted ⟨elem, Field.isOrdered_nested f.2 h⟩) :
    field f.1.flatForm = .accepted f := by
  obtain ⟨⟨kind, sensitive, default⟩, hf⟩ := f
  have hflat := fun type elem => lookup?_kind_flatEntries type elem sensitive default
  have htype := fun type elem => lookup?_type_flatEntries type elem sensitive default
  have helem := fun type elem => lookup?_elem_flatEntries type elem sensitive default
  match kind with
  | .primitive t =>
    rw [Field.flatForm, field_primitive (hflat _ _) (htype _ _) (Or.inl (helem _ _)), fieldWith_flatEntries]
    rfl
  | .collection s none =>
    have hread : Declaration.elem (flatEntries s.name none sensitive default) = .accepted none := by
      rw [elem_eq, helem]
    rw [Field.flatForm, field_collection (hflat _ _) (htype _ _), hread]
    exact fieldWith_flatEntries _ _ _ _ (.collection s none)
  | .collection s (some elem) =>
    have hschema := inner elem rfl
    have hread : Declaration.elem (flatEntries s.name (some (.mapping (Fields.flatForms elem))) sensitive default) =
        .accepted (some ⟨elem, hf⟩) := by
      rw [elem_eq, helem]
      simp only [Document.isNull, Bool.false_eq_true, if_false, hschema]
      rfl
    rw [Field.flatForm, field_collection (hflat _ _) (htype _ _), hread]
    exact fieldWith_flatEntries _ _ _ _ (.collection s (some ⟨elem, hf⟩))

/-! ## Trees -/

/-- A name that is less than all others is put before them. -/
theorem putNew_of_lt {s : Schema} {name : String} (hname : ∀ e ∈ s.fields, name < e.1)
    (f : { f : Field // f.isOrdered }) : (s.putNew name f).fields = (name, f.1) :: s.fields := by
  have habsent : s.contains name = false := by
    rw [Bool.eq_false_iff]
    intro hpresent
    obtain ⟨e, he, heq⟩ := List.mem_map.1 (Entries.lookup?_isSome_iff.1 hpresent)
    exact String.lt_irrefl _ (heq ▸ hname e he)
  rw [Schema.putNew, habsent, if_neg Bool.false_ne_true]
  show Entries.put name f.1 s.fields = _
  cases hfields : s.fields with
  | nil => rfl
  | cons first rest =>
    have hfirst : name < first.1 := hname first (hfields ▸ List.mem_cons_self)
    exact if_pos hfirst

/-- **A schema is read back from the flat forms of its fields**, at every depth. -/
theorem schema_flatForms (s : Schema) : schema (.mapping (Fields.flatForms s.fields)) = .accepted s := by
  obtain ⟨tree, hordered⟩ := s
  induction tree using Fields.induction with
  | nil => rw [Fields.flatForms, schema, fields]; rfl
  | cons name f rest inner ih =>
    obtain ⟨hname, hf, hrest⟩ := Fields.isOrdered_cons hordered
    have hfield := field_flatForm ⟨f, hf⟩ fun elem helem => inner elem helem (Field.isOrdered_nested hf helem)
    have hothers := ih hrest
    rw [schema] at hothers
    rw [Fields.flatForms, schema, fields, Reading.nameKey_text, hfield, hothers]
    exact congrArg Checked.accepted (Schema.ext (putNew_of_lt hname ⟨f, hf⟩))

end Declaration

/-- **The flat form is complete.** Every field, with any names, defaults and depth, is what its flat form is read as;
and so is every schema. So if a declaration is accepted, in whichever form each of its levels is written, the flat form
of the field that it is read as is read as the same field again. -/
theorem flat_form_reads_back :
    (∀ f : { f : Field // f.isOrdered }, Declaration.field f.1.flatForm = .accepted f) ∧
    (∀ s : Schema, Declaration.schema (.mapping (Fields.flatForms s.fields)) = .accepted s) ∧
    ∀ d f, Declaration.field d = .accepted f → Declaration.field f.1.flatForm = Declaration.field d := by
  have hfield : ∀ f : { f : Field // f.isOrdered }, Declaration.field f.1.flatForm = .accepted f :=
    fun f => Declaration.field_flatForm f fun elem _ => Declaration.schema_flatForms ⟨elem, _⟩
  refine ⟨hfield, Declaration.schema_flatForms, fun d f hd => ?_⟩
  rw [hfield f, hd]

/-- a tagged list whose elements are named like keys: a flat set of empty objects, and a tagged number -/
def listOfKeys : Document :=
  .mapping [(.text "kind", .mapping [(.text "kind", .text "list"), (.text "elem", .mapping [
    (.text "elem", .mapping [(.text "type", .text "set"), (.text "elem", .mapping [])]),
    (.text "kind", .mapping [(.text "kind", .mapping [(.text "kind", .text "primitive"),
      (.text "type", .text "int")])])])])]

/-- The mixed declaration and the flat form of what it is read as are read alike. -/
theorem list_of_keys_reads_back : ∃ f, Declaration.field listOfKeys = .accepted f ∧
    Declaration.field f.1.flatForm = Declaration.field listOfKeys := by
  have hread : ∃ f, Declaration.field listOfKeys = .accepted f := by
    refine ⟨⟨⟨.collection .list (some [("elem", ⟨.collection .set (some []), false, .null⟩),
      ("kind", ⟨.primitive .int, false, .null⟩)]), false, .null⟩, rfl⟩, ?_⟩
    cbv
  obtain ⟨f, hf⟩ := hread
  exact ⟨f, hf, flat_form_reads_back.2.2 _ _ hf⟩

end CatalogLint
