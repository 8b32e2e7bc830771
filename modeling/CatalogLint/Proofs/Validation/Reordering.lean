/-
Reading documents whose keys stand in another order. What comes out is the same but for the order of keys in defaults,
and the issues are the same but for their order.

- `Declaration.fieldWith_agree`: the step for what stands beside a kind, which both forms of a declaration share.
- `Document.Reordered.readAlike`: from it, by induction on the documents, all parts of a declaration.
- `ExceptionRegistry.read_agree`: exceptions are read as the same exceptions.
- `Catalog.read_agree`: catalogs are read as catalogs that are alike.
-/
import CatalogLint.Proofs.Validation.Agreement

namespace CatalogLint

open Document (SameEntries Reordered)

/-! ## Parts without an order -/

theorem Reading.text_eq_of_reordered {d d' : Document} (h : d.Reordered d') : Reading.text d = Reading.text d' := by
  cases h <;> rfl

theorem Reading.truth_eq_of_reordered {d d' : Document} (h : d.Reordered d') : Reading.truth d = Reading.truth d' := by
  cases h <;> rfl

theorem Declaration.fieldType?_eq_of_reordered {d d' : Document} (h : d.Reordered d') :
    Declaration.fieldType? d = Declaration.fieldType? d' := by
  cases h <;> rfl

theorem Declaration.primitiveType_eq_of_reordered {d d' : Document} (h : d.Reordered d') :
    Declaration.primitiveType d = Declaration.primitiveType d' := by
  cases h <;> rfl

/-! ## Kinds and what stands beside them -/

/-- the same kind, with elements that are alike -/
inductive Kind.Alike : Kind Schema → Kind Schema → Prop where
  | primitive (type : PrimitiveType) : Alike (.primitive type) (.primitive type)
  | collection (shape : Shape) {elem elem' : Option Schema} (h : Option.Rel Schema.Alike elem elem') :
    Alike (.collection shape elem) (.collection shape elem')

theorem Field.ofKind_alike {kind kind' : Kind Schema} (h : kind.Alike kind') (sensitive : Bool)
    {default default' : Document} (hdefault : default.Reordered default') :
    (Field.ofKind kind sensitive default).1.Alike (Field.ofKind kind' sensitive default').1 := by
  cases h with
  | primitive type => exact .primitive type sensitive hdefault
  | collection shape helem =>
    cases helem with
    | none => exact .bare shape sensitive hdefault
    | some halike =>
      obtain ⟨names, fields⟩ := Entries.alike_iff_zip.1 halike
      exact .nested shape sensitive hdefault names fields

namespace Declaration

/-- fields of which the one is like the other -/
abbrev FieldsAlike (f f' : { f : Field // f.isOrdered }) : Prop := f.1.Alike f'.1

variable {r : Document → Document → Prop} {entries entries' : List (Scalar × Document)}

/-- **What stands beside a kind is read alike**, if kinds, keys and the two look-ups are alike. -/
theorem fieldWith_agree {kind kind' : Checked (Kind Schema)} (hkind : kind.Agree Kind.Alike kind')
    (hkeys : (entries.map Prod.fst).Perm (entries'.map Prod.fst))
    (hsensitive : Option.Rel Reordered (Document.lookup? "sensitive" entries) (Document.lookup? "sensitive" entries'))
    (hdefault : Option.Rel Reordered (Document.lookup? "default" entries) (Document.lookup? "default" entries')) :
    (fieldWith kind entries).Agree FieldsAlike (fieldWith kind' entries') := by
  have htruth : Checked.Agree (· = ·) (Reading.keyed "sensitive" (.accepted false) Reading.truth entries)
      (Reading.keyed "sensitive" (.accepted false) Reading.truth entries') := by
    refine .keyed hsensitive (.accepted rfl) fun d d' h => ?_
    rw [Reading.truth_eq_of_reordered h]
    exact .refl (fun _ => rfl) _
  refine ((hkind.and htruth).and (.strayKeys _ hkeys)).map ?_
  rintro ⟨⟨kind, sensitive⟩, _⟩ ⟨⟨kind', sensitive'⟩, _⟩ ⟨⟨halike, heq⟩, _⟩
  simp only at halike heq
  subst heq
  exact Field.ofKind_alike halike sensitive (Reordered.getD_null hdefault)

theorem tag_agree (expected : String) (h : SameEntries Reordered entries entries') :
    Checked.Agree (fun _ _ => True) (tag expected entries) (tag expected entries') := by
  refine .keyed (h.lookup? "kind") (.accepted trivial) fun d d' hd => ?_
  cases hd with
  | scalar value => exact .refl (fun _ => trivial) _
  | set | again | pair | list | mapping => exact .reject (.refl _)

theorem primitiveKind_agree (h : SameEntries Reordered entries entries') :
    (primitiveKind entries).Agree Kind.Alike (primitiveKind entries') := by
  have htype : Checked.Agree (· = ·)
      (Reading.keyed "type" ((Checked.reject .missing).within (.key "type")) primitiveType entries)
      (Reading.keyed "type" ((Checked.reject .missing).within (.key "type")) primitiveType entries') := by
    refine .keyed (h.lookup? "type") (.refl (fun _ => rfl) _) fun d d' hd => ?_
    rw [primitiveType_eq_of_reordered hd]
    exact .refl (fun _ => rfl) _
  refine (((tag_agree "primitive" h).and htype).and (.strayKeys _ h.keys)).map ?_
  rintro ⟨⟨_, type⟩, _⟩ ⟨⟨_, type'⟩, _⟩ ⟨⟨_, heq⟩, _⟩
  simp only at heq
  subst heq
  exact .primitive type

/-! ## Declarations -/

/-- both documents are read alike, whichever part of a declaration they are -/
structure ReadAlike (d d' : Document) : Prop where
  schema : (schema d).Agree Schema.Alike (schema d')
  kind : (taggedKind d).Agree Kind.Alike (taggedKind d')
  field : (field d).Agree FieldsAlike (field d')

/-- a document and another one that differ in the order of keys and are read alike -/
def Reread (d d' : Document) : Prop := d.Reordered d' ∧ ReadAlike d d'

section Mapping

variable (h : SameEntries Reread entries entries')

include h

theorem reordered_of_reread : SameEntries Reordered entries entries' := h.imp fun _ _ hd => hd.1

theorem elem_agree : (elem entries).Agree (Option.Rel Schema.Alike) (elem entries') := by
  rw [elem_eq, elem_eq]
  have helem := h.lookup? "elem"
  cases hd : Document.lookup? "elem" entries with
  | none =>
    rw [hd, rel_none_iff] at helem
    rw [helem]
    exact .accepted .none
  | some d =>
    rw [hd, rel_some_iff] at helem
    obtain ⟨d', hd', hreordered, hread⟩ := helem
    rw [hd']
    simp only [hreordered.isNull_eq]
    split
    · exact .accepted .none
    · exact (hread.schema.within _).map fun s s' hs => .some hs

theorem collectionKind_agree (shape : Shape) :
    (collectionKind shape entries).Agree Kind.Alike (collectionKind shape entries') := by
  rw [collectionKind, collectionKind]
  have hkeys := (reordered_of_reread h).keys
  refine (((tag_agree shape.name (reordered_of_reread h)).and (elem_agree h)).and (.strayKeys _ hkeys)).map ?_
  rintro ⟨⟨_, elem⟩, _⟩ ⟨⟨_, elem'⟩, _⟩ ⟨⟨_, helem⟩, _⟩
  exact .collection shape helem

theorem taggedKind_agree : (taggedKind (.mapping entries)).Agree Kind.Alike (taggedKind (.mapping entries')) := by
  have hkind := (reordered_of_reread h).lookup? "kind"
  cases hgiven : Document.lookup? "kind" entries with
  | none =>
    rw [hgiven, rel_none_iff] at hkind
    rw [taggedKind_untagged hgiven, taggedKind_untagged hkind]
    exact .reject (.refl _)
  | some given =>
    rw [hgiven, rel_some_iff] at hkind
    obtain ⟨given', hgiven', hreordered⟩ := hkind
    have htext := fun s => hreordered.eq_text_iff (s := s)
    by_cases hprimitive : given = .text "primitive"
    · rw [hprimitive] at hgiven
      rw [(htext _).1 hprimitive] at hgiven'
      rw [taggedKind_primitive hgiven, taggedKind_primitive hgiven']
      exact (primitiveKind_agree (reordered_of_reread h)).within _
    · by_cases hshape : ∃ s : Shape, given = .text s.name
      · obtain ⟨s, hs⟩ := hshape
        rw [hs] at hgiven
        rw [(htext _).1 hs] at hgiven'
        rw [taggedKind_collection hgiven, taggedKind_collection hgiven']
        exact (collectionKind_agree h s).within _
      · rw [not_exists] at hshape
        have hprimitive' : given' ≠ .text "primitive" := fun hno => hprimitive ((htext _).2 hno)
        have hshape' : ∀ s : Shape, given' ≠ .text s.name := fun s hno => hshape s ((htext _).2 hno)
        rw [taggedKind_unknown hgiven hprimitive hshape, taggedKind_unknown hgiven' hprimitive' hshape']
        exact .reject (Cause.alike_of_reordered .unknownTag (fun _ _ => rfl) (fun _ => rfl) hreordered)

/-- the keys beside those that describe a kind -/
theorem fieldWith_withKind_agree {kind kind' : Checked (Kind Schema)} (hkind : kind.Agree Kind.Alike kind') :
    (fieldWith kind (withKind entries)).Agree FieldsAlike (fieldWith kind' (withKind entries')) := by
  have hreordered := reordered_of_reread h
  refine fieldWith_agree hkind ?keys ?sensitive ?default
  case keys =>
    rw [withKind_eq, withKind_eq, List.map_cons, List.map_cons, keys_beside, keys_beside]
    exact (hreordered.keys.filter _).cons _
  case sensitive =>
    rw [lookup?_withKind (by decide) (by decide) (by decide), lookup?_withKind (by decide) (by decide) (by decide)]
    exact hreordered.lookup? "sensitive"
  case default =>
    rw [lookup?_withKind (by decide) (by decide) (by decide), lookup?_withKind (by decide) (by decide) (by decide)]
    exact hreordered.lookup? "default"

theorem field_agree : (field (.mapping entries)).Agree FieldsAlike (field (.mapping entries')) := by
  have hreordered := reordered_of_reread h
  have hkind := h.lookup? "kind"
  cases hgiven : Document.lookup? "kind" entries with
  | some given =>
    rw [hgiven, rel_some_iff] at hkind
    obtain ⟨given', hgiven', _, hread⟩ := hkind
    rw [field_tagged hgiven, field_tagged hgiven']
    exact fieldWith_agree (hread.kind.within _) hreordered.keys (hreordered.lookup? _) (hreordered.lookup? _)
  | none =>
    rw [hgiven, rel_none_iff] at hkind
    rw [field_flat hgiven, field_flat hkind]
    -- both name the same type, or none, and this decides on the equation for both
    have htype := hreordered.lookup? "type"
    cases htyped : Document.lookup? "type" entries with
    | none =>
      rw [htyped, rel_none_iff] at htype
      rw [htype]
      exact .reject (.refl _)
    | some type =>
      rw [htyped, rel_some_iff] at htype
      obtain ⟨type', htyped', hsame⟩ := htype
      rw [htyped']
      simp only [← fieldType?_eq_of_reordered hsame]
      cases fieldType? type with
      | none => exact .reject (Cause.alike_of_reordered .notAFieldType (fun _ _ => rfl) (fun _ => rfl) hsame)
      | some t =>
        cases t with
        | collection shape =>
          refine fieldWith_withKind_agree h ((((elem_agree h).within _).within _).map fun e e' he => ?_)
          exact .collection shape he
        | primitive t =>
          simp only [(Reordered.getD_null (hreordered.lookup? "elem")).isNull_eq]
          split
          · exact fieldWith_withKind_agree h (.accepted (.primitive t))
          · exact .reject (.refl _)

theorem schema_agree : (schema (.mapping entries)).Agree Schema.Alike (schema (.mapping entries')) := by
  rw [schema, schema, fields_eq_namedEntries, fields_eq_namedEntries]
  have hread := h.imp fun _ _ hd => hd.2.field
  have hfields := (Reading.entryReader field).agree (Reading.entryReader_collects field) hread
  refine hfields.map fun m m' hm => Entries.alike_of_lookup? ?_ ?_ fun name => ?_
  · exact (Fields.isOrdered_iff.1 (Schema.ofMap m).ordered).1
  · exact (Fields.isOrdered_iff.1 (Schema.ofMap m').ordered).1
  · have hvalue : ∀ {x y : Option { f : Field // f.isOrdered }}, Option.Rel FieldsAlike x y →
        Option.Rel Field.Alike (x.map Subtype.val) (y.map Subtype.val) := by
      intro x y hxy
      cases hxy with
      | none => exact .none
      | some hf => exact .some hf
    rw [Schema.lookup?_ofMap, Schema.lookup?_ofMap]
    exact hvalue (hm name)

end Mapping

/-- **Documents whose keys stand in another order are read alike**, whichever part of a declaration they are. -/
theorem readAlike_of_reordered {d d' : Document} (h : d.Reordered d') : ReadAlike d d' := by
  induction h with
  | mapping distinct keys inValues ih =>
    -- the values are read alike, which is all that the readers of a mapping need
    have hentries : SameEntries Reread _ _ :=
      ⟨distinct, keys, fun key d d' hd hd' => ⟨inValues key d d' hd hd', ih key d d' hd hd'⟩⟩
    exact ⟨schema_agree hentries, taggedKind_agree hentries, field_agree hentries⟩
  | scalar | set | again | pair | list =>
    constructor
    all_goals
      simp only [schema, taggedKind, field]
      exact .reject (.refl _)

end Declaration

/-! ## Exceptions -/

theorem namesFrom_eq_of_reordered {items items' : List Document} (h : List.Forall₂ Reordered items items')
    (position : Int) : namesFrom position items = namesFrom position items' := by
  induction h generalizing position with
  | nil => rfl
  | cons hd _ ih => rw [namesFrom, namesFrom, Reading.text_eq_of_reordered hd, ih]

theorem NameSet.read_eq_of_reordered {d d' : Document} (h : d.Reordered d') : NameSet.read d = NameSet.read d' := by
  cases h with
  | list length inItems =>
    have hitems := List.forall₂_iff_zip.2 ⟨length, fun hmem => inItems _ _ hmem⟩
    rw [NameSet.read, NameSet.read, namesFrom_eq_of_reordered hitems]
  | scalar | set | again | pair | mapping => rfl

/-- maps of which the one has values like those of the other, under the same names -/
def NameMap.Alike {α : Type} (alike : α → α → Prop) (m m' : NameMap α) : Prop :=
  Entries.Alike alike m.entries m'.entries

theorem NameMap.eq_of_alike {α : Type} {m m' : NameMap α} (h : m.Alike (· = ·) m') : m = m' := by
  have hentries : List.Forall₂ (· = ·) m.entries m'.entries := List.Forall₂.imp (fun _ _ he => Prod.ext he.1 he.2) h
  rw [List.forall₂_eq_eq_eq] at hentries
  cases m
  cases m'
  cases hentries
  rfl

theorem Reading.named_agree {α : Type} {read : Document → Checked α} {alike : α → α → Prop}
    (hread : ∀ d d', d.Reordered d' → (read d).Agree alike (read d')) {d d' : Document} (h : d.Reordered d') :
    (Reading.named read d).Agree (NameMap.Alike alike) (Reading.named read d') := by
  cases h with
  | mapping distinct keys inValues =>
    have hentries : SameEntries Reordered _ _ := ⟨distinct, keys, inValues⟩
    have hnamed := (Reading.entryReader read).agree (Reading.entryReader_collects read) (hentries.imp hread)
    exact hnamed.imp fun m m' hm => Entries.alike_of_lookup? m.ordered m'.ordered hm
  | scalar | set | again | pair | list => exact .reject (.refl _)

theorem Partitioned.read_agree {α : Type} {absent : α} {read : Document → Checked α}
    (hread : ∀ d d', d.Reordered d' → (read d).Agree (· = ·) (read d')) {d d' : Document} (h : d.Reordered d') :
    (Partitioned.read absent read d).Agree (· = ·) (Partitioned.read absent read d') := by
  cases h with
  | mapping distinct keys inValues =>
    have hentries : SameEntries Reordered _ _ := ⟨distinct, keys, inValues⟩
    have hall := (Partitioned.entryReader read).agree (Partitioned.entryReader_collects read) (hentries.imp hread)
    refine hall.map fun x x' hx => ?_
    have hsame : x = x' := Partitioned.ext_get fun p => eq_of_rel_eq (hx p)
    rw [hsame]
  | scalar | set | again | pair | list => exact .reject (.refl _)

/-- **Exceptions whose keys stand in another order are the same exceptions.** -/
theorem ExceptionRegistry.read_agree {d d' : Document} (h : d.Reordered d') :
    (ExceptionRegistry.read d).Agree (· = ·) (ExceptionRegistry.read d') := by
  have hset : ∀ d d', d.Reordered d' → (ExceptionSet.read d).Agree (· = ·) (ExceptionSet.read d') := by
    intro d d' h
    refine (Reading.named_agree (fun d d' hd => ?_) h).imp fun _ _ => NameMap.eq_of_alike
    rw [NameSet.read_eq_of_reordered hd]
    exact .refl (fun _ => rfl) _
  exact (Reading.named_agree (fun d d' hd => Partitioned.read_agree hset hd) h).imp fun _ _ => NameMap.eq_of_alike

/-! ## Catalogs -/

/-- the same entries in the same order, with schemas that are alike -/
def Catalog.Alike (c c' : Catalog) : Prop := ∀ p, (c.get p).Alike Schema.Alike (c'.get p)

/-- **Catalogs whose keys stand in another order are alike.** -/
theorem Catalog.read_agree {d d' : Document} (h : d.Reordered d') :
    (Catalog.read d).Agree Catalog.Alike (Catalog.read d') := by
  cases h with
  | mapping distinct keys inValues =>
    have hentries : SameEntries Reordered _ _ := ⟨distinct, keys, inValues⟩
    have hnamed : ∀ d d', d.Reordered d' → (Reading.named Declaration.schema d).Agree (NameMap.Alike Schema.Alike)
        (Reading.named Declaration.schema d') :=
      fun d d' => Reading.named_agree fun d d' hd => (Declaration.readAlike_of_reordered hd).schema
    have hempty : Checked.Agree (NameMap.Alike Schema.Alike) (.accepted .empty) (.accepted .empty) := .accepted .nil
    have hsources := Checked.Agree.keyed (hentries.lookup? "data_sources") hempty hnamed
    have hresources := Checked.Agree.keyed (hentries.lookup? "resources") hempty hnamed
    refine ((hsources.and hresources).and (.strayKeys _ keys)).map ?_
    rintro ⟨⟨sources, resources⟩, _⟩ ⟨⟨sources', resources'⟩, _⟩ ⟨⟨hs, hr⟩, _⟩ p
    cases p with
    | dataSources => exact hs
    | resources => exact hr
  | scalar | set | again | pair | list => exact .reject (.refl _)

end CatalogLint
