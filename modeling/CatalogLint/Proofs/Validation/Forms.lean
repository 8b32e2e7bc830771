/-
The reader of declarations, form by form. A declaration has a key for its kind and is tagged, or it has none and is
flat; each form has its equation here, so that later proofs choose a form and never open the reader itself.

- `Declaration.field_tagged`, `Declaration.field_primitive`, `Declaration.field_collection`: a declaration that is read.
- `Declaration.issues_of_not_normalisable`: any other flat declaration is one issue, at its own place.
- `Reading.strayKeys_congr`, `Declaration.fieldWith_congr`: what stands beside the kind is read from the keys and two
  look-ups alone.
-/
import CatalogLint.Proofs.Document.Lookup
import CatalogLint.Validation.Catalog

namespace CatalogLint

/-! ## Keys of a form -/

namespace Reading

theorem strayKeys_eq (known : List String) (entries : List (Scalar × Document)) :
    strayKeys known entries = (entries.map Prod.fst).filterMap (strayKey known entries) := by
  rw [strayKeys, List.filterMap_map]
  rfl

/-- What is wrong with a key depends on which keys there are, and not on their order. -/
theorem strayKey_congr {entries others : List (Scalar × Document)}
    (h : ∀ key, key ∈ entries.map Prod.fst ↔ key ∈ others.map Prod.fst) (known : List String) :
    strayKey known entries = strayKey known others := by
  have hname : ∀ name, Document.hasName name entries = Document.hasName name others := by
    intro name
    rw [Document.hasName, Document.hasName, Bool.eq_iff_iff, Document.lookup?_isSome_iff, Document.lookup?_isSome_iff, h]
  funext key
  unfold strayKey
  simp only [hname]

theorem strayKeys_congr {known : List String} {entries others : List (Scalar × Document)}
    (h : entries.map Prod.fst = others.map Prod.fst) : strayKeys known entries = strayKeys known others := by
  have hkey : strayKey known entries = strayKey known others := strayKey_congr (fun key => by rw [h]) known
  rw [strayKeys_eq, strayKeys_eq, hkey, h]

end Reading

namespace Declaration

/-! ## What stands beside the kind -/

/-- the keys of a flat declaration other than those that describe its kind -/
def beside (entries : List (Scalar × Document)) : List (Scalar × Document) :=
  entries.filter fun (key, _) => key ≠ .text "type" && key ≠ .text "elem"

theorem withKind_eq (entries : List (Scalar × Document)) :
    withKind entries = (.text "kind", .null) :: beside entries := rfl

theorem texts_withKind {entries : List (Scalar × Document)} (h : ∀ e ∈ entries, ∃ name, e.1 = .text name) :
    ∀ e ∈ withKind entries, ∃ name, e.1 = .text name := by
  intro e he
  rcases List.mem_cons.1 he with rfl | he
  · exact ⟨"kind", rfl⟩
  · exact h e (List.mem_filter.1 he).1

theorem lookup?_beside {name : String} (htype : name ≠ "type") (helem : name ≠ "elem")
    (entries : List (Scalar × Document)) :
    Document.lookup? name (beside entries) = Document.lookup? name entries := by
  induction entries with
  | nil => rfl
  | cons entry rest ih =>
    obtain ⟨key, d⟩ := entry
    by_cases hkey : key = .text "type" ∨ key = .text "elem"
    · have hname : key ≠ .text name := by
        rintro rfl
        rcases hkey with h | h
        · cases h; exact htype rfl
        · cases h; exact helem rfl
      have hdrop : beside ((key, d) :: rest) = beside rest := by
        rcases hkey with rfl | rfl <;> rfl
      rw [hdrop, ih, Document.lookup?, if_neg hname]
    · have hkeep : beside ((key, d) :: rest) = (key, d) :: beside rest := by
        rw [not_or] at hkey
        exact List.filter_cons_of_pos (by simp [hkey])
      rw [hkeep, Document.lookup?, Document.lookup?, ih]

theorem keys_beside (entries : List (Scalar × Document)) : (beside entries).map Prod.fst =
    (entries.map Prod.fst).filter fun key => key ≠ .text "type" && key ≠ .text "elem" := by
  rw [List.filter_map]
  rfl

theorem lookup?_withKind {name : String} (hkind : name ≠ "kind") (htype : name ≠ "type") (helem : name ≠ "elem")
    (entries : List (Scalar × Document)) :
    Document.lookup? name (withKind entries) = Document.lookup? name entries := by
  have hkey : Scalar.text "kind" ≠ .text name := fun he => hkind (Scalar.text.inj he).symm
  rw [withKind_eq, Document.lookup?, if_neg hkey, lookup?_beside htype helem]

theorem fieldWith_congr {kind : Checked (Kind Schema)} {entries others : List (Scalar × Document)}
    (hkeys : entries.map Prod.fst = others.map Prod.fst)
    (hsensitive : Document.lookup? "sensitive" entries = Document.lookup? "sensitive" others)
    (hdefault : Document.lookup? "default" entries = Document.lookup? "default" others) :
    fieldWith kind entries = fieldWith kind others := by
  have htruth : Reading.keyed "sensitive" (.accepted false) Reading.truth entries =
      Reading.keyed "sensitive" (.accepted false) Reading.truth others := by
    rw [Reading.keyed, Reading.keyed, hsensitive]
  rw [fieldWith, fieldWith, htruth, Reading.strayKeys_congr hkeys, hdefault]

/-! ## The forms of a declaration -/

variable {entries : List (Scalar × Document)}

theorem fieldType?_eq_some_iff {d : Document} {t : FieldType} : fieldType? d = some t ↔ d = .text t.name := by
  constructor
  · intro h
    unfold fieldType? at h
    split at h
    · rw [FieldType.name_of_ofName? h]
    · cases h
  · rintro rfl
    exact FieldType.ofName?_name t

/-- a flat declaration names one of the types, and has elements only if this is a collection -/
def Normalisable (entries : List (Scalar × Document)) : Prop :=
  ∃ t : FieldType, Document.lookup? "type" entries = some (.text t.name) ∧
    (t.isCollection ∨ Document.lookup? "elem" entries = none ∨ Document.lookup? "elem" entries = some .null)

theorem field_tagged {given : Document} (h : Document.lookup? "kind" entries = some given) :
    field (.mapping entries) = fieldWith ((taggedKind given).within (.key "kind")) entries := by
  rw [field]
  split
  · rename_i kind hkind
    rw [h] at hkind
    cases hkind
    rfl
  · rename_i hkind
    rw [h] at hkind
    cases hkind

/-- the reader on a declaration without a key for the kind -/
theorem field_flat (h : Document.lookup? "kind" entries = none) :
    field (.mapping entries) = match Document.lookup? "type" entries with
      | none => .reject .typeMissing
      | some given => match fieldType? given with
        | none => .reject (.notAFieldType given)
        | some (.primitive t) =>
          if ((Document.lookup? "elem" entries).getD .null).isNull then
            fieldWith (.accepted (.primitive t)) (withKind entries)
          else .reject (.elemOfPrimitive t)
        | some (.collection s) =>
          fieldWith ((((elem entries).within (.key s.name)).within (.key "kind")).map (.collection s))
            (withKind entries) := by
  rw [field]
  split
  · rename_i kind hkind
    rw [h] at hkind
    cases hkind
  · rfl

theorem field_primitive {t : PrimitiveType} (hflat : Document.lookup? "kind" entries = none)
    (htype : Document.lookup? "type" entries = some (.text t.name))
    (helem : Document.lookup? "elem" entries = none ∨ Document.lookup? "elem" entries = some .null) :
    field (.mapping entries) = fieldWith (.accepted (.primitive t)) (withKind entries) := by
  have ht : fieldType? (.text t.name) = some (.primitive t) := fieldType?_eq_some_iff.2 rfl
  rw [field_flat hflat, htype]
  simp only [ht, Document.isNull_getD_iff.2 helem, if_true]

theorem field_collection {s : Shape} (hflat : Document.lookup? "kind" entries = none)
    (htype : Document.lookup? "type" entries = some (.text s.name)) :
    field (.mapping entries) =
      fieldWith ((((elem entries).within (.key s.name)).within (.key "kind")).map (.collection s))
        (withKind entries) := by
  have ht : fieldType? (.text s.name) = some (.collection s) := fieldType?_eq_some_iff.2 rfl
  rw [field_flat hflat, htype]
  simp only [ht]

/-- A flat declaration that is not normalisable is one issue at its own place, whatever else it holds. -/
theorem issues_of_not_normalisable (hflat : Document.lookup? "kind" entries = none) (h : ¬ Normalisable entries) :
    ∃ cause : Cause, cause.code = "value_error" ∧ (field (.mapping entries)).issues = [⟨[], cause⟩] := by
  rw [field_flat hflat]
  cases hgiven : Document.lookup? "type" entries with
  | none => exact ⟨.typeMissing, rfl, rfl⟩
  | some given =>
    cases htype : fieldType? given with
    | none =>
      refine ⟨.notAFieldType given, rfl, ?_⟩
      simp only [htype]
      rfl
    | some t =>
      have hname : Document.lookup? "type" entries = some (.text t.name) := by
        rw [hgiven, fieldType?_eq_some_iff.1 htype]
      cases t with
      | collection s => exact absurd ⟨.collection s, hname, Or.inl rfl⟩ h
      | primitive p =>
        have hfull : ¬ ((Document.lookup? "elem" entries).getD .null).isNull := by
          intro hnull
          exact h ⟨.primitive p, hname, Or.inr (Document.isNull_getD_iff.1 hnull)⟩
        refine ⟨.elemOfPrimitive p, rfl, ?_⟩
        simp only [htype, if_neg hfull]
        rfl

/-! ## Kinds and elements -/

theorem taggedKind_primitive (h : Document.lookup? "kind" entries = some (.text "primitive")) :
    taggedKind (.mapping entries) = (primitiveKind entries).within (.key "primitive") := by
  simp only [taggedKind, h]

theorem taggedKind_collection {s : Shape} (h : Document.lookup? "kind" entries = some (.text s.name)) :
    taggedKind (.mapping entries) = (collectionKind s entries).within (.key s.name) := by
  rw [taggedKind, h]
  cases s <;> rfl

theorem taggedKind_untagged (h : Document.lookup? "kind" entries = none) :
    taggedKind (.mapping entries) = .reject .tagMissing := by
  simp only [taggedKind, h]

theorem taggedKind_unknown {given : Document} (h : Document.lookup? "kind" entries = some given)
    (hprimitive : given ≠ .text "primitive") (hshape : ∀ s : Shape, given ≠ .text s.name) :
    taggedKind (.mapping entries) = .reject (.unknownTag given) := by
  rw [taggedKind, h]
  split
  · rename_i hnone
    cases hnone
  · rename_i hsome
    exact absurd (Option.some.inj hsome) hprimitive
  · rename_i hsome
    exact absurd (Option.some.inj hsome) (hshape .list)
  · rename_i hsome
    exact absurd (Option.some.inj hsome) (hshape .set)
  · rename_i hsome
    cases hsome
    rfl

/-- The tag that chose a kind is also the one that the kind expects. -/
theorem tag_of_lookup? {expected : String} (h : Document.lookup? "kind" entries = some (.text expected)) :
    tag expected entries = .accepted () := by
  simp only [tag, Reading.keyed, h, if_true]
  rfl

theorem elem_eq (entries : List (Scalar × Document)) :
    elem entries = match Document.lookup? "elem" entries with
      | none => .accepted none
      | some d => if d.isNull then .accepted none else ((schema d).within (.key "elem")).map some := by
  rw [elem]
  split <;> rename_i h <;> rw [h]

end Declaration

end CatalogLint
