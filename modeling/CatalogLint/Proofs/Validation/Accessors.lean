/-
What a schema that is read lets be seen of its document. `Schema.AgreesWith` says that names, look-ups, size and items
agree with each other and with the keys of the document; `Declaration.LevelAt` says which part of the document declares
the fields that a path leads to.

- `Schema.agreesWith_of_read`: a schema agrees with the document that it is read from.
- `Declaration.exists_levelAt`, `Declaration.descend_of_levelAt`: descents in the schema lead exactly to the levels that
  the document declares, and each of these is read from its own part.

With `Schema.walkIsDescent` this ties accessors, document and walk together at every depth.
-/
import CatalogLint.Proofs.Schema.Descent
import CatalogLint.Proofs.Validation.KindAndType

namespace CatalogLint

open Document (lookup? isName last?)
open Declaration (Describes GivesElem ReadsDescribed schema field)

/-! ## One level -/

namespace Schema

/-- the accessors of a schema agree with each other, and with the document that it is read from -/
structure AgreesWith (s : Schema) (d : Document) : Prop where
  increase : s.names.Pairwise (· < ·)
  declared : ∃ entries, d = .mapping entries ∧
    ∀ name, name ∈ s.names ↔ ∃ e ∈ entries, Reading.text? e.1 = some name
  contains_iff : ∀ name, s.contains name ↔ name ∈ s.names
  found_iff : ∀ name, (∃ f, s.get name = .ok f) ↔ name ∈ s.names
  missing_iff : ∀ name e, s.get name = .error e ↔ name ∉ s.names ∧ e = ⟨name⟩
  get_iff : ∀ name f, s.get name = .ok f ↔ (name, f) ∈ s.items
  items_names : s.items.map Prod.fst = s.names
  size_eq : s.size = s.names.length
  read_iff : ∀ name f, s.get name = .ok f ↔
    ∃ given, d.value? (isName name) = some given ∧ ∃ hordered, field given = .accepted ⟨f, hordered⟩

theorem names_increase (s : Schema) : s.names.Pairwise (· < ·) :=
  List.pairwise_map.2 (Fields.isOrdered_iff.1 s.ordered).1

theorem contains_iff {s : Schema} {name : String} : s.contains name ↔ name ∈ s.names := Entries.lookup?_isSome_iff

theorem exists_get_iff {s : Schema} {name : String} : (∃ f, s.get name = .ok f) ↔ name ∈ s.names := by
  rw [← contains_iff, get, contains, Fields.get, Fields.contains]
  cases Entries.lookup? name s.fields <;> simp

end Schema

namespace Declaration

/-- The names of a schema are those that the keys of its document are read as. -/
theorem mem_names_iff {d : Document} {s : Schema} (h : schema d = .accepted s) {name : String} :
    name ∈ s.names ↔ ∃ given, d.value? (isName name) = some given := by
  obtain ⟨entries, rfl, hfields⟩ := mapping_of_schema h
  obtain ⟨m, hm, rfl⟩ := fields_eq_accepted_iff.1 hfields
  have hnamed : Reading.named field (.mapping entries) = .accepted m := hm
  have hrel := Reading.get?_named hnamed name
  rw [← Schema.contains_iff, Schema.contains, Fields.contains, Schema.lookup?_ofMap, Option.isSome_map,
    ← Option.isSome_iff_exists]
  cases hvalue : (Document.mapping entries).value? (isName name) with
  | none =>
    rw [hvalue, rel_none_iff] at hrel
    rw [hrel]
    exact Iff.rfl
  | some given =>
    rw [hvalue, rel_some_iff] at hrel
    obtain ⟨read, hget, _⟩ := hrel
    rw [hget]
    rfl

theorem get_iff_read {d : Document} {s : Schema} (h : schema d = .accepted s) {name : String} {f : Field} :
    s.get name = .ok f ↔
      ∃ given, d.value? (isName name) = some given ∧ ∃ hordered, field given = .accepted ⟨f, hordered⟩ := by
  have hread : ∀ g, s.get name = .ok g →
      ∃ given, d.value? (isName name) = some given ∧ ∃ hordered, field given = .accepted ⟨g, hordered⟩ :=
    fun g hg => exists_value h ((Fields.get_eq_ok_iff s.ordered).1 hg)
  constructor
  · exact hread f
  · rintro ⟨given, hvalue, _, hf⟩
    obtain ⟨g, hg⟩ := Schema.exists_get_iff.2 ((mem_names_iff h).2 ⟨given, hvalue⟩)
    obtain ⟨given', hvalue', _, hg'⟩ := hread g hg
    cases hvalue.symm.trans hvalue'
    cases hf.symm.trans hg'
    exact hg

end Declaration

/-- **The accessors agree with each other and with the document.** -/
theorem Schema.agreesWith_of_read {d : Document} {s : Schema} (h : schema d = .accepted s) : s.AgreesWith d := by
  constructor
  case increase => exact s.names_increase
  case declared =>
    obtain ⟨entries, rfl, _⟩ := Declaration.mapping_of_schema h
    refine ⟨entries, rfl, fun name => ?_⟩
    rw [Declaration.mem_names_iff h, ← Option.isSome_iff_exists, Document.value?, Document.last?_isSome_iff]
    simp [isName]
  case contains_iff => exact fun name => contains_iff
  case found_iff => exact fun name => exists_get_iff
  case missing_iff => exact fun name e => Fields.get_eq_error_iff
  case get_iff => exact fun name f => Fields.get_eq_ok_iff s.ordered
  case items_names => rfl
  case size_eq => exact (List.length_map _).symm
  case read_iff => exact fun name f => Declaration.get_iff_read h

/-! ## All levels -/

namespace Declaration

/-- a part of a document declares the fields to which a path of names leads -/
inductive LevelAt : Document → List String → Document → Prop where
  | root {d : Document} : LevelAt d [] d
  | inside {d around elem given : Document} {name : String} {path : List String}
    (value : d.value? (isName name) = some around) (elements : GivesElem around elem)
    (inner : LevelAt elem path given) : LevelAt d (name :: path) given

/-- Every level of a schema is read from the part of the document that declares it. -/
theorem exists_levelAt {d : Document} {s : Schema} (h : schema d = .accepted s) {path : List String} {level : Fields}
    (hdown : s.descend path = .ok (some level)) :
    ∃ given inner, LevelAt d path given ∧ inner.fields = level ∧ schema given = .accepted inner := by
  induction path generalizing d s with
  | nil =>
    cases hdown
    exact ⟨d, s, .root, rfl, h⟩
  | cons name rest ih =>
    obtain ⟨f, elem, hmem, hnested, hrest⟩ := (Fields.descend_cons_eq_some_iff s.ordered).1 hdown
    obtain ⟨around, hvalue, _, hread⟩ := exists_value h hmem
    obtain ⟨given, hgives, hordered, hschema⟩ := exists_givesElem hread hnested
    obtain ⟨part, inner, hat, hlevel, hinner⟩ := ih (s := ⟨elem, hordered⟩) hschema hrest
    exact ⟨part, inner, .inside hvalue hgives hat, hlevel, hinner⟩

/-- A tagged primitive has no key for elements. -/
theorem lookup?_elem_of_primitiveKind {entries : List (Scalar × Document)} {k : Kind Schema}
    (h : primitiveKind entries = .accepted k) : lookup? "elem" entries = none := by
  obtain ⟨⟨_, _⟩, hall, _⟩ := Checked.map_eq_accepted_iff.1 h
  obtain ⟨_, hstray⟩ := Checked.and_eq_accepted_iff.1 hall
  rw [Checked.ofIssues_eq_accepted_iff, Reading.strayKeys, List.filterMap_eq_nil_iff] at hstray
  cases hgiven : lookup? "elem" entries with
  | none => rfl
  | some given =>
    have hkey := hstray _ (Document.mem_of_lookup? hgiven)
    simp [Reading.strayKey, Reading.text?] at hkey

/-- A declaration that is read as a primitive gives no elements, or none to speak of. -/
theorem null_of_primitive {d elem : Document} {f : { f : Field // f.isOrdered }} (h : field d = .accepted f)
    {t : PrimitiveType} (htype : f.1.type = .primitive t) (hgives : GivesElem d elem) : elem = .null := by
  obtain ⟨keys, word, hdescribes, helem⟩ := hgives
  have hword : ∀ s : Shape, word ≠ s.name := by
    obtain ⟨others, other, hother, hshape, _⟩ := (agrees_of_field h).described
    obtain ⟨rfl, rfl⟩ := hdescribes.unique hother
    intro s hs
    cases htype.symm.trans ((hshape s).2 hs)
  cases hdescribes with
  | @tagged entries kind word hunder htag =>
    rw [field_tagged hunder] at h
    obtain ⟨k, b, hk, rfl⟩ := kind_of_fieldWith h
    rw [Checked.within_eq_accepted_iff] at hk
    rcases tag_of_accepted hk with hprimitive | ⟨s, hshape⟩
    · rw [taggedKind_primitive hprimitive, Checked.within_eq_accepted_iff] at hk
      cases helem.symm.trans (lookup?_elem_of_primitiveKind hk)
    · cases htag.symm.trans hshape
      exact absurd rfl (hword s)
  | @flat entries word huntagged hnamed =>
    obtain ⟨u, hu, hbare⟩ := normalisable_of_accepted huntagged h
    cases hnamed.symm.trans hu
    cases u with
    | primitive u =>
      rcases hbare.resolve_left Bool.false_ne_true with hnone | hnull
      · cases helem.symm.trans hnone
      · cases helem.symm.trans hnull
        rfl
    | collection s => exact absurd rfl (hword s)

/-- Elements that a declaration gives are those of the field that is read from it. -/
theorem nested?_of_givesElem {d elem : Document} {f : { f : Field // f.isOrdered }} (h : field d = .accepted f)
    (hgives : GivesElem d elem) (hnull : elem ≠ .null) :
    ∃ inner : Schema, f.1.nested? = some inner.fields ∧ schema elem = .accepted inner := by
  obtain ⟨keys, word, k, b, default, hdescribes, hreads, rfl⟩ := exists_described h
  cases hreads with
  | primitive => exact absurd (null_of_primitive h rfl hgives) hnull
  | @collection s e hread =>
    obtain ⟨others, _, hother, helem⟩ := hgives
    obtain ⟨rfl, _⟩ := hdescribes.unique hother
    have hkind := (elem_eq_accepted_iff (s := s)).1 hread
    rw [helem] at hkind
    cases hkind with
    | bare hbare =>
      rcases hbare with hnone | hsome
      · cases hnone
      · cases hsome
        exact absurd rfl hnull
    | @nested _ _ inner hinner => exact ⟨inner, rfl, hinner⟩

theorem LevelAt.null {path : List String} {given : Document} (h : LevelAt .null path given) : given = .null := by
  cases h with
  | root => rfl
  | inside hvalue => cases hvalue

/-- Every level that the document declares is one of the schema. -/
theorem descend_of_levelAt {d given : Document} {path : List String} (hat : LevelAt d path given)
    (hnull : given ≠ .null) {s : Schema} (h : schema d = .accepted s) :
    ∃ inner : Schema, s.descend path = .ok (some inner.fields) ∧ schema given = .accepted inner := by
  induction hat generalizing s with
  | root => exact ⟨s, rfl, h⟩
  | @inside d around elem given name path hvalue hgives hinner ih =>
    obtain ⟨f, hget⟩ := Schema.exists_get_iff.2 ((mem_names_iff h).2 ⟨around, hvalue⟩)
    obtain ⟨around', hvalue', _, hread⟩ := (get_iff_read h).1 hget
    cases hvalue.symm.trans hvalue'
    have helem : elem ≠ .null := by
      rintro rfl
      exact hnull hinner.null
    obtain ⟨outer, hnested, houter⟩ := nested?_of_givesElem hread hgives helem
    obtain ⟨inner, hdown, hschema⟩ := ih hnull houter
    have hmem := (Fields.get_eq_ok_iff s.ordered).1 hget
    exact ⟨inner, (Fields.descend_cons_eq_some_iff s.ordered).2 ⟨f, _, hmem, hnested, hdown⟩, hschema⟩

end Declaration

open Declaration (LevelAt)

/-- **The accessors of a schema agree with its document and with the walk, at every depth.** Take any schema that is read
from a document. Its names increase strictly and are those of the document; containing a name, having it among the names
and finding it by a look-up are the same, the field that is found is the one paired with the name and is read from its
declaration, and the size is the number of names. Descending along names comes through, runs out of fields or misses a
name as the fields on the way have it, and leads to a field exactly along the paths at which the walk calls its visitor,
once on each and on that field. A descent comes through exactly to the levels that the document declares, and all of this
is true again of each of them and of its own part of the document. -/
theorem accessors_agree_at_every_depth {d : Document} {s : Schema} (h : schema d = .accepted s) :
    s.AgreesWith d ∧ s.WalkIsDescent ∧
    (∀ path level, s.descend path = .ok (some level) → ∃ given, ∃ inner : Schema, LevelAt d path given ∧
      inner.fields = level ∧ inner.AgreesWith given ∧ inner.WalkIsDescent) ∧
    ∀ path given, LevelAt d path given → given ≠ .null → ∃ level, s.descend path = .ok (some level) := by
  refine ⟨Schema.agreesWith_of_read h, s.walkIsDescent, ?levels, ?declared⟩
  case levels =>
    intro path level hdown
    obtain ⟨given, inner, hat, hlevel, hread⟩ := Declaration.exists_levelAt h hdown
    exact ⟨given, inner, hat, hlevel, Schema.agreesWith_of_read hread, inner.walkIsDescent⟩
  case declared =>
    intro path given hat hnull
    obtain ⟨inner, hdown, _⟩ := Declaration.descend_of_levelAt hat hnull h
    exact ⟨inner.fields, hdown⟩

/-- names that are words of declarations, out of order: a flat list around a tagged set of nothing -/
def wardrobe : Document :=
  .mapping [(.text "type", .mapping [(.text "type", .text "bool")]),
    (.text "elem", .mapping [(.text "type", .text "list"), (.text "elem", .mapping [
      (.text "kind", .mapping [(.text "kind", .mapping [(.text "kind", .text "set"), (.text "elem", .mapping [])])]),
      (.text "", .mapping [(.text "type", .text "map")])])])]

/-- The walk meets the set inside, which declares elements without any field, and the names beside it are in order. -/
theorem wardrobe_levels_agree : ∃ s, schema wardrobe = .accepted s ∧ s.names = ["elem", "type"] ∧
    s.get "kind" = .error ⟨"kind"⟩ ∧ (∃ earlier f, s.Meets earlier ["elem", "kind"] f ∧ f.nested? = some []) ∧
    ∃ given, ∃ inner : Schema, LevelAt wardrobe ["elem"] given ∧ inner.AgreesWith given ∧ inner.names = ["", "kind"] := by
  have hread : schema wardrobe = .accepted ⟨[("elem", ⟨.collection .list (some [("", ⟨.primitive .map, false, .null⟩),
      ("kind", ⟨.collection .set (some []), false, .null⟩)]), false, .null⟩),
      ("type", ⟨.primitive .bool, false, .null⟩)], rfl⟩ := by
    cbv
  obtain ⟨hagrees, hwalk, hlevels, _⟩ := accessors_agree_at_every_depth hread
  refine ⟨_, hread, rfl, (hagrees.missing_iff _ _).2 ⟨by decide, rfl⟩, ?_, ?_⟩
  · rcases (hwalk.through ["elem", "kind"] []).1 rfl with ⟨hroot, _⟩ | hmeets
    · cases hroot
    · exact hmeets
  · obtain ⟨given, inner, hat, hlevel, hinner, _⟩ := hlevels ["elem"] _ rfl
    refine ⟨given, inner, hat, hinner, ?_⟩
    rw [Schema.names, hlevel]
    rfl

end CatalogLint
