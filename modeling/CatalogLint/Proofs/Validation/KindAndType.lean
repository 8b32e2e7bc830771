/-
The kind and the type of a field that is read. Every field in a tree that is read comes from one declaration in the
document (`Declaration.DeclaredAt`), whose keys describe its kind by a word: the tag, or the type in the flat form
(`Declaration.Describes`).

- `Declaration.exists_described`: what is accepted of a declaration, in either form, is chosen by its word.
- `Declaration.exists_declaredAt`: by induction along the tree, the same holds of every field at any depth.
- `Schema.exists_stop_of_walk`: what a walk reports for a visitor that gives no ancestors has those of one stop.

So the labels of enclosing fields, which the walk takes from types, are those of the kinds that were declared.
-/
import CatalogLint.Proofs.Exceptions.Declared
import CatalogLint.Proofs.Schema.FlatSearch
import CatalogLint.Proofs.Validation.Acceptance

namespace CatalogLint

open Document (lookup? isName)

/-! ## What a field says of its kind -/

/-- all that a field says of its kind agrees -/
structure Field.Consistent (f : Field) : Prop where
  composite_iff_collection : f.isComposite ↔ f.type.isCollection
  composite_iff_tag : f.isComposite ↔ f.kind.tag = "list" ∨ f.kind.tag = "set"
  collection_iff_tag : ∀ s : Shape, f.type = .collection s ↔ f.kind.tag = s.name
  composite_of_nested : ∀ elem, f.nested? = some elem → f.isComposite
  primitive : ∀ t, f.kind = .primitive t → t.name ≠ "list" ∧ t.name ≠ "set"

theorem Shape.name_inj {s t : Shape} : s.name = t.name ↔ s = t := by
  cases s <;> cases t <;> decide

theorem Shape.name_ne_primitive (s : Shape) : s.name ≠ "primitive" := by
  cases s <;> decide

theorem PrimitiveType.name_ne (t : PrimitiveType) (s : Shape) : t.name ≠ s.name := by
  cases t <;> cases s <;> decide

/-- What a field says of its kind agrees by the way fields are built; which kind it has is up to the reader. -/
theorem Field.consistent (f : Field) : f.Consistent := by
  obtain ⟨kind, sensitive, default⟩ := f
  cases kind with
  | primitive t =>
    refine ⟨Iff.rfl, ?_, fun s => ?_, fun elem h => ?_, fun u _ => ⟨u.name_ne .list, u.name_ne .set⟩⟩
    · simp [isComposite, Kind.isComposite, Kind.tag]
    · cases s <;> simp [type, Kind.type, Kind.tag, Shape.name]
    · cases h
  | collection shape elem =>
    refine ⟨Iff.rfl, ?_, fun s => ?_, fun _ _ => rfl, fun t h => ?_⟩
    · cases shape <;> simp [isComposite, Kind.isComposite, Kind.tag, Shape.name]
    · simp [type, Kind.type, Kind.tag, Shape.name_inj]
    · cases h

/-! ## Where a field is declared -/

/-- What is read under a name is read from the value of the name. -/
theorem Reading.exists_value_of_named {α : Type} {read : Document → Checked α} {d : Document} {m : NameMap α}
    (h : Reading.named read d = .accepted m) {name : String} {a : α} (hget : m.get? name = some a) :
    ∃ given, d.value? (isName name) = some given ∧ read given = .accepted a := by
  have hvalue := Reading.get?_named h name
  rw [hget] at hvalue
  cases hgiven : d.value? (isName name) with
  | none =>
    rw [hgiven, rel_none_iff] at hvalue
    cases hvalue
  | some given =>
    rw [hgiven, Option.rel_some_some] at hvalue
    exact ⟨given, rfl, hvalue⟩

namespace Declaration

/-- the keys that describe the kind of a field, and the word among them that chooses it -/
inductive Describes : Document → List (Scalar × Document) → String → Prop where
  | tagged {entries kind : List (Scalar × Document)} {word : String}
    (under : lookup? "kind" entries = some (.mapping kind)) (tag : lookup? "kind" kind = some (.text word)) :
    Describes (.mapping entries) kind word
  | flat {entries : List (Scalar × Document)} {word : String} (untagged : lookup? "kind" entries = none)
    (type : lookup? "type" entries = some (.text word)) : Describes (.mapping entries) entries word

/-- a declaration gives elements, in either form -/
def GivesElem (d elem : Document) : Prop := ∃ keys word, Describes d keys word ∧ lookup? "elem" keys = some elem

/-- a declaration is the value of a path of names in a schema, each level in either form -/
inductive DeclaredAt : Document → List String → Document → Prop where
  | here {s d : Document} {name : String} (value : s.value? (isName name) = some d) : DeclaredAt s [name] d
  | inside {s around elem d : Document} {name : String} {path : List String}
    (value : s.value? (isName name) = some around) (elements : GivesElem around elem)
    (inner : DeclaredAt elem path d) : DeclaredAt s (name :: path) d

/-- the field agrees with itself, and with the word of the declaration that describes its kind -/
structure Agrees (d : Document) (f : Field) : Prop where
  consistent : f.Consistent
  described : ∃ keys word, Describes d keys word ∧ (∀ s : Shape, f.type = .collection s ↔ word = s.name) ∧
    ∀ t, f.type = .primitive t → ∃ given, lookup? "type" keys = some given ∧ namedType? given = some (.primitive t)

/-! ## One declaration -/

variable {entries : List (Scalar × Document)}

/-- what the reader makes of the keys that describe a kind -/
inductive ReadsDescribed : List (Scalar × Document) → String → Kind Schema → Prop where
  | primitive {keys : List (Scalar × Document)} {word : String} {t : PrimitiveType} {given : Document}
    (apart : ∀ s : Shape, word ≠ s.name) (type : lookup? "type" keys = some given)
    (named : namedType? given = some (.primitive t)) : ReadsDescribed keys word (.primitive t)
  | collection {keys : List (Scalar × Document)} {s : Shape} {e : Option Schema} (elements : elem keys = .accepted e) :
    ReadsDescribed keys s.name (.collection s e)

theorem kind_of_fieldWith {kind : Checked (Kind Schema)} {f : { f : Field // f.isOrdered }}
    (h : fieldWith kind entries = .accepted f) :
    ∃ k b, kind = .accepted k ∧ f = Field.ofKind k b ((lookup? "default" entries).getD .null) := by
  obtain ⟨⟨⟨k, b⟩, _⟩, hall, rfl⟩ := Checked.map_eq_accepted_iff.1 h
  obtain ⟨hkind, _⟩ := Checked.and_eq_accepted_iff.1 hall
  exact ⟨k, b, (Checked.and_eq_accepted_iff.1 hkind).1, rfl⟩

theorem namedType?_of_primitiveType {d : Document} {t : PrimitiveType} (h : primitiveType d = .accepted t) :
    namedType? d = some (.primitive t) := by
  unfold primitiveType at h
  split at h
  · rename_i u hu
    cases h
    exact hu
  · cases h
  · cases h

theorem readsDescribed_of_primitiveKind {k : Kind Schema} (h : primitiveKind entries = .accepted k) :
    ReadsDescribed entries "primitive" k := by
  obtain ⟨⟨⟨_, t⟩, _⟩, hall, rfl⟩ := Checked.map_eq_accepted_iff.1 h
  obtain ⟨hboth, _⟩ := Checked.and_eq_accepted_iff.1 hall
  obtain ⟨_, htype⟩ := Checked.and_eq_accepted_iff.1 hboth
  rw [Reading.keyed] at htype
  cases hgiven : lookup? "type" entries with
  | none =>
    rw [hgiven] at htype
    cases htype
  | some given =>
    rw [hgiven] at htype
    have hnamed := namedType?_of_primitiveType (Checked.within_eq_accepted_iff.1 htype)
    exact .primitive (fun s => s.name_ne_primitive.symm) hgiven hnamed

theorem readsDescribed_of_collectionKind {s : Shape} {k : Kind Schema} (h : collectionKind s entries = .accepted k) :
    ReadsDescribed entries s.name k := by
  rw [collectionKind] at h
  obtain ⟨⟨⟨_, e⟩, _⟩, hall, rfl⟩ := Checked.map_eq_accepted_iff.1 h
  obtain ⟨hboth, _⟩ := Checked.and_eq_accepted_iff.1 hall
  exact .collection (Checked.and_eq_accepted_iff.1 hboth).2

theorem exists_tag_of_taggedKind {d : Document} {k : Kind Schema} (h : taggedKind d = .accepted k) :
    ∃ kind word, d = .mapping kind ∧ lookup? "kind" kind = some (.text word) ∧ ReadsDescribed kind word k := by
  cases d with
  | scalar | list | set | pair | again =>
    rw [taggedKind] at h
    · cases h
    · intro _ hd
      cases hd
  | mapping kind =>
    rcases tag_of_accepted h with htag | ⟨s, htag⟩
    · rw [taggedKind_primitive htag, Checked.within_eq_accepted_iff] at h
      exact ⟨kind, _, rfl, htag, readsDescribed_of_primitiveKind h⟩
    · rw [taggedKind_collection htag, Checked.within_eq_accepted_iff] at h
      exact ⟨kind, _, rfl, htag, readsDescribed_of_collectionKind h⟩

theorem namedType?_name (t : FieldType) : namedType? (.text t.name) = some t := FieldType.ofName?_name t

/-- **What is accepted of a declaration is chosen by its word**, whichever form it is written in. -/
theorem exists_described {d : Document} {f : { f : Field // f.isOrdered }} (h : field d = .accepted f) :
    ∃ keys word k b default, Describes d keys word ∧ ReadsDescribed keys word k ∧ f = Field.ofKind k b default := by
  obtain ⟨entries, rfl⟩ := mapping_of_field h
  cases hkind : lookup? "kind" entries with
  | some given =>
    rw [field_tagged hkind] at h
    obtain ⟨k, b, hk, rfl⟩ := kind_of_fieldWith h
    obtain ⟨kind, word, rfl, htag, hreads⟩ := exists_tag_of_taggedKind (Checked.within_eq_accepted_iff.1 hk)
    exact ⟨_, _, _, _, _, .tagged hkind htag, hreads, rfl⟩
  | none =>
    obtain ⟨t, htype, helem⟩ := normalisable_of_accepted hkind h
    cases t with
    | primitive t =>
      have hbare := helem.resolve_left Bool.false_ne_true
      rw [field_primitive hkind htype hbare] at h
      obtain ⟨k, b, hk, rfl⟩ := kind_of_fieldWith h
      cases hk
      have hreads : ReadsDescribed entries t.name (.primitive t) :=
        .primitive t.name_ne htype (namedType?_name (.primitive t))
      exact ⟨_, _, _, _, _, .flat hkind htype, hreads, rfl⟩
    | collection s =>
      rw [field_collection hkind htype] at h
      obtain ⟨k, b, hk, rfl⟩ := kind_of_fieldWith h
      obtain ⟨e, he, rfl⟩ := Checked.map_eq_accepted_iff.1 hk
      rw [Checked.within_eq_accepted_iff, Checked.within_eq_accepted_iff] at he
      exact ⟨_, _, _, _, _, .flat hkind htype, .collection he, rfl⟩

theorem type_ofKind (k : Kind Schema) (b : Bool) (default : Document) : (Field.ofKind k b default).1.type = k.type := by
  cases k with
  | primitive t => rfl
  | collection s e => cases e <;> rfl

/-- A field that is read agrees with the declaration that it is read from. -/
theorem agrees_of_field {d : Document} {f : { f : Field // f.isOrdered }} (h : field d = .accepted f) :
    Agrees d f.1 := by
  obtain ⟨keys, word, k, b, default, hdescribes, hreads, rfl⟩ := exists_described h
  refine ⟨Field.consistent _, keys, word, hdescribes, ?_⟩
  rw [type_ofKind]
  cases hreads with
  | primitive hapart htype hnamed =>
    refine ⟨fun s => ?_, fun u hu => ?_⟩
    · simp [Kind.type, hapart s]
    · cases hu
      exact ⟨_, htype, hnamed⟩
  | collection =>
    refine ⟨fun s => ?_, fun t ht => nomatch ht⟩
    rw [Shape.name_inj, Kind.type, FieldType.collection.injEq]

/-- The elements of a field that is read are read from those that its declaration gives. -/
theorem exists_givesElem {d : Document} {f : { f : Field // f.isOrdered }} (h : field d = .accepted f) {elem : Fields}
    (helem : f.1.nested? = some elem) :
    ∃ given, GivesElem d given ∧ ∃ hordered, schema given = .accepted ⟨elem, hordered⟩ := by
  obtain ⟨keys, word, k, b, default, hdescribes, hreads, rfl⟩ := exists_described h
  cases hreads with
  | primitive => cases helem
  | @collection s e hread =>
    have hread := (elem_eq_accepted_iff (s := s)).1 hread
    generalize hgiven : lookup? "elem" keys = given at hread
    cases hread with
    | bare => cases helem
    | @nested _ given inner hinner =>
      cases helem
      exact ⟨given, ⟨keys, _, hdescribes, hgiven⟩, inner.ordered, hinner⟩

/-! ## Trees -/

/-- A field on the first level is read from the value of its name. -/
theorem exists_value {d : Document} {s : Schema} (h : schema d = .accepted s) {name : String} {f : Field}
    (hmem : (name, f) ∈ s.fields) :
    ∃ given, d.value? (isName name) = some given ∧ ∃ hordered, field given = .accepted ⟨f, hordered⟩ := by
  obtain ⟨entries, rfl, hfields⟩ := mapping_of_schema h
  obtain ⟨m, hm, rfl⟩ := fields_eq_accepted_iff.1 hfields
  have hnamed : Reading.named field (.mapping entries) = .accepted m := hm
  rw [← Entries.lookup?_eq_some_iff (Fields.isOrdered_iff.1 (Schema.ofMap m).ordered).1, Schema.lookup?_ofMap,
    Option.map_eq_some_iff] at hmem
  obtain ⟨read, hget, rfl⟩ := hmem
  obtain ⟨given, hvalue, hread⟩ := Reading.exists_value_of_named hnamed hget
  exact ⟨given, hvalue, read.2, hread⟩

/-- **Every field at any depth is read from the declaration at its path.** -/
theorem exists_declaredAt {fields : Fields} {parents : List (String × String)} {name : String} {f : Field}
    (ha : fields.At parents name f) {d : Document} {hordered : fields.isOrdered}
    (h : schema d = .accepted ⟨fields, hordered⟩) :
    ∃ given, DeclaredAt d (parents.map Prod.fst ++ [name]) given ∧ ∃ hf, field given = .accepted ⟨f, hf⟩ := by
  induction ha generalizing d with
  | here hm =>
    obtain ⟨given, hvalue, hread⟩ := exists_value h hm
    exact ⟨given, .here hvalue, hread⟩
  | inside hm he _ ih =>
    obtain ⟨around, hvalue, haround, hread⟩ := exists_value h hm
    obtain ⟨elem, helem, hinner, hschema⟩ := exists_givesElem hread he
    obtain ⟨given, hat, hfield⟩ := ih hschema
    exact ⟨given, .inside hvalue helem hat, hfield⟩

end Declaration

/-! ## The labels of a walk -/

/-- a visitor that leaves the ancestors of a violation to the walk -/
def Visitor.GivesNoParents {σ : Type} (visit : Visitor σ) : Prop :=
  ∀ name field state violation, ((visit name field).run state).1 = some violation → violation.parents = []

/-- What a walk reports has the ancestors of one of its stops. -/
theorem Schema.exists_stop_of_walk {σ : Type} {s : Schema} {visit : Visitor σ} (hvisit : visit.GivesNoParents)
    {start : σ} {violation : Violation} (h : ((s.walk visit).run start).1 = some violation) :
    ∃ name field, s.fields.At violation.parents name field := by
  obtain ⟨calls, rest, result, hstops, hends, hrun, _⟩ := visit.search_calls_prefix s.visits start
  rw [Schema.walk_eq_search, hrun] at h
  cases h
  rcases hends with ⟨_, _, hnone⟩ | ⟨before, stop, found, hcalls, _, hanswer, hresult⟩
  · cases hnone
  · cases hresult
    have hstop : stop ∈ s.visits := by
      rw [hstops, hcalls]
      simp
    have hparents : found.parents = [] := hvisit _ _ _ _ hanswer
    refine ⟨stop.name, stop.field, ?_⟩
    rw [hparents, List.append_nil]
    exact Fields.mem_visits.1 hstop

namespace Declaration

/-- a tree agrees with the document that it is read from, and so do the labels in what any walk through it reports -/
structure AgreesThroughout (d : Document) (s : Schema) : Prop where
  fields : ∀ path name f, s.Leads path name f → ∃ given, DeclaredAt d (path ++ [name]) given ∧ Agrees given f
  labels : ∀ {σ : Type} (visit : Visitor σ), visit.GivesNoParents → ∀ start violation,
    ((s.walk visit).run start).1 = some violation → ∀ before outer after, violation.parents = before ++ outer :: after →
      ∃ around, s.Leads (before.map Prod.fst) outer.1 around ∧ outer.2 = around.type.label ∧
        (outer.2 = "List" ∨ outer.2 = "Set")

theorem agreesThroughout_of_schema {d : Document} {s : Schema} (h : schema d = .accepted s) : AgreesThroughout d s := by
  constructor
  case fields =>
    intro path name f hl
    obtain ⟨parents, rfl, ha⟩ := Schema.leads_iff.1 hl
    obtain ⟨given, hat, _, hread⟩ := exists_declaredAt ha h
    exact ⟨given, hat, agrees_of_field hread⟩
  case labels =>
    intro σ visit hvisit start violation hwalk before outer after hsplit
    obtain ⟨name, field, ha⟩ := Schema.exists_stop_of_walk hvisit hwalk
    obtain ⟨around, haround, hlabel, hshape⟩ := ha.enclosing hsplit
    exact ⟨around, Schema.leads_iff.2 ⟨before, rfl, haround⟩, hlabel, hshape⟩

end Declaration

/-! ## Catalogs -/

namespace Catalog

/-- an entry is declared by the value of its name in the value of its partition -/
inductive EntryAt : Document → Partition → String → Document → Prop where
  | mk {entries : List (Scalar × Document)} {partition d : Document} {p : Partition} {name : String}
    (under : lookup? p.name entries = some partition) (value : partition.value? (isName name) = some d) :
    EntryAt (.mapping entries) p name d

theorem keyed_of_read {entries : List (Scalar × Document)} {c : Catalog}
    (h : Catalog.read (.mapping entries) = .accepted c) (p : Partition) :
    Reading.keyed p.name (.accepted .empty) (Reading.named Declaration.schema) entries = .accepted (c.get p) := by
  obtain ⟨⟨⟨sources, resources⟩, _⟩, hall, rfl⟩ := Checked.map_eq_accepted_iff.1 h
  obtain ⟨hpartitions, _⟩ := Checked.and_eq_accepted_iff.1 hall
  obtain ⟨hsources, hresources⟩ := Checked.and_eq_accepted_iff.1 hpartitions
  cases p
  · exact hsources
  · exact hresources

/-- Every entry is read from its own declaration. -/
theorem exists_entryAt {d : Document} {c : Catalog} (h : Catalog.read d = .accepted c) {p : Partition}
    {e : String × Schema} (he : e ∈ c.entries p) :
    ∃ given, EntryAt d p e.1 given ∧ Declaration.schema given = .accepted e.2 := by
  obtain ⟨name, s⟩ := e
  cases d with
  | scalar | list | set | pair | again => cases h
  | mapping entries =>
    have hkeyed := keyed_of_read h p
    have hget : (c.get p).get? name = some s := (Entries.lookup?_eq_some_iff (c.get p).ordered).2 he
    rw [Reading.keyed] at hkeyed
    cases hpartition : lookup? p.name entries with
    | none =>
      rw [hpartition] at hkeyed
      rw [← Checked.accepted.inj hkeyed] at hget
      cases hget
    | some partition =>
      rw [hpartition] at hkeyed
      obtain ⟨given, hvalue, hread⟩ := Reading.exists_value_of_named (Checked.within_eq_accepted_iff.1 hkeyed) hget
      exact ⟨given, .mk hpartition hvalue, hread⟩

end Catalog

open Declaration (Agrees AgreesThroughout Describes DeclaredAt GivesElem schema field)

/-- Each declaration is described in one way. -/
theorem Declaration.Describes.unique {d : Document} {keys others : List (Scalar × Document)} {word other : String}
    (h : Describes d keys word) (ho : Describes d others other) : keys = others ∧ word = other := by
  cases h with
  | tagged hunder htag =>
    cases ho with
    | tagged hunder' htag' =>
      cases hunder.symm.trans hunder'
      cases htag.symm.trans htag'
      exact ⟨rfl, rfl⟩
    | flat huntagged => cases hunder.symm.trans huntagged
  | flat huntagged htype =>
    cases ho with
    | tagged hunder => cases hunder.symm.trans huntagged
    | flat _ htype' =>
      cases htype.symm.trans htype'
      exact ⟨rfl, rfl⟩

/-- A declaration of a primitive that names the type of a collection is rejected. -/
theorem Declaration.rejects_primitive_collection {d given : Document} {keys : List (Scalar × Document)} {s : Shape}
    (hdescribes : Describes d keys "primitive") (htype : lookup? "type" keys = some given)
    (hnamed : namedType? given = some (.collection s)) (f : { f : Field // f.isOrdered }) : field d ≠ .accepted f := by
  intro h
  obtain ⟨_, others, word, hother, hshape, hprimitive⟩ := agrees_of_field h
  obtain ⟨rfl, rfl⟩ := hdescribes.unique hother
  cases ht : f.1.type with
  | primitive t =>
    obtain ⟨again, hagain, hname⟩ := hprimitive t ht
    cases htype.symm.trans hagain
    cases hnamed.symm.trans hname
  | collection shape =>
    exact absurd ((hshape shape).1 ht).symm shape.name_ne_primitive

/-- **Kind and type agree throughout every tree that is read.** In a field, a schema or a catalog, every field at any
depth comes from the declaration at its path, in either form at each level: what the field says of its kind agrees, it
is a list or a set exactly if that is the word of its declaration, and a primitive has the primitive type that is named
there. A primitive that names the type of a collection is rejected. So in what any walk reports for a visitor that gives
no ancestors, the label of every ancestor is that of the field at its path, and it is that of a list or a set. -/
theorem kind_and_type_agree :
    (∀ d f, field d = .accepted f → Agrees d f.1 ∧
      ∀ elem : Schema, f.1.nested? = some elem.fields → ∃ given, GivesElem d given ∧ AgreesThroughout given elem) ∧
    (∀ d s, schema d = .accepted s → AgreesThroughout d s) ∧
    (∀ d c, Catalog.read d = .accepted c → ∀ p, ∀ e ∈ c.entries p,
      ∃ given, Catalog.EntryAt d p e.1 given ∧ AgreesThroughout given e.2) ∧
    ∀ d keys given s, Describes d keys "primitive" → lookup? "type" keys = some given →
      Declaration.namedType? given = some (.collection s) → ∀ f, field d ≠ .accepted f := by
  refine ⟨?fields, ?schemas, ?catalogs, ?rejected⟩
  case fields =>
    intro d f h
    refine ⟨Declaration.agrees_of_field h, fun elem helem => ?_⟩
    obtain ⟨given, hgives, _, hread⟩ := Declaration.exists_givesElem h helem
    exact ⟨given, hgives, Declaration.agreesThroughout_of_schema hread⟩
  case schemas =>
    intro d s h
    exact Declaration.agreesThroughout_of_schema h
  case catalogs =>
    intro d c h p e he
    obtain ⟨given, hat, hread⟩ := Catalog.exists_entryAt h he
    exact ⟨given, hat, Declaration.agreesThroughout_of_schema hread⟩
  case rejected =>
    intro d keys given s hdescribes htype hnamed
    exact Declaration.rejects_primitive_collection hdescribes htype hnamed

/-- a tagged list of flat sets of tagged texts -/
def cabinet : Document :=
  .mapping [(.text "drawers", .mapping [(.text "kind", .mapping [(.text "kind", .text "list"), (.text "elem", .mapping [
    (.text "labels", .mapping [(.text "type", .text "set"), (.text "elem", .mapping [
      (.text "ink", .mapping [(.text "kind", .mapping [(.text "kind", .text "primitive"),
        (.text "type", .text "string")])])])])])])])]

/-- reports the third field that it sees -/
def thirdSeen : Visitor Nat := fun name _ seen =>
  (if seen = 2 then some ⟨.plain, name, "is the third", []⟩ else none, seen + 1)

/-- The report on the ink is labelled as the fields around it are declared. -/
theorem cabinet_labels_agree : ∃ s violation, schema cabinet = .accepted s ∧
    ((s.walk thirdSeen).run 0).1 = some violation ∧
    violation.parents = [("drawers", "List"), ("labels", "Set")] ∧
    ∃ labels given, s.Leads ["drawers"] "labels" labels ∧ labels.type.label = "Set" ∧
      DeclaredAt cabinet ["drawers", "labels"] given ∧ Agrees given labels := by
  have hread : schema cabinet = .accepted ⟨[("drawers", ⟨.collection .list (some [("labels", ⟨.collection .set (some
      [("ink", ⟨.primitive .string, false, .null⟩)]), false, .null⟩)]), false, .null⟩)], rfl⟩ := by
    cbv
  obtain ⟨hfields, hlabels⟩ := kind_and_type_agree.2.1 _ _ hread
  have hvisit : thirdSeen.GivesNoParents := by
    intro name field seen violation h
    by_cases hseen : seen = 2
    · cases (if_pos hseen).symm.trans h
      rfl
    · cases (if_neg hseen).symm.trans h
  obtain ⟨labels, hleads, hlabel, _⟩ := hlabels thirdSeen hvisit 0 _ rfl [("drawers", "List")] ("labels", "Set") [] rfl
  obtain ⟨given, hat, hagrees⟩ := hfields _ _ _ hleads
  exact ⟨_, _, hread, rfl, rfl, labels, given, hleads, hlabel.symm, hat, hagrees⟩

end CatalogLint
