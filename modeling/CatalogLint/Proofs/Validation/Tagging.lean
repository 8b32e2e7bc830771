/-
Flat and tagged declarations say the same. `Declaration.tagSchema` rewrites a document that stands for a schema: flat
declarations of fields that can be normalised become tagged ones, at any depth, also below fields that are tagged
already. Everything else stays as it is, however malformed. A choice of places says which declarations are rewritten,
so the same function rewrites all of them, some of them or none.

- `Declaration.field_tagField`: the step, for one declaration whose elements are read alike before and after.
- `Declaration.schema_tagSchema`: from it, by induction on the size of the document, the same for schemas.

What is read is the same value, or the same issues with the same places, causes and order.
-/
import CatalogLint.Proofs.Validation.Forms

namespace CatalogLint

/-! ## Another value under a name -/

namespace Document

/-- gives a name another value, where it has one -/
def replace (name : String) (value : Document) (entries : List (Scalar × Document)) : List (Scalar × Document) :=
  entries.map fun e => (e.1, if e.1 = .text name then value else e.2)

theorem keys_replace (name : String) (value : Document) (entries : List (Scalar × Document)) :
    (replace name value entries).map Prod.fst = entries.map Prod.fst := by
  rw [replace, List.map_map]
  rfl

theorem lookup?_replace (name other : String) (value : Document) (entries : List (Scalar × Document)) :
    lookup? other (replace name value entries) =
      if other = name then (lookup? name entries).map fun _ => value else lookup? other entries := by
  rw [replace, lookup?_map fun key d => if key = .text name then value else d]
  by_cases h : other = name
  · rw [h]
    simp only [if_true]
  · have hkey : Scalar.text other ≠ .text name := fun he => h (Scalar.text.inj he)
    simp only [hkey, if_false, h, Option.map_id']

end Document

namespace Declaration

/-! ## The rewriting -/

/-- a flat declaration rewritten with the given kind -/
def tagWith (kind : List (Scalar × Document)) (entries : List (Scalar × Document)) : Document :=
  .mapping ((.text "kind", .mapping kind) :: beside entries)

mutual
/-- a schema in which the chosen flat declarations are tagged; `place` holds the names on the way to it -/
def tagSchema (chosen : List Scalar → Bool) (place : List Scalar) (d : Document) : Document :=
  match d with
  | .mapping entries => .mapping (tagFields chosen place entries)
  | d => d
  termination_by (sizeOf d, 0)
  decreasing_by simp_wf; omega

def tagFields (chosen : List Scalar → Bool) (place : List Scalar) (entries : List (Scalar × Document)) :
    List (Scalar × Document) :=
  match entries with
  | [] => []
  | (key, d) :: rest => (key, tagField chosen (place ++ [key]) d) :: tagFields chosen place rest
  termination_by (sizeOf entries, 0)
  decreasing_by all_goals simp_wf; omega

/-- a declaration that is tagged if it is flat, can be normalised and is chosen; its elements are rewritten anyhow -/
def tagField (chosen : List Scalar → Bool) (place : List Scalar) (d : Document) : Document :=
  match d with
  | .mapping entries =>
    match _h : Document.lookup? "kind" entries with
    | some kind => .mapping (Document.replace "kind" (tagKind chosen place kind) entries)
    | none =>
      match (Document.lookup? "type" entries).bind fieldType? with
      | none => .mapping entries
      | some (.primitive t) =>
        if chosen place && ((Document.lookup? "elem" entries).getD .null).isNull then
          tagWith [(.text "kind", .text "primitive"), (.text "type", .text t.name)] entries
        else .mapping entries
      | some (.collection s) =>
        if chosen place then
          tagWith [(.text "kind", .text s.name), (.text "elem", tagElem chosen place entries)] entries
        else .mapping (Document.replace "elem" (tagElem chosen place entries) entries)
  | d => d
  termination_by (sizeOf d, 0)
  decreasing_by
    · have := Document.sizeOf_lookup_lt _h; simp_wf; omega
    · simp_wf; omega
    · simp_wf; omega

/-- a tagged kind with its elements rewritten, where it is a list or a set -/
def tagKind (chosen : List Scalar → Bool) (place : List Scalar) (d : Document) : Document :=
  match d with
  | .mapping entries =>
    match (Document.lookup? "kind" entries).bind fieldType? with
    | some (.collection _) => .mapping (Document.replace "elem" (tagElem chosen place entries) entries)
    | _ => .mapping entries
  | d => d
  termination_by (sizeOf d, 0)
  decreasing_by simp_wf; omega

/-- the elements that are declared, rewritten; no value where there are none -/
def tagElem (chosen : List Scalar → Bool) (place : List Scalar) (entries : List (Scalar × Document)) : Document :=
  match _h : Document.lookup? "elem" entries with
  | none => .null
  | some d => tagSchema chosen place d
  termination_by (sizeOf entries, 0)
  decreasing_by have := Document.sizeOf_lookup_lt _h; omega
end

/-- the entries of a partition with their schemas rewritten -/
def tagEntries (chosen : List Scalar → Bool) (place : List Scalar) : Document → Document
  | .mapping entries => .mapping (entries.map fun e => (e.1, tagSchema chosen (place ++ [e.1]) e.2))
  | d => d

/-- a catalog with the schemas of both partitions rewritten -/
def tagCatalog (chosen : List Scalar → Bool) : Document → Document
  | .mapping entries => .mapping (entries.map fun e =>
      (e.1, if e.1 = .text "data_sources" ∨ e.1 = .text "resources" then tagEntries chosen [e.1] e.2 else e.2))
  | d => d

/-! ## Elements -/

variable {chosen : List Scalar → Bool} {place : List Scalar} {entries : List (Scalar × Document)}

theorem tagSchema_of_not_mapping {d : Document} (h : ∀ entries, d ≠ .mapping entries) :
    tagSchema chosen place d = d := by
  cases d with
  | mapping entries => exact absurd rfl (h entries)
  | scalar | list | set | pair | again => rw [tagSchema]; intro _ h; cases h

theorem isNull_tagSchema (d : Document) : (tagSchema chosen place d).isNull = d.isNull := by
  cases d with
  | mapping entries => rw [tagSchema]; rfl
  | scalar | list | set | pair | again => rw [tagSchema_of_not_mapping (by intro _ h; cases h)]

theorem tagElem_eq : tagElem chosen place entries =
    ((Document.lookup? "elem" entries).map (tagSchema chosen place)).getD .null := by
  rw [tagElem]
  split <;> rename_i h <;> rw [h] <;> rfl

/-- Rewritten elements are read as the elements were, wherever they stand. -/
theorem elem_of_lookup? {others : List (Scalar × Document)}
    (ih : ∀ d, Document.lookup? "elem" entries = some d → schema (tagSchema chosen place d) = schema d)
    (h : Document.lookup? "elem" others = some (tagElem chosen place entries)) : elem others = elem entries := by
  rw [elem_eq, elem_eq, h, tagElem_eq]
  cases helem : Document.lookup? "elem" entries with
  | none => rfl
  | some d => simp only [Option.map_some, Option.getD_some, isNull_tagSchema, ih d helem]

theorem elem_replace (ih : ∀ d, Document.lookup? "elem" entries = some d → schema (tagSchema chosen place d) = schema d) :
    elem (Document.replace "elem" (tagElem chosen place entries) entries) = elem entries := by
  have hlookup := Document.lookup?_replace "elem" "elem" (tagElem chosen place entries) entries
  cases helem : Document.lookup? "elem" entries with
  | none =>
    rw [helem] at hlookup
    rw [elem_eq, elem_eq, hlookup, helem]
    rfl
  | some d =>
    rw [helem] at hlookup
    exact elem_of_lookup? ih hlookup

/-! ## One declaration -/

theorem collectionKind_of_no_stray {s : Shape} (htag : Document.lookup? "kind" entries = some (.text s.name))
    (hstray : Reading.strayKeys ["kind", "elem"] entries = []) :
    collectionKind s entries = (elem entries).map (.collection s) := by
  rw [collectionKind, tag_of_lookup? htag, hstray]
  cases elem entries with
  | accepted e => rfl
  | rejected first others => simp [Checked.and, Checked.ofIssues, Checked.map, Checked.issues]

theorem keys_beside_congr {others : List (Scalar × Document)} (h : entries.map Prod.fst = others.map Prod.fst) :
    (beside entries).map Prod.fst = (beside others).map Prod.fst := by
  rw [keys_beside, keys_beside, h]

theorem taggedKind_tagKind {d : Document}
    (ih : ∀ entries e, d = .mapping entries → Document.lookup? "elem" entries = some e →
      schema (tagSchema chosen place e) = schema e) :
    taggedKind (tagKind chosen place d) = taggedKind d := by
  cases d with
  | scalar | list | set | pair | again => rw [tagKind]; intro _ h; cases h
  | mapping entries =>
    rw [tagKind]
    split
    · rename_i s htype
      obtain ⟨given, hgiven, hs⟩ := Option.bind_eq_some_iff.1 htype
      have htag : Document.lookup? "kind" entries = some (.text s.name) := by
        rw [hgiven, fieldType?_eq_some_iff.1 hs]
        rfl
      have hkind : Document.lookup? "kind" (Document.replace "elem" (tagElem chosen place entries) entries) =
          some (.text s.name) := by
        rw [Document.lookup?_replace]
        exact htag
      have hstray : Reading.strayKeys ["kind", "elem"] (Document.replace "elem" (tagElem chosen place entries) entries) =
          Reading.strayKeys ["kind", "elem"] entries := Reading.strayKeys_congr (Document.keys_replace _ _ _)
      rw [taggedKind_collection hkind, taggedKind_collection htag, collectionKind, collectionKind,
        tag_of_lookup? hkind, tag_of_lookup? htag, elem_replace fun e he => ih entries e rfl he, hstray]
    · rfl

/-- A rewritten declaration has the key for its kind and those beside it, like the flat one. -/
theorem fieldWith_tagWith (kind : Checked (Kind Schema)) (given : Document) :
    fieldWith kind ((.text "kind", given) :: beside entries) = fieldWith kind (withKind entries) := by
  rw [withKind_eq]
  exact fieldWith_congr rfl rfl rfl

theorem field_replace_kind {kind other : Document} (hkind : Document.lookup? "kind" entries = some kind)
    (h : taggedKind other = taggedKind kind) :
    field (.mapping (Document.replace "kind" other entries)) = field (.mapping entries) := by
  have hother : Document.lookup? "kind" (Document.replace "kind" other entries) = some other := by
    rw [Document.lookup?_replace, hkind]
    rfl
  rw [field_tagged hother, field_tagged hkind, h]
  refine fieldWith_congr (Document.keys_replace _ _ _) ?_ ?_
  · exact Document.lookup?_replace _ _ _ _
  · exact Document.lookup?_replace _ _ _ _

theorem field_tagWith_primitive {t : PrimitiveType} (hflat : Document.lookup? "kind" entries = none)
    (htype : Document.lookup? "type" entries = some (.text t.name))
    (helem : Document.lookup? "elem" entries = none ∨ Document.lookup? "elem" entries = some .null) :
    field (tagWith [(.text "kind", .text "primitive"), (.text "type", .text t.name)] entries) =
      field (.mapping entries) := by
  have hkind : primitiveKind [(.text "kind", .text "primitive"), (.text "type", .text t.name)] =
      .accepted (.primitive t) := by
    cases t <;> rfl
  rw [field_primitive hflat htype helem, tagWith, field_tagged rfl, taggedKind_primitive rfl, hkind]
  exact fieldWith_tagWith _ _

theorem field_tagWith_collection {s : Shape} {given : Document} (hflat : Document.lookup? "kind" entries = none)
    (htype : Document.lookup? "type" entries = some (.text s.name))
    (helem : elem [(.text "kind", .text s.name), (.text "elem", given)] = elem entries) :
    field (tagWith [(.text "kind", .text s.name), (.text "elem", given)] entries) = field (.mapping entries) := by
  have hkind : taggedKind (.mapping [(.text "kind", .text s.name), (.text "elem", given)]) =
      ((elem entries).map (.collection s)).within (.key s.name) := by
    rw [taggedKind_collection rfl, collectionKind_of_no_stray rfl rfl, helem]
  rw [field_collection hflat htype, tagWith, field_tagged rfl, hkind, fieldWith_tagWith]
  cases elem entries <;> rfl

theorem field_replace_elem {s : Shape} {given : Document} (hflat : Document.lookup? "kind" entries = none)
    (htype : Document.lookup? "type" entries = some (.text s.name))
    (helem : elem (Document.replace "elem" given entries) = elem entries) :
    field (.mapping (Document.replace "elem" given entries)) = field (.mapping entries) := by
  have hother : ∀ name, name ≠ "elem" →
      Document.lookup? name (Document.replace "elem" given entries) = Document.lookup? name entries := by
    intro name hname
    rw [Document.lookup?_replace, if_neg hname]
  have hbeside : ∀ name, name ≠ "type" → name ≠ "elem" →
      Document.lookup? name (beside (Document.replace "elem" given entries)) =
        Document.lookup? name (beside entries) := by
    intro name htype' helem'
    rw [lookup?_beside htype' helem', lookup?_beside htype' helem', hother name helem']
  have hkeys := keys_beside_congr (Document.keys_replace "elem" given entries)
  rw [field_collection ((hother "kind" (by decide)).trans hflat) ((hother "type" (by decide)).trans htype),
    field_collection hflat htype, helem, withKind_eq, withKind_eq]
  refine fieldWith_congr (congrArg (Scalar.text "kind" :: ·) hkeys) ?_ ?_
  · exact hbeside "sensitive" (by decide) (by decide)
  · exact hbeside "default" (by decide) (by decide)

/-- **A declaration is read alike before and after**, if the elements that it declares are. -/
theorem field_tagField {d : Document}
    (ih : ∀ e, sizeOf e < sizeOf d → schema (tagSchema chosen place e) = schema e) :
    field (tagField chosen place d) = field d := by
  cases d with
  | scalar | list | set | pair | again => rw [tagField]; intro _ h; cases h
  | mapping entries =>
    rw [Document.mapping.sizeOf_spec] at ih
    have helem : ∀ e, Document.lookup? "elem" entries = some e → schema (tagSchema chosen place e) = schema e := by
      intro e he
      have := Document.sizeOf_lookup_lt he
      exact ih e (by omega)
    rw [tagField]
    split
    case h_1 kind hkind =>
      refine field_replace_kind hkind (taggedKind_tagKind fun inner e hmapping he => ih e ?_)
      have hkindSize := Document.sizeOf_lookup_lt hkind
      have helemSize := Document.sizeOf_lookup_lt he
      rw [hmapping, Document.mapping.sizeOf_spec] at hkindSize
      omega
    case h_2 hflat =>
      -- the type that is named, if any, decides which of the equations applies
      have hnamed : ∀ t, (Document.lookup? "type" entries).bind fieldType? = some t →
          Document.lookup? "type" entries = some (.text t.name) := by
        intro t htype
        obtain ⟨given, hgiven, ht⟩ := Option.bind_eq_some_iff.1 htype
        rw [hgiven, fieldType?_eq_some_iff.1 ht]
      split
      · rfl
      case h_2 t htype =>
        split
        · rename_i hchosen
          have hnull := (Bool.and_eq_true_iff.1 hchosen).2
          exact field_tagWith_primitive hflat (hnamed _ htype) (Document.isNull_getD_iff.1 hnull)
        · rfl
      case h_3 s htype =>
        split
        · exact field_tagWith_collection hflat (hnamed _ htype) (elem_of_lookup? helem rfl)
        · exact field_replace_elem hflat (hnamed _ htype) (elem_replace helem)

/-! ## Whole documents -/

theorem fields_tagFields (h : ∀ e ∈ entries, ∀ place, field (tagField chosen place e.2) = field e.2) :
    fields (tagFields chosen place entries) = fields entries := by
  induction entries with
  | nil => rw [tagFields]
  | cons entry rest ih =>
    obtain ⟨key, d⟩ := entry
    have hrest := ih fun e he => h e (List.mem_cons_of_mem _ he)
    have hfirst := h (key, d) List.mem_cons_self (place ++ [key])
    rw [tagFields, fields, fields, hrest, hfirst]

/-- **A schema is read alike before and after**: the same fields, or the same issues at the same places. -/
theorem schema_tagSchema (d : Document) (place : List Scalar) :
    schema (tagSchema chosen place d) = schema d := by
  cases d with
  | scalar | list | set | pair | again => rw [tagSchema]; intro _ h; cases h
  | mapping entries =>
    rw [tagSchema, schema, schema]
    refine fields_tagFields fun e he place => field_tagField fun inner hinner => ?_
    have hentry := List.sizeOf_lt_of_mem he
    exact schema_tagSchema inner place
  termination_by sizeOf d
  decreasing_by
    obtain ⟨key, value⟩ := e
    simp only [Prod.mk.sizeOf_spec, Document.mapping.sizeOf_spec] at hentry hinner ⊢
    omega

theorem named_tagEntries (place : List Scalar) (d : Document) :
    Reading.named schema (tagEntries chosen place d) = Reading.named schema d := by
  have hentries : ∀ entries : List (Scalar × Document),
      Reading.namedEntries schema (entries.map fun e => (e.1, tagSchema chosen (place ++ [e.1]) e.2)) =
        Reading.namedEntries schema entries := by
    intro entries
    induction entries with
    | nil => rfl
    | cons entry rest ih =>
      rw [List.map_cons, Reading.namedEntries, Reading.namedEntries, ih, schema_tagSchema]
  cases d with
  | scalar | list | set | pair | again => rfl
  | mapping entries => exact hentries entries

theorem read_tagCatalog (d : Document) : Catalog.read (tagCatalog chosen d) = Catalog.read d := by
  cases d with
  | scalar | list | set | pair | again => rfl
  | mapping entries =>
    have hpartition : ∀ p : Partition, Reading.keyed p.name (.accepted .empty) (Reading.named schema)
        (entries.map fun e => (e.1, if e.1 = .text "data_sources" ∨ e.1 = .text "resources" then
          tagEntries chosen [e.1] e.2 else e.2)) =
        Reading.keyed p.name (.accepted .empty) (Reading.named schema) entries := by
      intro p
      have hp : Scalar.text p.name = .text "data_sources" ∨ Scalar.text p.name = .text "resources" := by
        cases p
        · exact Or.inl rfl
        · exact Or.inr rfl
      rw [Reading.keyed, Reading.keyed, Document.lookup?_map fun key d =>
        if key = .text "data_sources" ∨ key = .text "resources" then tagEntries chosen [key] d else d]
      cases Document.lookup? p.name entries with
      | none => rfl
      | some d => simp only [Option.map_some, hp, if_true, named_tagEntries]
    have hkeys : (entries.map fun e => (e.1, if e.1 = .text "data_sources" ∨ e.1 = .text "resources" then
        tagEntries chosen [e.1] e.2 else e.2)).map Prod.fst = entries.map Prod.fst := by
      rw [List.map_map]
      rfl
    have hsources := hpartition .dataSources
    have hresources := hpartition .resources
    simp only [Partition.name] at hsources hresources
    rw [tagCatalog, Catalog.read, Catalog.read, hsources, hresources, Reading.strayKeys_congr hkeys]

/-- **Flat and tagged declarations are interchangeable.** Whichever of the flat declarations are rewritten as tagged ones,
at whatever depth, a schema and a catalog are read with the same outcome: the same tree, or the same issues, each with its
place, its code and its message. This holds of documents that are well-formed and of all others. -/
theorem reading_ignores_tagging (chosen : List Scalar → Bool) :
    (∀ d place, schema (tagSchema chosen place d) = schema d) ∧
      ∀ d, Catalog.read (tagCatalog chosen d) = Catalog.read d :=
  ⟨schema_tagSchema, read_tagCatalog⟩

/-- a flat set of flat switches, all tagged -/
example : tagSchema (fun _ => true) [] (.mapping [(.text "gates", .mapping [(.text "type", .text "set"),
      (.text "elem", .mapping [(.text "on", .mapping [(.text "type", .text "bool")])]), (.text "note", .int 1)])]) =
    .mapping [(.text "gates", .mapping [(.text "kind", .mapping [(.text "kind", .text "set"), (.text "elem", .mapping
      [(.text "on", .mapping [(.text "kind", .mapping [(.text "kind", .text "primitive"), (.text "type", .text "bool")])])])]),
      (.text "note", .int 1)])] := by
  cbv

end Declaration

end CatalogLint
