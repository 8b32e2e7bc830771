/-
Declarations: reading fields and schemas from documents.

A field is declared in one of two ways. The tagged way has a key for the kind, whose value is a mapping with the tag of
the kind and what belongs to it. The flat way names a type instead, and beside it the elements of a collection; a flat
declaration without a proper type, or with elements of a primitive type, is one issue and nothing else about it is
read. Both ways read elements through `elem`, and the issues of a flat declaration stand at the places of the tagged
one. All other issues of a declaration are collected.
-/
import CatalogLint.Schema.Basic
import CatalogLint.Validation.Reading

namespace CatalogLint

/-- a kind together with what stands beside it, as a field; the fields of elements are in order already -/
def Field.ofKind (kind : Kind Schema) (sensitive : Bool) (default : Document) : { f : Field // f.isOrdered } :=
  match kind with
  | .primitive t => ⟨⟨.primitive t, sensitive, default⟩, rfl⟩
  | .collection s none => ⟨⟨.collection s none, sensitive, default⟩, rfl⟩
  | .collection s (some elem) => ⟨⟨.collection s (some elem.fields), sensitive, default⟩, elem.ordered⟩

/-- a schema with one more field, unless it has one of that name -/
def Schema.putNew (s : Schema) (name : String) (field : { f : Field // f.isOrdered }) : Schema :=
  if s.contains name then s
  else ⟨Entries.put name field.1 s.fields, Fields.isOrdered_put field.2 s.ordered⟩

namespace Declaration

/-- a field type by its exact name -/
def fieldType? : Document → Option FieldType
  | .scalar (.text s) => FieldType.ofName? s
  | _ => none

/-- a field type by its name, which bytes may encode -/
def namedType? : Document → Option FieldType
  | .scalar s => (Reading.text? s).bind FieldType.ofName?
  | _ => none

/-- the type of a tagged primitive -/
def primitiveType (d : Document) : Checked PrimitiveType :=
  match namedType? d with
  | some (.primitive t) => .accepted t
  | some (.collection s) => .reject (.primitiveCollection s)
  | none => .reject .unknownType

/-- the tag of a kind, which may be left out where the kind is known -/
def tag (expected : String) (entries : List (Scalar × Document)) : Checked Unit :=
  Reading.keyed "kind" (.accepted ())
    (fun d => match d with
      | .scalar (.text s) => if s = expected then .accepted () else .reject (.wrongTag expected)
      | _ => .reject (.wrongTag expected)) entries

/-- the keys of a tagged primitive -/
def primitiveKind (entries : List (Scalar × Document)) : Checked (Kind Schema) :=
  (((tag "primitive" entries).and
    (Reading.keyed "type" ((Checked.reject .missing).within (.key "type")) primitiveType entries)).and
    (.ofIssues (Reading.strayKeys ["kind", "type"] entries))).map fun ((_, t), _) => .primitive t

/-- a field from its kind and the keys that stand beside the kind -/
def fieldWith (kind : Checked (Kind Schema)) (entries : List (Scalar × Document)) :
    Checked { f : Field // f.isOrdered } :=
  ((kind.and (Reading.keyed "sensitive" (.accepted false) Reading.truth entries)).and
    (.ofIssues (Reading.strayKeys ["kind", "sensitive", "default"] entries))).map
    fun ((kind, sensitive), _) => Field.ofKind kind sensitive ((Document.lookup? "default" entries).getD .null)

/-- the keys of a flat declaration with one for the kind in place of those that describe it -/
def withKind (entries : List (Scalar × Document)) : List (Scalar × Document) :=
  (.text "kind", .null) :: entries.filter fun (key, _) => key ≠ .text "type" && key ≠ .text "elem"

mutual
/-- a field declared in either way -/
def field (d : Document) : Checked { f : Field // f.isOrdered } :=
  match d with
  | .mapping entries =>
    match _h : Document.lookup? "kind" entries with
    | some kind => fieldWith ((taggedKind kind).within (.key "kind")) entries
    | none =>
      match Document.lookup? "type" entries with
      | none => .reject .typeMissing
      | some given =>
        match fieldType? given with
        | none => .reject (.notAFieldType given)
        | some (.primitive t) =>
          if ((Document.lookup? "elem" entries).getD .null).isNull then
            fieldWith (.accepted (.primitive t)) (withKind entries)
          else .reject (.elemOfPrimitive t)
        | some (.collection s) =>
          fieldWith ((((elem entries).within (.key s.name)).within (.key "kind")).map (.collection s)) (withKind entries)
  | _ => .reject (.notAForm .field)
  termination_by (sizeOf d, 0)
  decreasing_by
    · have := Document.sizeOf_lookup_lt _h; simp_wf; omega
    · simp_wf; omega

/-- the kind of a field declared with a tag -/
def taggedKind (d : Document) : Checked (Kind Schema) :=
  match d with
  | .mapping entries =>
    match Document.lookup? "kind" entries with
    | none => .reject .tagMissing
    | some (.scalar (.text "primitive")) => (primitiveKind entries).within (.key "primitive")
    | some (.scalar (.text "list")) => (collectionKind .list entries).within (.key "list")
    | some (.scalar (.text "set")) => (collectionKind .set entries).within (.key "set")
    | some given => .reject (.unknownTag given)
  | _ => .reject .notAKind
  termination_by (sizeOf d, 0)
  decreasing_by all_goals simp_wf; omega

/-- the keys of a tagged collection -/
def collectionKind (shape : Shape) (entries : List (Scalar × Document)) : Checked (Kind Schema) :=
  (((tag shape.name entries).and (elem entries)).and
    (.ofIssues (Reading.strayKeys ["kind", "elem"] entries))).map fun ((_, elem), _) => .collection shape elem
  termination_by (sizeOf entries, 1)
  decreasing_by omega

/-- the elements that a collection declares; none when the key is absent or has no value -/
def elem (entries : List (Scalar × Document)) : Checked (Option Schema) :=
  match _h : Document.lookup? "elem" entries with
  | none => .accepted none
  | some d => if d.isNull then .accepted none else ((schema d).within (.key "elem")).map some
  termination_by (sizeOf entries, 0)
  decreasing_by have := Document.sizeOf_lookup_lt _h; omega

/-- a mapping from field names to declarations, which may not be inside itself -/
def schema (d : Document) : Checked Schema :=
  match d with
  | .mapping entries => fields entries
  | .again _ => .reject .endless
  | _ => .reject .notAMapping
  termination_by (sizeOf d, 0)
  decreasing_by simp_wf; omega

/-- the declarations of a schema in turn; the last one of a name counts -/
def fields (entries : List (Scalar × Document)) : Checked Schema :=
  match entries with
  | [] => .accepted .empty
  | (key, d) :: rest =>
    (((Reading.nameKey key).and ((field d).within (.ofKey key))).and (fields rest)).map
      fun ((name, f), others) => others.putNew name f
  termination_by (sizeOf entries, 0)
  decreasing_by all_goals simp_wf; omega
end

/-- a kind on its own, declared by the keys that belong to its tag -/
def kind (form : Form) (read : List (Scalar × Document) → Checked (Kind Schema)) : Document → Checked (Kind Schema)
  | .mapping entries => read entries
  | _ => .reject (.notAForm form)

end Declaration

end CatalogLint
