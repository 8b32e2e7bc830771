/-
Schemas: trees of field declarations. A field has a kind, which is a primitive type or a collection with or without a
declaration of its elements; element declarations are fields under names again. `Schema` is such a list of fields whose
names increase strictly at every depth, so a name occurs once on each level and equal declarations are equal schemas.

`descend` follows a list of names from the root; it tells a missing field from one without element declarations.
-/
import CatalogLint.Document.Basic
import CatalogLint.Names.Entries
import CatalogLint.Schema.FieldType

namespace CatalogLint

/-- what a field holds; `σ` declares the elements of a collection -/
inductive Kind (σ : Type) where
  | primitive (type : PrimitiveType) : Kind σ
  | collection (shape : Shape) (elem : Option σ) : Kind σ

structure Field where
  kind : Kind (List (String × Field))
  sensitive : Bool
  default : Document

/-- declared fields under their names -/
abbrev Fields := List (String × Field)

namespace Kind

variable {σ : Type}

def type : Kind σ → FieldType
  | .primitive t => .primitive t
  | .collection s _ => .collection s

def elem? : Kind σ → Option σ
  | .primitive _ => none
  | .collection _ elem => elem

/-- the word that marks the kind in declarations -/
def tag : Kind σ → String
  | .primitive _ => "primitive"
  | .collection s _ => s.name

def isComposite : Kind σ → Bool
  | .primitive _ => false
  | .collection _ _ => true

end Kind

namespace Field

def type (f : Field) : FieldType := f.kind.type

/-- the fields of an element, where the field declares them -/
def nested? (f : Field) : Option Fields := f.kind.elem?

def isComposite (f : Field) : Bool := f.kind.isComposite

end Field

/-! ## Order at every depth -/

mutual
/-- whether all fields inside a field are in order -/
def Field.isOrdered : Field → Bool
  | ⟨.primitive _, _, _⟩ => true
  | ⟨.collection _ none, _, _⟩ => true
  | ⟨.collection _ (some elem), _, _⟩ => decide (Entries.Ordered elem) && Fields.isOrderedInside elem

/-- whether each of the fields is in order inside -/
def Fields.isOrderedInside : List (String × Field) → Bool
  | [] => true
  | (_, field) :: rest => field.isOrdered && Fields.isOrderedInside rest
end

/-- whether the names increase strictly on this level and on all levels below -/
def Fields.isOrdered (fields : Fields) : Bool := decide (Entries.Ordered fields) && Fields.isOrderedInside fields

theorem Fields.isOrderedInside_iff {fields : Fields} :
    Fields.isOrderedInside fields ↔ ∀ e ∈ fields, e.2.isOrdered := by
  induction fields with
  | nil => simp [Fields.isOrderedInside]
  | cons e rest ih => obtain ⟨n, f⟩ := e; simp [Fields.isOrderedInside, ih]

theorem Fields.isOrderedInside_put {name : String} {field : Field} {fields : Fields} (hf : field.isOrdered)
    (h : Fields.isOrderedInside fields) : Fields.isOrderedInside (Entries.put name field fields) := by
  rw [Fields.isOrderedInside_iff] at h ⊢
  intro e he
  rcases Entries.name_of_mem_put he with rfl | he
  · exact hf
  · exact h e he

theorem Fields.isOrdered_put {name : String} {field : Field} {fields : Fields} (hf : field.isOrdered)
    (h : Fields.isOrdered fields) : Fields.isOrdered (Entries.put name field fields) := by
  simp only [Fields.isOrdered, Bool.and_eq_true, decide_eq_true_eq] at h ⊢
  exact ⟨Entries.put_ordered h.1, Fields.isOrderedInside_put hf h.2⟩

/-! ## Schemas -/

structure Schema where
  fields : Fields
  ordered : Fields.isOrdered fields

/-- no field has the name -/
structure MissingField where
  name : String
  deriving DecidableEq

def MissingField.message (e : MissingField) : String := s!"Field '{e.name}' not found in schema"

namespace Fields

def names (fields : Fields) : List String := fields.map Prod.fst

def contains (fields : Fields) (name : String) : Bool := (Entries.lookup? name fields).isSome

def get (fields : Fields) (name : String) : Except MissingField Field :=
  match Entries.lookup? name fields with
  | some field => .ok field
  | none => .error ⟨name⟩

/-- the fields reached by going through the elements of each named field in turn, if all of them declare elements -/
def descend (fields : Fields) : List String → Except MissingField (Option Fields)
  | [] => .ok (some fields)
  | name :: rest =>
    match fields.get name with
    | .error e => .error e
    | .ok field =>
      match field.nested? with
      | none => .ok none
      | some inner => descend inner rest

end Fields

namespace Schema

def empty : Schema := ⟨[], rfl⟩

instance : Inhabited Schema := ⟨empty⟩

/-- the names on the first level, in increasing order -/
def names (s : Schema) : List String := s.fields.names

/-- the fields on the first level, in increasing order of names -/
def items (s : Schema) : List (String × Field) := s.fields

def size (s : Schema) : Nat := s.fields.length

def contains (s : Schema) (name : String) : Bool := s.fields.contains name

def get (s : Schema) (name : String) : Except MissingField Field := s.fields.get name

def descend (s : Schema) (path : List String) : Except MissingField (Option Fields) := s.fields.descend path

end Schema

end CatalogLint
