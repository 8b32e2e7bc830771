/-
The walk through a schema. `Fields.walk` looks at every field in the order of names, a field before the fields of its
elements, and stops at the first violation, which it wraps in the fields that enclose it. The visitor runs in any
monad, so it may keep a state from one field to the next.

`Fields.visits` lists the same fields with all their ancestors in the order of the walk.
-/
import CatalogLint.Schema.Basic
import CatalogLint.Violation

namespace CatalogLint

mutual
/-- visits the fields in turn, each before what is nested in it, until one violates -/
def Fields.walk {m : Type → Type} [Monad m] (visit : String → Field → m (Option Violation)) :
    List (String × Field) → m (Option Violation)
  | [] => pure none
  | (name, field) :: rest => do
    match ← visit name field with
    | some v => pure (some v)
    | none =>
      match ← Field.walkNested visit field with
      | some v => pure (some (v.nestedUnder name field.type.label))
      | none => Fields.walk visit rest

/-- visits the fields that a field declares for its elements -/
def Field.walkNested {m : Type → Type} [Monad m] (visit : String → Field → m (Option Violation)) :
    Field → m (Option Violation)
  | ⟨.primitive _, _, _⟩ => pure none
  | ⟨.collection _ none, _, _⟩ => pure none
  | ⟨.collection _ (some elem), _, _⟩ => Fields.walk visit elem
end

/-- one stop of a walk: a field and the fields that enclose it, outermost first, with their labels -/
structure Visit where
  parents : List (String × String)
  name : String
  field : Field

namespace Visit

/-- the names from the outermost field to this one -/
def path (v : Visit) : List String := v.parents.map Prod.fst ++ [v.name]

/-- a violation of this field as the whole schema reports it -/
def report (v : Visit) (violation : Violation) : Violation :=
  { violation with parents := v.parents ++ violation.parents }

end Visit

mutual
/-- the stops of a walk through fields enclosed by `parents` -/
def Fields.visits (parents : List (String × String)) : List (String × Field) → List Visit
  | [] => []
  | (name, field) :: rest =>
    ⟨parents, name, field⟩ :: Field.visitsNested (parents ++ [(name, field.type.label)]) field ++
      Fields.visits parents rest

/-- the stops of a walk through the fields that a field declares for its elements -/
def Field.visitsNested (parents : List (String × String)) : Field → List Visit
  | ⟨.primitive _, _, _⟩ => []
  | ⟨.collection _ none, _, _⟩ => []
  | ⟨.collection _ (some elem), _, _⟩ => Fields.visits parents elem
end

namespace Schema

def walk {m : Type → Type} [Monad m] (s : Schema) (visit : String → Field → m (Option Violation)) :
    m (Option Violation) :=
  Fields.walk visit s.fields

/-- all fields of a schema, in the order of the walk -/
def visits (s : Schema) : List Visit := Fields.visits [] s.fields

/-- the first violation that a visitor without a state finds -/
def firstViolation (s : Schema) (visit : String → Field → Option Violation) : Option Violation :=
  s.walk (m := Id) fun name field => pure (visit name field)

end Schema

end CatalogLint
