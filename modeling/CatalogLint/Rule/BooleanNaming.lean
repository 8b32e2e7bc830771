/-
Fields whose names say that something is enabled must be booleans. A field offends when its lower-cased name ends in
`suffix` and is not excepted, and its type is any other than the boolean one.
-/
import CatalogLint.Rule.Basic

namespace CatalogLint.BooleanNaming

def suffix : String := "_enabled"

/-- a field named like a switch that is none -/
def Offends (exceptions : NameSet) (name : String) (field : Field) : Prop :=
  Rule.endsIn suffix (Text.lower name) ∧ Text.lower name ∉ exceptions ∧ field.type ≠ .bool

instance (exceptions : NameSet) (name : String) (field : Field) : Decidable (Offends exceptions name field) := by
  unfold Offends; infer_instance

def violation (name : String) (actual : FieldType) : Violation where
  family := .booleanNaming (some actual)
  fieldName := name
  reason := s!"field '{name}' is an '{suffix}' field so should be defined as a " ++ FieldType.bool.label ++
    " but got " ++ actual.label

def verdict (exceptions : NameSet) (name : String) (field : Field) : Option Violation :=
  if Offends exceptions name field then some (violation name field.type) else none

def check : Schema → NameSet → Option Violation := Rule.fieldCheck verdict

def rule : Rule where
  name := (Violation.Family.booleanNaming none).ruleName
  description := "Fields ending in '_enabled' must be booleans"
  check := check
  failureSummary := "contains an '_enabled' field which isn't defined as a boolean"

end CatalogLint.BooleanNaming
