/-
A name must not default to the word for a default: an entry with such a name is really a part of its parent. A field
offends when its lower-cased name is `nameField` and not excepted, and its default is a text whose lower case is
`redundantText`.
-/
import CatalogLint.Rule.Basic

namespace CatalogLint.RedundantDefault

def nameField : String := "name"

def redundantText : String := "default"

/-- whether a default is the redundant text in any letter case -/
def isRedundant : Document → Bool
  | .scalar (.text s) => Text.lower s == redundantText
  | _ => false

/-- a name field with the redundant default -/
def Offends (exceptions : NameSet) (name : String) (field : Field) : Prop :=
  Text.lower name = nameField ∧ Text.lower name ∉ exceptions ∧ isRedundant field.default

instance (exceptions : NameSet) (name : String) (field : Field) : Decidable (Offends exceptions name field) := by
  unfold Offends; infer_instance

def violation (name : String) : Violation where
  family := .redundantDefault
  fieldName := name
  reason := s!"field '{name}' is a '{nameField}' field which contains a default value of '{redundantText}'"

def verdict (exceptions : NameSet) (name : String) (field : Field) : Option Violation :=
  if Offends exceptions name field then some (violation name) else none

def check : Schema → NameSet → Option Violation := Rule.fieldCheck verdict

def rule : Rule where
  name := Violation.Family.redundantDefault.ruleName
  description := "A 'name' field must not default to 'default'"
  check := check
  failureSummary := "contains a 'name' field with a default value of 'default' - " ++
    "it should be exposed as part of the parent it's located within"

end CatalogLint.RedundantDefault
