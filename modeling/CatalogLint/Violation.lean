/-
Violations: what a rule reports about a field. A violation knows the field and the reason, and the enclosing fields
from the outside in, each with the label of its type; `nestedUnder` puts one more around it. Three renderings follow
from these: the path of names, its text, and the message, which names the enclosing fields before the reason.
-/
import CatalogLint.Schema.FieldType

namespace CatalogLint

/-- the rule a violation comes from, with what that rule adds to it -/
inductive Violation.Family where
  | plain
  | sensitivity
  | booleanNaming (actual : Option FieldType)
  | redundantDefault
  deriving DecidableEq

/-- the name of the rule, empty for violations of no particular rule -/
def Violation.Family.ruleName : Violation.Family → String
  | .plain => ""
  | .sensitivity => "sensitive_fields"
  | .booleanNaming _ => "boolean_naming"
  | .redundantDefault => "redundant_name_default"

structure Violation where
  family : Violation.Family
  fieldName : String
  reason : String
  parents : List (String × String) := []
  deriving DecidableEq

namespace Violation

def ruleName (v : Violation) : String := v.family.ruleName

/-- the same violation inside one more field -/
def nestedUnder (v : Violation) (fieldName label : String) : Violation :=
  { v with parents := (fieldName, label) :: v.parents }

/-- the names from the outermost field to the offending one -/
def fieldPath (v : Violation) : List String := v.parents.map Prod.fst ++ [v.fieldName]

def pathSeparator : String := " → "

def path (v : Violation) : String := pathSeparator.intercalate v.fieldPath

/-- the words that lead into one enclosing field -/
def lead (parent : String × String) : String := s!"the field '{parent.1}' is a {parent.2}: "

def message (v : Violation) : String := String.join (v.parents.map lead) ++ v.reason

end Violation

end CatalogLint
