/-
Fields named like secrets must be marked as sensitive. A field offends when it is not sensitive and its lower-cased
name is one of `secretNames`, or ends in `secretSuffix` while the field is a string. There are no exceptions.
-/
import CatalogLint.Rule.Basic

namespace CatalogLint.Sensitivity

def secretNames : NameSet :=
  .ofList ["api_key", "api_secret_key", "password", "private_key", "ssh_private_key"]

def secretSuffix : String := "_api_key"

/-- a field that looks like a secret and is not marked as one -/
def Offends (name : String) (field : Field) : Prop :=
  field.sensitive = false ∧
    (Text.lower name ∈ secretNames ∨ (Rule.endsIn secretSuffix (Text.lower name) ∧ field.type = .string))

instance (name : String) (field : Field) : Decidable (Offends name field) := by unfold Offends; infer_instance

def violation (name : String) : Violation where
  family := .sensitivity
  fieldName := name
  reason := s!"field '{name}' is a sensitive value and should be marked as Sensitive"

def verdict (_ : NameSet) (name : String) (field : Field) : Option Violation :=
  if Offends name field then some (violation name) else none

def check : Schema → NameSet → Option Violation := Rule.fieldCheck verdict

def rule : Rule where
  name := Violation.Family.sensitivity.ruleName
  description := "Secret-looking fields must be marked as sensitive"
  check := check
  failureSummary := "contains a sensitive field which isn't marked as sensitive"
  supportsExceptions := false

end CatalogLint.Sensitivity
