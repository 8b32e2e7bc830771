/-
The check of rules that name the fields they refuse: a field offends when its exact name is flagged and its lower-cased
name is not excepted.
-/
import CatalogLint.Rule.Basic

namespace CatalogLint.Flagged

def Offends (flagged : List String) (exceptions : NameSet) (name : String) : Prop :=
  name ∈ flagged ∧ Text.lower name ∉ exceptions

instance (flagged : List String) (exceptions : NameSet) (name : String) :
    Decidable (Offends flagged exceptions name) := by unfold Offends; infer_instance

def violation (reason name : String) : Violation where
  family := .plain
  fieldName := name
  reason := reason

def verdict (flagged : List String) (reason : String) (exceptions : NameSet) (name : String) (_ : Field) :
    Option Violation :=
  if Offends flagged exceptions name then some (violation reason name) else none

def check (flagged : List String) (reason : String) : Schema → NameSet → Option Violation :=
  Rule.fieldCheck (verdict flagged reason)

end CatalogLint.Flagged
