/-
Rules. A rule checks a schema under the excepted names of its entry and reports the first violation. Most rules look at
one field at a time; `fieldCheck` makes such a rule's check from its verdict on a single field.
-/
import CatalogLint.Names.Set
import CatalogLint.Schema.Walk
import CatalogLint.Text.Case

namespace CatalogLint

structure Rule where
  name : String
  description : String
  check : Schema → NameSet → Option Violation
  /-- the words between the entry and the violation when an entry fails the rule -/
  failureSummary : String
  /-- whether exceptions may be declared for the rule -/
  supportsExceptions : Bool := true

namespace Rule

/-- the check that walks a schema and reports the first field with a violation -/
def fieldCheck (verdict : NameSet → String → Field → Option Violation) (schema : Schema) (exceptions : NameSet) :
    Option Violation :=
  schema.firstViolation (verdict exceptions)

/-- whether a text ends in a suffix -/
def endsIn (suffix text : String) : Bool := suffix.toList.isSuffixOf text.toList

end Rule

end CatalogLint
