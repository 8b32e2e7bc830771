/-
Configurations of the linter: a version of their form and the exceptions to the rules.
-/
import CatalogLint.Exceptions

namespace CatalogLint

structure Config where
  version : String
  exceptions : ExceptionRegistry

namespace Config

/-- the configuration that stands for one without contents -/
def empty : Config := ⟨"1.0", .empty⟩

end Config

end CatalogLint
