/-
Exceptions: field names that a rule passes over in one entry. They are declared per rule, partition and entry; where
nothing is declared there are none (`exceptionsFor`, `forEntry`). Names are stored in lower case, since rules compare
lower-cased names.
-/
import CatalogLint.Catalog.Partition
import CatalogLint.Names.Map
import CatalogLint.Names.Set

namespace CatalogLint

/-- the excepted names of every entry of one partition -/
abbrev ExceptionSet := NameMap NameSet

namespace ExceptionSet

def forEntry (s : ExceptionSet) (entry : String) : NameSet := (s.get? entry).getD .empty

end ExceptionSet

/-- the exceptions of every rule, by partition and entry. A partition that is left out and one that is declared without
entries are one value here, since no look-up tells them apart. A rule that is declared without partitions is kept, since
its name counts. -/
abbrev ExceptionRegistry := NameMap (Partitioned ExceptionSet)

namespace ExceptionRegistry

def ruleNames (x : ExceptionRegistry) : List String := x.names

/-- the exceptions of a rule in a partition -/
def exceptionsFor (x : ExceptionRegistry) (rule : String) (p : Partition) : ExceptionSet :=
  match x.get? rule with
  | some declared => declared.get p
  | none => .empty

end ExceptionRegistry

end CatalogLint
