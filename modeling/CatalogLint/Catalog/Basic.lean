/-
Catalogs: in each partition, a schema for every entry. `Catalog.entries` lists the entries of a partition in increasing
order of names, which is the order in which they are checked and reported.
-/
import CatalogLint.Catalog.Partition
import CatalogLint.Names.Map
import CatalogLint.Schema.Basic

namespace CatalogLint

/-- the schemas of the data sources and of the resources, by entry name -/
abbrev Catalog := Partitioned (NameMap Schema)

namespace Catalog

def empty : Catalog := ⟨.empty, .empty⟩

/-- the entries of a partition, in increasing order of names -/
def entries (c : Catalog) (p : Partition) : List (String × Schema) := (c.get p).entries

def size (c : Catalog) (p : Partition) : Nat := (c.get p).size

end Catalog

end CatalogLint
