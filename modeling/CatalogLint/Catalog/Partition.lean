/-
The two partitions of a catalog and values that exist once for each. Data sources come before resources wherever both
are gone through.
-/
import CatalogLint.Text.Quoted

namespace CatalogLint

inductive Partition where
  | dataSources | resources
  deriving DecidableEq

/-- a name that is no partition's -/
structure UnknownPartition where
  name : String
  deriving DecidableEq

def UnknownPartition.message (e : UnknownPartition) : String :=
  Text.quoted e.name ++ " is not a valid CatalogPartition"

namespace Partition

def name : Partition → String
  | .dataSources => "data_sources"
  | .resources => "resources"

/-- the name of one entry of the partition in messages -/
def label : Partition → String
  | .dataSources => "Data Source"
  | .resources => "Resource"

def all : List Partition := [.dataSources, .resources]

def ofName? (name : String) : Option Partition := all.find? (·.name == name)

def ofName (name : String) : Except UnknownPartition Partition :=
  match ofName? name with
  | some p => .ok p
  | none => .error ⟨name⟩

theorem ofName?_name (p : Partition) : ofName? p.name = some p := by cases p <;> decide

theorem name_of_ofName? {name : String} {p : Partition} (h : ofName? name = some p) : p.name = name := by
  simpa using List.find?_some h

end Partition

/-- one value for each partition -/
structure Partitioned (α : Type) where
  dataSources : α
  resources : α
  deriving DecidableEq

namespace Partitioned

def get {α : Type} (x : Partitioned α) : Partition → α
  | .dataSources => x.dataSources
  | .resources => x.resources

/-- the values in the order of the partitions -/
def toList {α : Type} (x : Partitioned α) : List (Partition × α) :=
  [(.dataSources, x.dataSources), (.resources, x.resources)]

end Partitioned

end CatalogLint
