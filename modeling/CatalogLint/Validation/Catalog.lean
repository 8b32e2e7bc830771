/-
Reading catalogs, exceptions and configurations from documents. A catalog has a mapping of schemas for each partition,
exceptions are mappings down to lists or sets of names, which are lower-cased, and a configuration has a version and
exceptions. What is left out is empty.
-/
import CatalogLint.Catalog.Basic
import CatalogLint.Config
import CatalogLint.Text.Case
import CatalogLint.Validation.Declaration

namespace CatalogLint

def Catalog.read : Document → Checked Catalog
  | .mapping entries =>
    (((Reading.keyed "data_sources" (.accepted .empty) (Reading.named Declaration.schema) entries).and
      (Reading.keyed "resources" (.accepted .empty) (Reading.named Declaration.schema) entries)).and
      (.ofIssues (Reading.strayKeys ["data_sources", "resources"] entries))).map
      fun ((sources, resources), _) => ⟨sources, resources⟩
  | _ => .reject (.notAForm .catalog)

/-! ## Exceptions -/

/-- the names in a list or set, counted from a position -/
def namesFrom (position : Int) : List Document → Checked (List String)
  | [] => .accepted []
  | d :: rest =>
    (((Reading.text d).within (.index position)).and (namesFrom (position + 1) rest)).map
      fun (name, names) => name :: names

/-- a list or set of names, as the set of their lower-case forms -/
def NameSet.read (d : Document) : Checked NameSet :=
  match d with
  | .list items => (namesFrom 0 items).map lowered
  | .set members => (namesFrom 0 (members.map .scalar)).map lowered
  | _ => .reject .notASet
where
  lowered (names : List String) : NameSet := .ofList (names.map Text.lower)

def ExceptionSet.read : Document → Checked ExceptionSet := Reading.named NameSet.read

/-- a key of a mapping from partitions -/
def partitionKey (key : Scalar) : Checked Partition :=
  match (Reading.text? key).bind Partition.ofName? with
  | some p => .accepted p
  | none => ((Checked.reject .unknownPartition).within .toKey).within (.ofKey key)

namespace Partitioned

/-- gives a partition a value, unless it has one -/
def setNew {α : Type} (x : Partitioned (Option α)) (p : Partition) (value : α) : Partitioned (Option α) :=
  match p with
  | .dataSources => { x with dataSources := some (x.dataSources.getD value) }
  | .resources => { x with resources := some (x.resources.getD value) }

/-- the entries of a mapping from partitions, each value read alike; the last value of a partition counts -/
def readEntries {α : Type} (read : Document → Checked α) :
    List (Scalar × Document) → Checked (Partitioned (Option α))
  | [] => .accepted ⟨none, none⟩
  | (key, d) :: rest =>
    (((partitionKey key).and ((read d).within (.ofKey key))).and (readEntries read rest)).map
      fun ((p, value), others) => others.setNew p value

/-- a mapping from partitions, where `absent` stands for a partition left out -/
def read {α : Type} (absent : α) (read : Document → Checked α) : Document → Checked (Partitioned α)
  | .mapping entries =>
    (readEntries read entries).map fun x => ⟨x.dataSources.getD absent, x.resources.getD absent⟩
  | _ => .reject .notAMapping

end Partitioned

def ExceptionRegistry.read : Document → Checked ExceptionRegistry :=
  Reading.named (Partitioned.read .empty ExceptionSet.read)

/-! ## Configurations -/

def Config.read : Document → Checked Config
  | .mapping entries =>
    (((Reading.keyed "version" (.accepted Config.empty.version) Reading.text entries).and
      (Reading.keyed "exceptions" (.accepted .empty) ExceptionRegistry.read entries)).and
      (.ofIssues (Reading.strayKeys ["version", "exceptions"] entries))).map
      fun ((version, exceptions), _) => ⟨version, exceptions⟩
  | _ => .reject (.notAForm .config)

end CatalogLint
