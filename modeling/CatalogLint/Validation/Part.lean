/-
What the parts of a document are read as. Below a catalog or a configuration, the key that leads to a value decides what
it is read as (`Part.under`). A part that is read as plain data, or not at all, is a `leaf` together with all it holds.
-/
import CatalogLint.Document.Basic

namespace CatalogLint

inductive Part where
  | catalog
  /-- the schemas of a partition -/
  | entries
  | schema | field | kind
  | config
  /-- the exceptions to all rules -/
  | rules
  /-- the exceptions to one rule -/
  | partitions
  /-- the exceptions to one rule in one partition -/
  | exceptions
  | leaf
  deriving DecidableEq

namespace Part

/-- what the value of a key is read as -/
def under : Part → Scalar → Part
  | .catalog, key => if key = .text "data_sources" || key = .text "resources" then .entries else .leaf
  | .entries, _ => .schema
  | .schema, _ => .field
  | .field, key => if key = .text "kind" then .kind else if key = .text "elem" then .schema else .leaf
  | .kind, key => if key = .text "elem" then .schema else .leaf
  | .config, key => if key = .text "exceptions" then .rules else .leaf
  | .rules, _ => .partitions
  | .partitions, _ => .exceptions
  | .exceptions, _ => .leaf
  | .leaf, _ => .leaf

/-- whether a part may not be inside itself: a schema, and what is not read any further -/
def isBounded (p : Part) : Bool := p = .schema || p = .leaf

end Part

end CatalogLint
