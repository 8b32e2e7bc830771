/-
Field types. A field holds a primitive value or a collection, and a collection is a list or a set; the seven types that
declarations may name are the five primitive ones and the two shapes (`FieldType.all`). `FieldType.ofName?_name` says
that a type is read back from its name.
-/
namespace CatalogLint

inductive PrimitiveType where
  | string | bool | int | float | map
  deriving DecidableEq

/-- how a collection holds its elements -/
inductive Shape where
  | list | set
  deriving DecidableEq

inductive FieldType where
  | primitive (type : PrimitiveType)
  | collection (shape : Shape)
  deriving DecidableEq

namespace PrimitiveType

def name : PrimitiveType → String
  | .string => "string"
  | .bool => "bool"
  | .int => "int"
  | .float => "float"
  | .map => "map"

end PrimitiveType

namespace Shape

def name : Shape → String
  | .list => "list"
  | .set => "set"

end Shape

namespace FieldType

abbrev string : FieldType := .primitive .string
abbrev bool : FieldType := .primitive .bool

/-- the name in declarations -/
def name : FieldType → String
  | .primitive t => t.name
  | .collection s => s.name

/-- the name in messages -/
def label : FieldType → String
  | .primitive .string => "String"
  | .primitive .bool => "Bool"
  | .primitive .int => "Int"
  | .primitive .float => "Float"
  | .primitive .map => "Map"
  | .collection .list => "List"
  | .collection .set => "Set"

/-- all types, in the order in which messages list them -/
def all : List FieldType :=
  [.primitive .string, .primitive .bool, .primitive .int, .primitive .float, .primitive .map,
   .collection .list, .collection .set]

def ofName? (name : String) : Option FieldType := all.find? (·.name == name)

def isCollection : FieldType → Bool
  | .primitive _ => false
  | .collection _ => true

theorem ofName?_name (t : FieldType) : ofName? t.name = some t := by
  rcases t with t | s
  · cases t <;> decide
  · cases s <;> decide

theorem name_of_ofName? {name : String} {t : FieldType} (h : ofName? name = some t) : t.name = name := by
  simpa using List.find?_some h

end FieldType

end CatalogLint
