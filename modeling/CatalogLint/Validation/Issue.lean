/-
Issues: what is wrong with a document, and where. A cause is a rule of the declaration grammar that does not hold; its
code and message follow from it. The place of an issue is the list of steps from the document's root; `Issue.listed`
orders issues by the text of their places, then by code and message.
-/
import CatalogLint.Document.Literal
import CatalogLint.Schema.FieldType

namespace CatalogLint

/-- the declared forms with a fixed set of keys -/
inductive Form where
  | catalog | config | field | primitiveKind | listKind | setKind
  deriving DecidableEq

def Form.title : Form → String
  | .catalog => "Catalog"
  | .config => "LintConfig"
  | .field => "FieldSchema"
  | .primitiveKind => "PrimitiveKind"
  | .listKind => "ListOfObject"
  | .setKind => "SetOfObject"

/-- the rule that a part of a document breaks -/
inductive Cause where
  | notAForm (form : Form)
  | notAMapping
  | notAKind
  | notASet
  | notText
  | notUnicode
  | keyNotText
  | unknownKey
  | missing
  | typeMissing
  | notAFieldType (given : Document)
  | elemOfPrimitive (type : PrimitiveType)
  | primitiveCollection (shape : Shape)
  | wrongTag (expected : String)
  | tagMissing
  | unknownTag (given : Document)
  | unknownType
  | unknownPartition
  | notABoolean
  | unreadableBoolean
  | endless

namespace Cause

def code : Cause → String
  | .notAForm _ => "model_type"
  | .notAMapping => "dict_type"
  | .notAKind => "model_attributes_type"
  | .notASet => "frozen_set_type"
  | .notText => "string_type"
  | .notUnicode => "string_unicode"
  | .keyNotText => "invalid_key"
  | .unknownKey => "extra_forbidden"
  | .missing => "missing"
  | .typeMissing | .notAFieldType _ | .elemOfPrimitive _ | .primitiveCollection _ => "value_error"
  | .wrongTag _ => "literal_error"
  | .tagMissing => "union_tag_not_found"
  | .unknownTag _ => "union_tag_invalid"
  | .unknownType | .unknownPartition => "enum"
  | .notABoolean => "bool_type"
  | .unreadableBoolean => "bool_parsing"
  | .endless => "recursion_loop"

def message : Cause → String
  | .notAForm form => "Input should be a valid dictionary or instance of " ++ form.title
  | .notAMapping => "Input should be a valid dictionary"
  | .notAKind => "Input should be a valid dictionary or object to extract fields from"
  | .notASet => "Input should be a valid frozenset"
  | .notText => "Input should be a valid string"
  | .notUnicode => "Input should be a valid string, unable to parse raw data as a unicode string"
  | .keyNotText => "Keys should be strings"
  | .unknownKey => "Extra inputs are not permitted"
  | .missing => "Field required"
  | .typeMissing => "Value error, Field declaration requires a 'type'"
  | .notAFieldType given =>
    "Value error, " ++ (if given.isWritable then given.literal ++ " is not a valid FieldType" else Numeral.limitText "")
  | .elemOfPrimitive type => "Value error, 'elem' is only valid for list and set fields, got '" ++ type.name ++ "'"
  | .primitiveCollection shape =>
    "Value error, '" ++ shape.name ++ "' is a collection type, use the list/set kinds instead"
  | .wrongTag expected => s!"Input should be '{expected}'"
  | .tagMissing => "Unable to extract tag using discriminator 'kind'"
  | .unknownTag given =>
    "Input tag '" ++ (if given.isWritable then given.plain else given.unwritable) ++
      "' found using 'kind' does not match any of the expected tags: 'primitive', 'list', 'set'"
  | .unknownType => "Input should be 'string', 'bool', 'int', 'float', 'map', 'list' or 'set'"
  | .unknownPartition => "Input should be 'data_sources' or 'resources'"
  | .notABoolean => "Input should be a valid boolean"
  | .unreadableBoolean => "Input should be a valid boolean, unable to interpret input"
  | .endless => "Recursion error - cyclic reference detected"

end Cause

/-- one step of a place: to the value of a key, or to an element -/
inductive Step where
  | key (name : String)
  | index (position : Int)
  deriving DecidableEq

namespace Step

def text : Step → String
  | .key name => name
  | .index position => toString position

/-- the step to the value of a key; a key that is a number of at most 64 bits counts as a position -/
def ofKey : Scalar → Step
  | .text s => .key s
  | .bool b => .index (if b then 1 else 0)
  | .int n => if Scalar.fitsWord n then .index n else .key (written (.int n))
  | s => .key (written s)
where
  written (s : Scalar) : String := if s.isWritable then s.literal else (Document.scalar s).unwritable

/-- the step from a key's value to the key itself -/
def toKey : Step := .key "[key]"

end Step

structure Issue where
  place : List Step
  cause : Cause

namespace Issue

/-- the same issue one step further out -/
def within (step : Step) (issue : Issue) : Issue := { issue with place := step :: issue.place }

/-- the text of a place -/
def placeText (issue : Issue) : String := ".".intercalate (issue.place.map Step.text)

/-- the order of issues in a list: by place, then by code, then by message -/
def precedes (a b : Issue) : Bool :=
  if a.placeText ≠ b.placeText then a.placeText < b.placeText
  else if a.cause.code ≠ b.cause.code then a.cause.code < b.cause.code
  else !(b.cause.message < a.cause.message)

/-- issues in the order of their places, codes and messages -/
def listed (issues : List Issue) : List Issue := issues.mergeSort precedes

end Issue

end CatalogLint
