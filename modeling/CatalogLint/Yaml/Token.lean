/-
Tokens: what the text of a document is made of. Block collections open where a line is indented further than the one
before and close where the indentation ends, so their tokens stand for columns rather than for characters.
-/
namespace CatalogLint.Yaml

inductive Directive where
  | version (major : Nat)
  | handle (name expansion : String)
  | other
  deriving DecidableEq

inductive Token where
  | directive (d : Directive)
  | documentStart | documentEnd | streamEnd
  | blockSequenceStart | blockMappingStart | blockEnd
  | flowSequenceStart | flowSequenceEnd | flowMappingStart | flowMappingEnd
  | blockEntry | flowEntry | key | value
  | alias (name : String)
  | anchor (name : String)
  | tag (handle : Option String) (suffix : String)
  | scalar (plain : Bool) (text : String)
  deriving DecidableEq

end CatalogLint.Yaml
