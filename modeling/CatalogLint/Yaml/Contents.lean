/-
The document that a text denotes: its tokens, their nodes, and the values of these. A text is read in blocks of
characters. A character that may not stand in a text is a fault of the whole block, which counts before everything in
the block and after what is at fault before it.
-/
import CatalogLint.Yaml.Unrolled

namespace CatalogLint

open Yaml

namespace Yaml.Contents

/-- the number of characters that are read at once; the first time it is twice as many -/
def blockLength : Nat := 4096

/-- where the block of a character starts -/
def blockStart (position : Nat) : Nat :=
  if position < 2 * blockLength then 0 else position / blockLength * blockLength

/-- whether a fault is seen before the text is read any further -/
def isEarly : Fault → Bool
  | .malformed _ => false
  | _ => true

/-- the values in a text -/
def graph (cs : List Char) : Except Fault Graph := do
  match cs.findIdx? (!isPrintable ·) with
  | none => Graph.ofNodes (← NodeGraph.ofTokens (TokenStream.ofText cs))
  | some position =>
    match NodeGraph.ofTokens (TokenStream.ofText (cs.take (blockStart position))) with
    | .error f => throw (if isEarly f then f else .malformed .unprintable)
    | .ok _ => throw (.malformed .unprintable)

end Yaml.Contents

/-- the document that a text denotes, as far as it is read as a part. A text in which a value holds itself has no one
document: for each part it is laid out as far as that part is looked into. For all other texts the part makes no
difference. -/
def Document.ofYaml (part : Part) (text : String) : Except Fault Document :=
  (Contents.graph (normalized text.toList)).map (·.document part)

end CatalogLint
