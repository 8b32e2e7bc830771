/-
Lower-casing of whole texts, for all of Unicode. A character has a lower-case form of its own (`lowerChar`), which is a
single character except for the dotted capital I. Only the capital sigma looks around itself: it becomes the final
sigma when a cased character comes before it and none comes after it, case-ignorable characters not counting.

`lower` is the comparison key of names everywhere in this library.
-/
import CatalogLint.Text.CaseTable

namespace CatalogLint.Text

def isCased (c : Char) : Bool := inRanges casedRanges c.toNat

def isCaseIgnorable (c : Char) : Bool := inRanges ignorableRanges c.toNat

/-- the lower-case form of a character on its own -/
def lowerChar (c : Char) : List Char :=
  if c = '\u0130' then ['i', '\u0307'] else [Char.ofNat (shift lowerRuns c.toNat)]

/-- whether the first character that is not case-ignorable is cased -/
def startsCased : List Char → Bool
  | [] => false
  | c :: rest => if isCaseIgnorable c then startsCased rest else isCased c

/-- the lower-case form of a character before `rest`; `word` says whether a cased character comes before it -/
def lowerAt (word : Bool) (c : Char) (rest : List Char) : List Char :=
  if c = '\u03a3' then [if word && !startsCased rest then '\u03c2' else '\u03c3'] else lowerChar c

/-- lower-cases the characters in turn, carrying whether a cased character comes before -/
def lowerFrom (word : Bool) : List Char → List Char
  | [] => []
  | c :: rest => lowerAt word c rest ++ lowerFrom (if isCaseIgnorable c then word else isCased c) rest

/-- a text in lower case -/
def lower (s : String) : String := String.ofList (lowerFrom false s.toList)

end CatalogLint.Text
