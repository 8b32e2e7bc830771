/-
Block scalars: indented lines after a header. The header says whether lines are kept or folded, what becomes of the
last line ends, and perhaps the indentation; without it the first lines decide. `Line.classify` says what a line is to
a scalar of a known indentation, and `assemble` joins the lines that belong to it.
-/
import CatalogLint.Yaml.Cursor
import CatalogLint.Yaml.Fault

namespace CatalogLint.Yaml.BlockScalar

/-- what becomes of the line ends after the last line -/
inductive Chomping where
  | clip | strip | keep
  deriving DecidableEq

structure Header where
  folded : Bool
  chomping : Chomping
  /-- the indentation beyond that of the surrounding collection -/
  increment : Option Nat

/-! ## Header -/

def chompingOf? (c : Option Char) : Option Chomping :=
  if c = some '+' then some .keep else if c = some '-' then some .strip else none

def incrementOf? (c : Option Char) : Option Nat :=
  match c with
  | some d => if '0' ≤ d && d ≤ '9' then some (d.toNat - '0'.toNat) else none
  | none => none

/-- the indicators of a header, in either order -/
def indicators (c : Cursor) : Option Chomping × Option Nat × Cursor :=
  match chompingOf? c.peek with
  | some chomping =>
    match incrementOf? (c.skip 1).peek with
    | some n => (some chomping, some n, c.skip 2)
    | none => (some chomping, none, c.skip 1)
  | none =>
    match incrementOf? c.peek with
    | some n =>
      match chompingOf? (c.skip 1).peek with
      | some chomping => (some chomping, some n, c.skip 2)
      | none => (none, some n, c.skip 1)
    | none => (none, none, c)

/-- reads a header from its first indicator to the end of its line -/
def header (c : Cursor) : Except Fault (Header × Cursor) :=
  let (chomping, increment, after) := indicators (c.skip 1)
  if increment = some 0 || !endsItem after.peek then .error (.malformed .badBlockHeader)
  else
    let lineEnd := (after.dropWhile (· == ' ')).dropComment
    if endsLine lineEnd.peek then
      .ok (⟨c.peek == some '>', chomping.getD .clip, increment⟩, lineEnd.skip 1)
    else .error (.malformed .badBlockHeader)

/-! ## Lines -/

/-- a line and its end, which only the last line of a text lacks -/
structure Line where
  text : List Char
  ending : Option Char

def splitLines (cs : List Char) : List Line :=
  cs.foldr (fun c lines => if isBreak c then ⟨[], some c⟩ :: lines else match lines with
    | line :: more => ⟨c :: line.text, line.ending⟩ :: more
    | [] => [⟨[c], none⟩]) [⟨[], none⟩]

namespace Line

/-- how far a line is indented -/
def indent (l : Line) : Nat := (l.text.takeWhile (· == ' ')).length

/-- whether a line holds spaces only and does not end the text -/
def isEmpty (l : Line) : Bool := l.text.all (· == ' ') && l.ending.isSome

/-- the characters of a line with its end -/
def chars (l : Line) : List Char := l.text ++ l.ending.toList

/-- what a line is to a scalar of a given indentation -/
inductive Role where
  | empty (ending : Char)
  | content (text : List Char) (ending : Option Char)
  | outside

def classify (indent : Nat) (l : Line) : Role :=
  if indent < l.text.length && indent ≤ l.indent then .content (l.text.drop indent) l.ending
  else match l.ending with
    | some c => if l.text.all (· == ' ') then .empty (breakText c) else .outside
    | none => .outside

end Line

/-- the indentation that the first lines show -/
def shownIndent (lines : List Line) : Nat :=
  let (empty, others) := lines.span Line.isEmpty
  let first := match others with
    | l :: _ => l.indent
    | [] => 0
  (empty.map fun l => l.text.length).foldl max first

/-! ## Text -/

/-- a line of content with the empty lines before it -/
structure Part where
  before : List Char
  text : List Char
  ending : Option Char

/-- the lines of a scalar and the line ends after its last one, with the number of characters they take -/
structure Body where
  parts : List Part
  trailing : List Char
  size : Nat

/-- gathers the lines up to the first outside; `before` holds the ends of empty lines so far, backwards -/
def gather (indent : Nat) (parts : List Part) (before : List Char) (size : Nat) : List Line → Body
  | [] => ⟨parts.reverse, before.reverse, size⟩
  | l :: rest =>
    match l.classify indent with
    | .empty c => gather indent parts (c :: before) (size + l.chars.length) rest
    | .content text ending =>
      gather indent (⟨before.reverse, text, ending.map breakText⟩ :: parts) [] (size + l.chars.length) rest
    | .outside => ⟨parts.reverse, before.reverse, size⟩

/-- whether a line starts with more space than the scalar's indentation -/
def isSpaced (text : List Char) : Bool := (text.head?.map isSpace).getD false

/-- what stands between two lines of content -/
def joint (folded : Bool) (a b : Part) : List Char :=
  if folded && a.ending == some '\n' && !isSpaced a.text && !isSpaced b.text then
    if b.before.isEmpty then [' '] else []
  else a.ending.toList

/-- the lines of content with what stands between them -/
def assemble (folded : Bool) : List Part → List Char
  | [] => []
  | [a] => a.before ++ a.text
  | a :: b :: rest => a.before ++ a.text ++ joint folded a b ++ assemble folded (b :: rest)

/-- the line ends after the last line of content -/
def tail (chomping : Chomping) (b : Body) : List Char :=
  let last := match b.parts.getLast? with
    | some p => p.ending.toList
    | none => []
  match chomping with
  | .strip => []
  | .clip => last
  | .keep => last ++ b.trailing

/-- the block scalar at a cursor, where the surrounding collection stands at the column before `least` -/
def scan (least : Nat) (c : Cursor) : Except Fault (String × Cursor) := do
  let (h, start) ← header c
  let lines := splitLines start.rest
  let least := max least 1
  let indent := match h.increment with
    | some n => least + n - 1
    | none => max least (shownIndent lines)
  let body := gather indent [] [] 0 lines
  return (String.ofList (assemble h.folded body.parts ++ tail h.chomping body), start.skip body.size)

end CatalogLint.Yaml.BlockScalar
