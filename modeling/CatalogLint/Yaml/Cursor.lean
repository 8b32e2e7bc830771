/-
Places in a text and movement through it. A cursor holds what is left of a text and the mark of its first character:
how many characters, lines and columns come before. `normalized` makes every line end one character, and `isPrintable`
says which characters a text may hold at all.
-/
namespace CatalogLint.Yaml

/-! ## Characters -/

/-- the ends of lines -/
def isBreak (c : Char) : Bool := c == '\n' || c == '\u0085' || c == '\u2028' || c == '\u2029'

/-- the spaces inside a line -/
def isSpace (c : Char) : Bool := c == ' ' || c == '\t'

/-- whether a line ends here: at a line end or at the end of the text -/
def endsLine (c : Option Char) : Bool := c.all isBreak

/-- whether a word ends here, at a space, a line end or the end of the text -/
def endsWord (c : Option Char) : Bool := c.all fun c => isBreak c || isSpace c

/-- whether a name or number of a directive ends here; a tabulator does not end one -/
def endsItem (c : Option Char) : Bool := c.all fun c => isBreak c || c == ' '

/-- the characters of names of anchors, handles and directives -/
def isNameChar (c : Char) : Bool := c.isAlphanum || c == '-' || c == '_'

/-- what a line end stands for inside a scalar -/
def breakText (c : Char) : Char := if c == '\u2028' || c == '\u2029' then c else '\n'

/-- the characters that may stand in a text -/
def isPrintable (c : Char) : Bool :=
  let n := c.toNat
  c == '\t' || c == '\n' || (0x20 ≤ n && n ≤ 0x7e) || n == 0x85 || (0xa0 ≤ n && n ≤ 0xfffd) || 0x10000 ≤ n

/-- whether a line starts with the three dashes or dots that part documents -/
def startsSeparator : List Char → Bool
  | '-' :: '-' :: '-' :: rest => endsWord rest.head?
  | '.' :: '.' :: '.' :: rest => endsWord rest.head?
  | _ => false

/-- a text in which a carriage return, with or without a line feed, is one line feed -/
def normalized (cs : List Char) : List Char :=
  cs.foldr (fun c rest => match c, rest with
    | '\r', '\n' :: _ => rest
    | '\r', _ => '\n' :: rest
    | _, _ => c :: rest) []

/-! ## Marks and cursors -/

structure Mark where
  index : Nat
  line : Nat
  column : Nat

/-- the mark after a character; a byte order mark takes no column -/
def Mark.after (m : Mark) (c : Char) : Mark :=
  if isBreak c then ⟨m.index + 1, m.line + 1, 0⟩
  else if c == '\ufeff' then ⟨m.index + 1, m.line, m.column⟩
  else ⟨m.index + 1, m.line, m.column + 1⟩

structure Cursor where
  rest : List Char
  mark : Mark

namespace Cursor

def start (cs : List Char) : Cursor := ⟨cs, ⟨0, 0, 0⟩⟩

def column (c : Cursor) : Nat := c.mark.column

/-- the next character -/
def peek (c : Cursor) : Option Char := c.rest.head?

/-- the character after the next one -/
def peekSecond (c : Cursor) : Option Char := c.rest[1]?

/-- the place after a number of characters -/
def skip (c : Cursor) : Nat → Cursor
  | 0 => c
  | n + 1 =>
    match c.rest with
    | [] => c
    | x :: rest => Cursor.skip ⟨rest, c.mark.after x⟩ n

/-- the place after all characters of a list have been passed -/
def pass (c : Cursor) (passed rest : List Char) : Cursor := ⟨rest, passed.foldl Mark.after c.mark⟩

/-- the place of the first character that fails a test -/
def dropWhile (c : Cursor) (test : Char → Bool) : Cursor :=
  c.pass (c.rest.takeWhile test) (c.rest.dropWhile test)

/-- the characters up to the first that fails a test, and the place of that one -/
def span (c : Cursor) (test : Char → Bool) : List Char × Cursor := (c.rest.takeWhile test, c.dropWhile test)

/-- the place after a comment, if one starts here -/
def dropComment (c : Cursor) : Cursor :=
  if c.peek == some '#' then c.dropWhile (!isBreak ·) else c

theorem length_dropWhile_le (c : Cursor) (test : Char → Bool) :
    (c.dropWhile test).rest.length ≤ c.rest.length :=
  (List.dropWhile_sublist test).length_le

theorem length_dropComment_le (c : Cursor) : c.dropComment.rest.length ≤ c.rest.length := by
  unfold dropComment
  split
  · exact length_dropWhile_le _ _
  · exact Nat.le_refl _

theorem length_skip_le (c : Cursor) (n : Nat) : (c.skip n).rest.length ≤ c.rest.length := by
  induction n generalizing c with
  | zero => exact Nat.le_refl _
  | succ n ih =>
    unfold skip
    split
    · exact Nat.le_refl _
    · rename_i x rest h
      have := ih ⟨rest, c.mark.after x⟩
      simp only [h, List.length_cons] at this ⊢
      omega

end Cursor

end CatalogLint.Yaml
