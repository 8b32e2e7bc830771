/-
Plain scalars: text without quotes. A plain scalar goes on until something that has a meaning of its own: a colon
before a space, a comment, an indicator inside a flow collection, or a line indented too little. It may span lines,
which join as in quoted scalars.
-/
import CatalogLint.Yaml.Cursor

namespace CatalogLint.Yaml.PlainScalar

/-- the characters that part items inside flow collections -/
def isFlowIndicator (c : Char) : Bool := c == ',' || c == '[' || c == ']' || c == '\x7b' || c == '\x7d'

/-- whether a colon before this character ends a plain scalar -/
def endsKey (inFlow : Bool) (next : Option Char) : Bool :=
  endsWord next || (inFlow && next.any isFlowIndicator)

/-- the characters that cannot start a plain scalar -/
def indicators : List Char :=
  ['-', '?', ':', ',', '[', ']', '\x7b', '\x7d', '#', '&', '*', '!', '|', '>', '\x27', '\x22', '%', '@', '\x60']

/-- whether a plain scalar starts here; three indicators start one when something follows them directly -/
def starts (inFlow : Bool) (c : Char) (next : Option Char) : Bool :=
  !(endsWord (some c) || indicators.contains c) ||
    (!endsWord next && (c == '-' || (!inFlow && (c == '?' || c == ':'))))

/-- the characters up to the end of a word -/
def word (inFlow : Bool) : List Char → List Char × List Char
  | [] => ([], [])
  | c :: rest =>
    if endsWord (some c) || (c == ':' && endsKey inFlow rest.head?) ||
        (inFlow && (c == '?' || isFlowIndicator c)) then ([], c :: rest)
    else
      let (taken, left) := word inFlow rest
      (c :: taken, left)

/-- what follows a word: spaces and line ends, as the text they stand for -/
structure Gap where
  text : List Char
  /-- whether there was a line end -/
  broken : Bool
  next : Cursor

/-- goes over the line ends after the first one; no text when a document ends -/
def breaks (first : Char) (more : List Char) (mark : Mark) : List Char → Gap
  | [] => ⟨joined, true, ⟨[], mark⟩⟩
  | c :: rest =>
    if c = ' ' then breaks first more (mark.after c) rest
    else if isBreak c then
      if startsSeparator rest then ⟨[], true, ⟨rest, mark.after c⟩⟩
      else breaks first (breakText c :: more) (mark.after c) rest
    else ⟨joined, true, ⟨c :: rest, mark⟩⟩
where
  joined : List Char :=
    if first ≠ '\n' then first :: more.reverse else if more.isEmpty then [' '] else more.reverse

def gap (c : Cursor) : Gap :=
  let (spaces, afterSpaces) := c.span (· == ' ')
  match afterSpaces.rest with
  | x :: rest =>
    if isBreak x then
      if startsSeparator rest then ⟨[], true, afterSpaces.skip 1⟩
      else breaks (breakText x) [] (afterSpaces.mark.after x) rest
    else ⟨spaces, false, afterSpaces⟩
  | [] => ⟨spaces, false, afterSpaces⟩

/-- a plain scalar: its text, whether a line end comes last, and what follows -/
structure Scanned where
  text : List Char
  endsBroken : Bool
  next : Cursor

theorem length_word (inFlow : Bool) (cs : List Char) :
    (word inFlow cs).1.length + (word inFlow cs).2.length = cs.length := by
  induction cs with
  | nil => rfl
  | cons c rest ih =>
    simp only [word]
    split
    · simp
    · simp only [List.length_cons, ← ih]; omega

theorem length_breaks_le (first : Char) (more : List Char) (mark : Mark) (cs : List Char) :
    (breaks first more mark cs).next.rest.length ≤ cs.length := by
  induction cs generalizing more mark with
  | nil => simp [breaks]
  | cons c rest ih =>
    simp only [breaks]
    split
    · exact Nat.le_trans (ih _ _) (by simp)
    · split
      · split
        · simp
        · exact Nat.le_trans (ih _ _) (by simp)
      · simp

theorem length_gap_le (c : Cursor) : (gap c).next.rest.length ≤ c.rest.length := by
  have hspan := Cursor.length_dropWhile_le c (· == ' ')
  unfold gap Cursor.span
  simp only
  split
  · rename_i x rest h
    rw [h] at hspan
    split
    · split
      · exact Nat.le_trans (Cursor.length_skip_le _ _) (by rw [h]; exact hspan)
      · exact Nat.le_trans (length_breaks_le _ _ _ _) (Nat.le_trans (by simp) hspan)
    · simpa [h] using hspan
  · rename_i h
    simp [h]

/-- reads words and the gaps between them; `out` is the text so far, backwards, `before` the gap before the next word -/
def scanFrom (inFlow : Bool) (indent : Nat) (out before : List Char) (broken : Bool) (c : Cursor) : Scanned :=
  if c.peek == some '#' then ⟨out.reverse, broken, c⟩
  else
    match _h : word inFlow c.rest with
    | ([], _) => ⟨out.reverse, broken, c⟩
    | (x :: w, rest) =>
      let g := gap (c.pass (x :: w) rest)
      let out := (before ++ x :: w).reverse ++ out
      if g.text.isEmpty || g.next.peek == some '#' || (!inFlow && g.next.column < indent) then
        ⟨out.reverse, g.broken, g.next⟩
      else scanFrom inFlow indent out g.text g.broken g.next
  termination_by c.rest.length
  decreasing_by
    have hword := length_word inFlow c.rest
    have hgap := length_gap_le (c.pass (x :: w) rest)
    simp only [_h, List.length_cons, Cursor.pass] at hword hgap
    simp only [Cursor.pass]
    omega

/-- the plain scalar at a cursor; outside flow collections its lines stand at least at the column `indent` -/
def scan (inFlow : Bool) (indent : Nat) (c : Cursor) : Scanned := scanFrom inFlow indent [] [] false c

end CatalogLint.Yaml.PlainScalar
