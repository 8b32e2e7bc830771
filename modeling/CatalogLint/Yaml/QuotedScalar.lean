/-
Quoted scalars. `read` goes from the opening quote to the closing one and gathers the codes of the characters between
them. Inside, a single line end is a space, further ones stand for themselves, and the spaces around line ends do not
count. Single quotes know one escape, the doubled quote; double quotes know escapes by letter and by code, and an
escaped line end joins two lines. Two codes that are halves of one character stand for that character
(`charsOfCodes`).
-/
import CatalogLint.Yaml.Cursor
import CatalogLint.Yaml.Fault

namespace CatalogLint.Yaml.QuotedScalar

/-! ## Codes -/

/-- the character of two codes, if they are its first and its second half -/
def joined? (first second : Nat) : Option Char :=
  if 0xd800 ≤ first && first < 0xdc00 && 0xdc00 ≤ second && second < 0xe000 then
    some (Char.ofNat (0x10000 + (first - 0xd800) * 0x400 + (second - 0xdc00)))
  else none

/-- the characters that codes stand for -/
def charsOfCodes : List Nat → List Char
  | [] => []
  | [n] => [Char.ofNat n]
  | m :: n :: rest =>
    match joined? m n with
    | some c => c :: charsOfCodes rest
    | none => Char.ofNat m :: charsOfCodes (n :: rest)

/-! ## Escapes -/

/-- what a letter after a backslash stands for -/
def escapes : List (Char × Char) :=
  [('0', '\x00'), ('a', '\x07'), ('b', '\x08'), ('t', '\t'), ('\t', '\t'), ('n', '\n'), ('v', '\x0b'), ('f', '\x0c'),
   ('r', '\r'), ('e', '\x1b'), (' ', ' '), ('\x22', '\x22'), ('\\', '\\'), ('/', '/'), ('N', '\u0085'),
   ('_', '\u00a0'), ('L', '\u2028'), ('P', '\u2029')]

/-- how many digits follow the letter of an escape by code -/
def codeLength? (c : Char) : Option Nat :=
  if c = 'x' then some 2 else if c = 'u' then some 4 else if c = 'U' then some 8 else none

def hexDigit? (c : Char) : Option Nat :=
  if '0' ≤ c && c ≤ '9' then some (c.toNat - '0'.toNat)
  else if 'a' ≤ c && c ≤ 'f' then some (c.toNat - 'a'.toNat + 10)
  else if 'A' ≤ c && c ≤ 'F' then some (c.toNat - 'A'.toNat + 10)
  else none

/-! ## Text -/

/-- where a reader stands: in a line after some spaces, after line ends, or inside an escape -/
inductive State where
  | line (spaces : List Char)
  | broken (first : Option Char) (more : List Char)
  /-- after a backslash, or after a single quote, which closes the scalar unless another one follows -/
  | escape
  | code (left value : Nat)

/-- what line ends stand for: `first` is the one that may become a space, an escaped one is nothing -/
def folded (first : Option Char) (more : List Char) : List Char :=
  match first with
  | none => more.reverse
  | some c => if c = '\n' then (if more.isEmpty then [' '] else more.reverse) else c :: more.reverse

/-- the codes so far, backwards, with the spaces or line ends that have been passed -/
def State.settled (out : List Nat) : State → List Nat
  | .line spaces => spaces.map Char.toNat ++ out
  | .broken first more => (folded first more).reverse.map Char.toNat ++ out
  | _ => out

/-- whether the next character is read as itself, and not as a part of an escape -/
def State.isOpen : State → Bool
  | .line _ | .broken _ _ => true
  | _ => false

/-- whether a line inside the quotes begins here -/
def State.beginsLine (state : State) (mark : Mark) : Bool :=
  match state with
  | .broken _ _ => mark.column == 0
  | _ => false

/-- reads one digit of a code -/
def digitStep (out : List Nat) (left value : Nat) (c : Char) : Except Fault (List Nat × State) :=
  match hexDigit? c with
  | none => .error (.malformed .badEscape)
  | some d =>
    let value := value * 16 + d
    if 1 < left then .ok (out, .code (left - 1) value)
    else if 0x80000000 ≤ value then .error .hugeCodePoint
    else if 0x110000 ≤ value then .error .badCodePoint
    else .ok (value :: out, .line [])

/-- reads one character; `out` holds the codes so far, backwards -/
def step (double : Bool) (out : List Nat) (state : State) (c : Char) : Except Fault (List Nat × State) :=
  match state with
  | .escape =>
    if !double then .ok (c.toNat :: out, .line [])
    else match escapes.lookup c, codeLength? c with
      | some d, _ => .ok (d.toNat :: out, .line [])
      | none, some n => .ok (out, .code n 0)
      | none, none => if isBreak c then .ok (out, .broken none []) else .error (.malformed .badEscape)
  | .code left value => digitStep out left value c
  | .line spaces =>
    if isSpace c then .ok (out, .line (c :: spaces))
    else if isBreak c then .ok (out, .broken (some (breakText c)) [])
    else .ok (begin c)
  | .broken first more =>
    if isSpace c then .ok (out, .broken first more)
    else if isBreak c then .ok (out, .broken first (breakText c :: more))
    else .ok (begin c)
where
  begin (c : Char) : List Nat × State :=
    if c = (if double then '\\' else '\x27') then (state.settled out, .escape)
    else (c.toNat :: state.settled out, .line [])

/-- reads to the closing quote; what is left stands after the codes, which are backwards -/
def readFrom (double : Bool) (out : List Nat) (state : State) (mark : Mark) :
    List Char → Except Fault (List Nat × Cursor)
  | [] => if !double && !state.isOpen then .ok (out, ⟨[], mark⟩) else .error (.malformed .unclosedQuote)
  | c :: rest =>
    if !double && !state.isOpen && c ≠ '\x27' then .ok (out, ⟨c :: rest, mark⟩)
    else if double && state.isOpen && c = '\x22' then .ok (state.settled out, ⟨rest, mark.after c⟩)
    else if state.beginsLine mark && startsSeparator (c :: rest) then .error (.malformed .separatorInQuote)
    else do
      let (out, state) ← step double out state c
      readFrom double out state (mark.after c) rest

/-- the text of the scalar whose opening quote is at a cursor -/
def read (double : Bool) (c : Cursor) : Except Fault (String × Cursor) := do
  let start := c.skip 1
  let (out, after) ← readFrom double [] (.line []) start.mark start.rest
  return (String.ofList (charsOfCodes out.reverse), after)

end CatalogLint.Yaml.QuotedScalar
