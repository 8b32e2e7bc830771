/-
From text to tokens. The lexer keeps the columns of the block collections that are open and, for every flow collection
around it, the place where a key may have begun: a key is only known for one at its colon, so its token is put in where
the key began. Such a key stands on one line and takes at most `keyLimit` characters. Every token takes at least one
character, so as many rounds as there are characters are enough.

A fault does not undo the tokens before it: those that can no longer change are certain (`Lexer.certain`), and a reader
of the tokens meets the fault only after them.
-/
import CatalogLint.Yaml.BlockScalar
import CatalogLint.Yaml.PlainScalar
import CatalogLint.Yaml.TagName

namespace CatalogLint.Yaml

/-- where a key may have begun -/
structure KeyPlace where
  mark : Mark
  /-- the number of tokens before it -/
  position : Nat
  /-- whether nothing but a key may stand here -/
  required : Bool

structure Lexer where
  cursor : Cursor
  /-- the tokens so far, backwards -/
  tokens : List Token
  /-- how many tokens there are so far -/
  count : Nat
  /-- the columns of the open block collections, innermost first -/
  indents : List Nat
  /-- where a key may have begun in the innermost flow collection, or outside of all -/
  key : Option KeyPlace
  /-- the same for the collections around it, innermost first -/
  outerKeys : List (Option KeyPlace)
  /-- whether a key may begin at the next token -/
  keysAllowed : Bool

namespace Lexer

def keyLimit : Nat := 1024

def start (cs : List Char) : Lexer := ⟨.start cs, [], 0, [], none, [], true⟩

def inFlow (l : Lexer) : Bool := !l.outerKeys.isEmpty

/-- adds tokens, given backwards, at a position -/
def insertAt (l : Lexer) (position : Nat) (ts : List Token) : Lexer :=
  let later := l.count - position
  { l with tokens := l.tokens.take later ++ ts ++ l.tokens.drop later, count := l.count + ts.length }

def push (l : Lexer) (t : Token) : Lexer := { l with tokens := t :: l.tokens, count := l.count + 1 }

def skip (l : Lexer) (n : Nat) : Lexer := { l with cursor := l.cursor.skip n }

/-! ## Keys -/

/-- whether a key that began at a place can no longer end here -/
def isStale (l : Lexer) (k : KeyPlace) : Bool :=
  k.mark.line ≠ l.cursor.mark.line || keyLimit < l.cursor.mark.index - k.mark.index

/-- forgets a key that can no longer end -/
def fresh (l : Lexer) (key : Option KeyPlace) : Except Fault (Option KeyPlace) :=
  match key with
  | some k =>
    if l.isStale k then if k.required then .error (.malformed .keyWithoutColon) else .ok none else .ok (some k)
  | none => .ok none

def dropStale (l : Lexer) : Except Fault Lexer := do
  return { l with key := ← l.fresh l.key, outerKeys := ← l.outerKeys.mapM l.fresh }

/-- gives up the key of the innermost collection -/
def dropKey (l : Lexer) : Except Fault Lexer :=
  match l.key with
  | some k => if k.required then .error (.malformed .keyWithoutColon) else .ok { l with key := none }
  | none => .ok l

/-- notes that a key may begin here -/
def saveKey (l : Lexer) : Except Fault Lexer :=
  if l.keysAllowed then do
    let l ← l.dropKey
    let required := !l.inFlow && l.indents.head? == some l.cursor.column
    return { l with key := some ⟨l.cursor.mark, l.count, required⟩ }
  else .ok l

/-! ## Block collections -/

/-- closes as many block collections, the innermost first -/
def close (l : Lexer) (n : Nat) : Lexer :=
  { l with tokens := List.replicate n .blockEnd ++ l.tokens, count := l.count + n, indents := l.indents.drop n }

/-- closes the block collections that are indented further than a column -/
def unwind (l : Lexer) (column : Nat) : Lexer :=
  if l.inFlow then l else l.close (l.indents.takeWhile (column < ·)).length

/-- closes all block collections -/
def unwindAll (l : Lexer) : Lexer :=
  if l.inFlow then l else l.close l.indents.length

/-- whether a column lies further in than the innermost block collection -/
def isDeeper (l : Lexer) (column : Nat) : Bool := l.indents.head?.all (· < column)

/-- opens a block collection at this column, unless one is open there -/
def openBlock (l : Lexer) (opening : Token) : Lexer :=
  if l.isDeeper l.cursor.column then { l.push opening with indents := l.cursor.column :: l.indents } else l

/-! ## Tokens -/

/-- a directive or a separator of documents: everything open ends before it -/
def endContent (l : Lexer) : Except Fault Lexer := do
  return { ← l.unwindAll.dropKey with keysAllowed := false }

def directive (l : Lexer) : Except Fault Lexer := do
  let l ← l.endContent
  let (d, after) ← TagName.directive l.cursor
  return { l.push (.directive d) with cursor := after }

def separator (l : Lexer) (t : Token) : Except Fault Lexer := do
  return ((← l.endContent).push t).skip 3

def openFlow (l : Lexer) (t : Token) : Except Fault Lexer := do
  let l ← l.saveKey
  return { (l.push t).skip 1 with key := none, outerKeys := l.key :: l.outerKeys, keysAllowed := true }

def closeFlow (l : Lexer) (t : Token) : Except Fault Lexer :=
  match l.outerKeys with
  | [] => .error (.malformed .unopenedCollection)
  | key :: outer => .ok { (l.push t).skip 1 with key := key, outerKeys := outer, keysAllowed := false }

def flowEntry (l : Lexer) : Except Fault Lexer := do
  return { ((← l.dropKey).push .flowEntry).skip 1 with keysAllowed := true }

def blockEntry (l : Lexer) : Except Fault Lexer := do
  if !l.inFlow && !l.keysAllowed then throw (.malformed .entryNotAllowed)
  let l ← (if l.inFlow then l else l.openBlock .blockSequenceStart).dropKey
  return { (l.push .blockEntry).skip 1 with keysAllowed := true }

def explicitKey (l : Lexer) : Except Fault Lexer := do
  if !l.inFlow && !l.keysAllowed then throw (.malformed .keyNotAllowed)
  let l ← (if l.inFlow then l else l.openBlock .blockMappingStart).dropKey
  return { (l.push .key).skip 1 with keysAllowed := !l.inFlow }

/-- a colon: it ends the key that began before it, or stands for a value without a key -/
def value (l : Lexer) : Except Fault Lexer := do
  match l.key with
  | some k =>
    let l :=
      if !l.inFlow && l.isDeeper k.mark.column then
        { l.insertAt k.position [.key, .blockMappingStart] with indents := k.mark.column :: l.indents }
      else l.insertAt k.position [.key]
    return ({ l with key := none, keysAllowed := false }.push .value).skip 1
  | none =>
    if !l.inFlow && !l.keysAllowed then throw (.malformed .valueNotAllowed)
    let l := if l.inFlow then l else l.openBlock .blockMappingStart
    return { (l.push .value).skip 1 with keysAllowed := !l.inFlow }

/-- an anchor or an alias -/
def named (l : Lexer) (token : String → Token) : Except Fault Lexer := do
  let l ← l.saveKey
  let (name, after) ← TagName.anchorName l.cursor
  return { l.push (token name) with cursor := after, keysAllowed := false }

def tag (l : Lexer) : Except Fault Lexer := do
  let l ← l.saveKey
  let (token, after) ← TagName.tag l.cursor
  return { l.push token with cursor := after, keysAllowed := false }

/-- the column that the text of a scalar may not go back beyond -/
def textIndent (l : Lexer) : Nat :=
  match l.indents with
  | [] => 0
  | i :: _ => i + 1

def blockScalar (l : Lexer) : Except Fault Lexer := do
  let l ← l.dropKey
  let (text, after) ← BlockScalar.scan l.textIndent l.cursor
  return { l.push (.scalar false text) with cursor := after, keysAllowed := true }

def quotedScalar (l : Lexer) (double : Bool) : Except Fault Lexer := do
  let l ← l.saveKey
  let (text, after) ← QuotedScalar.read double l.cursor
  return { l.push (.scalar false text) with cursor := after, keysAllowed := false }

def plainScalar (l : Lexer) : Except Fault Lexer := do
  let l ← l.saveKey
  let s := PlainScalar.scan l.inFlow l.textIndent l.cursor
  return { l.push (.scalar true (String.ofList s.text)) with cursor := s.next, keysAllowed := s.endsBroken }

/-- the token that starts with a character -/
def token (l : Lexer) (c : Char) : Except Fault Lexer :=
  let next := l.cursor.peekSecond
  let first := l.cursor.column == 0
  if c == '%' && first then l.directive
  else if c == '-' && first && startsSeparator l.cursor.rest then l.separator .documentStart
  else if c == '.' && first && startsSeparator l.cursor.rest then l.separator .documentEnd
  else if c == '[' then l.openFlow .flowSequenceStart
  else if c == '\x7b' then l.openFlow .flowMappingStart
  else if c == ']' then l.closeFlow .flowSequenceEnd
  else if c == '\x7d' then l.closeFlow .flowMappingEnd
  else if c == ',' then l.flowEntry
  else if c == '-' && endsWord next then l.blockEntry
  else if c == '?' && (l.inFlow || endsWord next) then l.explicitKey
  else if c == ':' && (l.inFlow || endsWord next) then l.value
  else if c == '*' then l.named .alias
  else if c == '&' then l.named .anchor
  else if c == '!' then l.tag
  else if (c == '|' || c == '>') && !l.inFlow then l.blockScalar
  else if c == '\x27' then l.quotedScalar false
  else if c == '\x22' then l.quotedScalar true
  else if PlainScalar.starts l.inFlow c next then l.plainScalar
  else .error (.malformed .strayCharacter)

/-! ## Between tokens -/

/-- goes over spaces, comments and line ends; a new line allows a key again outside flow collections -/
def toNext (l : Lexer) : Lexer :=
  match _h : (l.cursor.dropWhile (· == ' ')).dropComment with
  | ⟨[], mark⟩ => { l with cursor := ⟨[], mark⟩ }
  | ⟨x :: rest, mark⟩ =>
    if isBreak x then toNext { l with cursor := ⟨rest, mark.after x⟩, keysAllowed := l.keysAllowed || !l.inFlow }
    else { l with cursor := ⟨x :: rest, mark⟩ }
  termination_by l.cursor.rest.length
  decreasing_by
    have h1 := Cursor.length_dropComment_le (l.cursor.dropWhile (· == ' '))
    have h2 := Cursor.length_dropWhile_le l.cursor (· == ' ')
    simp only [_h, List.length_cons] at h1
    omega

/-- goes over a byte order mark at the start of the text -/
def dropByteOrderMark (l : Lexer) : Lexer :=
  if l.cursor.mark.index == 0 && l.cursor.peek == some '\ufeff' then l.skip 1 else l

/-- how many tokens can no longer change: those before the first place where a key may have begun -/
def certain (l : Lexer) : Nat :=
  (l.key :: l.outerKeys).foldl (fun n key => match key with
    | some k => if l.isStale k then n else min n k.position
    | none => n) l.count

/-- the lexer after one more token, or after the last one -/
def next (l : Lexer) : Except Fault (Lexer × Bool) := do
  let l ← l.dropByteOrderMark.toNext.dropStale
  let l := l.unwind l.cursor.column
  match l.cursor.peek with
  | none => return ((← l.unwindAll.dropKey).push .streamEnd, true)
  | some c => return (← l.token c, false)

end Lexer

/-- the tokens of a text; where a fault stops the lexer, they are those before it that are certain -/
structure TokenStream where
  tokens : List Token
  fault : Option Fault

/-- reads tokens to the end of the text -/
def Lexer.run : Nat → Lexer → TokenStream
  | 0, l => ⟨l.tokens.reverse, none⟩
  | fuel + 1, l =>
    match l.next with
    | .error f => ⟨(l.tokens.drop (l.count - l.certain)).reverse, some f⟩
    | .ok (l, isLast) => if isLast then ⟨l.tokens.reverse, none⟩ else run fuel l

/-- the tokens of a text -/
def TokenStream.ofText (cs : List Char) : TokenStream := Lexer.run (cs.length + 1) (.start cs)

end CatalogLint.Yaml
