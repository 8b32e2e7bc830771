/-
Names in the text: of anchors, of directives and of tags. A tag is written with a handle and a suffix, as a whole
between angle brackets, or as a lone mark; suffixes are addresses, in which a character may be written by the codes of
its bytes.
-/
import CatalogLint.Yaml.Cursor
import CatalogLint.Yaml.Fault
import CatalogLint.Yaml.QuotedScalar
import CatalogLint.Yaml.Token

namespace CatalogLint.Yaml.TagName

/-- a name of an anchor or an alias, after its mark -/
def anchorName (c : Cursor) : Except Fault (String × Cursor) :=
  let (name, after) := (c.skip 1).span isNameChar
  let closes := endsWord after.peek || after.peek.any fun x => "?:,]\x7d%@\x60".toList.contains x
  if name.isEmpty || !closes then .error (.malformed .badName) else .ok (String.ofList name, after)

/-! ## Addresses -/

def isUriChar (c : Char) : Bool :=
  c.isAlphanum || "-;/?:@&=+$,_.!~*\x27()[]".toList.contains c

/-- the bytes that start here, two digits after a percent sign each -/
def escapedBytes : List Char → Except Fault (List UInt8 × List Char)
  | '%' :: a :: b :: rest =>
    match QuotedScalar.hexDigit? a, QuotedScalar.hexDigit? b with
    | some x, some y => do
      let (bytes, left) ← escapedBytes rest
      return (UInt8.ofNat (x * 16 + y) :: bytes, left)
    | _, _ => .error (.malformed .badUri)
  | '%' :: _ => .error (.malformed .badUri)
  | rest => .ok ([], rest)

/-- an address with its escapes read -/
def decoded : Nat → List Char → Except Fault (List Char)
  | 0, _ | _, [] => .ok []
  | fuel + 1, c :: rest =>
    if c = '%' then do
      let (bytes, left) ← escapedBytes (c :: rest)
      match String.fromUTF8? ⟨bytes.toArray⟩ with
      | none => throw (.malformed .badUri)
      | some s => return s.toList ++ (← decoded fuel left)
    else return c :: (← decoded fuel rest)

/-- the address at a cursor -/
def uri (c : Cursor) : Except Fault (String × Cursor) := do
  let (written, after) := c.span fun x => isUriChar x || x == '%'
  if written.isEmpty then throw (.malformed .badUri)
  return (String.ofList (← decoded written.length written), after)

/-! ## Tags -/

/-- a handle: a mark, or a name between two marks -/
def handle (c : Cursor) : Except Fault (String × Cursor) :=
  if c.peek ≠ some '!' then .error (.malformed .badTag)
  else if c.peekSecond = some ' ' then .ok ("!", c.skip 1)
  else
    let (name, after) := (c.skip 1).span isNameChar
    if after.peek = some '!' then .ok ("!" ++ String.ofList name ++ "!", after.skip 1)
    else .error (.malformed .badTag)

/-- whether a second mark comes before the end of the item, so that the tag has a handle -/
def hasHandle (cs : List Char) : Bool :=
  (cs.takeWhile fun c => !endsItem (some c)).contains '!'

/-- the tag at a cursor -/
def tag (c : Cursor) : Except Fault (Token × Cursor) := do
  let (token, after) ←
    if c.peekSecond = some '<' then do
      let (suffix, after) ← uri (c.skip 2)
      if after.peek ≠ some '>' then throw (.malformed .badTag)
      pure (Token.tag none suffix, after.skip 1)
    else if endsWord c.peekSecond then pure (Token.tag none "!", c.skip 1)
    else do
      let (name, afterHandle) ← if hasHandle (c.rest.drop 1) then handle c else pure ("!", c.skip 1)
      let (suffix, after) ← uri afterHandle
      pure (Token.tag (some name) suffix, after)
  if endsItem after.peek then return (token, after) else throw (.malformed .badTag)

/-! ## Directives -/

/-- a number of a version -/
def number (c : Cursor) : Except Fault (Nat × Cursor) :=
  let (digits, after) := c.span Char.isDigit
  if digits.isEmpty then .error (.malformed .badDirective)
  else if Numeral.digitLimit < digits.length then .error (.tooManyDigits digits.length)
  else .ok (digits.foldl (fun n d => n * 10 + (d.toNat - '0'.toNat)) 0, after)

def isBlank (c : Char) : Bool := c == ' '

/-- a version: two numbers around a point -/
def version (c : Cursor) : Except Fault (Directive × Cursor) := do
  let (major, after) ← number (c.dropWhile isBlank)
  if after.peek ≠ some '.' then throw (.malformed .badDirective)
  let (_, after) ← number (after.skip 1)
  if endsItem after.peek then return (.version major, after) else throw (.malformed .badDirective)

/-- a handle and what it stands for -/
def handleDirective (c : Cursor) : Except Fault (Directive × Cursor) := do
  let (name, after) ← handle (c.dropWhile isBlank)
  if after.peek ≠ some ' ' then throw (.malformed .badDirective)
  let (expansion, after) ← uri (after.dropWhile isBlank)
  if endsItem after.peek then return (.handle name expansion, after) else throw (.malformed .badDirective)

/-- the directive at a cursor, to the end of its line -/
def directive (c : Cursor) : Except Fault (Directive × Cursor) := do
  let (name, after) := (c.skip 1).span isNameChar
  if name.isEmpty || !endsItem after.peek then throw (.malformed .badDirective)
  let (d, after) ←
    if name = "YAML".toList then version after
    else if name = "TAG".toList then handleDirective after
    else pure (.other, after.dropWhile (!isBreak ·))
  let lineEnd := (after.dropWhile isBlank).dropComment
  if endsLine lineEnd.peek then return (d, lineEnd.skip 1) else throw (.malformed .badDirective)

end CatalogLint.Yaml.TagName
