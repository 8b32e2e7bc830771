/-
Texts and bytes as quoted literals. A literal stands in single quotes, or in double quotes when the text holds a single
quote and no double one. The quote in use and the backslash are escaped, a character that cannot be printed is written
by its code, and everything else stands as it is. Bytes are marked with a letter before the quote, and of them only the
characters of ASCII stand as they are.
-/
import CatalogLint.Text.PrintableTable
import CatalogLint.Text.Ranges

namespace CatalogLint.Text

def isPrintable (c : Char) : Bool := inRanges printableRanges c.toNat

/-- the lower-case digits of a number in base sixteen, with zeros in front up to a width -/
def hexPadded (width n : Nat) : List Char :=
  let digits := Nat.toDigits 16 n
  List.replicate (width - digits.length) '0' ++ digits

/-- a character by its code, in two, four or eight digits -/
def codeEscape (n : Nat) : List Char :=
  if n < 0x100 then '\\' :: 'x' :: hexPadded 2 n
  else if n < 0x10000 then '\\' :: 'u' :: hexPadded 4 n
  else '\\' :: 'U' :: hexPadded 8 n

/-- a character inside a literal with the given quote -/
def escapeChar (quote c : Char) : List Char :=
  if c = quote || c = '\\' then ['\\', c]
  else if c = '\n' then ['\\', 'n']
  else if c = '\t' then ['\\', 't']
  else if c = '\r' then ['\\', 'r']
  else if isPrintable c then [c]
  else codeEscape c.toNat

/-- the quote that a text is written in -/
def quoteFor (cs : List Char) : Char :=
  if cs.contains '\x27' && !cs.contains '\x22' then '\x22' else '\x27'

/-- a text as a quoted literal -/
def quoted (s : String) : String :=
  let quote := quoteFor s.toList
  String.ofList (quote :: s.toList.flatMap (escapeChar quote) ++ [quote])

/-- a byte inside a literal with the given quote -/
def escapeByte (quote : Char) (b : UInt8) : List Char :=
  if b.toNat < 0x80 then escapeChar quote (Char.ofNat b.toNat) else codeEscape b.toNat

/-- bytes as a quoted literal -/
def quotedBytes (bytes : List UInt8) : String :=
  let quote := quoteFor (bytes.map fun b => Char.ofNat b.toNat)
  String.ofList ('b' :: quote :: bytes.flatMap (escapeByte quote) ++ [quote])

end CatalogLint.Text
