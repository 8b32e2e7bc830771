/-
Tags: what kind of value a node stands for. A tag is written out by its name, or it follows from the text of a plain
scalar (`Tag.ofPlain`): words for truth values and for nothing, numbers in several notations, days and moments, and two
marks that mean something in mappings only. Every other plain scalar is a text.
-/
import CatalogLint.Yaml.Stamp

namespace CatalogLint.Yaml

inductive Tag where
  | null | bool | int | float | stamp | text | bytes
  | sequence | mapping | set
  /-- lists of single entries -/
  | pairs
  /-- the key of mappings to merge -/
  | merge
  /-- the key of the value that stands for a whole mapping -/
  | value
  | other
  deriving DecidableEq

namespace Tag

/-- the names of the common tags start with this -/
def commonPrefix : String := "tag:yaml.org,2002:"

def common : List (String × Tag) :=
  [("null", .null), ("bool", .bool), ("int", .int), ("float", .float), ("timestamp", .stamp), ("str", .text),
   ("binary", .bytes), ("seq", .sequence), ("map", .mapping), ("set", .set), ("omap", .pairs), ("pairs", .pairs),
   ("merge", .merge), ("value", .value)]

/-- a tag by its whole name -/
def ofName (name : String) : Tag :=
  ((common.find? fun (short, _) => commonPrefix ++ short == name).map Prod.snd).getD .other

def isCollection : Tag → Bool
  | .sequence | .mapping | .set | .pairs => true
  | _ => false

/-! ## Words -/

def nullWords : List String := ["", "~", "null", "Null", "NULL"]

def boolWords : List String :=
  ["yes", "Yes", "YES", "no", "No", "NO", "true", "True", "TRUE", "false", "False", "FALSE", "on", "On", "ON",
   "off", "Off", "OFF"]

def infinityWords : List String := [".inf", ".Inf", ".INF"]

def nanWords : List String := [".nan", ".NaN", ".NAN"]

/-! ## Numbers -/

/-- the characters of decimal numbers after the first digit -/
def isDigitOrGap (c : Char) : Bool := c.isDigit || c == '_'

def isOctalDigit (c : Char) : Bool := '0' ≤ c && c ≤ '7'

def isHexDigit (c : Char) : Bool := c.isDigit || ('a' ≤ c && c ≤ 'f') || ('A' ≤ c && c ≤ 'F')

/-- whether digits of a base, with gaps allowed, fill a text -/
def isFilled (digit : Char → Bool) (cs : List Char) : Bool := !cs.isEmpty && cs.all fun c => digit c || c == '_'

/-- the further places of a number in base sixty: a colon and a number below sixty, at least once -/
def isSixties : List Char → Bool
  | [':', d] => d.isDigit
  | ':' :: d :: ':' :: rest => d.isDigit && isSixties (':' :: rest)
  | ':' :: t :: d :: rest => '0' ≤ t && t ≤ '5' && d.isDigit && (rest.isEmpty || isSixties rest)
  | _ => false

/-- a whole number without a sign: binary, hexadecimal, octal, decimal or in base sixty -/
def isNatural : List Char → Bool
  | '0' :: 'b' :: rest => isFilled (fun c => c == '0' || c == '1') rest
  | '0' :: 'x' :: rest => isFilled isHexDigit rest
  | '0' :: rest => rest.isEmpty || isFilled isOctalDigit rest
  | c :: rest =>
    let places := rest.dropWhile isDigitOrGap
    c.isDigit && (places.isEmpty || isSixties places)
  | [] => false

def isInteger (cs : List Char) : Bool := isNatural (Numeral.splitSign cs).2

/-- nothing, or a power of ten with its sign -/
def isPower : List Char → Bool
  | [] => true
  | e :: sign :: digits =>
    (e == 'e' || e == 'E') && (sign == '+' || sign == '-') && !digits.isEmpty && digits.all Char.isDigit
  | _ => false

/-- what may follow the point of a decimal -/
def isFraction (cs : List Char) : Bool := isPower (cs.dropWhile isDigitOrGap)

/-- a decimal that starts with a digit: with a point, and perhaps a power or places of base sixty -/
def isPointed (cs : List Char) : Bool :=
  cs.head?.any Char.isDigit &&
    match cs.dropWhile isDigitOrGap with
    | '.' :: rest => isFraction rest
    | places =>
      match places.span (· != '.') with
      | (sixties, '.' :: rest) => isSixties sixties && rest.all isDigitOrGap
      | _ => false

/-- a decimal that starts with the point -/
def isLeadingPoint : List Char → Bool
  | '.' :: d :: rest => d.isDigit && isFraction rest
  | _ => false

def isDecimal (cs : List Char) : Bool :=
  let unsigned := (Numeral.splitSign cs).2
  isPointed unsigned || isLeadingPoint cs || infinityWords.contains (String.ofList unsigned) ||
    nanWords.contains (String.ofList cs)

/-- a day with two digits for the month and for the day, or a moment -/
def isStamp (cs : List Char) : Bool :=
  match Stamp.ofChars? cs with
  | some s => s.clock.isSome || cs.length == 10
  | none => false

/-! ## Plain scalars -/

/-- a text without a line end at its end; a lone line end stays -/
def dropLineEnd (cs : List Char) : List Char :=
  if cs.getLast? = some '\n' && cs != ['\n'] then cs.dropLast else cs

/-- the tag that follows from the text of a plain scalar -/
def ofPlain (text : String) : Tag :=
  let cs := dropLineEnd text.toList
  let word := String.ofList cs
  if word ∈ boolWords then .bool
  else if isDecimal cs then .float
  else if isInteger cs then .int
  else if word = "<<" then .merge
  else if word ∈ nullWords then .null
  else if isStamp cs then .stamp
  else if word = "=" then .value
  else if word ∈ ["!", "&", "*"] then .other
  else .text

end Tag

end CatalogLint.Yaml
