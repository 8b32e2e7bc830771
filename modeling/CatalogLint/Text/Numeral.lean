/-
Numbers as people write them: whole numbers in a base (`integer`) and decimals with a point and a power of ten
(`decimal?`). Blanks around a number do not count, digits may come from any script, and nothing else may stand beside
them. `readDigits` is the positional value both are built on. Whole numbers in base ten have at most `digitLimit`
digits; a number that came from elsewhere and is longer cannot be written out.
-/
import CatalogLint.Decimal.Binary64
import CatalogLint.Text.Ranges

namespace CatalogLint.Numeral

/-- the zeros of the decimal digits of Unicode 14; nine more digits follow each -/
def zeros : List Nat :=
  [0x30, 0x660, 0x6f0, 0x7c0, 0x966, 0x9e6, 0xa66, 0xae6, 0xb66, 0xbe6, 0xc66, 0xce6, 0xd66, 0xde6, 0xe50, 0xed0,
   0xf20, 0x1040, 0x1090, 0x17e0, 0x1810, 0x1946, 0x19d0, 0x1a80, 0x1a90, 0x1b50, 0x1bb0, 0x1c40, 0x1c50, 0xa620,
   0xa8d0, 0xa900, 0xa9d0, 0xa9f0, 0xaa50, 0xabf0, 0xff10, 0x104a0, 0x10d30, 0x11066, 0x110f0, 0x11136, 0x111d0,
   0x112f0, 0x11450, 0x114d0, 0x11650, 0x116c0, 0x11730, 0x118e0, 0x11950, 0x11c50, 0x11d50, 0x11da0, 0x16a60,
   0x16ac0, 0x16b50, 0x1d7ce, 0x1d7d8, 0x1d7e2, 0x1d7ec, 0x1d7f6, 0x1e140, 0x1e2f0, 0x1e950, 0x1fbf0]

/-- the white space of Unicode -/
def blankRanges : List (Nat × Nat) :=
  [(0x9, 0xd), (0x20, 0x20), (0x85, 0x85), (0xa0, 0xa0), (0x1680, 0x1680), (0x2000, 0x200a), (0x2028, 0x2029),
   (0x202f, 0x202f), (0x205f, 0x205f), (0x3000, 0x3000)]

def isBlank (c : Char) : Bool := Text.inRanges blankRanges c.toNat

/-- the value of a decimal digit of any script -/
def decimalDigit? (c : Char) : Option Nat :=
  (zeros.find? fun z => z ≤ c.toNat && c.toNat < z + 10).map (c.toNat - ·)

/-- the value of a digit, where the letters go on after nine -/
def digit? (c : Char) : Option Nat :=
  if 'a' ≤ c && c ≤ 'z' then some (c.toNat - 'a'.toNat + 10)
  else if 'A' ≤ c && c ≤ 'Z' then some (c.toNat - 'A'.toNat + 10)
  else decimalDigit? c

/-- the value of the digits in a base, if all are digits of it and there is at least one -/
def readDigits (base : Nat) (cs : List Char) : Option Nat :=
  if cs.isEmpty then none
  else cs.foldlM (fun n c => match digit? c with
    | some d => if d < base then some (n * base + d) else none
    | none => none) 0

/-- a text without the blanks around it -/
def trim (cs : List Char) : List Char :=
  ((cs.dropWhile isBlank).reverse.dropWhile isBlank).reverse

/-- splits off a sign; true stands for minus -/
def splitSign : List Char → Bool × List Char
  | '-' :: rest => (true, rest)
  | '+' :: rest => (false, rest)
  | cs => (false, cs)

/-- the digits after the mark of a base, when the text has one -/
def dropBaseMark (base : Nat) : List Char → List Char
  | '0' :: c :: rest =>
    if (base == 2 && (c == 'b' || c == 'B')) || (base == 8 && (c == 'o' || c == 'O')) ||
      (base == 16 && (c == 'x' || c == 'X')) then rest else '0' :: c :: rest
  | cs => cs

/-! ## Whole numbers -/

/-- the most digits of a whole number in base ten, when it is read and when it is written -/
def digitLimit : Nat := 4300

/-- what is said of a number beyond the limit -/
def limitText (detail : String) : String :=
  s!"Exceeds the limit ({digitLimit} digits) for integer string conversion" ++ detail ++
    "; use sys.set_int_max_str_digits() to increase the limit"

/-- whether a whole number has no more digits than may be written -/
def isWritable (n : Int) : Bool := Binary64.digitCount n.natAbs ≤ digitLimit

/-- why a text is no whole number -/
inductive IntegerFault where
  | malformed
  | tooLong (digits : Nat)
  deriving DecidableEq

/-- how many digits of a base stand at the start of a text -/
def leadingDigits (base : Nat) (cs : List Char) : Nat :=
  (cs.takeWhile fun c => (digit? c).any (· < base)).length

/-- a whole number with an optional sign and an optional mark of its base; the limit holds in base ten only -/
def integer (base : Nat) (cs : List Char) : Except IntegerFault Int :=
  let (negative, body) := splitSign (trim cs)
  let digits := dropBaseMark base body
  if base = 10 && digitLimit < leadingDigits base digits then .error (.tooLong (leadingDigits base digits))
  else
    match readDigits base digits with
    | some n => .ok (if negative then -(n : Int) else n)
    | none => .error .malformed

/-! ## Decimals -/

/-- the power of ten after the letter, which is zero when nothing is left -/
def power? : List Char → Option Int
  | [] => some 0
  | e :: rest =>
    if e = 'e' || e = 'E' then
      let (negative, digits) := splitSign rest
      (readDigits 10 digits).map fun n => if negative then -(n : Int) else n
    else none

def isDecimalDigit (c : Char) : Bool := (decimalDigit? c).isSome

/-- a decimal without a sign: digits, perhaps a point with more digits, perhaps a power of ten -/
def unsigned? (negative : Bool) (cs : List Char) : Option Binary64 := do
  let (whole, rest) := cs.span isDecimalDigit
  let (places, tail) := match rest with
    | '.' :: more => more.span isDecimalDigit
    | _ => ([], rest)
  let digits ← readDigits 10 (whole ++ places)
  let power ← power? tail
  some (.ofDecimal negative digits (power - places.length))

/-- a decimal with an optional sign, or one of the words for infinity and for no number -/
def decimal? (cs : List Char) : Option Binary64 :=
  let (negative, body) := splitSign (trim cs)
  let word := String.ofList (body.map Char.toLower)
  if word = "inf" || word = "infinity" then some (.infinite negative)
  else if word = "nan" then some .nan
  else unsigned? negative body

end CatalogLint.Numeral
