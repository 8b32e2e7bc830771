/-
Binary floating-point numbers of 64 bits as exact values. A finite number is a sign and a magnitude word (biased
exponent and fraction), so its value is `significand · 2 ^ exponent`. `ofRatio` rounds a quotient of natural numbers to
the nearest number, a tie going to the even significand, and everything else is built on it: decimals (`ofDecimal`),
sums (`add`) and products (`mul`). No operation of the machine's own floating-point arithmetic is involved.
-/
namespace CatalogLint

/-- how many fractions there are for each exponent -/
abbrev Binary64.fractions : Nat := Nat.pow 2 52

/-- one more than the greatest magnitude word of a finite number -/
abbrev Binary64.wordLimit : Nat := 2047 * Binary64.fractions

/-- a binary floating-point number of 64 bits -/
inductive Binary64 where
  | nan : Binary64
  | infinite (negative : Bool) : Binary64
  | finite (negative : Bool) (word : Fin Binary64.wordLimit) : Binary64
  deriving DecidableEq

namespace Binary64

def zero (negative : Bool) : Binary64 := .finite negative ⟨0, by decide⟩

/-- the significand of a magnitude word, with the leading bit that normal numbers leave out -/
def significand (word : Nat) : Nat :=
  if word < fractions then word else word % fractions + fractions

/-- the power of two that one unit of the significand stands for -/
def exponent (word : Nat) : Int :=
  ((if word < fractions then 1 else word / fractions : Nat) : Int) - 1075

/-- the value of a magnitude word as a quotient -/
def magnitude (word : Nat) : Nat × Nat :=
  match exponent word with
  | .ofNat e => (significand word * Nat.pow 2 e, 1)
  | .negSucc e => (significand word, Nat.pow 2 (e + 1))

/-! ## Rounding -/

/-- a quotient rounded to the nearest whole number, a tie going to the even one -/
def roundDiv (num den : Nat) : Nat :=
  let q := num / den
  let twice := 2 * (num % den)
  if twice < den || (twice == den && q % 2 == 0) then q else q + 1

/-- the quotient `num / den` divided by a power of a base -/
def scaleDown (base num den : Nat) : Int → Nat × Nat
  | .ofNat k => (num, den * Nat.pow base k)
  | .negSucc k => (num * Nat.pow base (k + 1), den)

/-- the power of two at or below a positive quotient -/
def binaryOrder (num den : Nat) : Int :=
  let guess : Int := num.log2 - den.log2
  let (n, d) := scaleDown 2 num den guess
  if n < d then guess - 1 else guess

/-- the number nearest to a quotient -/
def ofRatio (negative : Bool) (num den : Nat) : Binary64 :=
  if num = 0 then zero negative
  else
    let order := binaryOrder num den
    let unit : Int := if order < -1022 then -1074 else order - 52
    let (n, d) := scaleDown 2 num den unit
    let word := (unit + 1074).toNat * fractions + roundDiv n d
    if h : word < wordLimit then .finite negative ⟨word, h⟩ else .infinite negative

/-- how many digits a natural number has in base ten -/
def digitCount (n : Nat) : Nat := (Nat.toDigits 10 n).length

/-- the number nearest to `digits · 10 ^ power`; far outside the range the answer is known without the power -/
def ofDecimal (negative : Bool) (digits : Nat) (power : Int) : Binary64 :=
  if digits = 0 then zero negative
  else
    let order := power + digitCount digits
    if order < -330 then zero negative
    else if 320 < order then .infinite negative
    else
      let (n, d) := scaleDown 10 digits 1 (-power)
      ofRatio negative n d

/-- the number nearest to a natural number, if it is finite -/
def ofNat? (n : Nat) : Option Binary64 :=
  match ofRatio false n 1 with
  | .finite negative word => some (.finite negative word)
  | _ => none

/-! ## Values -/

/-- the value of a finite number as a quotient with a positive denominator -/
def ratio? : Binary64 → Option (Int × Nat)
  | .finite negative word =>
    let (n, d) := magnitude word
    some (if negative then -(n : Int) else n, d)
  | _ => none

/-- the whole number that a number is equal to, if there is one -/
def toInt? (x : Binary64) : Option Int :=
  match x.ratio? with
  | some (n, d) => if n % d = 0 then some (n / d) else none
  | none => none

def negate : Binary64 → Binary64
  | .nan => .nan
  | .infinite negative => .infinite !negative
  | .finite negative word => .finite (!negative) word

/-! ## Arithmetic -/

/-- the number nearest to a sum; infinities of both signs have none, and a sum of zeros is negative when both are -/
def add (x y : Binary64) : Binary64 :=
  match x, y with
  | .nan, _ => .nan
  | _, .nan => .nan
  | .infinite a, .infinite b => if a = b then .infinite a else .nan
  | .infinite a, .finite _ _ => .infinite a
  | .finite _ _, .infinite b => .infinite b
  | .finite a v, .finite b w =>
    let (n, d) := magnitude v
    let (m, e) := magnitude w
    let sum := (if a then -(n : Int) else n) * e + (if b then -(m : Int) else m) * d
    if sum = 0 then zero (a && b) else ofRatio (decide (sum < 0)) sum.natAbs (d * e)

/-- the number nearest to a product; zero times infinity is no number -/
def mul (x y : Binary64) : Binary64 :=
  match x, y with
  | .nan, _ => .nan
  | _, .nan => .nan
  | .infinite a, .infinite b => .infinite (a != b)
  | .infinite a, .finite b w => if w.val = 0 then .nan else .infinite (a != b)
  | .finite a v, .infinite b => if v.val = 0 then .nan else .infinite (a != b)
  | .finite a v, .finite b w =>
    let (n, d) := magnitude v
    let (m, e) := magnitude w
    ofRatio (a != b) (n * m) (d * e)

end Binary64

end CatalogLint
