/-
The text of a floating-point number: the fewest decimal digits that read back as the same number, and of those the
nearest to its value. `shortest` tries one digit, then two, and so on; with each count it looks at the two decimals
around the value. `text` lays the digits out: positionally from 10^-4 up to 10^16, else with a power of ten.
-/
import CatalogLint.Decimal.Binary64

namespace CatalogLint.Binary64

/-! ## Digits -/

/-- the power of ten at or below a positive quotient -/
def decimalOrder (num den : Nat) : Int :=
  if den ≤ num then digitCount (num / den) - 1
  else
    let count := digitCount (den / num)
    if den ≤ num * Nat.pow 10 (count - 1) then 1 - (count : Int) else -(count : Int)

/-- whether `digits · 10 ^ power` reads as the number with the given magnitude word -/
def readsBack (word : Nat) (digits : Nat) (power : Int) : Bool :=
  match ofDecimal false digits power with
  | .finite _ w => w.val == word
  | _ => false

/-- of the two decimals with a given last place around a magnitude, the nearest that reads back -/
def nearestAt (word : Nat) (power : Int) : Option Nat :=
  let (num, den) := magnitude word
  let (n, d) := scaleDown 10 num den power
  let below := n / d
  match readsBack word below power, readsBack word (below + 1) power with
  | true, true =>
    let twice := 2 * (n % d)
    some (if twice < d || (twice == d && below % 2 == 0) then below else below + 1)
  | true, false => some below
  | false, true => some (below + 1)
  | false, false => none

/-- tries `tries` digit counts in turn, from the place `power` on to finer ones; seventeen digits always read back -/
def shortestFrom (word : Nat) : Nat → Int → Nat × Int
  | 0, power => let (num, den) := magnitude word; let (n, d) := scaleDown 10 num den power; (roundDiv n d, power)
  | tries + 1, power =>
    match nearestAt word power with
    | some digits => (digits, power)
    | none => shortestFrom word tries (power - 1)

/-- the shortest decimal `digits · 10 ^ power` that reads back as a positive magnitude -/
def shortest (word : Nat) : Nat × Int :=
  let (num, den) := magnitude word
  shortestFrom word 16 (decimalOrder num den)

/-! ## Layout -/

/-- the digits of a number without the zeros at its end -/
def trimmedDigits (n : Nat) : List Char :=
  match ((Nat.toDigits 10 n).reverse.dropWhile (· == '0')).reverse with
  | [] => ['0']
  | cs => cs

/-- digits around a point, the first of them standing for `10 ^ order` -/
def positional (digits : List Char) : Int → List Char
  | .negSucc k => '0' :: '.' :: List.replicate k '0' ++ digits
  | .ofNat k =>
    let whole := digits.take (k + 1)
    let rest := digits.drop (k + 1)
    whole ++ List.replicate (k + 1 - digits.length) '0' ++ '.' :: (if rest.isEmpty then ['0'] else rest)

/-- digits with a power of ten, which has a sign and at least two digits -/
def scientific (digits : List Char) (order : Int) : List Char :=
  let power := Nat.toDigits 10 order.natAbs
  let rest := digits.drop 1
  digits.take 1 ++ (if rest.isEmpty then [] else '.' :: rest) ++
    'e' :: (if order < 0 then '-' else '+') :: List.replicate (2 - power.length) '0' ++ power

/-- the text of a magnitude -/
def magnitudeText (word : Nat) : List Char :=
  if word = 0 then ['0', '.', '0']
  else
    let (n, power) := shortest word
    let order := power + digitCount n - 1
    let digits := trimmedDigits n
    if -4 ≤ order && order < 16 then positional digits order else scientific digits order

/-- the text of a number -/
def text : Binary64 → String
  | .nan => "nan"
  | .infinite negative => if negative then "-inf" else "inf"
  | .finite negative word =>
    String.ofList ((if negative then ['-'] else []) ++ magnitudeText word)

end CatalogLint.Binary64
