/-
Values of scalar nodes: what the text of a scalar denotes under its tag. A text need not denote anything under a tag
that was written out, so a value may be at fault. Underscores in numbers do not count, and a number with colons is in
base sixty.
-/
import CatalogLint.Text.Base64
import CatalogLint.Text.Case
import CatalogLint.Text.Split
import CatalogLint.Yaml.Fault
import CatalogLint.Yaml.Tag

namespace CatalogLint.Yaml.Value

/-- a text without its underscores -/
def withoutGaps (text : String) : List Char := text.toList.filter (· ≠ '_')

/-- the places of a number in base sixty, which colons part -/
def places (cs : List Char) : List (List Char) := Text.split ':' cs

/-! ## Whole numbers -/

def integerIn (base : Nat) (cs : List Char) : Except Fault Int :=
  match Numeral.integer base cs with
  | .ok n => .ok n
  | .error .malformed => .error (.badInteger base (String.ofList cs))
  | .error (.tooLong digits) => .error (.tooManyDigits digits)

/-- a number in base sixty, its places written in base ten -/
def sixties (cs : List Char) : Except Fault Int := do
  return (← (places cs).mapM (integerIn 10)).foldl (fun n d => n * 60 + d) 0

/-- a whole number without its sign -/
def natural : List Char → Except Fault Int
  | [] => .error .emptyNumber
  | ['0'] => .ok 0
  | '0' :: 'b' :: digits => integerIn 2 digits
  | '0' :: 'x' :: digits => integerIn 16 digits
  | '0' :: digits => integerIn 8 ('0' :: digits)
  | digits => if ':' ∈ digits then sixties digits else integerIn 10 digits

def integer (text : String) : Except Fault Int :=
  let (negative, body) := Numeral.splitSign (withoutGaps text)
  (natural body).map fun n => if negative then -n else n

/-! ## Decimals -/

def decimalFrom (cs : List Char) : Except Fault Binary64 :=
  match Numeral.decimal? cs with
  | some x => .ok x
  | none => .error (.badDecimal (String.ofList cs))

/-- the sum of places in base sixty, taken from the last place on; the worth of a place must be a number -/
def sumPlaces (parts : List Binary64) : Except Fault Binary64 := do
  let (sum, _) ← parts.reverse.foldlM (fun (sum, unit) x =>
    match Binary64.ofNat? unit with
    | some worth => .ok (sum.add (x.mul worth), unit * 60)
    | none => .error .hugePlace) (Binary64.zero false, 1)
  return sum

/-- the word for no number -/
def nanWord : List Char := ['.', 'n', 'a', 'n']

/-- a decimal without its sign -/
def unsigned (cs : List Char) : Except Fault Binary64 := do
  if String.ofList cs = ".inf" then return .infinite false
  else if cs = nanWord then return .nan
  else if ':' ∈ cs then sumPlaces (← (places cs).mapM decimalFrom)
  else decimalFrom cs

/-- the letters of a decimal in lower case, and without gaps -/
def decimalText (text : String) : List Char := (Text.lower (String.ofList (withoutGaps text))).toList

def decimal (text : String) : Except Fault Binary64 :=
  let cs := decimalText text
  if cs.isEmpty then .error .emptyNumber
  else
    let (negative, body) := Numeral.splitSign cs
    (unsigned body).map fun x => if negative then x.negate else x

/-- whether a text is the word for no number, perhaps with a sign -/
def isNanWord (text : String) : Bool := (Numeral.splitSign (decimalText text)).2 = nanWord

/-! ## Words, days and bytes -/

def truth (text : String) : Except Fault Bool :=
  let word := Text.lower text
  if word = "yes" || word = "true" || word = "on" then .ok true
  else if word = "no" || word = "false" || word = "off" then .ok false
  else .error (.badTruth word)

def stamp (text : String) : Except Fault Scalar :=
  match Stamp.ofChars? (Tag.dropLineEnd text.toList) with
  | some s => s.scalar.mapError .badCalendar
  | none => .error .notAStamp

def bytes (text : String) : Except Fault Scalar :=
  if text.toList.all (·.toNat < 0x80) then
    match Text.Base64.decode text.toList with
    | some b => .ok (.bytes b)
    | none => .error (.malformed .badBytes)
  else .error (.malformed .badBytes)

/-- what a text denotes under a tag of scalars -/
def ofText (tag : Tag) (text : String) : Except Fault Scalar :=
  match tag with
  | .null => .ok .null
  | .bool => (truth text).map .bool
  | .int => (integer text).map .int
  | .float => (decimal text).map .float
  | .stamp => stamp text
  | .text => .ok (.text text)
  | .bytes => bytes text
  | _ => .error (.malformed .unknownTag)

end CatalogLint.Yaml.Value
