/-
Written days and moments. A stamp is a day with the year first, and perhaps a time of day with a distance from
universal time. `Stamp.ofChars?` reads one as written; whether the calendar has such a day is asked only afterwards, by
`Stamp.scalar`.
-/
import CatalogLint.Document.Basic
import CatalogLint.Text.Numeral
import CatalogLint.Yaml.Cursor

namespace CatalogLint.Yaml

/-- a time of day; `offset` is the distance from universal time in minutes -/
structure Stamp.Clock where
  hour : Nat
  minute : Nat
  second : Nat
  microsecond : Nat
  offset : Option Int

structure Stamp where
  year : Nat
  month : Nat
  day : Nat
  clock : Option Stamp.Clock

namespace Stamp

/-- the number at the start of a text, which has at least `least` and at most `most` digits -/
def number? (least most : Nat) (cs : List Char) : Option (Nat × List Char) := do
  let (digits, rest) := cs.span Char.isDigit
  let value ← Numeral.readDigits 10 digits
  if least ≤ digits.length && digits.length ≤ most then some (value, rest) else none

/-- what follows a character -/
def after? (c : Char) : List Char → Option (List Char)
  | x :: rest => if x = c then some rest else none
  | [] => none

/-- the millionths of a second after a point, of which further digits are dropped -/
def fraction (cs : List Char) : Nat × List Char :=
  match cs with
  | '.' :: rest =>
    let (digits, rest) := rest.span Char.isDigit
    ((Numeral.readDigits 10 ((digits ++ List.replicate 6 '0').take 6)).getD 0, rest)
  | _ => (0, cs)

/-- a distance from universal time in hours and perhaps minutes -/
def distance? (cs : List Char) : Option Int := do
  let (hours, rest) ← number? 1 2 cs
  match rest with
  | [] => some (hours * 60)
  | ':' :: rest =>
    let (minutes, rest) ← number? 2 2 rest
    if rest.isEmpty then some (hours * 60 + minutes) else none
  | _ => none

/-- the zone at the end of a stamp, none where nothing is written -/
def zone? (cs : List Char) : Option (Option Int) :=
  if cs.isEmpty then some none
  else
    match cs.dropWhile isSpace with
    | ['Z'] => some (some 0)
    | '+' :: rest => (distance? rest).map some
    | '-' :: rest => (distance? rest).map fun d => some (-d)
    | _ => none

def clock? (cs : List Char) : Option Clock := do
  let (hour, rest) ← number? 1 2 cs
  let (minute, rest) ← number? 2 2 (← after? ':' rest)
  let (second, rest) ← number? 2 2 (← after? ':' rest)
  let (microsecond, rest) := fraction rest
  return ⟨hour, minute, second, microsecond, ← zone? rest⟩

/-- a stamp as written; the time stands after a letter or after spaces -/
def ofChars? (cs : List Char) : Option Stamp := do
  let (year, rest) ← number? 4 4 cs
  let (month, rest) ← number? 1 2 (← after? '-' rest)
  let (day, rest) ← number? 1 2 (← after? '-' rest)
  match rest with
  | [] => some ⟨year, month, day, none⟩
  | c :: time =>
    if c = 'T' || c = 't' then return ⟨year, month, day, some (← clock? time)⟩
    else if isSpace c then return ⟨year, month, day, some (← clock? (time.dropWhile isSpace))⟩
    else none

/-- the day or the moment of a stamp -/
def scalar (s : Stamp) : Except CalendarFault Scalar :=
  match s.clock with
  | none => (Date.ofParts s.year s.month s.day).map .date
  | some c =>
    (Moment.ofParts s.year s.month s.day c.hour c.minute c.second c.microsecond c.offset).map .moment

end Stamp

end CatalogLint.Yaml
