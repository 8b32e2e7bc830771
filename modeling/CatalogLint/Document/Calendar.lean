/-
Days and moments of the calendar, as documents may hold them. `Date.ofParts` and `Moment.ofParts` refuse parts that no
calendar has and name the first that is wrong; `iso` is the written form with the year first.
-/
namespace CatalogLint

/-- why numbers do not form a day or a moment -/
inductive CalendarFault where
  | year (year : Nat)
  | month
  | day
  | hour
  | minute
  | second
  | offset (minutes : Int)
  deriving DecidableEq

structure Date where
  year : Nat
  month : Nat
  day : Nat
  deriving DecidableEq

/-- a day with a time; `offset` is the distance from universal time in minutes, when it is known -/
structure Moment where
  date : Date
  hour : Nat
  minute : Nat
  second : Nat
  microsecond : Nat
  offset : Option Int
  deriving DecidableEq

/-- a number in base ten with zeros in front up to a width -/
def padded (width n : Nat) : String :=
  let digits := Nat.toDigits 10 n
  String.ofList (List.replicate (width - digits.length) '0' ++ digits)

namespace Date

def isLeap (year : Nat) : Bool := year % 4 == 0 && (year % 100 != 0 || year % 400 == 0)

def daysIn (year month : Nat) : Nat :=
  if month = 2 then if isLeap year then 29 else 28
  else if month = 4 || month = 6 || month = 9 || month = 11 then 30
  else 31

def ofParts (year month day : Nat) : Except CalendarFault Date :=
  if year = 0 || 9999 < year then .error (.year year)
  else if month = 0 || 12 < month then .error .month
  else if day = 0 || daysIn year month < day then .error .day
  else .ok ⟨year, month, day⟩

def iso (d : Date) : String := padded 4 d.year ++ "-" ++ padded 2 d.month ++ "-" ++ padded 2 d.day

/-- the number of days from the start of the calendar -/
def ordinal (d : Date) : Nat :=
  let past := d.year - 1
  let days := ((List.range d.month).drop 1).foldl (fun n month => n + daysIn d.year month) d.day
  past * 365 + past / 4 - past / 100 + past / 400 + days

end Date

namespace Moment

/-- the moment of the given numbers; a distance of a day or more is the first fault, then those of the day -/
def ofParts (year month day hour minute second microsecond : Nat) (offset : Option Int) :
    Except CalendarFault Moment := do
  if 1440 ≤ (offset.getD 0).natAbs then throw (.offset (offset.getD 0))
  let date ← Date.ofParts year month day
  if 23 < hour then throw .hour
  if 59 < minute then throw .minute
  if 59 < second then throw .second
  return ⟨date, hour, minute, second, microsecond, offset⟩

/-- the written form of the distance from universal time -/
def offsetText : Option Int → String
  | none => ""
  | some o => (if o < 0 then "-" else "+") ++ padded 2 (o.natAbs / 60) ++ ":" ++ padded 2 (o.natAbs % 60)

/-- the written form, with a mark between the day and the time -/
def iso (mark : String) (m : Moment) : String :=
  m.date.iso ++ mark ++ padded 2 m.hour ++ ":" ++ padded 2 m.minute ++ ":" ++ padded 2 m.second ++
    (if m.microsecond = 0 then "" else "." ++ padded 6 m.microsecond) ++ offsetText m.offset

/-- the seconds from the start of the calendar, in universal time where the distance from it is known -/
def instant (m : Moment) : Int :=
  ((m.date.ordinal * 24 + m.hour) * 60 + m.minute : Int) * 60 + m.second - m.offset.getD 0 * 60

/-- whether two moments are the same; one in universal time is never one of unknown distance from it -/
def same (a b : Moment) : Bool :=
  a.offset.isSome == b.offset.isSome && a.instant == b.instant && a.microsecond == b.microsecond

end Moment

end CatalogLint
