/-
Why a text is no document. Most faults are of form (`Malformed`): the characters, the tokens or the nodes do not fit
the grammar of YAML 1.1 or the tags this library knows. The others are of value: a scalar has a tag and its text does
not denote a value of that tag, or a code stands for no character. Only faults of value have a message of their own.
-/
import CatalogLint.Document.Literal

namespace CatalogLint.Yaml

inductive Malformed where
  -- characters
  | unprintable | strayCharacter
  -- tokens
  | keyWithoutColon | entryNotAllowed | keyNotAllowed | valueNotAllowed | unopenedCollection
  | badDirective | badName | badTag | badUri | badBlockHeader | unclosedQuote | separatorInQuote | badEscape
  -- nodes
  | unexpectedToken | duplicateDirective | unsupportedVersion | undefinedHandle | duplicateAnchor | undefinedAlias
  | severalDocuments
  -- values
  | unknownTag | notAScalar | notASequence | notAMapping | notAnEntry | compositeKey | badMerge | badBytes
  deriving DecidableEq

inductive Fault where
  | malformed (reason : Malformed)
  | emptyNumber
  | badInteger (base : Nat) (text : String)
  | tooManyDigits (count : Nat)
  | badDecimal (text : String)
  | hugePlace
  | badTruth (word : String)
  | badCalendar (fault : CalendarFault)
  | notAStamp
  | compositeStamp
  | badCodePoint
  | hugeCodePoint
  | endlessText
  deriving DecidableEq

def Fault.calendarMessage : CalendarFault → String
  | .year year => s!"year {year} is out of range"
  | .month => "month must be in 1..12"
  | .day => "day is out of range for month"
  | .hour => "hour must be in 0..23"
  | .minute => "minute must be in 0..59"
  | .second => "second must be in 0..59"
  | .offset minutes =>
    "offset must be a timedelta strictly between -timedelta(hours=24) and timedelta(hours=24), not " ++
      Moment.lengthLiteral minutes ++ "."

/-- how much is shown of a text that is no whole number -/
def Fault.shownLength : Nat := 200

def Fault.message : Fault → String
  | .malformed _ => ""
  | .emptyNumber => "string index out of range"
  | .badInteger base text =>
    s!"invalid literal for int() with base {base}: " ++ String.ofList ((Text.quoted text).toList.take shownLength)
  | .tooManyDigits count => Numeral.limitText s!": value has {count} digits"
  | .badDecimal text => "could not convert string to float: " ++ Text.quoted text
  | .hugePlace => "int too large to convert to float"
  | .badTruth word => word
  | .badCalendar fault => calendarMessage fault
  | .notAStamp => "'NoneType' object has no attribute 'groupdict'"
  | .compositeStamp => "expected string or bytes-like object, got 'list'"
  | .badCodePoint => "chr() arg not in range(0x110000)"
  | .hugeCodePoint => "Python int too large to convert to C int"
  | .endlessText => "maximum recursion depth exceeded"

end CatalogLint.Yaml
