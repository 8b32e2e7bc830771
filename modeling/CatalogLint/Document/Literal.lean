/-
The text of documents inside messages. `literal` is the form a reader could type: quoted texts, brackets around lists,
braces around sets and mappings, and words for the values without digits. A set of whole numbers is written in ascending
order, any other set in the order of first mention. `plain` is the same but for a text or a day on its own, which stands
bare. A number with too many digits cannot be written out, nor can what it is inside of (`isWritable`); where a message
needs a word for such a document, it is `unwritable`.
-/
import CatalogLint.Decimal.Shortest
import CatalogLint.Document.Basic
import CatalogLint.Text.Numeral
import CatalogLint.Text.Quoted

namespace CatalogLint

def Date.literal (d : Date) : String :=
  s!"datetime.date({d.year}, {d.month}, {d.day})"

/-- a length of time in minutes, where whole days are counted down and the seconds up -/
def Moment.lengthLiteral (minutes : Int) : String :=
  let days := (minutes * 60).fdiv 86400
  let seconds := (minutes * 60).fmod 86400
  let parts := (if days = 0 then [] else [s!"days={days}"]) ++ (if seconds = 0 then [] else [s!"seconds={seconds}"])
  "datetime.timedelta(" ++ (if minutes = 0 then "0" else ", ".intercalate parts) ++ ")"

/-- the distance from universal time -/
def Moment.zoneLiteral (minutes : Int) : String :=
  if minutes = 0 then "datetime.timezone.utc" else "datetime.timezone(" ++ lengthLiteral minutes ++ ")"

def Moment.literal (m : Moment) : String :=
  let parts := [m.date.year, m.date.month, m.date.day, m.hour, m.minute] ++
    (if m.second = 0 && m.microsecond = 0 then [] else [m.second]) ++
    (if m.microsecond = 0 then [] else [m.microsecond])
  let zone := match m.offset with
    | none => []
    | some o => ["tzinfo=" ++ Moment.zoneLiteral o]
  "datetime.datetime(" ++ ", ".intercalate (parts.map toString ++ zone) ++ ")"

namespace Scalar

def literal : Scalar → String
  | .null => "None"
  | .bool b => if b then "True" else "False"
  | .int n => toString n
  | .float x => x.text
  | .text s => Text.quoted s
  | .bytes b => Text.quotedBytes b
  | .date d => d.literal
  | .moment m => m.literal

def plain : Scalar → String
  | .text s => s
  | .date d => d.iso
  | .moment m => m.iso " "
  | s => s.literal

/-- the members of a set in the order in which they are written -/
def written (members : List Scalar) : List Scalar :=
  let value (s : Scalar) : Int := s.int?.getD 0
  if members.all fun s => s.int?.isSome then members.mergeSort fun a b => decide (value a ≤ value b) else members

/-- whether a scalar can be written out -/
def isWritable : Scalar → Bool
  | .int n => Numeral.isWritable n
  | _ => true

end Scalar

namespace Document

mutual
def literal : Document → String
  | .scalar s => s.literal
  | .list items => "[" ++ ", ".intercalate (itemLiterals items) ++ "]"
  | .set members =>
    if members.isEmpty then "set()"
    else "\x7b" ++ ", ".intercalate ((Scalar.written members).map Scalar.literal) ++ "\x7d"
  | .mapping entries => "\x7b" ++ ", ".intercalate (entryLiterals entries) ++ "\x7d"
  | .pair first second => "(" ++ first.literal ++ ", " ++ second.literal ++ ")"
  | .again isMapping => if isMapping then "\x7b...\x7d" else "[...]"

def itemLiterals : List Document → List String
  | [] => []
  | d :: rest => d.literal :: itemLiterals rest

def entryLiterals : List (Scalar × Document) → List String
  | [] => []
  | (k, v) :: rest => (k.literal ++ ": " ++ v.literal) :: entryLiterals rest
end

def plain : Document → String
  | .scalar s => s.plain
  | d => d.literal

/-! ## Documents that cannot be written out -/

mutual
/-- whether everything inside a document can be written out -/
def isWritable : Document → Bool
  | .scalar s => s.isWritable
  | .list items => areWritable items
  | .set members => members.all Scalar.isWritable
  | .mapping entries => areEntriesWritable entries
  | .pair first second => first.isWritable && second.isWritable
  | .again _ => true

def areWritable : List Document → Bool
  | [] => true
  | d :: rest => d.isWritable && areWritable rest

def areEntriesWritable : List (Scalar × Document) → Bool
  | [] => true
  | (k, v) :: rest => k.isWritable && v.isWritable && areEntriesWritable rest
end

/-- the word for a document that cannot be written out -/
def unwritable (d : Document) : String :=
  let shape := match d with
    | .scalar _ => "int"
    | .list _ => "list"
    | .set _ => "set"
    | .mapping _ => "dict"
    | .pair _ _ => "tuple"
    | .again isMapping => if isMapping then "dict" else "list"
  "<unprintable " ++ shape ++ " object>"

end Document

end CatalogLint
