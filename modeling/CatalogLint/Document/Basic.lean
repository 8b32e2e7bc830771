/-
Documents: the plain data that catalogs and configurations are read from. A document is a scalar, a list, a set of
scalars, a mapping from scalars to documents in the order of first mention, or a pair, as lists of entries hold them.
A collection that holds itself has no end: inside it, `again` stands for the collection further out.

Numbers and truth values are one key when they are equal as numbers (`Scalar.same`), so `put` gives such a key its new
value and keeps the old spelling.
-/
import CatalogLint.Decimal.Binary64
import CatalogLint.Document.Calendar

namespace CatalogLint

/-- a document without parts -/
inductive Scalar where
  | null : Scalar
  | bool (value : Bool) : Scalar
  | int (value : Int) : Scalar
  | float (value : Binary64) : Scalar
  | text (value : String) : Scalar
  | bytes (value : List UInt8) : Scalar
  | date (value : Date) : Scalar
  | moment (value : Moment) : Scalar
  deriving DecidableEq

inductive Document where
  | scalar (value : Scalar) : Document
  | list (items : List Document) : Document
  | set (members : List Scalar) : Document
  | mapping (entries : List (Scalar × Document)) : Document
  | pair (first second : Document) : Document
  /-- a list or mapping that this place is inside of -/
  | again (isMapping : Bool) : Document

namespace Scalar

/-- the whole number that a truth value or a whole number stands for -/
def int? : Scalar → Option Int
  | .bool b => some (if b then 1 else 0)
  | .int n => some n
  | .float x => x.toInt?
  | _ => none

/-- whether a whole number fits into 64 bits with its sign -/
def fitsWord (n : Int) : Bool := -9223372036854775808 ≤ n && n ≤ 9223372036854775807

/-- whether two scalars are one key -/
def same (a b : Scalar) : Bool :=
  match a.int?, b.int? with
  | some m, some n => m == n
  | none, none =>
    match a, b with
    | .moment m, .moment n => m.same n
    | _, _ => a == b
  | _, _ => false

/-- whether a scalar counts as nothing: no value, false, zero, or no characters or bytes -/
def isBlank : Scalar → Bool
  | .null => true
  | .text s => s == ""
  | .bytes b => b.isEmpty
  | s => s.int? == some 0

end Scalar

namespace Document

abbrev null : Document := .scalar .null
abbrev bool (b : Bool) : Document := .scalar (.bool b)
abbrev int (n : Int) : Document := .scalar (.int n)
abbrev text (s : String) : Document := .scalar (.text s)

/-- whether a document counts as empty: a blank scalar, or nothing inside -/
def isBlank : Document → Bool
  | .scalar s => s.isBlank
  | .list items => items.isEmpty
  | .set members => members.isEmpty
  | .mapping entries => entries.isEmpty
  | .pair _ _ | .again _ => false

def isNull : Document → Bool
  | .scalar .null => true
  | _ => false

/-! ## Entries of mappings -/

/-- gives a key a value: in place if the key is there, else at the end; `same` says which keys are one -/
def putBy {κ ν : Type} (same : κ → κ → Bool) (key : κ) (value : ν) : List (κ × ν) → List (κ × ν)
  | [] => [(key, value)]
  | (k, v) :: rest => if same k key then (k, value) :: rest else (k, v) :: putBy same key value rest

/-- gives a key a value -/
def put (key : Scalar) (value : Document) (entries : List (Scalar × Document)) : List (Scalar × Document) :=
  putBy Scalar.same key value entries

/-- the mapping with the given entries, where the last value of a key counts -/
def ofEntries (entries : List (Scalar × Document)) : Document :=
  .mapping (entries.foldl (fun acc (k, v) => put k v acc) [])

/-- the value of a name -/
def lookup? (name : String) : List (Scalar × Document) → Option Document
  | [] => none
  | (k, v) :: rest => if k = .text name then some v else lookup? name rest

/-- whether a name has a value -/
def hasName (name : String) (entries : List (Scalar × Document)) : Bool := (lookup? name entries).isSome

theorem sizeOf_lookup_lt {name : String} {entries : List (Scalar × Document)} {d : Document}
    (h : lookup? name entries = some d) : sizeOf d < sizeOf entries := by
  induction entries with
  | nil => simp [lookup?] at h
  | cons entry rest ih =>
    obtain ⟨k, v⟩ := entry
    unfold lookup? at h
    split at h
    · cases h; simp; omega
    · have := ih h; simp; omega

end Document

end CatalogLint
