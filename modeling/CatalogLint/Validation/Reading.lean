/-
Reading the parts that all declarations share: texts, truth values, keys that must be known, and mappings from names.
Bytes stand for the text that they encode. A truth value may be written as a number or as one of a few words, in any
letter case.
-/
import CatalogLint.Names.Map
import CatalogLint.Validation.Checked

namespace CatalogLint.Reading

/-! ## Texts -/

/-- the text that bytes encode -/
def decoded? (bytes : List UInt8) : Option String := String.fromUTF8? ⟨bytes.toArray⟩

/-- the text of a scalar, if it has one -/
def text? : Scalar → Option String
  | .text s => some s
  | .bytes b => decoded? b
  | _ => none

def scalarText (s : Scalar) : Checked String :=
  match text? s with
  | some t => .accepted t
  | none => match s with
    | .bytes _ => .reject .notUnicode
    | _ => .reject .notText

def text : Document → Checked String
  | .scalar s => scalarText s
  | _ => .reject .notText

/-! ## Truth values -/

def trueWords : List String := ["1", "on", "t", "true", "y", "yes"]

def falseWords : List String := ["0", "f", "false", "n", "no", "off"]

/-- a truth value by its word -/
def truthOfWord (word : String) : Checked Bool :=
  let plain := String.ofList (word.toList.map Char.toLower)
  if plain ∈ trueWords then .accepted true
  else if plain ∈ falseWords then .accepted false
  else .reject .unreadableBoolean

/-- a truth value by its number, which is one or zero; `near` says whether other numbers are looked at at all -/
def truthOfInt (near : Bool) (n : Int) : Checked Bool :=
  if n = 1 then .accepted true
  else if n = 0 then .accepted false
  else if near then .reject .unreadableBoolean
  else .reject .notABoolean

def truth : Document → Checked Bool
  | .scalar (.bool b) => .accepted b
  | .scalar (.int n) => truthOfInt (Scalar.fitsWord n) n
  | .scalar (.float x) =>
    match x.toInt? with
    | some n => truthOfInt (Scalar.fitsWord n && Scalar.fitsWord (-n)) n
    | none => .reject .notABoolean
  | .scalar (.text s) => truthOfWord s
  | .scalar (.bytes b) => ((decoded? b).map truthOfWord).getD (.reject .unreadableBoolean)
  | _ => .reject .notABoolean

/-! ## Keys -/

/-- what is wrong with a key of a form that has only the given ones; a second spelling of a key that is there is none -/
def strayKey (known : List String) (entries : List (Scalar × Document)) (key : Scalar) : Option Issue :=
  match text? key with
  | some name =>
    if name ∈ known && Document.hasName name entries then none else some ⟨[.ofKey key], .unknownKey⟩
  | none => some ⟨[.ofKey key], .keyNotText⟩

/-- what is wrong with the keys of a form that has only the given ones -/
def strayKeys (known : List String) (entries : List (Scalar × Document)) : List Issue :=
  entries.filterMap fun (key, _) => strayKey known entries key

/-- the value of a key of a form, or what stands for it where the key is absent -/
def keyed {α : Type} (name : String) (absent : Checked α) (read : Document → Checked α)
    (entries : List (Scalar × Document)) : Checked α :=
  match Document.lookup? name entries with
  | some d => (read d).within (.key name)
  | none => absent

/-- a key of a mapping from names -/
def nameKey (key : Scalar) : Checked String := ((scalarText key).within .toKey).within (.ofKey key)

/-! ## Mappings from names -/

/-- the entries of a mapping from names, each value read alike; the last value of a name counts -/
def namedEntries {α : Type} (read : Document → Checked α) : List (Scalar × Document) → Checked (NameMap α)
  | [] => .accepted .empty
  | (key, d) :: rest =>
    (((nameKey key).and ((read d).within (.ofKey key))).and (namedEntries read rest)).map
      fun ((name, value), others) => others.insertNew name value

def named {α : Type} (read : Document → Checked α) : Document → Checked (NameMap α)
  | .mapping entries => namedEntries read entries
  | _ => .reject .notAMapping

end CatalogLint.Reading
