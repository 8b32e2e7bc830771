/-
The grammar of declarations, for plain data. A field is declared as `Spells` says: tagged, with a key for its kind, or
flat, with a type beside its other keys; either way the declaration names a type and gives elements or none. `IsField`,
`IsSchema` and `IsCatalog` build the grammar on it.

`Declares`, `DeclaresAll` and `DeclaresCatalog` say which tree a document of the grammar stands for. They follow the
document downwards and know no order of reading.
-/
import CatalogLint.Catalog.Basic
import CatalogLint.Proofs.Document.Lookup

namespace CatalogLint

open Document (lookup?)

/-! ## The grammar -/

/-- every key is one of the names -/
def KeysAmong (names : List String) (entries : List (Scalar × Document)) : Prop :=
  ∀ e ∈ entries, ∃ name ∈ names, e.1 = .text name

/-- a truth value: as such, as one or zero, or as a word in any letter case -/
inductive TruthOf : Document → Bool → Prop where
  | bool (b : Bool) : TruthOf (.bool b) b
  | one : TruthOf (.int 1) true
  | zero : TruthOf (.int 0) false
  | floatOne {x : Binary64} (h : x.toInt? = some 1) : TruthOf (.scalar (.float x)) true
  | floatZero {x : Binary64} (h : x.toInt? = some 0) : TruthOf (.scalar (.float x)) false
  | trueWord {s : String} (h : s.toLower ∈ ["1", "t", "true", "y", "yes", "on"]) : TruthOf (.text s) true
  | falseWord {s : String} (h : s.toLower ∈ ["0", "f", "false", "n", "no", "off"]) : TruthOf (.text s) false

/-- whether a field is sensitive by what is given for it; not where nothing is -/
inductive SensitiveBy : Option Document → Bool → Prop where
  | absent : SensitiveBy none false
  | given {d : Document} {b : Bool} (h : TruthOf d b) : SensitiveBy (some d) b

/-- the keys of a mapping declare a field of the type, with the elements that are given -/
inductive Spells : List (Scalar × Document) → FieldType → Option Document → Prop where
  | taggedPrimitive {entries kind : List (Scalar × Document)} {t : PrimitiveType}
    (keys : KeysAmong ["kind", "sensitive", "default"] entries) (under : lookup? "kind" entries = some (.mapping kind))
    (kindKeys : KeysAmong ["kind", "type"] kind) (tag : lookup? "kind" kind = some (.text "primitive"))
    (type : lookup? "type" kind = some (.text t.name)) : Spells entries (.primitive t) none
  | taggedCollection {entries kind : List (Scalar × Document)} {s : Shape}
    (keys : KeysAmong ["kind", "sensitive", "default"] entries) (under : lookup? "kind" entries = some (.mapping kind))
    (kindKeys : KeysAmong ["kind", "elem"] kind) (tag : lookup? "kind" kind = some (.text s.name)) :
    Spells entries (.collection s) (lookup? "elem" kind)
  | flatPrimitive {entries : List (Scalar × Document)} {t : PrimitiveType}
    (keys : KeysAmong ["type", "elem", "sensitive", "default"] entries)
    (type : lookup? "type" entries = some (.text t.name))
    (elem : lookup? "elem" entries = none ∨ lookup? "elem" entries = some .null) : Spells entries (.primitive t) none
  | flatCollection {entries : List (Scalar × Document)} {s : Shape}
    (keys : KeysAmong ["type", "elem", "sensitive", "default"] entries)
    (type : lookup? "type" entries = some (.text s.name)) : Spells entries (.collection s) (lookup? "elem" entries)

mutual
/-- a declaration of a field, in either form -/
inductive IsField : Document → Prop where
  | mk {entries : List (Scalar × Document)} {t : FieldType} {given : Option Document} (spells : Spells entries t given)
    (sensitive : ∃ b, SensitiveBy (lookup? "sensitive" entries) b)
    (elements : ∀ d, given = some d → d ≠ .null → IsSchema d) : IsField (.mapping entries)

/-- a mapping from names to declarations of fields -/
inductive IsSchema : Document → Prop where
  | mk {entries : List (Scalar × Document)} (fields : ∀ e ∈ entries, IsField e.2) : IsSchema (.mapping entries)
end

/-- a mapping from names to schemas -/
inductive IsPartition : Document → Prop where
  | mk {entries : List (Scalar × Document)} (schemas : ∀ e ∈ entries, IsSchema e.2) : IsPartition (.mapping entries)

/-- a mapping from partitions to their entries -/
inductive IsCatalog : Document → Prop where
  | mk {entries : List (Scalar × Document)} (keys : KeysAmong ["data_sources", "resources"] entries)
    (partitions : ∀ e ∈ entries, IsPartition e.2) : IsCatalog (.mapping entries)

theorem KeysAmong.lookup?_eq_none {names : List String} {entries : List (Scalar × Document)} {name : String}
    (h : KeysAmong names entries) (hname : name ∉ names) : lookup? name entries = none := by
  cases hlook : lookup? name entries with
  | none => rfl
  | some d =>
    obtain ⟨other, hother, heq⟩ := h _ (Document.mem_of_lookup? hlook)
    cases heq
    exact absurd hother hname

/-- The elements that are given are part of the declaration. -/
theorem Spells.sizeOf_lt {entries : List (Scalar × Document)} {t : FieldType} {d : Document}
    (h : Spells entries t (some d)) : sizeOf d < sizeOf entries := by
  generalize hgiven : some d = given at h
  cases h with
  | taggedPrimitive | flatPrimitive => cases hgiven
  | taggedCollection _ hunder =>
    have hkind := Document.sizeOf_lookup_lt hunder
    have helem := Document.sizeOf_lookup_lt hgiven.symm
    rw [Document.mapping.sizeOf_spec] at hkind
    omega
  | flatCollection => exact Document.sizeOf_lookup_lt hgiven.symm

theorem Spells.plain {entries : List (Scalar × Document)} {t : FieldType} {d : Document}
    (h : Spells entries t (some d)) (hplain : (Document.mapping entries).Plain) : d.Plain := by
  generalize hgiven : some d = given at h
  cases h with
  | taggedPrimitive | flatPrimitive => cases hgiven
  | taggedCollection _ hunder => exact (hplain.of_lookup? hunder).of_lookup? hgiven.symm
  | flatCollection => exact hplain.of_lookup? hgiven.symm

/-! ## The tree that is declared -/

mutual
/-- the field that a declaration stands for -/
inductive Declares : Document → Field → Prop where
  | primitive {entries : List (Scalar × Document)} {t : PrimitiveType} {b : Bool}
    (spells : Spells entries (.primitive t) none) (sensitive : SensitiveBy (lookup? "sensitive" entries) b) :
    Declares (.mapping entries) ⟨.primitive t, b, (lookup? "default" entries).getD .null⟩
  | bare {entries : List (Scalar × Document)} {s : Shape} {given : Option Document} {b : Bool}
    (spells : Spells entries (.collection s) given) (bare : given = none ∨ given = some .null)
    (sensitive : SensitiveBy (lookup? "sensitive" entries) b) :
    Declares (.mapping entries) ⟨.collection s none, b, (lookup? "default" entries).getD .null⟩
  | nested {entries : List (Scalar × Document)} {s : Shape} {d : Document} {elem : Fields} {b : Bool}
    (spells : Spells entries (.collection s) (some d)) (elements : DeclaresAll d elem)
    (sensitive : SensitiveBy (lookup? "sensitive" entries) b) :
    Declares (.mapping entries) ⟨.collection s (some elem), b, (lookup? "default" entries).getD .null⟩

/-- the fields that a schema stands for: under the same names, each as it is declared -/
inductive DeclaresAll : Document → Fields → Prop where
  | mk {entries : List (Scalar × Document)} {fields : Fields} (ordered : Entries.Ordered fields)
    (each : ∀ name, Option.Rel Declares (lookup? name entries) (Entries.lookup? name fields)) :
    DeclaresAll (.mapping entries) fields
end

/-- the entries that a partition stands for: none where it is left out -/
inductive DeclaresPartition : Option Document → NameMap Schema → Prop where
  | absent : DeclaresPartition none .empty
  | given {entries : List (Scalar × Document)} {m : NameMap Schema}
    (each : ∀ name, Option.Rel (fun d s => DeclaresAll d s.fields) (lookup? name entries) (m.get? name)) :
    DeclaresPartition (some (.mapping entries)) m

/-- the catalog that a document stands for -/
inductive DeclaresCatalog : Document → Catalog → Prop where
  | mk {entries : List (Scalar × Document)} {c : Catalog} (keys : KeysAmong ["data_sources", "resources"] entries)
    (partitions : ∀ p : Partition, DeclaresPartition (lookup? p.name entries) (c.get p)) :
    DeclaresCatalog (.mapping entries) c

end CatalogLint
