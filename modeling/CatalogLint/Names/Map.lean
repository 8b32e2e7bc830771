/-
Finite maps from names. A map is its list of entries in strictly increasing order of names, which makes two maps with
the same look-ups the same map (`NameMap.ext_get?`); listing the names or the entries gives them sorted.
-/
import CatalogLint.Names.Entries

namespace CatalogLint

structure NameMap (α : Type) where
  entries : List (String × α)
  ordered : Entries.Ordered entries

namespace NameMap

variable {α β : Type}

instance [DecidableEq α] : DecidableEq (NameMap α) := fun a b =>
  if h : a.entries = b.entries then isTrue (by cases a; cases b; cases h; rfl)
  else isFalse fun e => h (congrArg entries e)

def empty : NameMap α := ⟨[], .nil⟩

instance : Inhabited (NameMap α) := ⟨empty⟩

def get? (m : NameMap α) (name : String) : Option α := Entries.lookup? name m.entries

def insert (m : NameMap α) (name : String) (value : α) : NameMap α :=
  ⟨Entries.put name value m.entries, Entries.put_ordered m.ordered⟩

/-- gives a name a value, unless it has one -/
def insertNew (m : NameMap α) (name : String) (value : α) : NameMap α :=
  if (m.get? name).isSome then m else m.insert name value

/-- the map with the given entries, where the first value of a name counts -/
def ofList (entries : List (String × α)) : NameMap α :=
  entries.foldr (fun (name, value) m => m.insert name value) empty

/-- the names in increasing order -/
def names (m : NameMap α) : List String := m.entries.map Prod.fst

def size (m : NameMap α) : Nat := m.entries.length

def contains (m : NameMap α) (name : String) : Bool := (m.get? name).isSome

theorem get?_insert (m : NameMap α) (name other : String) (value : α) :
    (m.insert name value).get? other = if name = other then some value else m.get? other :=
  Entries.lookup?_put name other value m.entries

theorem get?_insertNew (m : NameMap α) (name other : String) (value : α) :
    (m.insertNew name value).get? other = if name = other then some ((m.get? name).getD value) else m.get? other := by
  unfold insertNew
  split
  · rename_i h
    obtain ⟨v, hv⟩ := Option.isSome_iff_exists.1 h
    by_cases hn : name = other
    · subst hn; simp [hv]
    · simp [hn]
  · rename_i h
    rw [Option.not_isSome_iff_eq_none] at h
    rw [get?_insert, h, Option.getD_none]

theorem names_ordered (m : NameMap α) : m.names.Pairwise (· < ·) := List.pairwise_map.2 m.ordered

theorem contains_iff {m : NameMap α} {name : String} : m.contains name ↔ name ∈ m.names :=
  Entries.lookup?_isSome_iff

/-- A map is determined by its look-ups. -/
theorem ext_get? {a b : NameMap α} (h : ∀ name, a.get? name = b.get? name) : a = b := by
  obtain ⟨ea, ha⟩ := a
  obtain ⟨eb, hb⟩ := b
  cases Entries.eq_of_lookup? ha hb h
  rfl

end NameMap

end CatalogLint
