/-
Finite sets of names, kept as their members in strictly increasing order. `NameSet.mem_ofList` says that building one
from a list keeps exactly the names of the list, and `NameSet.ext` that a set is its members.
-/
namespace CatalogLint

/-- puts a name into an increasing list of names, once -/
def insertName (name : String) : List String → List String
  | [] => [name]
  | n :: rest =>
    if name < n then name :: n :: rest
    else if name = n then n :: rest
    else n :: insertName name rest

theorem mem_insertName {name other : String} {names : List String} :
    other ∈ insertName name names ↔ other = name ∨ other ∈ names := by
  induction names with
  | nil => simp [insertName]
  | cons n rest ih =>
    simp only [insertName]
    split
    · simp
    · split
      · rename_i heq
        subst heq
        simp
      · simp only [List.mem_cons, ih]
        exact or_left_comm

theorem insertName_ordered {name : String} {names : List String} (h : names.Pairwise (· < ·)) :
    (insertName name names).Pairwise (· < ·) := by
  induction names with
  | nil => simp [insertName]
  | cons n rest ih =>
    obtain ⟨hn, hr⟩ := List.pairwise_cons.1 h
    simp only [insertName]
    split
    · rename_i hlt
      refine List.pairwise_cons.2 ⟨fun e he => ?_, h⟩
      rcases List.mem_cons.1 he with rfl | he
      · exact hlt
      · exact String.lt_trans hlt (hn e he)
    · split
      · exact h
      · refine List.pairwise_cons.2 ⟨fun e he => ?_, ih hr⟩
        rcases mem_insertName.1 he with rfl | he
        · grind
        · exact hn e he

structure NameSet where
  names : List String
  ordered : names.Pairwise (· < ·)

namespace NameSet

instance : DecidableEq NameSet := fun a b =>
  if h : a.names = b.names then isTrue (by cases a; cases b; cases h; rfl)
  else isFalse fun e => h (congrArg names e)

def empty : NameSet := ⟨[], .nil⟩

instance : Inhabited NameSet := ⟨empty⟩

instance : Membership String NameSet := ⟨fun s name => name ∈ s.names⟩

instance (name : String) (s : NameSet) : Decidable (name ∈ s) := inferInstanceAs (Decidable (name ∈ s.names))

def insert (s : NameSet) (name : String) : NameSet := ⟨insertName name s.names, insertName_ordered s.ordered⟩

def ofList (names : List String) : NameSet := names.foldr (fun name s => s.insert name) empty

theorem mem_insert {s : NameSet} {name other : String} : other ∈ s.insert name ↔ other = name ∨ other ∈ s :=
  mem_insertName

theorem mem_ofList {names : List String} {name : String} : name ∈ ofList names ↔ name ∈ names := by
  induction names with
  | nil => exact Iff.rfl
  | cons n rest ih => rw [List.mem_cons, ← ih]; exact mem_insert

/-- A set is determined by its members. -/
theorem ext {a b : NameSet} (h : ∀ name, name ∈ a ↔ name ∈ b) : a = b := by
  obtain ⟨na, ha⟩ := a
  obtain ⟨nb, hb⟩ := b
  have hnodup : ∀ {l : List String}, l.Pairwise (· < ·) → l.Nodup := by
    intro l hl
    refine hl.imp ?_
    intro x y hlt heq
    exact String.lt_irrefl y (heq ▸ hlt)
  have heq : na = nb := List.Perm.eq_of_pairwise (fun x y _ _ hxy hyx => absurd hyx (String.lt_asymm hxy)) ha hb
    ((List.perm_ext_iff_of_nodup (hnodup ha) (hnodup hb)).2 h)
  cases heq
  rfl

end NameSet

end CatalogLint
