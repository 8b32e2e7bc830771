/-
Documents up to the order of keys. `Document.Reordered` relates two documents in which every mapping has the same keys,
in any order, with values that are related again; nothing else may differ. A mapping in which two keys are read as one
name is related to none, since of those the last one counts.

- `Document.SameEntries`: two lists of entries with the same keys, whose values are related in any given way.
- `SameEntries.lookup?`: each name has related values, or has none on both sides.
- `SameEntries.rel`: the entries are the same multiset, up to the relation.
- `Reordered.eq_or_holdsMapping`: documents without a mapping inside are related to nothing but themselves.
-/
import Mathlib.Data.Multiset.Bind
import Mathlib.Data.List.Forall2
import CatalogLint.Proofs.Validation.Named

namespace CatalogLint.Document

/-! ## The relation -/

/-- no two keys are read as the same name -/
def DistinctNames (entries : List (Scalar × Document)) : Prop :=
  ∀ key ∈ entries.map Prod.fst, ∀ other ∈ entries.map Prod.fst, ∀ name,
    Reading.text? key = some name → Reading.text? other = some name → key = other

/-- the same document but for the order of keys in mappings -/
inductive Reordered : Document → Document → Prop where
  | scalar (value : Scalar) : Reordered (.scalar value) (.scalar value)
  | set (members : List Scalar) : Reordered (.set members) (.set members)
  | again (isMapping : Bool) : Reordered (.again isMapping) (.again isMapping)
  | pair {first first' second second' : Document} (inFirst : Reordered first first')
    (inSecond : Reordered second second') : Reordered (.pair first second) (.pair first' second')
  | list {items items' : List Document} (length : items.length = items'.length)
    (inItems : ∀ d d', (d, d') ∈ items.zip items' → Reordered d d') : Reordered (.list items) (.list items')
  | mapping {entries entries' : List (Scalar × Document)} (distinct : DistinctNames entries)
    (keys : (entries.map Prod.fst).Perm (entries'.map Prod.fst))
    (inValues : ∀ key d d', (key, d) ∈ entries → (key, d') ∈ entries' → Reordered d d') :
    Reordered (.mapping entries) (.mapping entries')

/-! ## Entries -/

/-- the same keys in any order, with related values -/
structure SameEntries (r : Document → Document → Prop) (entries entries' : List (Scalar × Document)) : Prop where
  distinct : DistinctNames entries
  keys : (entries.map Prod.fst).Perm (entries'.map Prod.fst)
  values : ∀ key d d', (key, d) ∈ entries → (key, d') ∈ entries' → r d d'

theorem Reordered.entries {entries entries' : List (Scalar × Document)}
    (h : Reordered (.mapping entries) (.mapping entries')) : SameEntries Reordered entries entries' := by
  cases h with
  | mapping distinct keys inValues => exact ⟨distinct, keys, inValues⟩

namespace SameEntries

variable {r : Document → Document → Prop} {entries entries' : List (Scalar × Document)}
  (h : SameEntries r entries entries')

include h

theorem imp {s : Document → Document → Prop} (hrs : ∀ d d', r d d' → s d d') : SameEntries s entries entries' :=
  ⟨h.distinct, h.keys, fun key d d' hd hd' => hrs d d' (h.values key d d' hd hd')⟩

theorem lookup? (name : String) :
    Option.Rel r (Document.lookup? name entries) (Document.lookup? name entries') := by
  refine rel_of_isSome_iff ?_ fun d d' hd hd' => h.values _ d d' (mem_of_lookup? hd) (mem_of_lookup? hd')
  rw [lookup?_isSome_iff, lookup?_isSome_iff]
  exact h.keys.mem_iff

/-- The entries of both are the same multiset, up to the relation. -/
theorem rel : Multiset.Rel (fun e e' => e.1 = e'.1 ∧ r e.2 e'.2) (entries : Multiset (Scalar × Document))
    (entries' : Multiset (Scalar × Document)) := by
  have hkeys : Multiset.Rel (fun e e' => e.1 = e'.1) (entries : Multiset (Scalar × Document))
      (entries' : Multiset (Scalar × Document)) := by
    rw [← Multiset.rel_map, Multiset.rel_eq, Multiset.map_coe, Multiset.map_coe, Multiset.coe_eq_coe]
    exact h.keys
  refine hkeys.mono ?_
  rintro ⟨key, d⟩ hd ⟨key', d'⟩ hd' heq
  simp only at heq
  subst heq
  exact ⟨rfl, h.values key d d' (Multiset.mem_coe.1 hd) (Multiset.mem_coe.1 hd')⟩

end SameEntries

/-! ## Keys that are texts -/

theorem distinctNames_of_texts {entries : List (Scalar × Document)} (h : ∀ e ∈ entries, ∃ name, e.1 = .text name) :
    DistinctNames entries := by
  intro key hkey other hother name hname hname'
  obtain ⟨e, he, rfl⟩ := List.mem_map.1 hkey
  obtain ⟨e', he', rfl⟩ := List.mem_map.1 hother
  obtain ⟨n, hn⟩ := h e he
  obtain ⟨n', hn'⟩ := h e' he'
  rw [hn] at hname ⊢
  rw [hn'] at hname' ⊢
  cases hname
  cases hname'
  rfl

theorem Reordered.one {name : String} {d d' : Document} (h : d.Reordered d') :
    (Document.mapping [(.text name, d)]).Reordered (.mapping [(.text name, d')]) := by
  refine .mapping (distinctNames_of_texts (by simp)) (.refl _) fun key c c' hc hc' => ?_
  cases List.mem_singleton.1 hc
  cases List.mem_singleton.1 hc'
  exact h

/-- Two entries in the other order. -/
theorem Reordered.swap {first second : String} {c c' d d' : Document} (hne : first ≠ second) (hc : c.Reordered c')
    (hd : d.Reordered d') : (Document.mapping [(.text first, c), (.text second, d)]).Reordered
      (.mapping [(.text second, d'), (.text first, c')]) := by
  refine .mapping (distinctNames_of_texts (by simp)) (.swap _ _ _) fun key a a' ha ha' => ?_
  simp only [List.mem_cons, Prod.mk.injEq, List.not_mem_nil, or_false] at ha ha'
  rcases ha with ⟨rfl, rfl⟩ | ⟨rfl, rfl⟩
  · rcases ha' with ⟨hkey, _⟩ | ⟨_, rfl⟩
    · exact absurd (Scalar.text.inj hkey) hne
    · exact hc
  · rcases ha' with ⟨_, rfl⟩ | ⟨hkey, _⟩
    · exact hd
    · exact absurd (Scalar.text.inj hkey).symm hne

/-! ## Mappings inside -/

/-- somewhere in the document there is a mapping -/
inductive HoldsMapping : Document → Prop where
  | mapping (entries : List (Scalar × Document)) : HoldsMapping (.mapping entries)
  | list {items : List Document} {d : Document} (mem : d ∈ items) (inside : HoldsMapping d) : HoldsMapping (.list items)
  | first {first second : Document} (inside : HoldsMapping first) : HoldsMapping (.pair first second)
  | second {first second : Document} (inside : HoldsMapping second) : HoldsMapping (.pair first second)

/-- **Only mappings can be reordered.** -/
theorem Reordered.eq_or_holdsMapping {d d' : Document} (h : d.Reordered d') :
    d = d' ∨ (d.HoldsMapping ∧ d'.HoldsMapping) := by
  induction h with
  | scalar value => exact Or.inl rfl
  | set members => exact Or.inl rfl
  | again isMapping => exact Or.inl rfl
  | mapping => exact Or.inr ⟨.mapping _, .mapping _⟩
  | pair _ _ first second =>
    rcases first with rfl | ⟨hfirst, hfirst'⟩
    · rcases second with rfl | ⟨hsecond, hsecond'⟩
      · exact Or.inl rfl
      · exact Or.inr ⟨.second hsecond, .second hsecond'⟩
    · exact Or.inr ⟨.first hfirst, .first hfirst'⟩
  | @list items items' length _ ih =>
    by_cases hall : ∀ d d', (d, d') ∈ items.zip items' → d = d'
    · left
      have hitems : List.Forall₂ (· = ·) items items' := List.forall₂_iff_zip.2 ⟨length, fun hmem => hall _ _ hmem⟩
      rw [List.forall₂_eq_eq_eq] at hitems
      rw [hitems]
    · push Not at hall
      obtain ⟨d, d', hmem, hne⟩ := hall
      obtain ⟨hd, hd'⟩ := List.of_mem_zip hmem
      obtain ⟨hholds, hholds'⟩ := (ih d d' hmem).resolve_left hne
      exact Or.inr ⟨.list hd hholds, .list hd' hholds'⟩

/-- a document that stands for the value of a key that is left out -/
theorem Reordered.getD_null {given given' : Option Document} (h : Option.Rel Reordered given given') :
    (given.getD .null).Reordered (given'.getD .null) := by
  cases h with
  | none => exact .scalar .null
  | some h => exact h

theorem Reordered.eq_text_iff {d d' : Document} (h : d.Reordered d') {s : String} : d = .text s ↔ d' = .text s := by
  cases h with
  | scalar value => exact Iff.rfl
  | set | again | pair | list | mapping => simp

theorem Reordered.isNull_eq {d d' : Document} (h : d.Reordered d') : d.isNull = d'.isNull := by
  cases h <;> rfl

end CatalogLint.Document
