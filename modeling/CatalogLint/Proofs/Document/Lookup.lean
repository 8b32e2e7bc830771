/-
Look-ups in documents, and plain data. `Document.Keyed` says that a mapping has texts for keys, each once, so that its
entries and its look-ups are the same thing (`Keyed.lookup?_eq_some_iff`). `Document.Plain` says so of all mappings in a
document, which then holds texts, numbers and truth values, lists and mappings as usual, but no bytes.
-/
import CatalogLint.Document.Basic

namespace CatalogLint.Document

/-! ## Look-ups -/

theorem lookup?_isSome_iff {name : String} {entries : List (Scalar × Document)} :
    (lookup? name entries).isSome ↔ .text name ∈ entries.map Prod.fst := by
  induction entries with
  | nil => simp [lookup?]
  | cons entry rest ih =>
    obtain ⟨key, d⟩ := entry
    by_cases h : key = .text name
    · simp [lookup?, h]
    · simp only [lookup?, h, if_false, ih, List.map_cons, List.mem_cons, or_iff_right (Ne.symm h)]

theorem mem_of_lookup? {name : String} {entries : List (Scalar × Document)} {d : Document}
    (h : lookup? name entries = some d) : (.text name, d) ∈ entries := by
  induction entries with
  | nil => cases h
  | cons entry rest ih =>
    obtain ⟨key, value⟩ := entry
    unfold lookup? at h
    split at h
    · rename_i hkey
      cases h
      rw [hkey]
      exact List.mem_cons_self
    · exact List.mem_cons_of_mem _ (ih h)

theorem lookup?_append (name : String) (entries others : List (Scalar × Document)) :
    lookup? name (entries ++ others) = (lookup? name entries).or (lookup? name others) := by
  induction entries with
  | nil => rfl
  | cons entry rest ih =>
    obtain ⟨key, d⟩ := entry
    rw [List.cons_append, lookup?, lookup?]
    by_cases h : key = .text name
    · rw [if_pos h, if_pos h, Option.some_or]
    · rw [if_neg h, if_neg h, ih]

/-- Changing the values of a mapping, each as its key says, changes a look-up in the same way. -/
theorem lookup?_map (change : Scalar → Document → Document) (name : String) (entries : List (Scalar × Document)) :
    lookup? name (entries.map fun e => (e.1, change e.1 e.2)) =
      (lookup? name entries).map (change (.text name)) := by
  induction entries with
  | nil => rfl
  | cons entry rest ih =>
    obtain ⟨key, d⟩ := entry
    rw [List.map_cons]
    unfold lookup?
    by_cases h : key = .text name
    · rw [if_pos h, if_pos h, h]
      rfl
    · rw [if_neg h, if_neg h]
      exact ih

theorem isNull_iff {d : Document} : d.isNull ↔ d = .null := by
  unfold isNull
  split
  · exact ⟨fun _ => rfl, fun _ => rfl⟩
  · rename_i hno
    constructor
    · intro h
      cases h
    · intro h
      exact absurd h hno

/-- an entry that is left out, or has no value, counts as none -/
theorem isNull_getD_iff {given : Option Document} : (given.getD .null).isNull ↔ given = none ∨ given = some .null := by
  cases given with
  | none => exact ⟨fun _ => Or.inl rfl, fun _ => rfl⟩
  | some d =>
    rw [Option.getD_some, isNull_iff]
    constructor
    · rintro rfl
      exact Or.inr rfl
    · rintro (h | h)
      · cases h
      · cases h
        rfl

/-! ## Plain data -/

/-- the keys of a mapping are texts, and no two are the same -/
structure Keyed (entries : List (Scalar × Document)) : Prop where
  texts : ∀ e ∈ entries, ∃ name, e.1 = .text name
  distinct : (entries.map Prod.fst).Nodup

theorem Keyed.tail {e : Scalar × Document} {rest : List (Scalar × Document)} (h : Keyed (e :: rest)) : Keyed rest :=
  ⟨fun other ho => h.texts other (List.mem_cons_of_mem _ ho), (List.nodup_cons.1 h.distinct).2⟩

theorem Keyed.lookup?_tail {name : String} {d : Document} {rest : List (Scalar × Document)}
    (h : Keyed ((.text name, d) :: rest)) : lookup? name rest = none := by
  cases hlook : lookup? name rest with
  | none => rfl
  | some other =>
    have hmem : Scalar.text name ∈ rest.map Prod.fst := lookup?_isSome_iff.1 (by rw [hlook]; rfl)
    exact absurd hmem (List.nodup_cons.1 h.distinct).1

theorem Keyed.lookup?_eq_some_iff {name : String} {d : Document} {entries : List (Scalar × Document)}
    (h : Keyed entries) : lookup? name entries = some d ↔ (.text name, d) ∈ entries := by
  refine ⟨mem_of_lookup?, fun hmem => ?_⟩
  induction entries with
  | nil => cases hmem
  | cons e rest ih =>
    rcases List.mem_cons.1 hmem with rfl | hrest
    · exact if_pos rfl
    · have hkey : e.1 ≠ .text name := by
        intro he
        have hagain : e.1 ∈ rest.map Prod.fst := he ▸ List.mem_map_of_mem hrest
        exact (List.nodup_cons.1 h.distinct).1 hagain
      rw [lookup?, if_neg hkey]
      exact ih h.tail hrest

/-- data without bytes, in which every mapping goes from texts, each once -/
inductive Plain : Document → Prop where
  | scalar {s : Scalar} (h : ∀ bytes, s ≠ .bytes bytes) : Plain (.scalar s)
  | list {items : List Document} (h : ∀ d ∈ items, Plain d) : Plain (.list items)
  | set {members : List Scalar} (h : ∀ s ∈ members, ∀ bytes, s ≠ .bytes bytes) : Plain (.set members)
  | mapping {entries : List (Scalar × Document)} (keyed : Keyed entries) (values : ∀ e ∈ entries, Plain e.2) :
    Plain (.mapping entries)

theorem Plain.entries {entries : List (Scalar × Document)} (h : Plain (.mapping entries)) :
    Keyed entries ∧ ∀ e ∈ entries, Plain e.2 := by
  cases h with
  | mapping keyed values => exact ⟨keyed, values⟩

theorem Plain.of_lookup? {entries : List (Scalar × Document)} {name : String} {d : Document}
    (h : Plain (.mapping entries)) (hd : lookup? name entries = some d) : Plain d :=
  h.entries.2 _ (mem_of_lookup? hd)

theorem Plain.text (s : String) : (Document.text s).Plain := .scalar fun _ h => nomatch h

theorem Plain.one {name : String} {d : Document} (h : d.Plain) : (Document.mapping [(.text name, d)]).Plain := by
  refine .mapping ⟨?_, ?_⟩ ?_
  · simp
  · simp
  · simp [h]

theorem Plain.two {first second : String} {c d : Document} (hne : first ≠ second) (hc : c.Plain) (hd : d.Plain) :
    (Document.mapping [(.text first, c), (.text second, d)]).Plain := by
  refine .mapping ⟨?_, ?_⟩ ?_
  · simp
  · simpa using hne
  · simp [hc, hd]

end CatalogLint.Document
