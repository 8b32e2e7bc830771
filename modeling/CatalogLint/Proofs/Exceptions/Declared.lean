/-
Which names a document excepts. `Document.excepted` follows a rule, a partition and an entry through the mappings of raw
exceptions and gives the names that are declared there, in lower case; where one of them is left out there are none.

- `EntryReader.get_readAll`: what is read of a key is what is read from its value in the document.
- `ExceptionRegistry.mem_forEntry_iff`: so the exceptions that are read are the names that the document excepts, for
  every rule, partition and entry.
-/
import CatalogLint.Proofs.Exceptions.Addition

namespace CatalogLint

/-! ## Look-ups in the document -/

namespace Document

/-- the value of a key, of which the last counts -/
def last? (isKey : Scalar → Bool) : List (Scalar × Document) → Option Document
  | [] => none
  | (key, d) :: rest => (last? isKey rest).or (if isKey key then some d else none)

theorem last?_isSome_iff {isKey : Scalar → Bool} {entries : List (Scalar × Document)} :
    (last? isKey entries).isSome ↔ ∃ key ∈ entries.map Prod.fst, isKey key := by
  induction entries with
  | nil => simp [last?]
  | cons e rest ih =>
    obtain ⟨key, d⟩ := e
    rw [last?, Option.isSome_or, Bool.or_eq_true, ih, List.map_cons]
    by_cases h : isKey key <;> simp [h]

theorem mem_of_last? {isKey : Scalar → Bool} {entries : List (Scalar × Document)} {d : Document}
    (h : last? isKey entries = some d) : ∃ key, isKey key ∧ (key, d) ∈ entries := by
  induction entries with
  | nil => cases h
  | cons e rest ih =>
    obtain ⟨key, value⟩ := e
    rw [last?, Option.or_eq_some_iff] at h
    rcases h with hlater | ⟨_, hhere⟩
    · obtain ⟨later, hkey, hmem⟩ := ih hlater
      exact ⟨later, hkey, List.mem_cons_of_mem _ hmem⟩
    · by_cases hkey : isKey key
      · rw [if_pos hkey] at hhere
        cases hhere
        exact ⟨key, hkey, List.mem_cons_self⟩
      · rw [if_neg hkey] at hhere
        cases hhere

/-- the value of a key, where the document is a mapping -/
def value? (isKey : Scalar → Bool) : Document → Option Document
  | .mapping entries => last? isKey entries
  | _ => none

/-- the names in a list or set of names, in lower case -/
def loweredNames : Document → List String
  | .list items => items.filterMap fun d => (Reading.text d).value?.map Text.lower
  | .set members => members.filterMap fun s => (Reading.scalarText s).value?.map Text.lower
  | _ => []

/-- the names that raw exceptions declare for a rule in an entry, in lower case -/
def excepted (rule : String) (p : Partition) (entry : String) (raw : Document) : List String :=
  (((raw.value? (isName rule)).bind (value? (isPartition p))).bind (value? (isName entry))).elim [] loweredNames

end Document

open Document (last? value? loweredNames isName isPartition)

/-! ## What is read of a key -/

namespace EntryReader

variable {κ μ α : Type} [DecidableEq κ] (r : EntryReader κ μ α) {entries : List (Scalar × Document)} {m : μ}

/-- What is read of a key is what is read from its value. -/
theorem get_readAll (h : r.readAll entries = .accepted m) (k : κ) :
    Option.Rel (fun d a => r.read d = .accepted a) (last? (r.isKey k) entries) (r.get m k) := by
  induction entries generalizing m with
  | nil =>
    cases r.readAll_nil.symm.trans h
    rw [r.get_empty]
    exact .none
  | cons e rest ih =>
    obtain ⟨key, d⟩ := e
    obtain ⟨n, a, others, hkey, ha, hothers, hget⟩ := r.readAll_cons.1 h
    have hlater := ih hothers
    have hhere : r.isKey k key = decide (n = k) := by
      rw [isKey, hkey, Bool.eq_iff_iff]
      simp
    rw [last?, hget, hhere]
    by_cases hn : n = k
    · subst hn
      cases hvalue : last? (r.isKey n) rest with
      | none =>
        rw [hvalue, rel_none_iff] at hlater
        rw [hlater]
        simpa using ha
      | some later =>
        rw [hvalue, rel_some_iff] at hlater
        obtain ⟨b, hb, hread⟩ := hlater
        rw [hb]
        simpa using hread
    · simpa [hn] using hlater

end EntryReader

theorem Reading.get?_named {α : Type} {read : Document → Checked α} {d : Document} {m : NameMap α}
    (h : Reading.named read d = .accepted m) (name : String) :
    Option.Rel (fun d a => read d = .accepted a) (d.value? (isName name)) (m.get? name) := by
  cases d with
  | mapping entries => exact (Reading.entryReader read).get_readAll h name
  | scalar | list | set | pair | again => cases h

/-- A partition that is left out has what stands for it. -/
theorem Partitioned.get_read {α : Type} {read : Document → Checked α} {absent : α} {d : Document} {x : Partitioned α}
    (h : Partitioned.read absent read d = .accepted x) (p : Partition) :
    (d.value? (isPartition p) = none ∧ x.get p = absent) ∨
      ∃ inner, d.value? (isPartition p) = some inner ∧ read inner = .accepted (x.get p) := by
  cases d with
  | mapping entries =>
    obtain ⟨y, hy, rfl⟩ := Checked.map_eq_accepted_iff.1 h
    have hrel := (Partitioned.entryReader read).get_readAll hy p
    have hvalue : (Document.mapping entries).value? (isPartition p) =
        last? ((Partitioned.entryReader read).isKey p) entries := rfl
    have hget : Partitioned.get ⟨y.dataSources.getD absent, y.resources.getD absent⟩ p = (y.get p).getD absent := by
      cases p <;> rfl
    rw [hvalue, hget]
    cases hlast : last? ((Partitioned.entryReader read).isKey p) entries with
    | none =>
      rw [hlast, rel_none_iff] at hrel
      exact Or.inl ⟨rfl, congrArg (Option.getD · absent) hrel⟩
    | some inner =>
      rw [hlast, rel_some_iff] at hrel
      obtain ⟨a, ha, hread⟩ := hrel
      refine Or.inr ⟨inner, rfl, ?_⟩
      have hgiven : (y.get p).getD absent = a := congrArg (Option.getD · absent) ha
      rw [hgiven]
      exact hread
  | scalar | list | set | pair | again => cases h

/-! ## The names that are declared -/

theorem filterMap_of_namesFrom {items : List Document} {position : Int} {names : List String}
    (h : namesFrom position items = .accepted names) :
    (items.filterMap fun d => (Reading.text d).value?.map Text.lower) = names.map Text.lower := by
  induction items generalizing position names with
  | nil =>
    cases h
    rfl
  | cons d rest ih =>
    obtain ⟨⟨first, others⟩, hboth, rfl⟩ := Checked.map_eq_accepted_iff.1 h
    obtain ⟨hfirst, hothers⟩ := Checked.and_eq_accepted_iff.1 hboth
    rw [Checked.within_eq_accepted_iff] at hfirst
    rw [List.filterMap_cons, hfirst, ih hothers]
    rfl

theorem NameSet.mem_read_iff {d : Document} {names : NameSet} (h : NameSet.read d = .accepted names) {name : String} :
    name ∈ names ↔ name ∈ d.loweredNames := by
  cases d with
  | list items =>
    obtain ⟨read, hread, rfl⟩ := Checked.map_eq_accepted_iff.1 h
    rw [NameSet.read.lowered, NameSet.mem_ofList, loweredNames, filterMap_of_namesFrom hread]
  | set members =>
    obtain ⟨read, hread, rfl⟩ := Checked.map_eq_accepted_iff.1 h
    have hnames := filterMap_of_namesFrom hread
    rw [List.filterMap_map] at hnames
    rw [NameSet.read.lowered, NameSet.mem_ofList, ← hnames]
    rfl
  | scalar | mapping | pair | again => cases h

theorem ExceptionSet.mem_forEntry_iff {d : Document} {declared : ExceptionSet}
    (h : ExceptionSet.read d = .accepted declared) {entry name : String} :
    name ∈ declared.forEntry entry ↔ name ∈ (d.value? (isName entry)).elim [] loweredNames := by
  have hrel := Reading.get?_named h entry
  rw [ExceptionSet.forEntry]
  cases hvalue : d.value? (isName entry) with
  | none =>
    rw [hvalue, rel_none_iff] at hrel
    rw [hrel]
    exact Iff.rfl
  | some inner =>
    rw [hvalue, rel_some_iff] at hrel
    obtain ⟨names, hnames, hread⟩ := hrel
    rw [hnames]
    exact NameSet.mem_read_iff hread

/-- **The exceptions that are read are the names that the document declares**, for every rule, partition and entry. -/
theorem ExceptionRegistry.mem_forEntry_iff {raw : Document} {x : ExceptionRegistry}
    (h : ExceptionRegistry.read raw = .accepted x) {rule : String} {p : Partition} {entry name : String} :
    name ∈ (x.exceptionsFor rule p).forEntry entry ↔ name ∈ raw.excepted rule p entry := by
  have hrel := Reading.get?_named h rule
  rw [exceptionsFor, Document.excepted]
  cases hrule : raw.value? (isName rule) with
  | none =>
    rw [hrule, rel_none_iff] at hrel
    rw [hrel]
    exact Iff.rfl
  | some declared =>
    rw [hrule, rel_some_iff] at hrel
    obtain ⟨sets, hsets, hread⟩ := hrel
    rw [hsets, Option.bind_some]
    rcases Partitioned.get_read hread p with ⟨hnone, hempty⟩ | ⟨inner, hinner, hset⟩
    · rw [hnone]
      simp only [hempty]
      exact Iff.rfl
    · rw [hinner]
      exact ExceptionSet.mem_forEntry_iff hset

end CatalogLint
