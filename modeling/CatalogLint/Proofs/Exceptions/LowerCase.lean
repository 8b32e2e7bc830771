/-
Lower case as the normal form of exceptions. Names are stored in lower case, which lower-casing leaves alone, so nothing
is lost or gained by writing exceptions out and reading them again; and names that are not in lower case do nothing when
they are given to a rule.

`ExceptionRegistry.Renders` says which documents exceptions may be written as: every set as a list in any order, every
mapping with its keys in any order, and a partition without entries with or without its key.

- `ExceptionRegistry.isLowered_of_read`: what is read is in lower case.
- `ExceptionRegistry.read_of_renders`: what is in lower case is read back from any document that it is written as.
- `NameSet.mem_lowerCase_iff`: a rule asks for names in lower case alone, so the others can be left out.
-/
import CatalogLint.Proofs.Exceptions.Acceptance
import CatalogLint.Proofs.Text.Case
import CatalogLint.Proofs.Validation.Acceptance
import CatalogLint.Rule.Registry

namespace CatalogLint

open Document (Keyed lookup?)

/-! ## Names in lower case -/

/-- the names that are their own lower case -/
def NameSet.lowerCase (s : NameSet) : NameSet :=
  ⟨s.names.filter fun name => Text.lower name == name, s.ordered.filter _⟩

/-- the lower case of a name is in a set if and only if it is among the names in lower case -/
theorem NameSet.mem_lowerCase_iff {s : NameSet} {name : String} :
    Text.lower name ∈ s.lowerCase ↔ Text.lower name ∈ s := by
  have hmem : Text.lower name ∈ s.lowerCase ↔
      Text.lower name ∈ s.names.filter fun other => Text.lower other == other := Iff.rfl
  rw [hmem, List.mem_filter, Text.lower_lower, beq_self_eq_true, and_iff_left rfl]
  rfl

theorem BooleanNaming.check_lowerCase (s : Schema) (exceptions : NameSet) :
    BooleanNaming.check s exceptions.lowerCase = BooleanNaming.check s exceptions := by
  have hverdict : BooleanNaming.verdict exceptions.lowerCase = BooleanNaming.verdict exceptions := by
    funext name field
    simp only [BooleanNaming.verdict, BooleanNaming.Offends, NameSet.mem_lowerCase_iff]
  exact congrArg s.firstViolation hverdict

theorem RedundantDefault.check_lowerCase (s : Schema) (exceptions : NameSet) :
    RedundantDefault.check s exceptions.lowerCase = RedundantDefault.check s exceptions := by
  have hverdict : RedundantDefault.verdict exceptions.lowerCase = RedundantDefault.verdict exceptions := by
    funext name field
    simp only [RedundantDefault.verdict, RedundantDefault.Offends, NameSet.mem_lowerCase_iff]
  exact congrArg s.firstViolation hverdict

/-! ## What is stored -/

def NameSet.IsLowered (s : NameSet) : Prop := ∀ name ∈ s, Text.lower name = name

def ExceptionSet.IsLowered (s : ExceptionSet) : Prop := ∀ entry names, s.get? entry = some names → names.IsLowered

def ExceptionRegistry.IsLowered (x : ExceptionRegistry) : Prop := ∀ rule p, (x.exceptionsFor rule p).IsLowered

theorem NameSet.isLowered_of_read {d : Document} {s : NameSet} (h : NameSet.read d = .accepted s) : s.IsLowered := by
  have hlowered : ∀ names, (NameSet.read.lowered names).IsLowered := by
    intro names name hname
    obtain ⟨written, _, rfl⟩ := List.mem_map.1 (NameSet.mem_ofList.1 hname)
    exact Text.lower_lower written
  cases d with
  | list | set =>
    obtain ⟨names, _, rfl⟩ := Checked.map_eq_accepted_iff.1 h
    exact hlowered names
  | scalar | mapping | pair | again => cases h

/-- what a map that is read gives for a name has been read -/
theorem Reading.read_of_get? {α : Type} {read : Document → Checked α} {d : Document} {m : NameMap α}
    (h : Reading.named read d = .accepted m) {name : String} {a : α} (ha : m.get? name = some a) :
    ∃ inner, read inner = .accepted a := by
  have hrel := Reading.get?_named h name
  rw [ha] at hrel
  cases hvalue : d.value? (Document.isName name) with
  | none =>
    rw [hvalue] at hrel
    cases hrel
  | some inner =>
    rw [hvalue, Option.rel_some_some] at hrel
    exact ⟨inner, hrel⟩

theorem ExceptionSet.isLowered_of_read {d : Document} {s : ExceptionSet} (h : ExceptionSet.read d = .accepted s) :
    s.IsLowered := by
  intro entry names hnames
  obtain ⟨inner, hinner⟩ := Reading.read_of_get? h hnames
  exact NameSet.isLowered_of_read hinner

theorem ExceptionSet.isLowered_empty : ExceptionSet.IsLowered .empty := fun _ _ h => nomatch h

theorem ExceptionRegistry.isLowered_of_read {d : Document} {x : ExceptionRegistry}
    (h : ExceptionRegistry.read d = .accepted x) : x.IsLowered := by
  intro rule p
  rw [exceptionsFor]
  cases hrule : x.get? rule with
  | none => exact ExceptionSet.isLowered_empty
  | some sets =>
    obtain ⟨inner, hinner⟩ := Reading.read_of_get? h hrule
    rcases Partitioned.get_read hinner p with ⟨_, hempty⟩ | ⟨declared, _, hset⟩
    · simp only [hempty]
      exact ExceptionSet.isLowered_empty
    · exact ExceptionSet.isLowered_of_read hset

/-! ## Writing exceptions -/

/-- a list of the names, in any order -/
def NameSet.Renders (d : Document) (s : NameSet) : Prop :=
  ∃ names : List String, d = .list (names.map .text) ∧ names.Perm s.names

/-- a mapping with the names for keys, in any order, each with a document for its value -/
inductive NameMap.Renders {α : Type} (renders : Document → α → Prop) : Document → NameMap α → Prop where
  | mk {entries : List (Scalar × Document)} {m : NameMap α} (keyed : Keyed entries)
    (each : ∀ name, Option.Rel renders (lookup? name entries) (m.get? name)) : Renders renders (.mapping entries) m

/-- a mapping with the partitions for keys, where a partition that has no entries may be left out -/
inductive Partitioned.Renders : Document → Partitioned ExceptionSet → Prop where
  | mk {entries : List (Scalar × Document)} {x : Partitioned ExceptionSet} (keyed : Keyed entries)
    (keys : KeysAmong ["data_sources", "resources"] entries)
    (each : ∀ p : Partition, (lookup? p.name entries = none ∧ x.get p = .empty) ∨
      ∃ d, lookup? p.name entries = some d ∧ NameMap.Renders NameSet.Renders d (x.get p)) :
    Renders (.mapping entries) x

/-- a document that exceptions may be written as -/
def ExceptionRegistry.Renders : Document → ExceptionRegistry → Prop := NameMap.Renders Partitioned.Renders

theorem NameSet.read_of_renders {d : Document} {s : NameSet} (hlower : s.IsLowered) (h : NameSet.Renders d s) :
    NameSet.read d = .accepted s := by
  obtain ⟨names, rfl, hperm⟩ := h
  have hplain : (Document.list (names.map .text)).Plain := by
    refine .list fun d hd => ?_
    obtain ⟨name, _, rfl⟩ := List.mem_map.1 hd
    exact .text name
  refine (NameSet.read_eq_accepted_iff hplain).2 ⟨names, .list names, NameSet.ext fun name => ?_⟩
  have hmem : ∀ other, other ∈ names ↔ other ∈ s := fun other => hperm.mem_iff
  rw [NameSet.mem_ofList, List.mem_map]
  constructor
  · rintro ⟨written, hwritten, rfl⟩
    rw [hmem] at hwritten
    rwa [hlower written hwritten]
  · intro hname
    exact ⟨name, (hmem name).2 hname, hlower name hname⟩

theorem NameMap.read_of_renders {α : Type} {renders : Document → α → Prop} {read : Document → Checked α}
    {d : Document} {m : NameMap α} (h : NameMap.Renders renders d m)
    (hread : ∀ name a, m.get? name = some a → ∀ inner, renders inner a → read inner = .accepted a) :
    Reading.named read d = .accepted m := by
  obtain ⟨keyed, each⟩ := h
  refine (Reading.namedEntries_eq_accepted_iff keyed).2 fun name => ?_
  exact rel_imp (each name) fun inner a _ ha hinner => hread name a ha inner hinner

theorem ExceptionSet.read_of_renders {d : Document} {s : ExceptionSet} (hlower : s.IsLowered)
    (h : NameMap.Renders NameSet.Renders d s) : ExceptionSet.read d = .accepted s :=
  NameMap.read_of_renders h fun entry names hnames _ hinner =>
    NameSet.read_of_renders (hlower entry names hnames) hinner

theorem Partitioned.read_of_renders {d : Document} {x : Partitioned ExceptionSet}
    (hlower : ∀ p, (x.get p).IsLowered) (h : Partitioned.Renders d x) :
    Partitioned.read .empty ExceptionSet.read d = .accepted x := by
  obtain ⟨keyed, keys, each⟩ := h
  rename_i entries
  have hread : ∀ (p : Partition) d, lookup? p.name entries = some d → ExceptionSet.read d = .accepted (x.get p) := by
    intro p d hd
    rcases each p with ⟨hnone, _⟩ | ⟨inner, hinner, hrenders⟩
    · cases hnone.symm.trans hd
    · cases hinner.symm.trans hd
      exact ExceptionSet.read_of_renders (hlower p) hrenders
  have hdeclared : ∀ (p : Partition) d, lookup? p.name entries = some d → ∃ s, ExceptionSet.read d = .accepted s :=
    fun p d hd => ⟨x.get p, hread p d hd⟩
  have hvalues := (forall_partition_iff keyed keys).1 hdeclared
  obtain ⟨y, hy⟩ : ∃ y, Partitioned.read .empty ExceptionSet.read (.mapping entries) = .accepted y :=
    (Partitioned.exists_read_iff keyed).2 ⟨keys, hvalues⟩
  have hsame : y = x := by
    refine Partitioned.ext_get fun p => ?_
    have hp := Partitioned.get_read hy p
    rw [Document.value?, keyed.last?_eq Document.isPartition_text_iff] at hp
    rcases hp with ⟨hnone, hempty⟩ | ⟨inner, hinner, hset⟩
    · rcases each p with ⟨_, hx⟩ | ⟨d, hd, _⟩
      · rw [hempty, hx]
      · cases hnone.symm.trans hd
    · exact (Checked.accepted.inj ((hread p inner hinner).symm.trans hset)).symm
  rw [hy, hsame]

theorem ExceptionRegistry.read_of_renders {d : Document} {x : ExceptionRegistry} (hlower : x.IsLowered)
    (h : ExceptionRegistry.Renders d x) : ExceptionRegistry.read d = .accepted x := by
  refine NameMap.read_of_renders h fun rule sets hsets _ hinner => Partitioned.read_of_renders (fun p => ?_) hinner
  have hp := hlower rule p
  rwa [exceptionsFor, hsets] at hp

/-! ## The document with everything in order -/

def NameSet.toDocument (s : NameSet) : Document := .list (s.names.map .text)

def NameMap.toDocument {α : Type} (toDocument : α → Document) (m : NameMap α) : Document :=
  .mapping (m.entries.map fun e => (.text e.1, toDocument e.2))

def Partitioned.toDocument {α : Type} (toDocument : α → Document) (x : Partitioned α) : Document :=
  .mapping [(.text "data_sources", toDocument x.dataSources), (.text "resources", toDocument x.resources)]

def ExceptionSet.toDocument : ExceptionSet → Document := NameMap.toDocument NameSet.toDocument

def ExceptionRegistry.toDocument : ExceptionRegistry → Document :=
  NameMap.toDocument (Partitioned.toDocument ExceptionSet.toDocument)

theorem NameMap.lookup?_toDocument {α : Type} (toDocument : α → Document) (entries : List (String × α))
    (name : String) : lookup? name (entries.map fun e => (.text e.1, toDocument e.2)) =
      (Entries.lookup? name entries).map toDocument := by
  induction entries with
  | nil => rfl
  | cons e rest ih =>
    obtain ⟨n, a⟩ := e
    rw [List.map_cons, lookup?, Entries.lookup?, ih]
    by_cases h : n = name
    · rw [if_pos (congrArg Scalar.text h), if_pos h, Option.map_some]
    · rw [if_neg fun heq => h (Scalar.text.inj heq), if_neg h]

theorem NameMap.renders_toDocument {α : Type} {renders : Document → α → Prop} {toDocument : α → Document}
    (h : ∀ a, renders (toDocument a) a) (m : NameMap α) : NameMap.Renders renders (m.toDocument toDocument) m := by
  refine .mk ⟨fun e he => ?_, ?_⟩ fun name => ?_
  · obtain ⟨entry, _, rfl⟩ := List.mem_map.1 he
    exact ⟨entry.1, rfl⟩
  · have hkeys := m.nodup_keys
    rw [NameMap.names, List.map_map] at hkeys
    rwa [List.map_map]
  · rw [NameMap.lookup?_toDocument, NameMap.get?]
    cases Entries.lookup? name m.entries with
    | none => exact .none
    | some a => exact .some (h a)

theorem NameSet.renders_toDocument (s : NameSet) : NameSet.Renders s.toDocument s := ⟨s.names, rfl, .refl _⟩

theorem Partitioned.renders_toDocument (x : Partitioned ExceptionSet) :
    Partitioned.Renders (x.toDocument ExceptionSet.toDocument) x := by
  refine .mk ⟨by simp, by simp⟩ (by simp [KeysAmong]) fun p => Or.inr ?_
  refine ⟨ExceptionSet.toDocument (x.get p), ?_, NameMap.renders_toDocument NameSet.renders_toDocument _⟩
  cases p <;> rfl

theorem ExceptionRegistry.renders_toDocument (x : ExceptionRegistry) : ExceptionRegistry.Renders x.toDocument x :=
  NameMap.renders_toDocument Partitioned.renders_toDocument x

/-! ## The normal form -/

/-- **Lower case is a normal form of exceptions.** A text in lower case is its own lower case. So every name that is
stored for an entry is its own lower case. Exceptions that were read are read again, unchanged, from any document that
they are written as, and there is one. A rule that takes exceptions reports the same when the names that are not their
own lower case are left out. -/
theorem lower_case_is_normal_form :
    (∀ s : String, Text.lower (Text.lower s) = Text.lower s) ∧
    (∀ d s, ExceptionSet.read d = .accepted s → ∀ e ∈ s.entries, ∀ name ∈ e.2, Text.lower name = name) ∧
    (∀ d x, ExceptionRegistry.read d = .accepted x → ExceptionRegistry.Renders x.toDocument x ∧
      ∀ written, ExceptionRegistry.Renders written x → ExceptionRegistry.read written = .accepted x) ∧
    ∀ (schema : Schema) (names : NameSet),
      BooleanNaming.check schema names.lowerCase = BooleanNaming.check schema names ∧
      RedundantDefault.check schema names.lowerCase = RedundantDefault.check schema names := by
  refine ⟨Text.lower_lower, fun d s hs e he => ?_, fun d x hx => ⟨x.renders_toDocument, fun written hwritten => ?_⟩,
    fun schema names => ⟨BooleanNaming.check_lowerCase schema names, RedundantDefault.check_lowerCase schema names⟩⟩
  · exact ExceptionSet.isLowered_of_read hs e.1 e.2 ((Entries.lookup?_eq_some_iff s.ordered).2 he)
  · exact ExceptionRegistry.read_of_renders (ExceptionRegistry.isLowered_of_read hx) hwritten

end CatalogLint
