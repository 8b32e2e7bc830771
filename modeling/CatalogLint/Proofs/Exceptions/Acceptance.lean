/-
Documents and the exceptions that they declare, for plain data. `IsExceptions` is the grammar: mappings from rules, from
partitions and from entries, down to lists or sets of names. `Document.at?` looks up one key after the other on the way
down and knows nothing of rules or partitions.

- `EntryReader.exists_readAll_iff`: a mapping is accepted when each of its keys and values is.
- `ExceptionRegistry.exists_read_iff`: so a document is accepted exactly when it is in the grammar.
- `ExceptionRegistry.exceptionsFor_read`: what is read for a rule and a partition is read from the document under both
  keys, and is empty where one is left out.
- `ExceptionRegistry.Holds`: what exceptions must say of each rule, partition and entry to hold what is declared.
-/
import CatalogLint.Proofs.Exceptions.Declared
import CatalogLint.Proofs.Validation.Grammar

namespace CatalogLint

open Document (last? value? lookup? loweredNames isName isPartition)

/-! ## The grammar -/

/-- a list or a set of texts, and the names that these are -/
inductive ListsNames : Document → List String → Prop where
  | list (names : List String) : ListsNames (.list (names.map .text)) names
  | set (names : List String) : ListsNames (.set (names.map .text)) names

theorem ListsNames.unique {d : Document} {names others : List String} (h : ListsNames d names)
    (hother : ListsNames d others) : names = others := by
  generalize hd : d = other at hother
  cases h with
  | list =>
    cases hother with
    | list => exact List.map_injective_iff.2 (fun a b hab => by cases hab; rfl) (Document.list.inj hd)
    | set => cases hd
  | set =>
    cases hother with
    | list => cases hd
    | set => exact List.map_injective_iff.2 (fun a b hab => Scalar.text.inj hab) (Document.set.inj hd)

/-- a mapping whose values all are of a form -/
inductive IsMappingTo (isValue : Document → Prop) : Document → Prop where
  | mk {entries : List (Scalar × Document)} (values : ∀ e ∈ entries, isValue e.2) :
    IsMappingTo isValue (.mapping entries)

/-- a mapping from entries to names -/
def IsExceptionSet : Document → Prop := IsMappingTo fun d => ∃ names, ListsNames d names

/-- a mapping from partitions to their entries -/
inductive IsPartitionedSet : Document → Prop where
  | mk {entries : List (Scalar × Document)} (keys : KeysAmong ["data_sources", "resources"] entries)
    (values : ∀ e ∈ entries, IsExceptionSet e.2) : IsPartitionedSet (.mapping entries)

/-- a mapping from rules to their partitions -/
def IsExceptions : Document → Prop := IsMappingTo IsPartitionedSet

/-! ## Look-ups on the way down -/

namespace Document

/-- the value of a key, where the document is a mapping -/
def child? (name : String) : Document → Option Document
  | .mapping entries => lookup? name entries
  | _ => none

/-- the document under a list of keys, each looked up below those before it -/
def at? : List String → Document → Option Document
  | [], d => some d
  | name :: rest, d => (d.child? name).bind (at? rest)

theorem Keyed.last?_eq {entries : List (Scalar × Document)} (h : Keyed entries) {isKey : Scalar → Bool} {name : String}
    (hkey : ∀ n, isKey (.text n) ↔ n = name) : last? isKey entries = lookup? name entries := by
  induction entries with
  | nil => rfl
  | cons e rest ih =>
    obtain ⟨key, d⟩ := e
    obtain ⟨n, hn⟩ := h.texts _ List.mem_cons_self
    simp only at hn
    subst hn
    rw [last?, lookup?, ih h.tail]
    by_cases heq : n = name
    · subst heq
      -- the key occurs here alone
      rw [h.lookup?_tail, if_pos ((hkey n).2 rfl), if_pos rfl, Option.none_or]
    · rw [if_neg fun hk => heq ((hkey n).1 hk), if_neg fun hk => heq (Scalar.text.inj hk), Option.or_none]

theorem isName_text_iff {name : String} (n : String) : isName name (.text n) ↔ n = name := by
  simp [isName, Reading.text?]

theorem isPartition_text_iff {p : Partition} (n : String) : isPartition p (.text n) ↔ n = p.name := by
  simp only [isPartition, Reading.text?, Option.bind_some, beq_iff_eq]
  constructor
  · intro h
    exact (Partition.name_of_ofName? h).symm
  · rintro rfl
    exact Partition.ofName?_name p

theorem Plain.value?_eq {d : Document} (h : d.Plain) {isKey : Scalar → Bool} {name : String}
    (hkey : ∀ n, isKey (.text n) ↔ n = name) : d.value? isKey = d.child? name := by
  cases h with
  | scalar | list | set => rfl
  | mapping keyed values => exact keyed.last?_eq hkey

theorem Plain.child {d inner : Document} {name : String} (h : d.Plain) (hinner : d.child? name = some inner) :
    inner.Plain := by
  cases d with
  | mapping entries => exact h.of_lookup? hinner
  | scalar | list | set | pair | again => cases hinner

end Document

/-! ## What is accepted -/

theorem EntryReader.exists_readAll_iff {κ μ α : Type} [DecidableEq κ] (r : EntryReader κ μ α)
    (entries : List (Scalar × Document)) : (∃ m, r.readAll entries = .accepted m) ↔
      ∀ e ∈ entries, (∃ k, r.key? e.1 = some k) ∧ ∃ a, r.read e.2 = .accepted a := by
  induction entries with
  | nil => exact ⟨fun _ e he => absurd he List.not_mem_nil, fun _ => ⟨_, r.readAll_nil⟩⟩
  | cons e rest ih =>
    obtain ⟨key, d⟩ := e
    rw [List.forall_mem_cons, ← ih]
    constructor
    · rintro ⟨m, hm⟩
      obtain ⟨k, a, others, hkey, ha, hothers, _⟩ := r.readAll_cons.1 hm
      exact ⟨⟨⟨k, hkey⟩, a, ha⟩, others, hothers⟩
    · rintro ⟨⟨⟨k, hkey⟩, a, ha⟩, others, hothers⟩
      refine ⟨r.put others k ((r.get others k).getD a), r.readAll_cons.2 ⟨k, a, others, hkey, ha, hothers, ?_⟩⟩
      exact r.get_put others k _

theorem Reading.exists_named_iff {α : Type} {read : Document → Checked α} {d : Document} (h : d.Plain) :
    (∃ m, Reading.named read d = .accepted m) ↔ IsMappingTo (fun inner => ∃ a, read inner = .accepted a) d := by
  cases h with
  | scalar | list | set =>
    constructor
    · rintro ⟨m, hm⟩
      cases hm
    · intro hd
      cases hd
  | @mapping entries keyed =>
    have hentries := (Reading.entryReader read).exists_readAll_iff entries
    constructor
    · intro hm
      exact .mk fun e he => (hentries.1 hm e he).2
    · intro hd
      cases hd with
      | mk values =>
        refine hentries.2 fun e he => ⟨?_, values e he⟩
        obtain ⟨name, hname⟩ := keyed.texts e he
        exact ⟨name, congrArg Reading.text? hname⟩

/-- the keys of partitions -/
theorem exists_partition_iff {name : String} :
    (∃ p, Partition.ofName? name = some p) ↔ name ∈ ["data_sources", "resources"] := by
  simp only [List.mem_cons, List.not_mem_nil, or_false]
  constructor
  · rintro ⟨p, hp⟩
    rw [← Partition.name_of_ofName? hp]
    cases p
    · exact Or.inl rfl
    · exact Or.inr rfl
  · rintro (rfl | rfl)
    · exact ⟨.dataSources, rfl⟩
    · exact ⟨.resources, rfl⟩

theorem Partitioned.exists_read_iff {α : Type} {read : Document → Checked α} {absent : α}
    {entries : List (Scalar × Document)} (keyed : Document.Keyed entries) :
    (∃ x, Partitioned.read absent read (.mapping entries) = .accepted x) ↔
      KeysAmong ["data_sources", "resources"] entries ∧ ∀ e ∈ entries, ∃ a, read e.2 = .accepted a := by
  have hentries := (Partitioned.entryReader read).exists_readAll_iff entries
  constructor
  · rintro ⟨x, hx⟩
    obtain ⟨inner, hinner, _⟩ := Checked.map_eq_accepted_iff.1 hx
    have hall := hentries.1 ⟨inner, hinner⟩
    refine ⟨fun e he => ?_, fun e he => (hall e he).2⟩
    obtain ⟨name, hname⟩ := keyed.texts e he
    obtain ⟨p, hp⟩ := (hall e he).1
    rw [hname] at hp
    exact ⟨name, exists_partition_iff.1 ⟨p, hp⟩, hname⟩
  · rintro ⟨hkeys, values⟩
    have hall : ∀ e ∈ entries,
        (∃ p, (Partitioned.entryReader read).key? e.1 = some p) ∧ ∃ a, read e.2 = .accepted a := by
      intro e he
      obtain ⟨name, hmem, hname⟩ := hkeys e he
      obtain ⟨p, hp⟩ := exists_partition_iff.2 hmem
      rw [hname]
      exact ⟨⟨p, hp⟩, values e he⟩
    obtain ⟨x, hx⟩ := hentries.2 hall
    exact ⟨_, Checked.map_eq_accepted_iff.2 ⟨x, hx, rfl⟩⟩

theorem Reading.text_eq_accepted_iff {d : Document} (h : d.Plain) {name : String} :
    Reading.text d = .accepted name ↔ d = .text name := by
  cases h with
  | list | set | mapping => simp [Reading.text, Checked.reject]
  | @scalar s hs =>
    cases s with
    | bytes b => exact absurd rfl (hs b)
    | text t => simp [Reading.text, Reading.scalarText, Reading.text?]
    | _ => simp [Reading.text, Reading.scalarText, Reading.text?, Checked.reject]

theorem namesFrom_eq_accepted_iff {items : List Document} (h : ∀ d ∈ items, d.Plain) {position : Int}
    {names : List String} : namesFrom position items = .accepted names ↔ items = names.map .text := by
  induction items generalizing position names with
  | nil => cases names <;> simp [namesFrom]
  | cons d rest ih =>
    obtain ⟨hd, hrest⟩ := List.forall_mem_cons.1 h
    simp only [namesFrom, Checked.map_eq_accepted_iff, Checked.and_eq_accepted_iff, Checked.within_eq_accepted_iff,
      Reading.text_eq_accepted_iff hd, ih hrest]
    constructor
    · rintro ⟨⟨first, others⟩, ⟨rfl, rfl⟩, rfl⟩
      rfl
    · intro hitems
      cases names with
      | nil => cases hitems
      | cons first others =>
        obtain ⟨hfirst, hothers⟩ := List.cons.inj hitems
        exact ⟨(first, others), ⟨hfirst, hothers⟩, rfl⟩

/-- Names are read from exactly the lists and sets of texts, as the lower case of what these list. -/
theorem NameSet.read_eq_accepted_iff {d : Document} (h : d.Plain) {s : NameSet} :
    NameSet.read d = .accepted s ↔ ∃ names, ListsNames d names ∧ NameSet.ofList (names.map Text.lower) = s := by
  cases h with
  | scalar | mapping =>
    constructor
    · intro hs
      cases hs
    · rintro ⟨names, hnames, _⟩
      cases hnames
  | list hitems =>
    simp only [NameSet.read, Checked.map_eq_accepted_iff, namesFrom_eq_accepted_iff hitems]
    constructor
    · rintro ⟨names, rfl, hs⟩
      exact ⟨names, .list names, hs⟩
    · rintro ⟨names, hnames, hs⟩
      cases hnames
      exact ⟨names, rfl, hs⟩
  | @set members hmembers =>
    have hitems : ∀ d ∈ members.map Document.scalar, d.Plain := by
      intro d hd
      obtain ⟨s, hs, rfl⟩ := List.mem_map.1 hd
      exact .scalar (hmembers s hs)
    simp only [NameSet.read, Checked.map_eq_accepted_iff, namesFrom_eq_accepted_iff hitems]
    constructor
    · rintro ⟨names, hnames, hs⟩
      have hsame : members = names.map Scalar.text := by
        refine List.map_injective_iff.2 (fun a b hab => Document.scalar.inj hab) ?_
        rw [hnames, List.map_map]
        rfl
      subst hsame
      exact ⟨names, .set names, hs⟩
    · rintro ⟨names, hnames, hs⟩
      cases hnames
      exact ⟨names, List.map_map, hs⟩

theorem IsMappingTo.congr {isValue isOther : Document → Prop} {d : Document} (h : d.Plain)
    (hsame : ∀ inner : Document, inner.Plain → (isValue inner ↔ isOther inner)) :
    IsMappingTo isValue d ↔ IsMappingTo isOther d := by
  constructor
  · rintro ⟨values⟩
    exact .mk fun e he => (hsame e.2 (h.entries.2 e he)).1 (values e he)
  · rintro ⟨values⟩
    exact .mk fun e he => (hsame e.2 (h.entries.2 e he)).2 (values e he)

theorem ExceptionSet.exists_read_iff {d : Document} (h : d.Plain) :
    (∃ s, ExceptionSet.read d = .accepted s) ↔ IsExceptionSet d := by
  rw [ExceptionSet.read, Reading.exists_named_iff h, IsExceptionSet]
  refine IsMappingTo.congr h fun inner hinner => ?_
  simp only [NameSet.read_eq_accepted_iff hinner, exists_comm (α := NameSet), exists_and_left, exists_eq', and_true]

theorem isPartitionedSet_iff {d : Document} (h : d.Plain) :
    (∃ x, Partitioned.read .empty ExceptionSet.read d = .accepted x) ↔ IsPartitionedSet d := by
  cases h with
  | scalar | list | set =>
    constructor
    · rintro ⟨x, hx⟩
      cases hx
    · intro hd
      cases hd
  | mapping keyed values =>
    have hvalues := fun e he => ExceptionSet.exists_read_iff (values e he)
    rw [Partitioned.exists_read_iff keyed]
    constructor
    · rintro ⟨hkeys, hread⟩
      exact .mk hkeys fun e he => (hvalues e he).1 (hread e he)
    · rintro ⟨hkeys, hsets⟩
      exact ⟨hkeys, fun e he => (hvalues e he).2 (hsets e he)⟩

/-- Plain data is accepted as exceptions exactly where it is in the grammar. -/
theorem ExceptionRegistry.exists_read_iff {d : Document} (h : d.Plain) :
    (∃ x, ExceptionRegistry.read d = .accepted x) ↔ IsExceptions d := by
  rw [ExceptionRegistry.read, Reading.exists_named_iff h, IsExceptions]
  exact IsMappingTo.congr h fun inner hinner => isPartitionedSet_iff hinner

/-! ## What is held -/

section

variable {α : Type} {read : Document → Checked α} {d : Document} {m : NameMap α}

theorem Reading.get?_named_of_plain (h : d.Plain) (hm : Reading.named read d = .accepted m) (name : String) :
    Option.Rel (fun d a => read d = .accepted a) (d.child? name) (m.get? name) := by
  rw [← h.value?_eq Document.isName_text_iff]
  exact Reading.get?_named hm name

/-- A map that is read has the names of the mapping. -/
theorem Reading.mem_names_named (h : d.Plain) (hm : Reading.named read d = .accepted m) {name : String} :
    name ∈ m.names ↔ ∃ inner, d.child? name = some inner := by
  rw [← NameMap.contains_iff, NameMap.contains]
  have hrel := Reading.get?_named_of_plain h hm name
  cases hchild : d.child? name with
  | none =>
    rw [hchild, rel_none_iff] at hrel
    simp [hrel]
  | some inner =>
    rw [hchild, rel_some_iff] at hrel
    obtain ⟨a, ha, _⟩ := hrel
    simp [ha]

/-- the names of a map are different keys -/
theorem NameMap.nodup_keys {α : Type} (m : NameMap α) : (m.names.map Scalar.text).Nodup := by
  refine List.pairwise_map.2 (m.names_ordered.imp ?_)
  intro a b hlt heq
  exact String.lt_irrefl b (Scalar.text.inj heq ▸ hlt)

/-- the number of keys, where a document is a mapping -/
def Document.keyCount : Document → Nat
  | .mapping entries => entries.length
  | _ => 0

/-- A map that is read has one value for each key. -/
theorem Reading.size_named (h : d.Plain) (hm : Reading.named read d = .accepted m) : m.size = d.keyCount := by
  cases d with
  | scalar | list | set | pair | again => cases hm
  | mapping entries =>
    obtain ⟨keyed, _⟩ := h.entries
    have hkeys : (m.names.map Scalar.text).Perm (entries.map Prod.fst) := by
      refine (List.perm_ext_iff_of_nodup m.nodup_keys keyed.distinct).2 fun key => ?_
      rw [List.mem_map]
      constructor
      · rintro ⟨name, hname, rfl⟩
        obtain ⟨inner, hinner⟩ := (Reading.mem_names_named h hm).1 hname
        exact List.mem_map_of_mem (Document.mem_of_lookup? hinner)
      · intro hkey
        obtain ⟨e, he, rfl⟩ := List.mem_map.1 hkey
        obtain ⟨name, hname⟩ := keyed.texts e he
        refine ⟨name, (Reading.mem_names_named h hm).2 ⟨e.2, ?_⟩, hname.symm⟩
        exact keyed.lookup?_eq_some_iff.2 (hname ▸ he)
    have hlength := hkeys.length_eq
    rwa [List.length_map, List.length_map, NameMap.names, List.length_map] at hlength

end

theorem Document.at?_concat (path : List String) (name : String) (d : Document) :
    d.at? (path ++ [name]) = (d.at? path).bind (Document.child? name) := by
  induction path generalizing d with
  | nil =>
    rw [List.nil_append, at?, at?, Option.bind_some]
    cases d.child? name <;> rfl
  | cons first rest ih =>
    rw [List.cons_append, at?, at?, Option.bind_assoc]
    exact congrArg _ (funext ih)

namespace ExceptionRegistry

variable {d : Document} {x : ExceptionRegistry}

/-- What is held for a rule in a partition is read from the document under both keys, or empty where there is none. -/
theorem exceptionsFor_read (h : d.Plain) (hx : ExceptionRegistry.read d = .accepted x) (rule : String)
    (p : Partition) : (d.at? [rule, p.name] = none ∧ x.exceptionsFor rule p = .empty) ∨
      ∃ inner, d.at? [rule, p.name] = some inner ∧ inner.Plain ∧
        ExceptionSet.read inner = .accepted (x.exceptionsFor rule p) := by
  have hrule := Reading.get?_named_of_plain h hx rule
  simp only [Document.at?, exceptionsFor]
  cases hchild : d.child? rule with
  | none =>
    rw [hchild, rel_none_iff] at hrule
    rw [hrule]
    exact Or.inl ⟨rfl, rfl⟩
  | some declared =>
    rw [hchild, rel_some_iff] at hrule
    obtain ⟨sets, hsets, hread⟩ := hrule
    have hplain := h.child hchild
    have hpartition := Partitioned.get_read hread p
    rw [hplain.value?_eq Document.isPartition_text_iff] at hpartition
    rw [hsets]
    simp only [Option.bind_some]
    rcases hpartition with ⟨hnone, hempty⟩ | ⟨inner, hinner, hset⟩
    · rw [hnone, hempty]
      exact Or.inl ⟨rfl, rfl⟩
    · rw [hinner]
      exact Or.inr ⟨inner, rfl, hplain.child hinner, hset⟩

/-- The names held for an entry are read from the document under its key, too. -/
theorem forEntry_read (h : d.Plain) (hx : ExceptionRegistry.read d = .accepted x) (rule : String) (p : Partition)
    (entry : String) :
    (d.at? [rule, p.name, entry] = none ∧ (x.exceptionsFor rule p).forEntry entry = .empty) ∨
      ∃ inner, d.at? [rule, p.name, entry] = some inner ∧ inner.Plain ∧
        NameSet.read inner = .accepted ((x.exceptionsFor rule p).forEntry entry) := by
  have hentry : d.at? [rule, p.name, entry] = (d.at? [rule, p.name]).bind (Document.child? entry) :=
    Document.at?_concat [rule, p.name] entry d
  rw [hentry, ExceptionSet.forEntry]
  rcases exceptionsFor_read h hx rule p with ⟨hnone, hempty⟩ | ⟨inner, hinner, hplain, hset⟩
  · rw [hnone, hempty]
    exact Or.inl ⟨rfl, rfl⟩
  · have hrel := Reading.get?_named_of_plain hplain hset entry
    rw [hinner, Option.bind_some]
    cases hchild : inner.child? entry with
    | none =>
      rw [hchild, rel_none_iff] at hrel
      rw [hrel]
      exact Or.inl ⟨rfl, rfl⟩
    | some listed =>
      rw [hchild, rel_some_iff] at hrel
      obtain ⟨names, hnames, hread⟩ := hrel
      rw [hnames]
      exact Or.inr ⟨listed, rfl, hplain.child hchild, hread⟩

/-- exceptions hold what a document declares: for every rule, partition and entry the lower case of the names under
these three keys and no others; and the rules and entries under the keys that they have in the document -/
structure Holds (x : ExceptionRegistry) (d : Document) : Prop where
  declared : ∀ rule p entry inner, d.at? [rule, p.name, entry] = some inner → ∃ names, ListsNames inner names ∧
    ∀ name, name ∈ (x.exceptionsFor rule p).forEntry entry ↔ ∃ n ∈ names, Text.lower n = name
  undeclared : ∀ rule p entry, d.at? [rule, p.name, entry] = none → (x.exceptionsFor rule p).forEntry entry = .empty
  ruleNames : x.ruleNames.Pairwise (· < ·) ∧ ∀ rule, rule ∈ x.ruleNames ↔ ∃ inner, d.at? [rule] = some inner
  entryNames : ∀ rule p, (x.exceptionsFor rule p).names.Pairwise (· < ·) ∧
    ∀ entry, entry ∈ (x.exceptionsFor rule p).names ↔ ∃ inner, d.at? [rule, p.name, entry] = some inner
  size : ∀ rule p, (x.exceptionsFor rule p).size = (d.at? [rule, p.name]).elim 0 Document.keyCount

theorem holds_of_read (h : d.Plain) (hx : ExceptionRegistry.read d = .accepted x) : x.Holds d := by
  constructor
  case declared =>
    intro rule p entry inner hinner
    rcases forEntry_read h hx rule p entry with ⟨hnone, _⟩ | ⟨other, hother, hplain, hread⟩
    · rw [hnone] at hinner
      cases hinner
    · cases hinner.symm.trans hother
      obtain ⟨names, hlists, hnames⟩ := (NameSet.read_eq_accepted_iff hplain).1 hread
      refine ⟨names, hlists, fun name => ?_⟩
      rw [← hnames, NameSet.mem_ofList, List.mem_map]
  case undeclared =>
    intro rule p entry hnone
    rcases forEntry_read h hx rule p entry with ⟨_, hempty⟩ | ⟨inner, hinner, _⟩
    · exact hempty
    · cases hnone.symm.trans hinner
  case ruleNames =>
    refine ⟨x.names_ordered, fun rule => ?_⟩
    rw [ruleNames, Reading.mem_names_named h hx]
    have hone := Document.at?_concat [] rule d
    rw [List.nil_append, Document.at?, Option.bind_some] at hone
    rw [hone]
  case entryNames =>
    intro rule p
    refine ⟨NameMap.names_ordered _, fun entry => ?_⟩
    have hentry : d.at? [rule, p.name, entry] = (d.at? [rule, p.name]).bind (Document.child? entry) :=
      Document.at?_concat [rule, p.name] entry d
    rw [hentry]
    rcases exceptionsFor_read h hx rule p with ⟨hnone, hempty⟩ | ⟨inner, hinner, hplain, hset⟩
    · rw [hnone, hempty]
      simp [NameMap.empty, NameMap.names]
    · rw [hinner, Option.bind_some, Reading.mem_names_named hplain hset]
  case size =>
    intro rule p
    rcases exceptionsFor_read h hx rule p with ⟨hnone, hempty⟩ | ⟨inner, hinner, hplain, hset⟩
    · rw [hnone, hempty]
      rfl
    · rw [hinner, Reading.size_named hplain hset, Option.elim_some]

end ExceptionRegistry

/-- **Exceptions are accepted exactly as the grammar has them**, and hold exactly what is declared. A document of plain
data is read as exceptions if and only if it is a mapping from rules to mappings from the two partitions to mappings
from entries to lists of names. Then for each rule, partition and entry the names excepted are the lower case of those
in the document, and none where one of the three keys is left out. Rules and entries are listed in order, as they are
written, and an entry counts also where its list is empty. -/
theorem exceptions_read_iff_grammar (d : Document) (hplain : d.Plain) :
    ((∃ x, ExceptionRegistry.read d = .accepted x) ↔ IsExceptions d) ∧
      ∀ x, ExceptionRegistry.read d = .accepted x → x.Holds d :=
  ⟨ExceptionRegistry.exists_read_iff hplain, fun _ hx => ExceptionRegistry.holds_of_read hplain hx⟩

def switchSpellings : Document := .list [.text "CACHE_Enabled", .text "cache_enabled"]

/-- two entries that differ in letter case alone, one without names and one with two spellings of a switch -/
def twoSpellings : Document :=
  .mapping [(.text "boolean_naming", .mapping [(.text "resources",
    .mapping [(.text "disk", .list []), (.text "Disk", switchSpellings)])])]

/-- They are accepted and stay two entries, and the spellings become one name. -/
theorem spellings_fold_entries_stay : twoSpellings.Plain ∧ ∃ x, ExceptionRegistry.read twoSpellings = .accepted x ∧
    (x.exceptionsFor "boolean_naming" .resources).size = 2 ∧
    (∀ name, name ∈ (x.exceptionsFor "boolean_naming" .resources).forEntry "Disk" ↔ name = "cache_enabled") ∧
    (x.exceptionsFor "boolean_naming" .dataSources).forEntry "Disk" = .empty := by
  have hplain : twoSpellings.Plain := by
    refine .one (.one (.two (by decide) (.list ?_) (.list ?_)))
    · simp
    · simp [Document.Plain.text]
  have hnone : ListsNames (.list []) [] := .list []
  have hlists : ListsNames switchSpellings ["CACHE_Enabled", "cache_enabled"] :=
    .list ["CACHE_Enabled", "cache_enabled"]
  have hgrammar : IsExceptions twoSpellings := by
    refine .mk (List.forall_mem_singleton.2 (.mk (by simp [KeysAmong]) (List.forall_mem_singleton.2 (.mk ?_))))
    exact List.forall_mem_cons.2 ⟨⟨_, hnone⟩, List.forall_mem_singleton.2 ⟨_, hlists⟩⟩
  obtain ⟨haccepted, hholds⟩ := exceptions_read_iff_grammar twoSpellings hplain
  obtain ⟨x, hx⟩ := haccepted.2 hgrammar
  refine ⟨hplain, x, hx, (hholds x hx).size _ _, fun name => ?_, (hholds x hx).undeclared _ _ _ rfl⟩
  obtain ⟨names, hnames, hmem⟩ := (hholds x hx).declared "boolean_naming" .resources "Disk" switchSpellings rfl
  have hlower : ["CACHE_Enabled", "cache_enabled"].map Text.lower = ["cache_enabled", "cache_enabled"] := by decide
  cases hnames.unique hlists
  rw [hmem, ← List.mem_map, hlower]
  simp

end CatalogLint
