/-
Adding a name to exceptions. `ExceptionRegistry.add` adds one to the exceptions of a rule, a partition and an entry;
`Document.addException` does it in the document that the exceptions are read from, at the value that counts, and puts in
what is missing on the way there.

- `EntryReader.readAll_adjust`: changing the value of one key in a mapping changes what is read of that key and nothing
  else. Names and partitions are both read in this way.
- `ExceptionRegistry.read_addException`: so the changed document is accepted, and it is read as the exceptions with the
  lower case of the name.
- `ExceptionRegistry.mem_forEntry_add`: this excepts that one name, in that one place.
-/
import CatalogLint.Proofs.Validation.Named

namespace CatalogLint

/-! ## Documents with a name more -/

namespace Document

/-- changes the value of a key, of which the last counts, or puts one after the others -/
def adjust (isKey : Scalar → Bool) (key : Scalar) (change : Option Document → Document) :
    List (Scalar × Document) → List (Scalar × Document)
  | [] => [(key, change none)]
  | (k, d) :: rest =>
    if isKey k && !rest.any fun e => isKey e.1 then (k, change (some d)) :: rest
    else (k, d) :: adjust isKey key change rest

/-- the same in a mapping, which may be missing -/
def adjustMapping (isKey : Scalar → Bool) (key : Scalar) (change : Option Document → Document) :
    Option Document → Document
  | some (.mapping entries) => .mapping (adjust isKey key change entries)
  | _ => .mapping (adjust isKey key change [])

/-- whether a key is read as a name -/
def isName (name : String) (key : Scalar) : Bool := Reading.text? key == some name

/-- whether a key is read as a partition -/
def isPartition (p : Partition) (key : Scalar) : Bool := (Reading.text? key).bind Partition.ofName? == some p

/-- adds a name to a list or set of names, which may be missing -/
def addName (name : String) : Option Document → Document
  | some (.list items) => .list (items ++ [.text name])
  | some (.set members) => .set (if .text name ∈ members then members else members ++ [.text name])
  | _ => .list [.text name]

/-- adds a name to the exceptions to a rule in an entry -/
def addException (rule : String) (p : Partition) (entry name : String) (raw : Document) : Document :=
  adjustMapping (isName rule) (.text rule)
    (adjustMapping (isPartition p) (.text p.name) (adjustMapping (isName entry) (.text entry) (addName name))) (some raw)

end Document

open Document (adjust adjustMapping isName isPartition addName)

/-- a change of documents, or of what stands for one, that is read as a change of values -/
structure Realises {α : Type} (read : Document → Checked α) (change : Option Document → Document)
    (value : Option α → α) : Prop where
  absent : read (change none) = .accepted (value none)
  present : ∀ d a, read d = .accepted a → read (change (some d)) = .accepted (value (some a))

/-! ## Mappings read entry by entry -/

/-- a reader of the entries of a mapping, which makes a map from keys; the last value of a key counts -/
structure EntryReader (κ μ α : Type) [DecidableEq κ] where
  key? : Scalar → Option κ
  read : Document → Checked α
  readAll : List (Scalar × Document) → Checked μ
  empty : μ
  get : μ → κ → Option α
  put : μ → κ → α → μ
  get_ext : ∀ {x y}, (∀ k, get x k = get y k) → x = y
  get_empty : ∀ k, get empty k = none
  get_put : ∀ m k a j, get (put m k a) j = if k = j then some a else get m j
  readAll_nil : readAll [] = .accepted empty
  readAll_cons : ∀ {key d rest m}, readAll ((key, d) :: rest) = .accepted m ↔ ∃ k a others, key? key = some k ∧
    read d = .accepted a ∧ readAll rest = .accepted others ∧
      ∀ j, get m j = if k = j then some ((get others k).getD a) else get others j

namespace EntryReader

variable {κ μ α : Type} [DecidableEq κ] (r : EntryReader κ μ α) {entries : List (Scalar × Document)} {m : μ}

/-- whether a key is read as this one -/
def isKey (k : κ) (key : Scalar) : Bool := r.key? key == some k

theorem isSome_get (h : r.readAll entries = .accepted m) (k : κ) :
    (r.get m k).isSome = entries.any fun e => r.isKey k e.1 := by
  induction entries generalizing m with
  | nil =>
    cases r.readAll_nil.symm.trans h
    rw [r.get_empty]
    rfl
  | cons e rest ih =>
    obtain ⟨key, d⟩ := e
    obtain ⟨n, a, others, hkey, _, hothers, hget⟩ := r.readAll_cons.1 h
    rw [List.any_cons, ← ih hothers, hget, isKey, hkey]
    by_cases heq : n = k
    · simp [heq]
    · simp [heq]

/-- **Changing the value of one key changes what is read of it**, and of no other. -/
theorem readAll_adjust {k : κ} {key : Scalar} (hkey : r.key? key = some k) {change : Option Document → Document}
    {value : Option α → α} (hchange : Realises r.read change value) (h : r.readAll entries = .accepted m) :
    r.readAll (adjust (r.isKey k) key change entries) = .accepted (r.put m k (value (r.get m k))) := by
  induction entries generalizing m with
  | nil =>
    cases r.readAll_nil.symm.trans h
    refine r.readAll_cons.2 ⟨k, _, r.empty, hkey, hchange.absent, r.readAll_nil, fun j => ?_⟩
    rw [r.get_put, r.get_empty, r.get_empty, Option.getD_none]
  | cons e rest ih =>
    obtain ⟨first, d⟩ := e
    obtain ⟨n, a, others, hfirst, ha, hothers, hget⟩ := r.readAll_cons.1 h
    have hlater := r.isSome_get hothers k
    rw [adjust]
    by_cases hlast : (r.isKey k first && !rest.any fun e => r.isKey k e.1) = true
    · -- the value that counts is here, as the rest gives the key none
      rw [if_pos hlast]
      simp only [Bool.and_eq_true, Bool.not_eq_true', ← hlater, Option.isSome_eq_false_iff,
        Option.isNone_iff_eq_none] at hlast
      obtain ⟨hhere, hnone⟩ := hlast
      have hn : n = k := by simpa [isKey, hfirst] using hhere
      subst hn
      refine r.readAll_cons.2 ⟨n, _, others, hfirst, hchange.present _ _ ha, hothers, fun j => ?_⟩
      rw [r.get_put, hget, if_pos rfl, hget, hnone, Option.getD_none, Option.getD_none]
      split <;> rfl
    · rw [if_neg hlast]
      refine r.readAll_cons.2 ⟨n, a, _, hfirst, ha, ih hothers, fun j => ?_⟩
      simp only [r.get_put, hget]
      by_cases hn : n = k
      · -- the rest gives the key a value too, which comes before that of this entry
        have hsome : (r.get others k).isSome := by
          rw [hlater]
          simpa [isKey, hfirst, hn] using hlast
        obtain ⟨b, hb⟩ := Option.isSome_iff_exists.1 hsome
        simp only [hn, hb, if_true, Option.getD_some]
        split <;> rfl
      · by_cases hj : n = j
        · subst hj
          simp [Ne.symm hn]
        · simp [hn, hj]

end EntryReader

namespace Reading

variable {α : Type} {read : Document → Checked α}

/-- mappings from names are read so -/
def entryReader (read : Document → Checked α) : EntryReader String (NameMap α) α where
  key? := text?
  read := read
  readAll := namedEntries read
  empty := .empty
  get := NameMap.get?
  put := NameMap.insert
  get_ext := NameMap.ext_get?
  get_empty _ := rfl
  get_put := fun m k a j => NameMap.get?_insert m k j a
  readAll_nil := rfl
  readAll_cons := by
    intro key d rest m
    rw [namedEntries_cons_iff]
    constructor
    · rintro ⟨n, a, others, hkey, ha, hothers, rfl⟩
      exact ⟨n, a, others, hkey, ha, hothers, fun j => NameMap.get?_insertNew others n j a⟩
    · rintro ⟨n, a, others, hkey, ha, hothers, hget⟩
      refine ⟨n, a, others, hkey, ha, hothers, NameMap.ext_get? fun j => ?_⟩
      rw [hget, NameMap.get?_insertNew]

theorem named_adjust (name : String) {change : Option Document → Document} {value : Option α → α}
    (hchange : Realises read change value) : Realises (named read) (adjustMapping (isName name) (.text name) change)
      fun m => (m.getD .empty).insert name (value ((m.getD .empty).get? name)) := by
  have hentries : ∀ entries m, namedEntries read entries = .accepted m →
      namedEntries read (adjust (isName name) (.text name) change entries) =
        .accepted (m.insert name (value (m.get? name))) :=
    fun entries m h => (entryReader read).readAll_adjust rfl hchange h
  constructor
  case absent => exact hentries [] .empty rfl
  case present =>
    intro d m h
    cases d with
    | mapping entries => exact hentries entries m h
    | scalar | list | set | pair | again => cases h

end Reading

namespace Partitioned

variable {α : Type} {read : Document → Checked α}

theorem ext_get {x y : Partitioned α} (h : ∀ p, x.get p = y.get p) : x = y := by
  cases x
  cases y
  have hsources := h .dataSources
  have hresources := h .resources
  cases hsources
  cases hresources
  rfl

/-- gives a partition a value -/
def set (x : Partitioned α) (p : Partition) (value : α) : Partitioned α :=
  match p with
  | .dataSources => { x with dataSources := value }
  | .resources => { x with resources := value }

theorem get_set (x : Partitioned α) (p q : Partition) (value : α) :
    (x.set p value).get q = if p = q then value else x.get q := by
  cases p <;> cases q <;> rfl

theorem get_setNew (x : Partitioned (Option α)) (p q : Partition) (value : α) :
    (x.setNew p value).get q = if p = q then some ((x.get p).getD value) else x.get q := by
  cases p <;> cases q <;> rfl

theorem partitionKey_eq_accepted_iff {key : Scalar} {p : Partition} :
    partitionKey key = .accepted p ↔ (Reading.text? key).bind Partition.ofName? = some p := by
  unfold partitionKey
  split
  · rename_i q hq
    simp [hq]
  · rename_i hnone
    simp [hnone, Checked.reject, Checked.within]

theorem readEntries_cons_iff {key : Scalar} {d : Document} {rest : List (Scalar × Document)}
    {x : Partitioned (Option α)} : readEntries read ((key, d) :: rest) = .accepted x ↔
      ∃ p a others, (Reading.text? key).bind Partition.ofName? = some p ∧ read d = .accepted a ∧
        readEntries read rest = .accepted others ∧ others.setNew p a = x := by
  simp only [readEntries, Checked.map_eq_accepted_iff, Checked.and_eq_accepted_iff, Checked.within_eq_accepted_iff,
    partitionKey_eq_accepted_iff]
  constructor
  · rintro ⟨⟨⟨p, a⟩, others⟩, ⟨⟨hp, ha⟩, hrest⟩, hx⟩
    exact ⟨p, a, others, hp, ha, hrest, hx⟩
  · rintro ⟨p, a, others, hp, ha, hrest, hx⟩
    exact ⟨((p, a), others), ⟨⟨hp, ha⟩, hrest⟩, hx⟩

/-- mappings from partitions are read so -/
def entryReader (read : Document → Checked α) : EntryReader Partition (Partitioned (Option α)) α where
  key? key := (Reading.text? key).bind Partition.ofName?
  read := read
  readAll := readEntries read
  empty := ⟨none, none⟩
  get := Partitioned.get
  put x p a := x.set p (some a)
  get_ext := ext_get
  get_empty p := by cases p <;> rfl
  get_put := fun x p a q => get_set x p q (some a)
  readAll_nil := rfl
  readAll_cons := by
    intro key d rest x
    rw [readEntries_cons_iff]
    constructor
    · rintro ⟨p, a, others, hkey, ha, hothers, rfl⟩
      exact ⟨p, a, others, hkey, ha, hothers, fun q => get_setNew others p q a⟩
    · rintro ⟨p, a, others, hkey, ha, hothers, hget⟩
      refine ⟨p, a, others, hkey, ha, hothers, ext_get fun q => ?_⟩
      rw [hget, get_setNew]

/-- Where a partition that is left out changes like one that is empty, so do all partitions. -/
theorem read_adjust (p : Partition) {absent : α} {change : Option Document → Document} {value : Option α → α}
    (hchange : Realises read change value) (habsent : value none = value (some absent)) :
    Realises (Partitioned.read absent read) (adjustMapping (isPartition p) (.text p.name) change)
      fun x => (x.getD ⟨absent, absent⟩).set p (value (some ((x.getD ⟨absent, absent⟩).get p))) := by
  have hentries : ∀ entries x, Partitioned.read absent read (.mapping entries) = .accepted x →
      Partitioned.read absent read (.mapping (adjust (isPartition p) (.text p.name) change entries)) =
        .accepted (x.set p (value (some (x.get p)))) := by
    intro entries x h
    obtain ⟨inner, hinner, rfl⟩ := Checked.map_eq_accepted_iff.1 h
    have hkey : (entryReader read).key? (.text p.name) = some p := Partition.ofName?_name p
    have hadjusted := (entryReader read).readAll_adjust hkey hchange hinner
    refine Checked.map_eq_accepted_iff.2 ⟨_, hadjusted, ext_get fun q => ?_⟩
    have hvalue : value (inner.get p) = value (some ((inner.get p).getD absent)) := by
      cases inner.get p with
      | none => exact habsent
      | some a => rfl
    simp only [entryReader, hvalue]
    cases p <;> cases q <;> rfl
  constructor
  case absent => exact hentries [] ⟨absent, absent⟩ rfl
  case present =>
    intro d x h
    cases d with
    | mapping entries => exact hentries entries x h
    | scalar | list | set | pair | again => cases h

end Partitioned

/-! ## Lists and sets of names -/

theorem namesFrom_append {items : List Document} {position : Int} {names : List String}
    (h : namesFrom position items = .accepted names) (name : String) :
    namesFrom position (items ++ [.text name]) = .accepted (names ++ [name]) := by
  induction items generalizing position names with
  | nil =>
    cases h
    rfl
  | cons d rest ih =>
    obtain ⟨⟨first, others⟩, hboth, rfl⟩ := Checked.map_eq_accepted_iff.1 h
    obtain ⟨hfirst, hothers⟩ := Checked.and_eq_accepted_iff.1 hboth
    refine Checked.map_eq_accepted_iff.2 ⟨(first, others ++ [name]), ?_, rfl⟩
    exact Checked.and_eq_accepted_iff.2 ⟨hfirst, ih hothers⟩

theorem mem_of_namesFrom {items : List Document} {position : Int} {names : List String}
    (h : namesFrom position items = .accepted names) {name : String} (hname : .text name ∈ items) : name ∈ names := by
  induction items generalizing position names with
  | nil => cases hname
  | cons d rest ih =>
    obtain ⟨⟨first, others⟩, hboth, rfl⟩ := Checked.map_eq_accepted_iff.1 h
    obtain ⟨hfirst, hothers⟩ := Checked.and_eq_accepted_iff.1 hboth
    rcases List.mem_cons.1 hname with rfl | hrest
    · cases Checked.within_eq_accepted_iff.1 hfirst
      exact List.mem_cons_self
    · exact List.mem_cons_of_mem _ (ih hothers hrest)

theorem NameSet.read_addName (name : String) : Realises NameSet.read (addName name)
    fun s => (s.getD .empty).insert (Text.lower name) := by
  have hadded : ∀ names, NameSet.read.lowered (names ++ [name]) =
      (NameSet.read.lowered names).insert (Text.lower name) := by
    intro names
    refine NameSet.ext fun other => ?_
    simp only [NameSet.read.lowered, NameSet.mem_ofList, NameSet.mem_insert, List.map_append, List.mem_append,
      List.map_cons, List.map_nil, List.mem_singleton]
    exact Or.comm
  constructor
  case absent => exact congrArg Checked.accepted (hadded [])
  case present =>
    intro d s h
    cases d with
    | list items =>
      obtain ⟨names, hnames, rfl⟩ := Checked.map_eq_accepted_iff.1 h
      exact Checked.map_eq_accepted_iff.2 ⟨_, namesFrom_append hnames name, hadded names⟩
    | set members =>
      obtain ⟨names, hnames, rfl⟩ := Checked.map_eq_accepted_iff.1 h
      refine Checked.map_eq_accepted_iff.2 ?_
      by_cases hmem : .text name ∈ members
      · -- the set has the name already, so its lower case is excepted already
        rw [if_pos hmem]
        refine ⟨names, hnames, NameSet.ext fun other => ?_⟩
        have hname : name ∈ names := mem_of_namesFrom hnames (List.mem_map_of_mem hmem)
        have hlower : Text.lower name ∈ NameSet.read.lowered names :=
          NameSet.mem_ofList.2 (List.mem_map_of_mem hname)
        rw [Option.getD_some, NameSet.mem_insert]
        constructor
        · exact Or.inr
        · rintro (rfl | hother)
          · exact hlower
          · exact hother
      · rw [if_neg hmem, List.map_append]
        exact ⟨_, namesFrom_append hnames name, hadded names⟩
    | scalar | mapping | pair | again => cases h

/-! ## Exceptions with a name more -/

namespace ExceptionRegistry

/-- excepts one more name from a rule in an entry -/
def add (x : ExceptionRegistry) (rule : String) (p : Partition) (entry name : String) : ExceptionRegistry :=
  let declared := (x.get? rule).getD ⟨.empty, .empty⟩
  x.insert rule (declared.set p ((declared.get p).insert entry (((declared.get p).forEntry entry).insert name)))

/-- **A name that is added to the raw exceptions is excepted**, in lower case, whatever forms the document has. -/
theorem read_addException {raw : Document} {x : ExceptionRegistry} (h : ExceptionRegistry.read raw = .accepted x)
    (rule : String) (p : Partition) (entry name : String) :
    ExceptionRegistry.read (raw.addException rule p entry name) = .accepted (x.add rule p entry (Text.lower name)) := by
  have hentry := Reading.named_adjust entry (NameSet.read_addName name)
  have hpartition := Partitioned.read_adjust p hentry rfl
  have hrule := Reading.named_adjust rule hpartition
  exact hrule.present raw x h

/-- **Only the one name is excepted more**, and only in its place. -/
theorem mem_forEntry_add {x : ExceptionRegistry} {rule : String} {p : Partition} {entry name : String}
    {rule' : String} {p' : Partition} {entry' other : String} :
    other ∈ ((x.add rule p entry name).exceptionsFor rule' p').forEntry entry' ↔
      other ∈ (x.exceptionsFor rule' p').forEntry entry' ∨ (rule' = rule ∧ p' = p ∧ entry' = entry ∧ other = name) := by
  have hnames : ∀ y : ExceptionRegistry,
      (y.exceptionsFor rule' p').forEntry entry' = (((y.get? rule').getD ⟨.empty, .empty⟩).get p').forEntry entry' := by
    intro y
    rw [exceptionsFor]
    cases y.get? rule' with
    | none => cases p' <;> rfl
    | some declared => rfl
  rw [hnames, hnames, add, NameMap.get?_insert]
  by_cases hrule : rule = rule'
  · subst hrule
    rw [if_pos rfl, Option.getD_some, Partitioned.get_set]
    by_cases hp : p = p'
    · subst hp
      rw [if_pos rfl, ExceptionSet.forEntry, NameMap.get?_insert]
      by_cases hentry : entry = entry'
      · subst hentry
        rw [if_pos rfl, Option.getD_some, NameSet.mem_insert]
        simp only [true_and]
        exact Or.comm
      · simp [hentry, Ne.symm hentry, ExceptionSet.forEntry]
    · simp [hp, Ne.symm hp]
  · simp [hrule, Ne.symm hrule]

theorem mem_ruleNames_add {x : ExceptionRegistry} {rule : String} {p : Partition} {entry name other : String} :
    other ∈ (x.add rule p entry name).ruleNames ↔ other = rule ∨ other ∈ x.ruleNames := by
  rw [ruleNames, ruleNames, ← NameMap.contains_iff, ← NameMap.contains_iff, NameMap.contains, NameMap.contains, add,
    NameMap.get?_insert]
  by_cases h : rule = other
  · simp [h]
  · simp [h, Ne.symm h]

end ExceptionRegistry

end CatalogLint
