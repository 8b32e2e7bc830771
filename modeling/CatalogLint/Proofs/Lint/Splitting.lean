/-
Splitting a catalog. `Catalog.union` puts two catalogs together. When these have no entry in common, the whole has the
entries of both parts, each once (`Catalog.Split`), and a run over the whole tells no more than the runs over the parts.

- `Catalog.union_split`, `Catalog.Split.size_eq`: the entries of the whole are those of the parts, and so many.
- `Catalog.Split.fails_part`: the check that fails first in the whole fails first in its own part, and its entry comes
  before the one that fails first in the other part.
- `Linter.outcome_split_eq_ok_iff`, `Linter.outcome_split_eq_error_iff`: so the whole passes when both parts do, and
  else fails as the part does whose failure comes first.
- `Check.FailsFirst.of_agreesUpTo`: entries after the one that fails have no say in this.
-/
import CatalogLint.Proofs.Lint.FirstFailure

namespace CatalogLint

/-! ## Maps and catalogs together -/

namespace NameMap

variable {α : Type}

/-- the entries of two maps, where the first map counts for a name that is in both -/
def union (m n : NameMap α) : NameMap α := m.entries.foldr (fun e others => others.insert e.1 e.2) n

theorem get?_union (m n : NameMap α) (name : String) : (m.union n).get? name = (m.get? name).or (n.get? name) := by
  have hentries : ∀ entries : List (String × α),
      (entries.foldr (fun e others => others.insert e.1 e.2) n).get? name =
        (Entries.lookup? name entries).or (n.get? name) := by
    intro entries
    induction entries with
    | nil => rfl
    | cons e rest ih =>
      rw [List.foldr_cons, get?_insert, ih, Entries.lookup?]
      by_cases h : e.1 = name
      · rw [if_pos h, if_pos h, Option.some_or]
      · rw [if_neg h, if_neg h]
  exact hentries m.entries

theorem mem_entries_iff {m : NameMap α} {name : String} {value : α} :
    (name, value) ∈ m.entries ↔ m.get? name = some value :=
  (Entries.lookup?_eq_some_iff m.ordered).symm

end NameMap

namespace Catalog

/-- the entries of two catalogs, where the first catalog counts for an entry that is in both -/
def union (a b : Catalog) : Catalog := ⟨a.dataSources.union b.dataSources, a.resources.union b.resources⟩

/-- no partition has an entry of the same name in both catalogs -/
def Disjoint (a b : Catalog) : Prop := ∀ p entry, ¬ ((a.get p).contains entry ∧ (b.get p).contains entry)

/-- the entries of the whole are those of two parts, which have none in common -/
structure Split (whole a b : Catalog) : Prop where
  get?_iff : ∀ p entry schema, (whole.get p).get? entry = some schema ↔
    (a.get p).get? entry = some schema ∨ (b.get p).get? entry = some schema
  apart : ∀ p entry schema other, (a.get p).get? entry = some schema → (b.get p).get? entry ≠ some other

theorem get_union (a b : Catalog) (p : Partition) : (a.union b).get p = (a.get p).union (b.get p) := by
  cases p <;> rfl

theorem union_split {a b : Catalog} (h : a.Disjoint b) : (a.union b).Split a b := by
  have hapart : ∀ p entry schema other, (a.get p).get? entry = some schema → (b.get p).get? entry ≠ some other := by
    intro p entry schema other ha hb
    refine h p entry ⟨?_, ?_⟩
    · rw [NameMap.contains, ha, Option.isSome_some]
    · rw [NameMap.contains, hb, Option.isSome_some]
  refine ⟨fun p entry schema => ?_, hapart⟩
  rw [get_union, NameMap.get?_union, Option.or_eq_some_iff]
  refine or_congr_right ⟨And.right, fun hb => ⟨?_, hb⟩⟩
  cases ha : (a.get p).get? entry with
  | none => rfl
  | some other => exact absurd hb (hapart p entry other schema ha)

namespace Split

variable {whole a b : Catalog}

theorem symm (h : whole.Split a b) : whole.Split b a :=
  ⟨fun p entry schema => (h.get?_iff p entry schema).trans or_comm,
    fun p entry schema other hb ha => h.apart p entry other schema ha hb⟩

/-- The whole has as many entries as both parts. -/
theorem size_eq (h : whole.Split a b) (p : Partition) : whole.size p = a.size p + b.size p := by
  have hnodup : (a.entries p ++ b.entries p).Nodup := by
    refine List.nodup_append.2 ⟨(a.get p).ordered.nodup, (b.get p).ordered.nodup, ?_⟩
    rintro ⟨entry, schema⟩ ha _ hb rfl
    exact h.apart p entry schema schema (NameMap.mem_entries_iff.1 ha) (NameMap.mem_entries_iff.1 hb)
  have hperm : (whole.entries p).Perm (a.entries p ++ b.entries p) := by
    refine (List.perm_ext_iff_of_nodup (whole.get p).ordered.nodup hnodup).2 ?_
    rintro ⟨entry, schema⟩
    simp only [entries, List.mem_append, NameMap.mem_entries_iff, h.get?_iff]
  calc whole.size p = (a.entries p ++ b.entries p).length := hperm.length_eq
    _ = a.size p + b.size p := List.length_append

theorem present_iff (h : whole.Split a b) (k : Check) : k.Present whole ↔ k.Present a ∨ k.Present b :=
  h.get?_iff k.partition k.entry k.schema

end Split

/-- both catalogs have the same entries up to this one, with the same schemas -/
def AgreesUpTo (c other : Catalog) (p : Partition) (entry : String) : Prop :=
  ∀ q name, ¬ EntryBefore p entry q name → (c.get q).get? name = (other.get q).get? name

end Catalog

/-! ## The check that fails first -/

/-- the entry of a failure comes before that of another -/
def Failure.EntryBefore (f g : Failure) : Prop := CatalogLint.EntryBefore f.partition f.entry g.partition g.entry

/-- **The check that fails first in the whole fails first in its part**, before the one that does in the other part. -/
theorem Catalog.Split.fails_part {whole a b : Catalog} (h : whole.Split a b) {l : Linter} {k : Check}
    (hk : k.FailsFirst l whole) (ha : k.Present a) : k.FailsFirst l a ∧
      ∀ other : Check, other.FailsFirst l b → EntryBefore k.partition k.entry other.partition other.entry := by
  refine ⟨⟨ha, hk.registered, hk.fails, fun other ho => hk.least other ((h.present_iff other).2 (Or.inl ho))⟩, ?_⟩
  intro other hother
  -- the parts have no entry in common, so the checks are of two entries
  have hapart : ¬ (k.partition = other.partition ∧ k.entry = other.entry) := by
    rintro ⟨hpartition, hentry⟩
    rw [Check.Present, hpartition, hentry] at ha
    exact h.apart _ _ _ _ ha hother.present
  rcases hk.least other ((h.present_iff other).2 (Or.inr hother.present)) hother.registered hother.fails with
    rfl | hbefore
  · exact absurd ⟨rfl, rfl⟩ hapart
  · rcases Check.before_iff.1 hbefore with hentry | ⟨hpartition, hentry, _⟩
    · exact hentry
    · exact absurd ⟨hpartition, hentry⟩ hapart

/-- **What comes after a failure has no say in it.** -/
theorem Check.FailsFirst.of_agreesUpTo {l : Linter} {c other : Catalog} {k : Check} (hk : k.FailsFirst l c)
    (h : c.AgreesUpTo other k.partition k.entry) : k.FailsFirst l other := by
  have hpresent : k.Present other := by
    rw [Check.Present, ← h _ _ EntryBefore.irrefl]
    exact hk.present
  refine ⟨hpresent, hk.registered, hk.fails, fun later hl hregistered hfails => ?_⟩
  by_cases hafter : EntryBefore k.partition k.entry later.partition later.entry
  · exact Or.inr (Check.before_iff.2 (Or.inl hafter))
  · refine hk.least later ?_ hregistered hfails
    rw [Check.Present, h _ _ hafter]
    exact hl

/-! ## Runs over a whole and over its parts -/

namespace Linter

variable {l : Linter} {whole a b : Catalog}

/-- The whole passes when both parts do, and their numbers add up. -/
theorem outcome_split_eq_ok_iff (h : whole.Split a b) {counts : Partitioned Nat} :
    (l.checkCatalog whole).outcome = .ok counts ↔ ∃ m n, (l.checkCatalog a).outcome = .ok m ∧
      (l.checkCatalog b).outcome = .ok n ∧
      counts = ⟨m.dataSources + n.dataSources, m.resources + n.resources⟩ := by
  simp only [outcome_checkCatalog_eq_ok_iff, h.present_iff, h.size_eq]
  constructor
  · rintro ⟨hpass, rfl⟩
    exact ⟨_, _, ⟨fun k hk => hpass k (Or.inl hk), rfl⟩, ⟨fun k hk => hpass k (Or.inr hk), rfl⟩, rfl⟩
  · rintro ⟨m, n, ⟨ha, rfl⟩, ⟨hb, rfl⟩, rfl⟩
    exact ⟨fun k hk => hk.elim (ha k) (hb k), rfl⟩

/-- A failure of the whole is that of a part, and comes before that of the other. -/
theorem outcome_of_split (h : whole.Split a b) {f : Failure} (hf : (l.checkCatalog whole).outcome = .error f) :
    ((l.checkCatalog a).outcome = .error f ∧ ∀ g, (l.checkCatalog b).outcome = .error g → f.EntryBefore g) ∨
      ((l.checkCatalog b).outcome = .error f ∧ ∀ g, (l.checkCatalog a).outcome = .error g → f.EntryBefore g) := by
  obtain ⟨k, hk, hfailure⟩ := l.outcome_checkCatalog_eq_error_iff.1 hf
  have hpart : ∀ {part rest : Catalog}, whole.Split part rest → k.Present part →
      (l.checkCatalog part).outcome = .error f ∧
        ∀ g, (l.checkCatalog rest).outcome = .error g → f.EntryBefore g := by
    intro part rest hsplit hpresent
    obtain ⟨hfirst, hbefore⟩ := hsplit.fails_part hk hpresent
    refine ⟨l.outcome_checkCatalog_eq_error_iff.2 ⟨k, hfirst, hfailure⟩, fun g hg => ?_⟩
    obtain ⟨other, hother, hgfailure⟩ := l.outcome_checkCatalog_eq_error_iff.1 hg
    obtain ⟨hpartition, hentry⟩ := Check.entry_of_failure? hfailure
    obtain ⟨hgpartition, hgentry⟩ := Check.entry_of_failure? hgfailure
    rw [Failure.EntryBefore, hpartition, hentry, hgpartition, hgentry]
    exact hbefore other hother
  rcases (h.present_iff k).1 hk.present with ha | hb
  · exact Or.inl (hpart h ha)
  · exact Or.inr (hpart h.symm hb)

/-- **The whole fails as the part does whose failure comes first.** -/
theorem outcome_split_eq_error_iff (h : whole.Split a b) {f : Failure} :
    (l.checkCatalog whole).outcome = .error f ↔
      ((l.checkCatalog a).outcome = .error f ∧ ∀ g, (l.checkCatalog b).outcome = .error g → f.EntryBefore g) ∨
        ((l.checkCatalog b).outcome = .error f ∧
          ∀ g, (l.checkCatalog a).outcome = .error g → f.EntryBefore g) := by
  refine ⟨outcome_of_split h, fun hlesser => ?_⟩
  cases hout : (l.checkCatalog whole).outcome with
  | ok counts =>
    obtain ⟨m, n, ha, hb, _⟩ := (outcome_split_eq_ok_iff h).1 hout
    rcases hlesser with ⟨hf, _⟩ | ⟨hf, _⟩
    · rw [ha] at hf
      cases hf
    · rw [hb] at hf
      cases hf
  | error g =>
    -- of two failures only one comes before the other
    rcases hlesser with ⟨hf, hlesser⟩ | ⟨hf, hlesser⟩ <;> rcases outcome_of_split h hout with ⟨hg, hless⟩ | ⟨hg, hless⟩
    · rw [← hf, hg]
    · exact absurd (hless f hf) (hlesser g hg).asymm
    · exact absurd (hless f hf) (hlesser g hg).asymm
    · rw [← hf, hg]

end Linter

/-- **Splitting a catalog is sound.** For any rules in any order and any exceptions that these admit, take two catalogs
with no entry in common. Both together pass exactly when each passes, and then the numbers of entries add up, in each
partition and in total; and they fail with a failure exactly when it is that of one of them, and comes before that of
the other, if there is one, by partition and then by entry. A failure stays the same when entries after it are added,
removed or changed. -/
theorem splitting_is_sound (l : Linter) {a b : Catalog} (h : a.Disjoint b) :
    (∀ counts, (l.checkCatalog (a.union b)).outcome = .ok counts ↔ ∃ m n,
      (l.checkCatalog a).outcome = .ok m ∧ (l.checkCatalog b).outcome = .ok n ∧
        (∀ p, counts.get p = m.get p + n.get p) ∧ counts.total = m.total + n.total) ∧
    (∀ f, (l.checkCatalog (a.union b)).outcome = .error f ↔
      ((l.checkCatalog a).outcome = .error f ∧ ∀ g, (l.checkCatalog b).outcome = .error g → f.EntryBefore g) ∨
        ((l.checkCatalog b).outcome = .error f ∧
          ∀ g, (l.checkCatalog a).outcome = .error g → f.EntryBefore g)) ∧
    ∀ c other f, (l.checkCatalog c).outcome = .error f → c.AgreesUpTo other f.partition f.entry →
      (l.checkCatalog other).outcome = .error f := by
  have hsplit := Catalog.union_split h
  refine ⟨fun counts => ?passes, fun f => Linter.outcome_split_eq_error_iff hsplit, ?later⟩
  case passes =>
    rw [Linter.outcome_split_eq_ok_iff hsplit]
    refine exists_congr fun m => exists_congr fun n => and_congr_right fun _ => and_congr_right fun _ => ?_
    constructor
    · rintro rfl
      refine ⟨fun p => by cases p <;> rfl, ?_⟩
      exact Nat.add_add_add_comm ..
    · rintro ⟨hget, _⟩
      obtain ⟨sources, resources⟩ := counts
      cases hget .dataSources
      cases hget .resources
      rfl
  case later =>
    intro c other f hf hagrees
    obtain ⟨k, hk, hfailure⟩ := l.outcome_checkCatalog_eq_error_iff.1 hf
    obtain ⟨hpartition, hentry⟩ := Check.entry_of_failure? hfailure
    rw [hpartition, hentry] at hagrees
    exact l.outcome_checkCatalog_eq_error_iff.2 ⟨k, hk.of_agreesUpTo hagrees, hfailure⟩

def plainPassword : Schema := ⟨[("password", ⟨.primitive .string, false, .null⟩)], by decide⟩

/-- resources of which the first fails -/
def diskAndTape : Catalog := ⟨.empty, ⟨[("disk", plainPassword), ("tape", .empty)], by decide⟩⟩

/-- a data source that passes, and a resource between the others that fails -/
def portAndRack : Catalog := ⟨⟨[("port", .empty)], by decide⟩, ⟨[("rack", plainPassword)], by decide⟩⟩

/-- Both parts fail, and together they fail at the disk, which comes before the rack. -/
theorem disk_fails_before_rack : diskAndTape.Disjoint portAndRack ∧ ∃ f g : Failure,
    ((⟨.builtin, .empty, by decide⟩ : Linter).checkCatalog diskAndTape).outcome = .error f ∧
    ((⟨.builtin, .empty, by decide⟩ : Linter).checkCatalog portAndRack).outcome = .error g ∧ f ≠ g ∧
    ((⟨.builtin, .empty, by decide⟩ : Linter).checkCatalog (diskAndTape.union portAndRack)).outcome = .error f := by
  have hdisjoint : diskAndTape.Disjoint portAndRack := by
    rintro p entry ⟨ha, hb⟩
    rw [NameMap.contains_iff] at ha hb
    cases p
    · cases ha
    · simp only [diskAndTape, portAndRack, Partitioned.get, NameMap.names, List.map_cons, List.map_nil, List.mem_cons,
        List.not_mem_nil, or_false] at ha hb
      rw [hb] at ha
      revert ha
      decide
  obtain ⟨_, hfails, _⟩ := splitting_is_sound ⟨.builtin, .empty, by decide⟩ hdisjoint
  refine ⟨hdisjoint, _, _, rfl, rfl, by decide, (hfails _).2 (Or.inl ⟨rfl, fun g hg => ?_⟩)⟩
  cases hg
  exact Or.inr ⟨rfl, by decide⟩

end CatalogLint
