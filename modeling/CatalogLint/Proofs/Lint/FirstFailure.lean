/-
The linter as one pass over a list of checks. A `Check` is one rule against one entry; `Linter.catalogChecks` lists all
checks of a catalog in the order of `Check.Before`: data sources before resources, entries by name, rules as registered.

- `Linter.checkEntry_eq`, `Linter.checkPartition_eq`: the loops over entries and rules are one run through such a list.
- `Linter.checkRules_congr` up to `Linter.checkCatalog_congr`: linters that do the same step by step do the same as a
  whole, with the same records.
- `Linter.outcome_runChecks`: a run ends with the failure of the first check that fails.
- `Linter.outcome_checkCatalog_eq_error_iff`: for a catalog, that is the failure of the check before all others that fail.
- `Linter.endsAtLeast_of_findSome?`: since the lists are in order, that is the failure of the least check that fails,
  and there is one as soon as any check fails. At the end this is said of an entry, a partition and a whole catalog.
-/
import Mathlib.Data.List.Forall2
import CatalogLint.Lint.Linter
import CatalogLint.Proofs.Schema.FlatSearch

namespace CatalogLint

/-! ## Checks and their order -/

/-- one rule against one entry; `position` counts the rules in the order of registration -/
structure Check where
  partition : Partition
  entry : String
  schema : Schema
  position : Nat
  rule : Rule

/-- an entry comes before another: data sources before resources, then by name -/
def EntryBefore (p : Partition) (entry : String) (q : Partition) (other : String) : Prop :=
  (p = .dataSources ∧ q = .resources) ∨ (p = q ∧ entry < other)

namespace EntryBefore

variable {p q : Partition} {entry other : String}

theorem irrefl : ¬ EntryBefore p entry p entry := by
  rintro (⟨hp, hq⟩ | ⟨_, hlt⟩)
  · cases hp.symm.trans hq
  · exact String.lt_irrefl entry hlt

theorem asymm (h : EntryBefore p entry q other) : ¬ EntryBefore q other p entry := by
  rcases h with ⟨rfl, rfl⟩ | ⟨rfl, hlt⟩
  · rintro (⟨hq, _⟩ | ⟨hq, _⟩) <;> cases hq
  · rintro (⟨hp, hq⟩ | ⟨_, hback⟩)
    · cases hp.symm.trans hq
    · exact String.lt_asymm hlt hback

/-- Entries neither of which comes before the other are the same. -/
theorem eq_of_not (h : ¬ EntryBefore p entry q other) (hback : ¬ EntryBefore q other p entry) :
    p = q ∧ entry = other := by
  simp only [EntryBefore, not_or, not_and] at h hback
  have hpartition : p = q := by
    cases p <;> cases q
    · rfl
    · exact absurd rfl (h.1 rfl)
    · exact absurd rfl (hback.1 rfl)
    · rfl
  refine ⟨hpartition, String.le_antisymm ?_ ?_⟩
  · exact String.not_lt.1 (hback.2 hpartition.symm)
  · exact String.not_lt.1 (h.2 hpartition)

end EntryBefore

namespace Check

/-- data sources before resources, then entries by name, then rules as registered -/
def Before (a b : Check) : Prop :=
  (a.partition = .dataSources ∧ b.partition = .resources) ∨
    (a.partition = b.partition ∧ (a.entry < b.entry ∨ (a.entry = b.entry ∧ a.position < b.position)))

theorem before_iff {a b : Check} : a.Before b ↔ EntryBefore a.partition a.entry b.partition b.entry ∨
    (a.partition = b.partition ∧ a.entry = b.entry ∧ a.position < b.position) := by
  rw [Before, EntryBefore, and_or_left, or_assoc]

theorem Before.asymm {a b : Check} (h : a.Before b) : ¬ b.Before a := by
  rw [before_iff] at h ⊢
  rintro (hback | ⟨hpartition, hentry, hposition⟩)
  · rcases h with h | ⟨hpartition, hentry, _⟩
    · exact h.asymm hback
    · rw [hpartition, hentry] at hback
      exact hback.irrefl
  · rcases h with h | ⟨_, _, h⟩
    · rw [hpartition, hentry] at h
      exact h.irrefl
    · exact Nat.lt_asymm h hposition

/-- the rule is registered at this position -/
def Registered (l : Linter) (k : Check) : Prop := l.registry.rules[k.position]? = some k.rule

/-- the entry is in the catalog, with this schema -/
def Present (c : Catalog) (k : Check) : Prop := (c.get k.partition).get? k.entry = some k.schema

/-- what the rule says of the entry under the exceptions declared for both -/
def result (x : ExceptionRegistry) (k : Check) : Option Violation :=
  k.rule.check k.schema ((x.exceptionsFor k.rule.name k.partition).forEntry k.entry)

/-- the failure that ends a run at this check -/
def failure? (x : ExceptionRegistry) (k : Check) : Option Failure :=
  (k.result x).map fun violation => ⟨k.entry, k.partition, k.rule.name, violation, k.rule.failureSummary⟩

theorem entry_of_failure? {x : ExceptionRegistry} {k : Check} {f : Failure} (h : k.failure? x = some f) :
    f.partition = k.partition ∧ f.entry = k.entry := by
  obtain ⟨_, _, rfl⟩ := Option.map_eq_some_iff.1 h
  exact ⟨rfl, rfl⟩

theorem findSome?_failure?_eq_none_iff {x : ExceptionRegistry} {checks : List Check} :
    checks.findSome? (failure? x) = none ↔ ∀ k ∈ checks, k.result x = none := by
  simp only [List.findSome?_eq_none_iff, failure?, Option.map_eq_none_iff]

end Check

theorem Failure.message_eq (f : Failure) : f.message =
    "the " ++ f.partition.label ++ " '" ++ f.entry ++ "' " ++ f.summary ++ ": " ++ f.violation.message := by
  simp only [Failure.message, String.append_assoc]
  rfl

/-! ## Runs in sequence -/

namespace Run

variable {ε α β γ : Type}

theorem andThen_assoc (x : Run ε α) (f : α → Run ε β) (g : β → Run ε γ) :
    (x.andThen f).andThen g = x.andThen fun a => (f a).andThen g := by
  obtain ⟨records, outcome⟩ := x
  cases outcome with
  | error e => rfl
  | ok a => cases hf : (f a).outcome <;> simp [andThen, hf]

theorem value_andThen (a : α) (next : α → Run ε β) : (value a).andThen next = next a := rfl

theorem outcome_andThen (x : Run ε α) (next : α → Run ε β) :
    (x.andThen next).outcome = match x.outcome with
      | .error e => .error e
      | .ok a => (next a).outcome := by
  unfold andThen
  cases x.outcome <;> rfl

end Run

/-! ## The loops as one run -/

namespace Linter

variable (l : Linter)

/-- makes checks in turn -/
def runChecks : List Check → Run Failure Unit
  | [] => .value ()
  | k :: rest => (l.checkRule k.partition k.entry k.schema k.rule).andThen fun _ => runChecks rest

/-- the checks of an entry, in the order in which they are made -/
def entryChecks (p : Partition) (entry : String) (schema : Schema) : List Check :=
  l.registry.rules.zipIdx.map fun (rule, position) => ⟨p, entry, schema, position, rule⟩

/-- the checks of a partition, in the order in which they are made -/
def partitionChecks (c : Catalog) (p : Partition) : List Check :=
  (c.entries p).flatMap fun (entry, schema) => l.entryChecks p entry schema

/-- the checks of a catalog, in the order in which they are made -/
def catalogChecks (c : Catalog) : List Check :=
  l.partitionChecks c .dataSources ++ l.partitionChecks c .resources

theorem runChecks_append (earlier later : List Check) :
    l.runChecks (earlier ++ later) = (l.runChecks earlier).andThen fun _ => l.runChecks later := by
  induction earlier with
  | nil => rfl
  | cons k rest ih => rw [List.cons_append, runChecks, runChecks, Run.andThen_assoc, ih]

theorem checkRules_eq (p : Partition) (entry : String) (schema : Schema) (rules : List Rule) (start : Nat) :
    l.checkRules p entry schema rules =
      l.runChecks ((rules.zipIdx start).map fun (rule, position) => ⟨p, entry, schema, position, rule⟩) := by
  induction rules generalizing start with
  | nil => rfl
  | cons rule rest ih => rw [checkRules, ih (start + 1), List.zipIdx_cons, List.map_cons, runChecks]

theorem checkEntry_eq (p : Partition) (entry : String) (schema : Schema) :
    l.checkEntry p entry schema = l.runChecks (l.entryChecks p entry schema) :=
  l.checkRules_eq p entry schema l.registry.rules 0

/-- **The loop over entries counts them**, when it comes to its end. -/
theorem checkEntries_eq (p : Partition) (count : Nat) (entries : List (String × Schema)) :
    l.checkEntries p count entries =
      (l.runChecks (entries.flatMap fun (entry, schema) => l.entryChecks p entry schema)).andThen fun _ =>
        .value (count + entries.length) := by
  induction entries generalizing count with
  | nil => rfl
  | cons e rest ih =>
    obtain ⟨entry, schema⟩ := e
    have hcount : count + 1 + rest.length = count + ((entry, schema) :: rest).length := by
      rw [List.length_cons]
      omega
    rw [checkEntries, List.flatMap_cons, runChecks_append, checkEntry_eq, Run.andThen_assoc]
    simp only [ih, hcount]

theorem checkPartition_eq (c : Catalog) (p : Partition) :
    l.checkPartition c p = (l.runChecks (l.partitionChecks c p)).andThen fun _ =>
      ⟨[.passed (c.size p) p l.registry.rules.length], .ok (c.size p)⟩ := by
  have hsize : 0 + (c.entries p).length = c.size p := Nat.zero_add _
  rw [checkPartition, checkEntries_eq, hsize, Run.andThen_assoc, partitionChecks]
  simp only [Run.value_andThen]

/-! ## Runs that do the same -/

section Congruence

variable {l} {other : Linter} {p : Partition} {entry : String} {s s' : Schema} {c c' : Catalog}

theorem checkRules_congr {rules : List Rule}
    (h : ∀ rule ∈ rules, l.checkRule p entry s rule = other.checkRule p entry s' rule) :
    l.checkRules p entry s rules = other.checkRules p entry s' rules := by
  induction rules with
  | nil => rfl
  | cons rule rest ih =>
    rw [checkRules, checkRules, h rule List.mem_cons_self, ih fun later hl => h later (List.mem_cons_of_mem _ hl)]

theorem checkEntries_congr {count : Nat} {entries entries' : List (String × Schema)}
    (h : List.Forall₂ (fun e e' => l.checkEntry p e.1 e.2 = other.checkEntry p e'.1 e'.2) entries entries') :
    l.checkEntries p count entries = other.checkEntries p count entries' := by
  induction h generalizing count with
  | nil => rfl
  | cons hentry _ ih => simp only [checkEntries, hentry, ih]

/-- Two linters do the same in a partition if they do so in its entries, one by one, and count as many rules. -/
theorem checkPartition_congr (hrules : l.registry = other.registry)
    (h : List.Forall₂ (fun e e' => l.checkEntry p e.1 e.2 = other.checkEntry p e'.1 e'.2) (c.entries p) (c'.entries p)) :
    l.checkPartition c p = other.checkPartition c' p := by
  rw [checkPartition, checkPartition, checkEntries_congr h, hrules]

theorem checkCatalog_congr (h : ∀ p, l.checkPartition c p = other.checkPartition c' p) :
    l.checkCatalog c = other.checkCatalog c' := by
  rw [checkCatalog, checkCatalog, h .dataSources, h .resources]

end Congruence

/-! ## Outcomes -/

theorem outcome_checkRule (k : Check) :
    (l.checkRule k.partition k.entry k.schema k.rule).outcome =
      (k.failure? l.exceptions).elim (.ok ()) .error := by
  unfold checkRule Check.failure? Check.result
  cases k.rule.check k.schema ((l.exceptions.exceptionsFor k.rule.name k.partition).forEntry k.entry) <;> rfl

/-- **A run ends with the failure of the first check that fails.** -/
theorem outcome_runChecks (checks : List Check) :
    (l.runChecks checks).outcome = (checks.findSome? (Check.failure? l.exceptions)).elim (.ok ()) .error := by
  induction checks with
  | nil => rfl
  | cons k rest ih =>
    rw [runChecks, Run.outcome_andThen, outcome_checkRule, ih, List.findSome?_cons]
    cases k.failure? l.exceptions <;> rfl

theorem outcome_checkPartition (c : Catalog) (p : Partition) :
    (l.checkPartition c p).outcome =
      ((l.partitionChecks c p).findSome? (Check.failure? l.exceptions)).elim (.ok (c.size p)) .error := by
  rw [checkPartition_eq, Run.outcome_andThen, outcome_runChecks]
  cases (l.partitionChecks c p).findSome? (Check.failure? l.exceptions) <;> rfl

theorem outcome_checkCatalog (c : Catalog) :
    (l.checkCatalog c).outcome = ((l.catalogChecks c).findSome? (Check.failure? l.exceptions)).elim
      (.ok ⟨c.size .dataSources, c.size .resources⟩) .error := by
  rw [checkCatalog, Run.outcome_andThen, outcome_checkPartition, catalogChecks, List.findSome?_append]
  cases (l.partitionChecks c .dataSources).findSome? (Check.failure? l.exceptions) with
  | some f => rfl
  | none =>
    simp only [Option.elim_none, Option.none_or]
    rw [Run.outcome_andThen, outcome_checkPartition]
    cases (l.partitionChecks c .resources).findSome? (Check.failure? l.exceptions) <;> rfl

/-! ## Which checks are made, and in which order -/

theorem mem_entryChecks {p : Partition} {entry : String} {schema : Schema} {k : Check} :
    k ∈ l.entryChecks p entry schema ↔
      (k.partition = p ∧ k.entry = entry ∧ k.schema = schema) ∧ k.Registered l := by
  simp only [entryChecks, List.mem_map, Prod.exists, List.mem_zipIdx_iff_getElem?, Check.Registered]
  constructor
  · rintro ⟨rule, position, h, rfl⟩
    exact ⟨⟨rfl, rfl, rfl⟩, h⟩
  · rintro ⟨⟨rfl, rfl, rfl⟩, h⟩
    exact ⟨k.rule, k.position, h, rfl⟩

theorem mem_partitionChecks {c : Catalog} {p : Partition} {k : Check} :
    k ∈ l.partitionChecks c p ↔ k.partition = p ∧ k.Present c ∧ k.Registered l := by
  simp only [partitionChecks, List.mem_flatMap, Prod.exists, mem_entryChecks, Check.Present]
  constructor
  · rintro ⟨entry, schema, h, ⟨rfl, rfl, rfl⟩, hr⟩
    exact ⟨rfl, (Entries.lookup?_eq_some_iff (c.get k.partition).ordered).2 h, hr⟩
  · rintro ⟨rfl, h, hr⟩
    have hmem := (Entries.lookup?_eq_some_iff (c.get k.partition).ordered).1 h
    exact ⟨k.entry, k.schema, hmem, ⟨rfl, rfl, rfl⟩, hr⟩

theorem mem_catalogChecks {c : Catalog} {k : Check} :
    k ∈ l.catalogChecks c ↔ k.Present c ∧ k.Registered l := by
  rw [catalogChecks, List.mem_append, mem_partitionChecks, mem_partitionChecks]
  cases hp : k.partition <;> simp

theorem entryChecks_ordered (p : Partition) (entry : String) (schema : Schema) :
    (l.entryChecks p entry schema).Pairwise Check.Before := by
  have hpositions : (l.registry.rules.zipIdx.map Prod.snd).Pairwise (· < ·) := by
    rw [List.zipIdx_map_snd]
    exact List.pairwise_lt_range'
  refine List.pairwise_map.2 ((List.pairwise_map.1 hpositions).imp fun {a b} hlt => ?_)
  exact Or.inr ⟨rfl, Or.inr ⟨rfl, hlt⟩⟩

theorem partitionChecks_ordered (c : Catalog) (p : Partition) :
    (l.partitionChecks c p).Pairwise Check.Before := by
  refine List.pairwise_flatMap.2 ⟨fun e _ => l.entryChecks_ordered p e.1 e.2, ?_⟩
  refine (c.get p).ordered.imp fun {a b} hlt k hk other hother => ?_
  obtain ⟨⟨hp, he, _⟩, _⟩ := (l.mem_entryChecks).1 hk
  obtain ⟨⟨hp', he', _⟩, _⟩ := (l.mem_entryChecks).1 hother
  exact Or.inr ⟨hp.trans hp'.symm, Or.inl (by rw [he, he']; exact hlt)⟩

theorem catalogChecks_ordered (c : Catalog) : (l.catalogChecks c).Pairwise Check.Before := by
  refine List.pairwise_append.2 ⟨l.partitionChecks_ordered c _, l.partitionChecks_ordered c _, ?_⟩
  intro k hk other hother
  exact Or.inl ⟨((l.mem_partitionChecks).1 hk).1, ((l.mem_partitionChecks).1 hother).1⟩

/-- A catalog passes exactly when all its checks do, and then gives the sizes of its partitions. -/
theorem outcome_checkCatalog_eq_ok_iff {c : Catalog} {counts : Partitioned Nat} :
    (l.checkCatalog c).outcome = .ok counts ↔
      (∀ k : Check, k.Present c → k.Registered l → k.result l.exceptions = none) ∧
        counts = ⟨c.size .dataSources, c.size .resources⟩ := by
  have hpass : (l.catalogChecks c).findSome? (Check.failure? l.exceptions) = none ↔
      ∀ k : Check, k.Present c → k.Registered l → k.result l.exceptions = none := by
    simp only [Check.findSome?_failure?_eq_none_iff, mem_catalogChecks, and_imp]
  rw [outcome_checkCatalog, ← hpass]
  cases (l.catalogChecks c).findSome? (Check.failure? l.exceptions) with
  | none => simp [eq_comm]
  | some f => simp

end Linter

/-! ## The check that fails first -/

/-- the check is made of the catalog and fails, and all others that do come after it -/
structure Check.FailsFirst (l : Linter) (c : Catalog) (k : Check) : Prop where
  present : k.Present c
  registered : k.Registered l
  fails : k.result l.exceptions ≠ none
  least : ∀ other : Check, other.Present c → other.Registered l → other.result l.exceptions ≠ none →
    other = k ∨ k.Before other

theorem Check.FailsFirst.unique {l : Linter} {c : Catalog} {k other : Check} (hk : k.FailsFirst l c)
    (hother : other.FailsFirst l c) : k = other := by
  rcases hk.least other hother.present hother.registered hother.fails with heq | hbefore
  · exact heq.symm
  · rcases hother.least k hk.present hk.registered hk.fails with heq | hback
    · exact heq
    · exact absurd hback hbefore.asymm

namespace Linter

variable (l : Linter)

theorem failsFirst_of_outcome {c : Catalog} {f : Failure} (h : (l.checkCatalog c).outcome = .error f) :
    ∃ k : Check, k.FailsFirst l c ∧ k.failure? l.exceptions = some f := by
  rw [outcome_checkCatalog] at h
  cases hfirst : (l.catalogChecks c).findSome? (Check.failure? l.exceptions) with
  | none =>
    rw [hfirst] at h
    cases h
  | some g =>
    rw [hfirst] at h
    cases h
    obtain ⟨k, hk, hfail, hleast⟩ := first_hit_least (l.catalogChecks_ordered c) hfirst
    obtain ⟨violation, hresult, _⟩ := Option.map_eq_some_iff.1 hfail
    obtain ⟨hpresent, hregistered⟩ := l.mem_catalogChecks.1 hk
    have hfails : k.result l.exceptions ≠ none := by
      rw [hresult]
      exact Option.some_ne_none _
    refine ⟨k, ⟨hpresent, hregistered, hfails, fun other ho hr hno => ?_⟩, hfail⟩
    exact hleast other (l.mem_catalogChecks.2 ⟨ho, hr⟩) fun hnone => hno (Option.map_eq_none_iff.1 hnone)

/-- **A catalog fails exactly when one check fails first**, and with the failure of that check. -/
theorem outcome_checkCatalog_eq_error_iff {c : Catalog} {f : Failure} : (l.checkCatalog c).outcome = .error f ↔
    ∃ k : Check, k.FailsFirst l c ∧ k.failure? l.exceptions = some f := by
  refine ⟨l.failsFirst_of_outcome, ?_⟩
  rintro ⟨k, hk, hfailure⟩
  cases hout : (l.checkCatalog c).outcome with
  | ok counts =>
    have hpass := (l.outcome_checkCatalog_eq_ok_iff.1 hout).1 k hk.present hk.registered
    exact absurd hpass hk.fails
  | error g =>
    obtain ⟨other, hother, hg⟩ := l.failsFirst_of_outcome hout
    rw [hk.unique hother] at hfailure
    cases hfailure.symm.trans hg
    rfl

end Linter

/-! ## The first failure is the least -/

namespace Linter

variable (l : Linter)

/-- how a run over the checks `among` must end: with a failure exactly when one of them fails, and then with the failure
of the least of those; else with the value -/
structure EndsAtLeast {α : Type} (among : Check → Prop) (value : α) (outcome : Except Failure α) : Prop where
  fails_iff : (∃ f, outcome = .error f) ↔ ∃ k, among k ∧ k.result l.exceptions ≠ none
  passes : (∀ k, among k → k.result l.exceptions = none) → outcome = .ok value
  least : ∀ f, outcome = .error f → ∃ k violation, among k ∧ k.result l.exceptions = some violation ∧
    (∀ other, among other → other.result l.exceptions ≠ none → other = k ∨ k.Before other) ∧
    f.entry = k.entry ∧ f.partition = k.partition ∧ f.rule = k.rule.name ∧ f.violation = violation ∧
    f.fieldPath = violation.path ∧
    f.message = "the " ++ k.partition.label ++ " '" ++ k.entry ++ "' " ++ k.rule.failureSummary ++ ": " ++
      violation.message

theorem endsAtLeast_of_findSome? {α : Type} {checks : List Check} (hordered : checks.Pairwise Check.Before)
    {among : Check → Prop} (hamong : ∀ k, k ∈ checks ↔ among k) {value : α} {outcome : Except Failure α}
    (h : outcome = (checks.findSome? (Check.failure? l.exceptions)).elim (.ok value) .error) :
    l.EndsAtLeast among value outcome := by
  have hpass : checks.findSome? (Check.failure? l.exceptions) = none ↔
      ∀ k, among k → k.result l.exceptions = none := by
    simp only [Check.findSome?_failure?_eq_none_iff, hamong]
  -- a failure is the one of the least check that fails
  have hfirst : ∀ f, checks.findSome? (Check.failure? l.exceptions) = some f → ∃ k violation, among k ∧
      k.result l.exceptions = some violation ∧
      f = ⟨k.entry, k.partition, k.rule.name, violation, k.rule.failureSummary⟩ ∧
      ∀ other, among other → other.result l.exceptions ≠ none → other = k ∨ k.Before other := by
    intro f hf
    obtain ⟨k, hk, hfail, hleast⟩ := first_hit_least hordered hf
    obtain ⟨violation, hresult, rfl⟩ := Option.map_eq_some_iff.1 hfail
    refine ⟨k, violation, (hamong k).1 hk, hresult, rfl, fun other ho hno => ?_⟩
    exact hleast other ((hamong other).2 ho) fun hpassed => hno (Option.map_eq_none_iff.1 hpassed)
  cases hf : checks.findSome? (Check.failure? l.exceptions) with
  | none =>
    rw [hf] at h
    subst h
    have hall := hpass.1 hf
    refine ⟨?_, fun _ => rfl, fun f hno => by cases hno⟩
    constructor
    · rintro ⟨f, hno⟩
      cases hno
    · rintro ⟨k, hk, hno⟩
      exact absurd (hall k hk) hno
  | some f =>
    rw [hf] at h
    subst h
    obtain ⟨k, violation, hk, hresult, rfl, hleast⟩ := hfirst f hf
    refine ⟨?_, fun hall => ?_, fun g hg => ?_⟩
    · exact ⟨fun _ => ⟨k, hk, by rw [hresult]; exact Option.some_ne_none _⟩, fun _ => ⟨_, rfl⟩⟩
    · rw [hall k hk] at hresult
      cases hresult
    · cases hg
      exact ⟨k, violation, hk, hresult, hleast, rfl, rfl, rfl, rfl, rfl, Failure.message_eq _⟩

/-- **A failure is the least one.** For any rules in any order, any exceptions that these admit and any catalog, the
checks of one entry, of one partition and of the whole catalog end in a failure exactly when one of them fails, and then
in the failure of the least such check. Otherwise they give nothing, the number of entries, and both numbers. -/
theorem first_failure_least :
    (∀ p entry schema, l.EndsAtLeast
      (fun k => (k.partition = p ∧ k.entry = entry ∧ k.schema = schema) ∧ k.Registered l)
      () (l.checkEntry p entry schema).outcome) ∧
    (∀ c p, l.EndsAtLeast (fun k => k.partition = p ∧ k.Present c ∧ k.Registered l)
      (c.entries p).length (l.checkPartition c p).outcome) ∧
    (∀ c, l.EndsAtLeast (fun k => k.Present c ∧ k.Registered l)
      ⟨(c.entries .dataSources).length, (c.entries .resources).length⟩ (l.checkCatalog c).outcome) := by
  refine ⟨fun p entry schema => ?_, fun c p => ?_, fun c => ?_⟩
  · refine l.endsAtLeast_of_findSome? (l.entryChecks_ordered p entry schema) (fun k => l.mem_entryChecks) ?_
    rw [checkEntry_eq, outcome_runChecks]
  · exact l.endsAtLeast_of_findSome? (l.partitionChecks_ordered c p) (fun k => l.mem_partitionChecks)
      (l.outcome_checkPartition c p)
  · exact l.endsAtLeast_of_findSome? (l.catalogChecks_ordered c) (fun k => l.mem_catalogChecks)
      (l.outcome_checkCatalog c)

end Linter

end CatalogLint
