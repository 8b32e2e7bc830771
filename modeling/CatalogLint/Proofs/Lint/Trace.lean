/-
The records of a linter are the work that it did. The checks of a partition are the pairs of its entries and the rules,
all rules for one entry after another. Each check that is made leaves one record, a failure one more, and a partition
that passes leaves one at its end.

- `Linter.Traced`: how the records of checks in turn must look; `Linter.runChecks_traced` is the induction.
- `Linter.map_pair_partitionChecks`: the checks of a partition are the product of its entries and the rules.
- `Linter.TracesPartition`: the records of a partition written out, with their levels and texts.
- `Linter.records_are_work`: every partition is traced so, and a catalog is the one partition and then the other.
-/
import Mathlib.Data.List.ProdSigma
import CatalogLint.Proofs.Lint.FirstFailure

namespace CatalogLint

/-! ## Rows and columns -/

/-- The pair in row `i` and column `j` of a product. -/
theorem product_getElem? {α β : Type} (rows : List α) (columns : List β) (i j : Nat) (hj : j < columns.length) :
    (rows.product columns)[i * columns.length + j]? = rows[i]?.bind fun a => columns[j]?.map fun b => (a, b) := by
  induction rows generalizing i with
  | nil => rfl
  | cons a rest ih =>
    have hrow : (columns.map fun b => (a, b)).length = columns.length := List.length_map ..
    have hrows : (a :: rest).product columns = (columns.map fun b => (a, b)) ++ rest.product columns := rfl
    rw [hrows]
    cases i with
    | zero =>
      rw [List.getElem?_append_left (by omega), List.getElem?_map]
      simp
    | succ i =>
      have hplace : (i + 1) * columns.length + j = columns.length + (i * columns.length + j) := by
        rw [Nat.succ_mul]
        omega
      rw [hplace, List.getElem?_append_right (by omega), hrow, Nat.add_sub_cancel_left, ih i]
      rfl

/-! ## What records say -/

/-- the level and the text of a record -/
def Record.line (r : Record) : Level × String := (r.level, r.text)

theorem Record.line_checking (p : Partition) (entry rule : String) : (Record.checking p entry rule).line =
    (.debug, "Checking " ++ p.label ++ " '" ++ entry ++ "' against " ++ rule) := by
  have htext : "Checking " ++ p.label ++ " '" ++ entry ++ "' against " ++ rule =
      "Checking " ++ p.label ++ (" '" ++ entry ++ "' against " ++ rule) := by
    simp only [String.append_assoc]
  rw [htext]
  rfl

theorem Record.line_failed (rule message : String) :
    (Record.failed rule message).line = (.error, "[" ++ rule ++ "] " ++ message) :=
  rfl

theorem Record.line_passed (count : Nat) (p : Partition) (rules : Nat) : (Record.passed count p rules).line =
    (.info, "Checked " ++ toString count ++ " " ++ p.name ++ " against " ++ toString rules ++ " rules") := by
  have htext : "Checked " ++ toString count ++ " " ++ p.name ++ " against " ++ toString rules ++ " rules" =
      "Checked " ++ toString count ++ " " ++ p.name ++ (" against " ++ toString rules ++ " rules") := by
    simp only [String.append_assoc]
  rw [htext]
  rfl

/-! ## Checks in turn -/

namespace Check

/-- what is recorded before the check is made -/
def record (k : Check) : Record := .checking k.partition k.entry k.rule.name

/-- the entry and the rule of a check -/
def pair (k : Check) : (String × Schema) × Rule := ((k.entry, k.schema), k.rule)

end Check

namespace Linter

variable (l : Linter)

/-- how checks in turn must go: all of them pass, and each leaves one record; or those before one pass, and this one
fails, which leaves one record more, and none of those after it is made -/
def Traced (checks : List Check) (run : Run Failure Unit) : Prop :=
  ((∀ k ∈ checks, k.result l.exceptions = none) ∧ run.outcome = .ok () ∧ run.records = checks.map Check.record) ∨
    ∃ before k after f, checks = before ++ k :: after ∧ (∀ b ∈ before, b.result l.exceptions = none) ∧
      k.failure? l.exceptions = some f ∧ run.outcome = .error f ∧
      run.records = (before ++ [k]).map Check.record ++ [.failed k.rule.name f.message]

theorem checkRule_of_passes {k : Check} (h : k.result l.exceptions = none) :
    l.checkRule k.partition k.entry k.schema k.rule = ⟨[k.record], .ok ()⟩ := by
  rw [Check.result] at h
  rw [checkRule, h]
  rfl

theorem checkRule_of_fails {k : Check} {f : Failure} (h : k.failure? l.exceptions = some f) :
    l.checkRule k.partition k.entry k.schema k.rule = ⟨[k.record, .failed k.rule.name f.message], .error f⟩ := by
  obtain ⟨violation, hresult, rfl⟩ := Option.map_eq_some_iff.1 h
  rw [Check.result] at hresult
  rw [checkRule, hresult]
  rfl

/-- **Checks in turn leave the records of those that are made**, up to the first that fails. -/
theorem runChecks_traced (checks : List Check) : l.Traced checks (l.runChecks checks) := by
  induction checks with
  | nil => exact Or.inl ⟨fun _ hk => (List.not_mem_nil hk).elim, rfl, rfl⟩
  | cons k rest ih =>
    cases hk : k.failure? l.exceptions with
    | some f =>
      rw [runChecks, checkRule_of_fails l hk]
      exact Or.inr ⟨[], k, rest, f, rfl, fun _ hb => (List.not_mem_nil hb).elim, hk, rfl, rfl⟩
    | none =>
      have hpass : k.result l.exceptions = none := Option.map_eq_none_iff.1 hk
      rw [runChecks, checkRule_of_passes l hpass]
      rcases ih with
        ⟨hall, houtcome, hrecords⟩ | ⟨before, failing, after, f, rfl, hbefore, hfails, houtcome, hrecords⟩
      · refine Or.inl ⟨List.forall_mem_cons.2 ⟨hpass, hall⟩, houtcome, ?_⟩
        rw [Run.andThen, hrecords]
        rfl
      · have hearlier : ∀ b ∈ k :: before, b.result l.exceptions = none := List.forall_mem_cons.2 ⟨hpass, hbefore⟩
        refine Or.inr ⟨k :: before, failing, after, f, rfl, hearlier, hfails, houtcome, ?_⟩
        rw [Run.andThen, hrecords]
        rfl

/-! ## Entries by rules -/

/-- the entries of a partition with each of the rules, all rules for one entry after another -/
def pairs (c : Catalog) (p : Partition) : List ((String × Schema) × Rule) :=
  (c.entries p).product l.registry.rules

/-- what the rule of a pair says of its entry, under the exceptions declared for both -/
def verdict (p : Partition) (pair : (String × Schema) × Rule) : Option Violation :=
  pair.2.check pair.1.2 ((l.exceptions.exceptionsFor pair.2.name p).forEntry pair.1.1)

/-- the line that announces that a pair is checked -/
def announcement (p : Partition) (pair : (String × Schema) × Rule) : Level × String :=
  (.debug, "Checking " ++ p.label ++ " '" ++ pair.1.1 ++ "' against " ++ pair.2.name)

theorem length_pairs (c : Catalog) (p : Partition) :
    (l.pairs c p).length = (c.entries p).length * l.registry.rules.length :=
  List.length_product _ _

theorem map_pair_partitionChecks (c : Catalog) (p : Partition) :
    (l.partitionChecks c p).map Check.pair = l.pairs c p := by
  have hentry : ∀ e : String × Schema, (l.entryChecks p e.1 e.2).map Check.pair =
      l.registry.rules.map fun rule => (e, rule) := by
    intro e
    have hrules : l.registry.rules.zipIdx.map Prod.fst = l.registry.rules := List.zipIdx_map_fst 0 _
    rw [entryChecks, List.map_map]
    conv_rhs => rw [← hrules, List.map_map]
    rfl
  rw [partitionChecks, List.map_flatMap, pairs, List.product]
  simp only [hentry]

/-- The records of the checks of a partition announce their pairs. -/
theorem lines_of_checks {c : Catalog} {p : Partition} {checks : List Check}
    (h : ∀ k ∈ checks, k ∈ l.partitionChecks c p) :
    (checks.map Check.record).map Record.line = (checks.map Check.pair).map (announcement p) := by
  rw [List.map_map, List.map_map]
  refine List.map_congr_left fun k hk => ?_
  obtain ⟨rfl, _⟩ := l.mem_partitionChecks.1 (h k hk)
  exact Record.line_checking ..

theorem result_eq_verdict {c : Catalog} {p : Partition} {k : Check} (h : k ∈ l.partitionChecks c p) :
    k.result l.exceptions = l.verdict p k.pair := by
  obtain ⟨rfl, _⟩ := l.mem_partitionChecks.1 h
  rfl

/-- A pair stands in the row of its entry and the column of its rule. -/
theorem exists_row_and_column {c : Catalog} {p : Partition} {place : Nat} {e : String × Schema} {rule : Rule}
    (h : (l.pairs c p)[place]? = some (e, rule)) :
    ∃ i j, place = i * l.registry.rules.length + j ∧ (c.entries p)[i]? = some e ∧
      l.registry.rules[j]? = some rule := by
  have hlt : place < (c.entries p).length * l.registry.rules.length := by
    rw [← length_pairs]
    exact (List.getElem?_eq_some_iff.1 h).1
  -- without rules there are no pairs, so there is one to divide by
  have hrules : 0 < l.registry.rules.length := by
    refine Nat.pos_of_ne_zero fun hnone => ?_
    rw [hnone, Nat.mul_zero] at hlt
    exact Nat.not_lt_zero _ hlt
  have hplace := (Nat.div_add_mod' place l.registry.rules.length).symm
  refine ⟨place / l.registry.rules.length, place % l.registry.rules.length, hplace, ?_⟩
  rw [hplace, pairs, product_getElem? _ _ _ _ (Nat.mod_lt _ hrules)] at h
  obtain ⟨a, ha, hb⟩ := Option.bind_eq_some_iff.1 h
  obtain ⟨b, hb, heq⟩ := Option.map_eq_some_iff.1 hb
  cases heq
  exact ⟨ha, hb⟩

/-- The pairs of a partition split where its checks do. -/
theorem pairs_of_split {c : Catalog} {p : Partition} {before after : List Check} {k : Check}
    (h : l.partitionChecks c p = before ++ k :: after) :
    (l.pairs c p)[before.length]? = some k.pair ∧ (l.pairs c p).take before.length = before.map Check.pair ∧
      (l.pairs c p).take (before.length + 1) = (before ++ [k]).map Check.pair := by
  have hpairs : l.pairs c p = before.map Check.pair ++ k.pair :: after.map Check.pair := by
    rw [← l.map_pair_partitionChecks, h, List.map_append, List.map_cons]
  have hat : (l.pairs c p)[before.length]? = some k.pair := by
    rw [hpairs, List.getElem?_append_right (by simp)]
    simp
  have htake : (l.pairs c p).take before.length = before.map Check.pair := by
    rw [hpairs, List.take_left' (List.length_map ..)]
  refine ⟨hat, htake, ?_⟩
  rw [List.take_add_one, htake, hat, List.map_append]
  rfl

/-! ## Partitions and catalogs -/

/-- how the check of a partition must be recorded; every line is written out -/
structure TracesPartition (c : Catalog) (p : Partition) (run : Run Failure Nat) : Prop where
  /-- there is a pair for every entry and every rule, row by row -/
  size : (l.pairs c p).length = (c.entries p).length * l.registry.rules.length
  place : ∀ i j, j < l.registry.rules.length → (l.pairs c p)[i * l.registry.rules.length + j]? =
    (c.entries p)[i]?.bind fun e => l.registry.rules[j]?.map fun rule => (e, rule)
  /-- when the partition passes, all pairs are announced, and one line sums up -/
  passes : ∀ count, run.outcome = .ok count → count = (c.entries p).length ∧
    (∀ pair ∈ l.pairs c p, l.verdict p pair = none) ∧
    run.records.map Record.line = (l.pairs c p).map (announcement p) ++
      [(.info, "Checked " ++ toString (c.entries p).length ++ " " ++ p.name ++ " against " ++
        toString l.registry.rules.length ++ " rules")]
  /-- when it fails, the pairs up to the first that fails are announced, and one line gives the failure -/
  fails : ∀ f, run.outcome = .error f → ∃ i j e rule violation,
    (c.entries p)[i]? = some e ∧ l.registry.rules[j]? = some rule ∧
    (∀ earlier ∈ (l.pairs c p).take (i * l.registry.rules.length + j), l.verdict p earlier = none) ∧
    l.verdict p (e, rule) = some violation ∧ f = ⟨e.1, p, rule.name, violation, rule.failureSummary⟩ ∧
    run.records.map Record.line =
      ((l.pairs c p).take (i * l.registry.rules.length + j + 1)).map (announcement p) ++
        [(.error, "[" ++ rule.name ++ "] " ++ f.message)]

/-- A partition whose checks all pass. -/
theorem checkPartition_of_passes {c : Catalog} {p : Partition}
    (houtcome : (l.runChecks (l.partitionChecks c p)).outcome = .ok ()) :
    l.checkPartition c p =
      ⟨(l.runChecks (l.partitionChecks c p)).records ++ [.passed (c.size p) p l.registry.rules.length],
        .ok (c.size p)⟩ := by
  rw [checkPartition_eq, Run.andThen, houtcome]

/-- A partition with a check that fails. -/
theorem checkPartition_of_fails {c : Catalog} {p : Partition} {f : Failure}
    (houtcome : (l.runChecks (l.partitionChecks c p)).outcome = .error f) :
    l.checkPartition c p = ⟨(l.runChecks (l.partitionChecks c p)).records, .error f⟩ := by
  rw [checkPartition_eq, Run.andThen, houtcome]

theorem checkPartition_traced (c : Catalog) (p : Partition) : l.TracesPartition c p (l.checkPartition c p) := by
  have hsize : (c.entries p).length = c.size p := rfl
  have hplace := fun i j (hj : j < l.registry.rules.length) => product_getElem? (c.entries p) _ i j hj
  rcases l.runChecks_traced (l.partitionChecks c p) with
    ⟨hall, houtcome, hrecords⟩ | ⟨before, k, after, f, hchecks, hbefore, hfails, houtcome, hrecords⟩
  · rw [l.checkPartition_of_passes houtcome]
    refine ⟨l.length_pairs c p, hplace, fun count hcount => ?_, fun _ hf => (nomatch hf)⟩
    cases hcount
    refine ⟨hsize.symm, fun pair hpair => ?_, ?_⟩
    · obtain ⟨k, hk, rfl⟩ := List.mem_map.1 (l.map_pair_partitionChecks c p ▸ hpair)
      rw [← l.result_eq_verdict hk]
      exact hall k hk
    · rw [List.map_append, hrecords, l.lines_of_checks fun k hk => hk, l.map_pair_partitionChecks]
      exact congrArg (_ ++ [·]) (Record.line_passed ..)
  · rw [l.checkPartition_of_fails houtcome]
    refine ⟨l.length_pairs c p, hplace, fun _ hcount => (nomatch hcount), fun g hg => ?_⟩
    cases hg
    have hmem : ∀ b ∈ before ++ [k], b ∈ l.partitionChecks c p := by
      intro b hb
      rw [hchecks, List.append_cons]
      exact List.mem_append_left _ hb
    have hk : k ∈ l.partitionChecks c p := hmem k (by simp)
    obtain ⟨hat, htake, htakeNext⟩ := l.pairs_of_split hchecks
    obtain ⟨i, j, hij, hentry, hrule⟩ := l.exists_row_and_column hat
    obtain ⟨violation, hresult, rfl⟩ := Option.map_eq_some_iff.1 hfails
    have hpartition : k.partition = p := (l.mem_partitionChecks.1 hk).1
    refine ⟨i, j, (k.entry, k.schema), k.rule, violation, hentry, hrule, ?_, ?_, ?_, ?_⟩
    · rw [← hij, htake]
      intro pair hpair
      obtain ⟨b, hb, rfl⟩ := List.mem_map.1 hpair
      rw [← l.result_eq_verdict (hmem b (List.mem_append_left _ hb))]
      exact hbefore b hb
    · rw [← hresult, l.result_eq_verdict hk]
      rfl
    · rw [hpartition]
    · rw [← hij, htakeNext, hrecords, List.map_append, l.lines_of_checks hmem]
      exact congrArg (_ ++ [·]) (Record.line_failed ..)

/-- The records of a catalog are those of the data sources, and then those of the resources if these are reached. -/
theorem records_checkCatalog (c : Catalog) : (l.checkCatalog c).records =
    (l.checkPartition c .dataSources).records ++ match (l.checkPartition c .dataSources).outcome with
      | .ok _ => (l.checkPartition c .resources).records
      | .error _ => [] := by
  rw [checkCatalog, Run.andThen]
  cases (l.checkPartition c .dataSources).outcome with
  | error f => rw [List.append_nil]
  | ok count =>
    cases h : (l.checkPartition c .resources).outcome with
    | error f => simp only [Run.andThen, h]
    | ok count => simp only [Run.andThen, h, Run.value, List.append_nil]

/-- **The records are exactly the work.** For any rules in any order, any exceptions that these admit and any catalog, a
partition that passes announces every entry with every rule, row by row, and then sums up once; one that fails announces
the pairs up to the first that fails, and then gives the failure, once. A catalog is recorded as its data sources, and
then as its resources when the data sources pass. -/
theorem records_are_work (c : Catalog) :
    (∀ p, l.TracesPartition c p (l.checkPartition c p)) ∧
      (l.checkCatalog c).records =
        (l.checkPartition c .dataSources).records ++ match (l.checkPartition c .dataSources).outcome with
          | .ok _ => (l.checkPartition c .resources).records
          | .error _ => [] :=
  ⟨l.checkPartition_traced c, l.records_checkCatalog c⟩

end Linter

end CatalogLint
