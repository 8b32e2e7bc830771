/-
Exceptions keep to their rule, partition and entry. A check reads the exceptions only through the names excepted from
its rule in its entry, so two linters with the same rules run alike wherever these names are the same.

- `Linter.checkRule_of_agrees`: the step, for one rule against one entry.
- `Linter.checkEntry_of_agrees`, `Linter.checkCatalog_of_agrees`: from it an entry and a whole catalog, with their
  records.

At the end this is said of the documents that exceptions are read from, through the names that these declare.
-/
import CatalogLint.Proofs.Exceptions.Declared
import CatalogLint.Proofs.Lint.Gate
import CatalogLint.Proofs.Lint.Grandfathering

namespace CatalogLint

/-! ## What a check reads of the exceptions -/

/-- both exceptions except the same names from a rule in an entry -/
def ExceptionRegistry.AgreesAt (x y : ExceptionRegistry) (rule : String) (p : Partition) (entry : String) : Prop :=
  (x.exceptionsFor rule p).forEntry entry = (y.exceptionsFor rule p).forEntry entry

namespace Linter

variable {l other : Linter} {p : Partition} {entry : String} {schema : Schema} {c : Catalog}

theorem checkRule_of_agrees {rule : Rule} (h : l.exceptions.AgreesAt other.exceptions rule.name p entry) :
    l.checkRule p entry schema rule = other.checkRule p entry schema rule := by
  rw [ExceptionRegistry.AgreesAt] at h
  rw [checkRule, checkRule, h]

theorem checkEntry_of_agrees (hregistry : l.registry = other.registry)
    (h : ∀ rule ∈ l.registry.rules, l.exceptions.AgreesAt other.exceptions rule.name p entry) :
    l.checkEntry p entry schema = other.checkEntry p entry schema := by
  rw [checkEntry, checkEntry, ← hregistry]
  exact checkRules_congr fun rule hrule => checkRule_of_agrees (h rule hrule)

theorem checkCatalog_of_agrees (hregistry : l.registry = other.registry)
    (h : ∀ rule ∈ l.registry.rules, ∀ p entry, (c.get p).contains entry →
      l.exceptions.AgreesAt other.exceptions rule.name p entry) :
    l.checkCatalog c = other.checkCatalog c := by
  refine checkCatalog_congr fun p => checkPartition_congr hregistry (List.forall₂_same.2 fun e he => ?_)
  have hentry : (c.get p).contains e.1 := NameMap.contains_iff.2 (List.mem_map_of_mem he)
  exact checkEntry_of_agrees hregistry fun rule hrule => h rule hrule p e.1 hentry

end Linter

/-! ## Documents that declare the same -/

/-- both documents declare the same names for a rule in an entry, in any order and letter case -/
def Document.DeclaresAs (raw other : Document) (rule : String) (p : Partition) (entry : String) : Prop :=
  ∀ name, name ∈ raw.excepted rule p entry ↔ name ∈ other.excepted rule p entry

theorem ExceptionRegistry.agreesAt_of_declaresAs {raw other : Document} {x y : ExceptionRegistry}
    (hx : ExceptionRegistry.read raw = .accepted x) (hy : ExceptionRegistry.read other = .accepted y) {rule : String}
    {p : Partition} {entry : String} (h : raw.DeclaresAs other rule p entry) : x.AgreesAt y rule p entry := by
  refine NameSet.ext fun name => ?_
  rw [ExceptionRegistry.mem_forEntry_iff hx, ExceptionRegistry.mem_forEntry_iff hy]
  exact h name

/-- **Exceptions do not leak.** Take any registry and two documents that are read as exceptions which it admits. If both
declare the same names for every rule that is registered, in every entry that a catalog has, then the catalog is checked
alike under both: the same numbers or the same failure, and the same records. If both differ for one rule in one entry
alone, then every other entry is checked alike, and in that entry every other rule. -/
theorem exceptions_do_not_leak {registry : Registry} {raw other : Document} {x y : ExceptionRegistry}
    (hx : ExceptionRegistry.read raw = .accepted x) (hy : ExceptionRegistry.read other = .accepted y) {l m : Linter}
    (hl : Linter.make registry x = .ok l) (hm : Linter.make registry y = .ok m) :
    (∀ c : Catalog, (∀ rule ∈ registry.rules, ∀ p entry, (c.get p).contains entry →
        raw.DeclaresAs other rule.name p entry) → l.checkCatalog c = m.checkCatalog c) ∧
    ∀ rule p entry, (∀ rule' p' entry', (rule', p', entry') ≠ (rule, p, entry) →
        raw.DeclaresAs other rule' p' entry') →
      (∀ p' entry' schema, (p', entry') ≠ (p, entry) → l.checkEntry p' entry' schema = m.checkEntry p' entry' schema) ∧
      ∀ rule' ∈ registry.rules, rule'.name ≠ rule → ∀ schema,
        l.checkRule p entry schema rule' = m.checkRule p entry schema rule' := by
  obtain ⟨rfl, rfl⟩ := Linter.make_eq_ok hl
  obtain ⟨hregistry, rfl⟩ := Linter.make_eq_ok hm
  refine ⟨fun c hsame => ?_, fun rule p entry hdiffer => ⟨fun p' entry' schema hne => ?_, fun rule' _ hne schema => ?_⟩⟩
  · refine Linter.checkCatalog_of_agrees hregistry.symm fun rule hrule p entry hentry => ?_
    exact ExceptionRegistry.agreesAt_of_declaresAs hx hy (hsame rule hrule p entry hentry)
  · refine Linter.checkEntry_of_agrees hregistry.symm fun rule' _ => ?_
    refine ExceptionRegistry.agreesAt_of_declaresAs hx hy (hdiffer rule'.name p' entry' fun heq => hne ?_)
    exact (Prod.mk.inj heq).2
  · refine Linter.checkRule_of_agrees ?_
    refine ExceptionRegistry.agreesAt_of_declaresAs hx hy (hdiffer rule'.name p entry fun heq => hne ?_)
    exact (Prod.mk.inj heq).1

/-- a switch excepted twice in a resource, and another one where there is no such entry -/
def loudExceptions : Document :=
  .mapping [(.text "boolean_naming", .mapping [
    (.text "resources", .mapping [(.text "disk", .list [.text "CACHE_Enabled", .text "cache_enabled"])]),
    (.text "data_sources", .mapping [(.text "tape", .list [.text "cache_enabled"])])])]

/-- the same switch excepted once, after a rule without exceptions -/
def quietExceptions : Document :=
  .mapping [(.text "redundant_name_default", .mapping []),
    (.text "boolean_naming", .mapping [(.text "resources", .mapping [(.text "disk", .list [.text "Cache_Enabled"])])])]

/-- an entry with a switch that is none, and with a size -/
def switchedDisk : NameMap Schema :=
  ⟨[("disk", ⟨[("Cache_Enabled", ⟨.primitive .string, false, .null⟩), ("size", ⟨.primitive .int, false, .null⟩)],
    by decide⟩)], by decide⟩

/-- the same entry in both partitions -/
def twoDisks : Catalog := ⟨switchedDisk, switchedDisk⟩

/-- Both documents except the switch of the resource alone, and the catalog is checked alike. -/
theorem loud_exceptions_check_as_quiet : ∃ x y l m, ExceptionRegistry.read loudExceptions = .accepted x ∧
    ExceptionRegistry.read quietExceptions = .accepted y ∧ Linter.make .builtin x = .ok l ∧
    Linter.make .builtin y = .ok m ∧ l.checkCatalog twoDisks = m.checkCatalog twoDisks := by
  have hmade : ∀ {raw l}, Linter.ofDocument? raw = some l →
      ExceptionRegistry.read raw = .accepted l.exceptions ∧ Linter.make .builtin l.exceptions = .ok l := by
    intro raw l h
    obtain ⟨hread, hregistry⟩ := Linter.ofDocument?_eq_some_iff.1 h
    exact ⟨hread, hregistry ▸ Linter.make_of_admitted l.admitted⟩
  obtain ⟨l, hl⟩ : ∃ l, Linter.ofDocument? loudExceptions = some l := ⟨_, rfl⟩
  obtain ⟨m, hm⟩ : ∃ m, Linter.ofDocument? quietExceptions = some m := ⟨_, rfl⟩
  have hsame : ∀ p, ∀ entry ∈ (twoDisks.get p).names, ∀ rule ∈ Registry.builtin.rules,
      NameSet.ofList (loudExceptions.excepted rule.name p entry) =
        NameSet.ofList (quietExceptions.excepted rule.name p entry) := by
    intro p
    cases p <;> decide
  refine ⟨_, _, l, m, (hmade hl).1, (hmade hm).1, (hmade hl).2, (hmade hm).2, ?_⟩
  refine (exceptions_do_not_leak (hmade hl).1 (hmade hm).1 (hmade hl).2 (hmade hm).2).1 twoDisks ?_
  intro rule hrule p entry hentry name
  rw [← NameSet.mem_ofList, hsame p entry (NameMap.contains_iff.1 hentry) rule hrule, NameSet.mem_ofList]

end CatalogLint
