/-
The linter. It runs every rule of its registry, in the order of registration, against every entry of a catalog, in the
order of names, data sources before resources, and stops at the first violation. Each check is recorded before it is
made, a failure is recorded as an error, and a partition that passes as a whole is recorded once.

A linter exists only for exceptions that its registry admits: rules that are registered and support exceptions.
-/
import CatalogLint.Catalog.Basic
import CatalogLint.Exceptions
import CatalogLint.Rule.Registry

namespace CatalogLint

/-- an entry that violates a rule -/
structure Failure where
  entry : String
  partition : Partition
  rule : String
  violation : Violation
  summary : String
  deriving DecidableEq

namespace Failure

/-- the path of the offending field -/
def fieldPath (f : Failure) : String := f.violation.path

def message (f : Failure) : String :=
  "the " ++ f.partition.label ++ s!" '{f.entry}' {f.summary}: " ++ f.violation.message

end Failure

structure Linter where
  registry : Registry
  exceptions : ExceptionRegistry
  admitted : ∀ name ∈ exceptions.ruleNames, registry.refusal? name = none

namespace Linter

/-- the linter with given rules and exceptions; the least rule name that is refused decides the error -/
def make (registry : Registry) (exceptions : ExceptionRegistry) : Except RuleError Linter :=
  match h : exceptions.ruleNames.findSome? registry.refusal? with
  | some e => .error e
  | none => .ok ⟨registry, exceptions, List.findSome?_eq_none_iff.1 h⟩

/-- adds a rule to the linter's registry -/
def register (l : Linter) (rule : Rule) : Run RuleError Linter :=
  match h : (l.registry.register rule).outcome with
  | .error e => ⟨(l.registry.register rule).records, .error e⟩
  | .ok next =>
    ⟨(l.registry.register rule).records, .ok ⟨next, l.exceptions, fun name hn =>
      Registry.refusal?_append (Registry.rules_of_register h) (l.admitted name hn)⟩⟩

/-- runs one rule against one entry -/
def checkRule (l : Linter) (p : Partition) (entry : String) (schema : Schema) (rule : Rule) : Run Failure Unit :=
  let checking : Record := .checking p entry rule.name
  match rule.check schema ((l.exceptions.exceptionsFor rule.name p).forEntry entry) with
  | none => ⟨[checking], .ok ()⟩
  | some violation =>
    let failure : Failure := ⟨entry, p, rule.name, violation, rule.failureSummary⟩
    ⟨[checking, .failed rule.name failure.message], .error failure⟩

/-- runs rules in turn against one entry -/
def checkRules (l : Linter) (p : Partition) (entry : String) (schema : Schema) : List Rule → Run Failure Unit
  | [] => .value ()
  | rule :: rest => (l.checkRule p entry schema rule).andThen fun _ => l.checkRules p entry schema rest

/-- runs every rule against one entry -/
def checkEntry (l : Linter) (p : Partition) (entry : String) (schema : Schema) : Run Failure Unit :=
  l.checkRules p entry schema l.registry.rules

/-- runs every rule against entries in turn, and counts the entries that pass -/
def checkEntries (l : Linter) (p : Partition) (count : Nat) : List (String × Schema) → Run Failure Nat
  | [] => .value count
  | (entry, schema) :: rest => (l.checkEntry p entry schema).andThen fun _ => l.checkEntries p (count + 1) rest

/-- checks the entries of one partition and gives their number -/
def checkPartition (l : Linter) (c : Catalog) (p : Partition) : Run Failure Nat :=
  (l.checkEntries p 0 (c.entries p)).andThen fun count =>
    ⟨[.passed count p l.registry.rules.length], .ok count⟩

/-- checks the data sources, then the resources, and counts both -/
def checkCatalog (l : Linter) (c : Catalog) : Run Failure (Partitioned Nat) :=
  (l.checkPartition c .dataSources).andThen fun sources =>
    (l.checkPartition c .resources).andThen fun resources => .value ⟨sources, resources⟩

end Linter

/-- the number of entries in both partitions together -/
def Partitioned.total (counts : Partitioned Nat) : Nat := counts.dataSources + counts.resources

/-- why a check with the rules of this library did not pass -/
inductive LintError where
  | rule (error : RuleError)
  | failure (failure : Failure)
  deriving DecidableEq

def LintError.message : LintError → String
  | .rule e => e.message
  | .failure f => f.message

/-- checks one partition with the rules of this library -/
def lint (c : Catalog) (exceptions : ExceptionRegistry) (p : Partition) : Run LintError Nat :=
  match Linter.make .builtin exceptions with
  | .error e => .fail (.rule e)
  | .ok linter => (linter.checkPartition c p).mapError .failure

end CatalogLint
