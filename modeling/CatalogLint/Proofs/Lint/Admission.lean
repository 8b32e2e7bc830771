/-
Which exceptions a registry admits. A linter is made of a registry as it is and of exceptions for names that have a rule
in it which supports them, whether anything is declared under a name or not.

- `Linter.make_eq_ok`, `Linter.make_of_admitted`, `Linter.make_eq_error_iff`: what becomes of a registry and exceptions.
- `Linter.least_refused`: the error is about the least name that the registry rejects.
- `ExceptionRegistry.forEntry_of_not_mem`: under a name that exceptions do not have, no names are excepted.
- `Linter.checkEntry_unexcepted`: so rules that do not support exceptions are run without any.
-/
import CatalogLint.Proofs.Lint.FirstFailure
import CatalogLint.Proofs.Rule.Lookup

namespace CatalogLint

/-- exceptions cannot be declared for the name -/
def Registry.Rejects (r : Registry) (name : String) : Prop := r.Lacks name ∨ r.Forbids name

/-! ## Making a linter -/

namespace Linter

variable {registry : Registry} {x : ExceptionRegistry} {l : Linter} {e : RuleError}

theorem make_eq_error_iff : Linter.make registry x = .error e ↔ x.ruleNames.findSome? registry.refusal? = some e := by
  unfold Linter.make
  split
  · rename_i found hfound
    rw [hfound, Except.error.injEq, Option.some.injEq]
  · rename_i hnone
    simp [hnone]

theorem make_eq_ok (h : Linter.make registry x = .ok l) : l.registry = registry ∧ l.exceptions = x := by
  unfold Linter.make at h
  split at h
  · cases h
  · cases h; exact ⟨rfl, rfl⟩

theorem make_of_admitted (h : ∀ name ∈ x.ruleNames, registry.refusal? name = none) :
    Linter.make registry x = .ok ⟨registry, x, h⟩ := by
  have hnone : x.ruleNames.findSome? registry.refusal? = none := List.findSome?_eq_none_iff.2 h
  unfold Linter.make
  split
  · rename_i e he
    rw [hnone] at he
    cases he
  · rfl

/-- There is no linter exactly when some name is rejected. -/
theorem exists_make_error_iff : (∃ e, Linter.make registry x = .error e) ↔
    ∃ name ∈ x.ruleNames, registry.Rejects name := by
  simp only [make_eq_error_iff]
  constructor
  · rintro ⟨e, he⟩
    obtain ⟨name, hname, hrefusal⟩ := List.exists_of_findSome?_eq_some he
    exact ⟨name, hname, Registry.refusal?_ne_none_iff.1 (by rw [hrefusal]; exact Option.some_ne_none _)⟩
  · rintro ⟨name, hname, hrejects⟩
    refine Option.ne_none_iff_exists'.1 fun hnone => ?_
    exact Registry.refusal?_ne_none_iff.2 hrejects (List.findSome?_eq_none_iff.1 hnone name hname)

/-- **The error is about the least name that is rejected.** -/
theorem least_refused (h : Linter.make registry x = .error e) : ∃ name ∈ x.ruleNames,
    (∀ other ∈ x.ruleNames, registry.Rejects other → other = name ∨ name < other) ∧
      registry.refusal? name = some e := by
  obtain ⟨name, hname, hrefusal, hleast⟩ := first_hit_least x.names_ordered (make_eq_error_iff.1 h)
  exact ⟨name, hname, fun other hother hrejects => hleast other hother (Registry.refusal?_ne_none_iff.2 hrejects),
    hrefusal⟩

end Linter

/-! ## Checks without exceptions -/

theorem ExceptionRegistry.forEntry_of_not_mem {x : ExceptionRegistry} {rule : String} (h : rule ∉ x.ruleNames)
    (p : Partition) (entry : String) : (x.exceptionsFor rule p).forEntry entry = .empty := by
  have hnone : x.get? rule = none := by
    rw [← Option.not_isSome_iff_eq_none]
    exact fun hsome => h (NameMap.contains_iff.1 hsome)
  rw [exceptionsFor, hnone]
  rfl

/-- A linter declares nothing for a rule that does not support exceptions. -/
theorem Linter.not_mem_ruleNames {l : Linter} {rule : Rule} (hrule : rule ∈ l.registry.rules)
    (h : rule.supportsExceptions = false) : rule.name ∉ l.exceptions.ruleNames := by
  intro hname
  have hrejects : l.registry.Rejects rule.name := Or.inr ⟨rule, hrule, rfl, h⟩
  exact Registry.refusal?_ne_none_iff.2 hrejects (l.admitted rule.name hname)

/-- the rule, which overlooks the names that are excepted if it does not support exceptions -/
def Rule.unexcepted (rule : Rule) : Rule :=
  if rule.supportsExceptions then rule else { rule with check := fun schema _ => rule.check schema .empty }

theorem Linter.checkRule_unexcepted {l : Linter} {rule : Rule} (hrule : rule ∈ l.registry.rules) (p : Partition)
    (entry : String) (schema : Schema) :
    l.checkRule p entry schema rule = l.checkRule p entry schema rule.unexcepted := by
  unfold Rule.unexcepted
  split
  · rfl
  · rename_i hsupports
    have hname := not_mem_ruleNames hrule (Bool.eq_false_iff.2 hsupports)
    simp only [checkRule, ExceptionRegistry.forEntry_of_not_mem hname]

/-- **An entry is checked as if rules that do not support exceptions overlooked them.** -/
theorem Linter.checkEntry_unexcepted (l : Linter) (p : Partition) (entry : String) (schema : Schema) :
    l.checkEntry p entry schema = l.checkRules p entry schema (l.registry.rules.map Rule.unexcepted) := by
  have hrules : ∀ rules : List Rule, (∀ rule ∈ rules, rule ∈ l.registry.rules) →
      l.checkRules p entry schema rules = l.checkRules p entry schema (rules.map Rule.unexcepted) := by
    intro rules hsub
    induction rules with
    | nil => rfl
    | cons rule rest ih =>
      rw [List.map_cons, checkRules, checkRules, ih fun later hl => hsub later (List.mem_cons_of_mem _ hl),
        checkRule_unexcepted (hsub rule List.mem_cons_self)]
  exact hrules l.registry.rules fun _ hrule => hrule

/-- **A linter is refused exactly for exceptions that its registry rejects.** Take any registry, an empty one too, and
any exceptions. There is a linter unless exceptions are declared, perhaps none of them, for a name that has no rule or
whose rule supports none. The least such name decides the error: it tells the name and all names of rules in order when
there is no rule, and the name alone when its rule supports no exceptions. A linter that is made has the registry and
the exceptions as they were given, and it excepts no names from a rule that supports no exceptions, in any entry. -/
theorem linter_refused_for_least_rejected (registry : Registry) (x : ExceptionRegistry) :
    ((∃ e, Linter.make registry x = .error e) ↔ ∃ name ∈ x.ruleNames, registry.Rejects name) ∧
    (∀ e, Linter.make registry x = .error e → ∃ name ∈ x.ruleNames,
      (∀ other ∈ x.ruleNames, registry.Rejects other → other = name ∨ name < other) ∧
      ((registry.Lacks name ∧ e = .unknown name registry.names ∧
          e.message = "Rule '" ++ name ++ "' not found. Available rules: " ++ ", ".intercalate registry.names) ∨
        (registry.Forbids name ∧ e = .exceptionsUnsupported name ∧
          e.message = "Rule '" ++ name ++ "' does not support exceptions"))) ∧
    (registry.names.Pairwise (· < ·) ∧ ∀ name, name ∈ registry.names ↔ ∃ rule ∈ registry.rules, rule.name = name) ∧
    ∀ l, Linter.make registry x = .ok l → l.registry = registry ∧ l.exceptions = x ∧
      (∀ rule ∈ registry.rules, rule.supportsExceptions = false → ∀ p entry,
        (l.exceptions.exceptionsFor rule.name p).forEntry entry = .empty) ∧
      ∀ p entry schema,
        l.checkEntry p entry schema = l.checkRules p entry schema (registry.rules.map Rule.unexcepted) := by
  refine ⟨Linter.exists_make_error_iff, fun e he => ?refused,
    ⟨registry.names_increase, fun _ => Registry.mem_names_iff⟩, fun l hl => ?made⟩
  case refused =>
    obtain ⟨name, hname, hleast, hrefusal⟩ := Linter.least_refused he
    refine ⟨name, hname, hleast, ?_⟩
    rcases Registry.refusal?_eq_some_iff.1 hrefusal with ⟨hlacks, rfl⟩ | ⟨hforbids, rfl⟩
    · exact Or.inl ⟨hlacks, rfl, RuleError.message_unknown ..⟩
    · exact Or.inr ⟨hforbids, rfl, RuleError.message_exceptionsUnsupported ..⟩
  case made =>
    obtain ⟨rfl, rfl⟩ := Linter.make_eq_ok hl
    refine ⟨rfl, rfl, fun rule hrule hsupports => ?_, l.checkEntry_unexcepted⟩
    exact ExceptionRegistry.forEntry_of_not_mem (Linter.not_mem_ruleNames hrule hsupports)

end CatalogLint
