/-
Look-ups in registries. Names are unique, so under a name there is the one rule that has it, or none; what a registry
says of a name depends on its rules and not on their order.

- `Registry.get?_eq_some_iff`, `Registry.get_eq_ok_iff`, `Registry.get_eq_error_iff`: what is found under a name.
- `Registry.refusal?_eq_some_iff`: why exceptions for a name are refused.
- `Registry.refusal?_of_perm`: registries with the same rules in another order refuse the same, for the same reason.
-/
import Mathlib.Data.List.Nodup
import CatalogLint.Rule.Registry

namespace CatalogLint

theorem RuleError.message_unknown (name : String) (available : List String) :
    (RuleError.unknown name available).message =
      "Rule '" ++ name ++ "' not found. Available rules: " ++ ", ".intercalate available :=
  rfl

theorem RuleError.message_exceptionsUnsupported (name : String) :
    (RuleError.exceptionsUnsupported name).message = "Rule '" ++ name ++ "' does not support exceptions" :=
  rfl

namespace Registry

variable {r s : Registry} {name : String} {rule : Rule} {e : RuleError}

/-- no rule has the name -/
def Lacks (r : Registry) (name : String) : Prop := ∀ rule ∈ r.rules, rule.name ≠ name

/-- the rule of the name supports no exceptions -/
def Forbids (r : Registry) (name : String) : Prop :=
  ∃ rule ∈ r.rules, rule.name = name ∧ rule.supportsExceptions = false

/-! ## Names -/

theorem names_increase (r : Registry) : r.names.Pairwise (· < ·) := (NameSet.ofList (r.rules.map Rule.name)).ordered

theorem mem_names_iff_mem_map : name ∈ r.names ↔ name ∈ r.rules.map Rule.name := NameSet.mem_ofList

theorem mem_names_iff : name ∈ r.names ↔ ∃ rule ∈ r.rules, rule.name = name := by
  rw [mem_names_iff_mem_map, List.mem_map]

theorem contains_iff_mem_names : r.contains name ↔ name ∈ r.names := by
  rw [contains, List.contains_iff_mem, mem_names_iff_mem_map]

/-! ## Rules under their names -/

/-- **Under a name there is the one rule that has it.** -/
theorem get?_eq_some_iff : r.get? name = some rule ↔ rule ∈ r.rules ∧ rule.name = name := by
  constructor
  · intro h
    exact ⟨List.mem_of_find?_eq_some h, by simpa using List.find?_some h⟩
  · rintro ⟨hrule, rfl⟩
    have hsome : (r.get? rule.name).isSome := List.find?_isSome.2 ⟨rule, hrule, beq_self_eq_true _⟩
    obtain ⟨found, hfound⟩ := Option.isSome_iff_exists.1 hsome
    have hname : found.name = rule.name := by simpa using List.find?_some hfound
    have hmem := List.mem_of_find?_eq_some hfound
    rw [hfound, List.inj_on_of_nodup_map r.distinct hmem hrule hname]

theorem get?_eq_none_iff : r.get? name = none ↔ r.Lacks name := by
  simp only [get?, List.find?_eq_none, beq_iff_eq, Lacks, ne_eq]

theorem get_eq_ok_iff : r.get name = .ok rule ↔ rule ∈ r.rules ∧ rule.name = name := by
  rw [← get?_eq_some_iff, get]
  cases r.get? name <;> simp

theorem get_eq_error_iff : r.get name = .error e ↔ r.Lacks name ∧ e = .unknown name r.names := by
  rw [← get?_eq_none_iff, get]
  cases r.get? name <;> simp [eq_comm]

/-- **Exceptions are refused for names of no rule**, and for names of rules that do not support them. -/
theorem refusal?_eq_some_iff : r.refusal? name = some e ↔
    (r.Lacks name ∧ e = .unknown name r.names) ∨ (r.Forbids name ∧ e = .exceptionsUnsupported name) := by
  unfold refusal?
  cases hget : r.get? name with
  | none =>
    have hlacks := get?_eq_none_iff.1 hget
    have hno : ¬ r.Forbids name := fun ⟨rule, hrule, hname, _⟩ => hlacks rule hrule hname
    simp only [hlacks, hno, true_and, false_and, or_false, Option.some.injEq]
    exact eq_comm
  | some rule =>
    obtain ⟨hrule, hname⟩ := get?_eq_some_iff.1 hget
    have hno : ¬ r.Lacks name := fun hlacks => hlacks rule hrule hname
    have hforbids : r.Forbids name ↔ rule.supportsExceptions = false := by
      refine ⟨fun ⟨other, hother, hsame, hsupports⟩ => ?_, fun hsupports => ⟨rule, hrule, hname, hsupports⟩⟩
      cases hget.symm.trans (get?_eq_some_iff.2 ⟨hother, hsame⟩)
      exact hsupports
    simp only [hforbids, hno, false_and, false_or]
    cases rule.supportsExceptions with
    | true => simp
    | false => simpa using eq_comm

theorem refusal?_ne_none_iff : r.refusal? name ≠ none ↔ r.Lacks name ∨ r.Forbids name := by
  constructor
  · intro h
    obtain ⟨e, he⟩ := Option.ne_none_iff_exists'.1 h
    exact (refusal?_eq_some_iff.1 he).imp And.left And.left
  · rintro (hlacks | hforbids)
    · rw [refusal?_eq_some_iff.2 (Or.inl ⟨hlacks, rfl⟩)]
      exact Option.some_ne_none _
    · rw [refusal?_eq_some_iff.2 (Or.inr ⟨hforbids, rfl⟩)]
      exact Option.some_ne_none _

/-! ## Registries with the same rules -/

theorem names_of_perm (h : r.rules.Perm s.rules) : r.names = s.names := by
  refine congrArg NameSet.names (NameSet.ext fun name => ?_)
  rw [NameSet.mem_ofList, NameSet.mem_ofList, (h.map Rule.name).mem_iff]

theorem get?_of_perm (h : r.rules.Perm s.rules) (name : String) : r.get? name = s.get? name := by
  refine Option.ext fun rule => ?_
  rw [get?_eq_some_iff, get?_eq_some_iff, h.mem_iff]

/-- **The order of registration makes no difference to what is refused.** -/
theorem refusal?_of_perm (h : r.rules.Perm s.rules) (name : String) : r.refusal? name = s.refusal? name := by
  simp only [refusal?, get?_of_perm h, names_of_perm h]

end Registry

end CatalogLint
