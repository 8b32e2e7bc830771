/-
Checked values. Reading a part of a document gives a value or at least one issue. Reading two parts gives the issues of
both (`issues_and`), so nothing stops at the first one; `within` says at which step of the whole a part stands.
-/
import CatalogLint.Validation.Issue

namespace CatalogLint

inductive Checked (α : Type) where
  | accepted (value : α)
  | rejected (first : Issue) (others : List Issue)

namespace Checked

variable {α β γ : Type}

/-- a part that breaks a rule as a whole -/
def reject (cause : Cause) : Checked α := .rejected ⟨[], cause⟩ []

def issues : Checked α → List Issue
  | .accepted _ => []
  | .rejected first others => first :: others

def value? : Checked α → Option α
  | .accepted a => some a
  | .rejected _ _ => none

def map (f : α → β) : Checked α → Checked β
  | .accepted a => .accepted (f a)
  | .rejected first others => .rejected first others

/-- both values, or the issues of both parts -/
def and : Checked α → Checked β → Checked (α × β)
  | .accepted a, .accepted b => .accepted (a, b)
  | .accepted _, .rejected first others => .rejected first others
  | .rejected first others, b => .rejected first (others ++ b.issues)

/-- a part that stands at a step of the whole -/
def within (step : Step) : Checked α → Checked α
  | .accepted a => .accepted a
  | .rejected first others => .rejected (first.within step) (others.map (Issue.within step))

/-- issues of which none stand for a value -/
def ofIssues : List Issue → Checked Unit
  | [] => .accepted ()
  | first :: others => .rejected first others

theorem issues_map (f : α → β) (x : Checked α) : (x.map f).issues = x.issues := by cases x <;> rfl

theorem issues_and (x : Checked α) (y : Checked β) : (x.and y).issues = x.issues ++ y.issues := by
  cases x <;> cases y <;> simp [and, issues]

theorem issues_within (step : Step) (x : Checked α) : (x.within step).issues = x.issues.map (Issue.within step) := by
  cases x <;> simp [within, issues]

theorem issues_ofIssues (l : List Issue) : (ofIssues l).issues = l := by cases l <;> rfl

/-- A part has a value exactly when it has no issues. -/
theorem isSome_value? (x : Checked α) : x.value?.isSome ↔ x.issues = [] := by cases x <;> simp [value?, issues]

end Checked

end CatalogLint
