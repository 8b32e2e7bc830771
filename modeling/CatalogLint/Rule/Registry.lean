/-
Registries of rules. A registry keeps its rules in the order of registration, and no two have the same name; a name
that is taken cannot be registered again. `builtin` holds the rules of this library in the order in which they run.
-/
import CatalogLint.Lint.Record
import CatalogLint.Rule.BooleanNaming
import CatalogLint.Rule.RedundantDefault
import CatalogLint.Rule.Sensitivity

namespace CatalogLint

/-- why a rule name cannot be used -/
inductive RuleError where
  | duplicate (name : String)
  | unknown (name : String) (available : List String)
  | exceptionsUnsupported (name : String)
  deriving DecidableEq

def RuleError.message : RuleError → String
  | .duplicate name => s!"Rule '{name}' is already registered"
  | .unknown name available => s!"Rule '{name}' not found. Available rules: " ++ ", ".intercalate available
  | .exceptionsUnsupported name => s!"Rule '{name}' does not support exceptions"

structure Registry where
  rules : List Rule
  distinct : (rules.map Rule.name).Nodup

namespace Registry

def empty : Registry := ⟨[], .nil⟩

/-- the rules of this library, in the order in which they run -/
def builtin : Registry := ⟨[Sensitivity.rule, BooleanNaming.rule, RedundantDefault.rule], by decide⟩

instance : Inhabited Registry := ⟨empty⟩

/-- the names in increasing order -/
def names (r : Registry) : List String := (NameSet.ofList (r.rules.map Rule.name)).names

def contains (r : Registry) (name : String) : Bool := (r.rules.map Rule.name).contains name

def get? (r : Registry) (name : String) : Option Rule := r.rules.find? (·.name == name)

def get (r : Registry) (name : String) : Except RuleError Rule :=
  match r.get? name with
  | some rule => .ok rule
  | none => .error (.unknown name r.names)

/-- why exceptions cannot be declared for a rule name -/
def refusal? (r : Registry) (name : String) : Option RuleError :=
  match r.get? name with
  | none => some (.unknown name r.names)
  | some rule => if rule.supportsExceptions then none else some (.exceptionsUnsupported name)

/-- adds a rule after the others and leaves a record of it, unless its name is taken -/
def register (r : Registry) (rule : Rule) : Run RuleError Registry :=
  if h : rule.name ∈ r.rules.map Rule.name then .fail (.duplicate rule.name)
  else
    ⟨[.registered rule.name], .ok ⟨r.rules ++ [rule], by
      rw [List.map_append, List.nodup_append]
      exact ⟨r.distinct, by simp, fun a ha b hb hab => h (by
        rw [List.map_singleton, List.mem_singleton] at hb; rwa [← hb, ← hab])⟩⟩⟩

/-- registers rules in turn, up to the first whose name is taken -/
def registerAll (r : Registry) : List Rule → Run RuleError Registry
  | [] => .value r
  | rule :: rest => (r.register rule).andThen fun next => next.registerAll rest

theorem get?_append {r s : Registry} {rules : List Rule} (h : s.rules = r.rules ++ rules) {name : String} {rule : Rule}
    (hr : r.get? name = some rule) : s.get? name = some rule := by
  unfold get? at hr ⊢
  rw [h, List.find?_append, hr]
  rfl

theorem refusal?_append {r s : Registry} {rules : List Rule} (h : s.rules = r.rules ++ rules) {name : String}
    (hr : r.refusal? name = none) : s.refusal? name = none := by
  cases hg : r.get? name with
  | none => simp [refusal?, hg] at hr
  | some rule => simpa [refusal?, hg, get?_append h hg] using hr

theorem rules_of_register {r s : Registry} {rule : Rule} (h : (r.register rule).outcome = .ok s) :
    s.rules = r.rules ++ [rule] := by
  unfold register at h
  split at h
  · cases h
  · cases h; rfl

end Registry

end CatalogLint
