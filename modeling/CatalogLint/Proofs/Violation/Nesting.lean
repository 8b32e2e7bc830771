/-
Violations on their way out. A violation found deep in a schema is put inside one enclosing field after another, the
innermost first: `Violation.nestedIn` is what becomes of it, and `Violation.states` also keeps what it was before.

- `Violation.nestedIn_eq`: only the enclosing fields change, and the field that is put around last comes first.
- `Violation.path_nestedUnder`, `Violation.message_nestedUnder`: what one more field does to the two texts.
- `Violation.states_eq`: the states are the violation inside each beginning of the list of fields.

So the names, the path and the message agree at every step of a chain of any length, and no step changes what was there
before it.
-/
import CatalogLint.Violation
import Mathlib.Data.List.Infix

namespace CatalogLint.Violation

/-- the violation inside fields that are put around it in turn, each a name and a label -/
def nestedIn (v : Violation) (around : List (String × String)) : Violation :=
  around.foldl (fun w field => w.nestedUnder field.1 field.2) v

/-- the violation, and what it is after each field that is put around it -/
def states (v : Violation) (around : List (String × String)) : List Violation :=
  around.scanl (fun w field => w.nestedUnder field.1 field.2) v

/-! ## One step -/

theorem fieldPath_ne_nil (v : Violation) : v.fieldPath ≠ [] := by simp [fieldPath]

theorem fieldPath_nestedUnder (v : Violation) (name label : String) :
    (v.nestedUnder name label).fieldPath = name :: v.fieldPath := rfl

/-- One more field puts its name and one separator before the path. -/
theorem path_nestedUnder (v : Violation) (name label : String) :
    (v.nestedUnder name label).path = name ++ " → " ++ v.path := by
  rw [path, fieldPath_nestedUnder, String.intercalate_cons_of_ne_nil v.fieldPath_ne_nil]
  rfl

theorem lead_eq (name label : String) : lead (name, label) = "the field '" ++ name ++ "' is a " ++ label ++ ": " := rfl

/-- One more field puts its own words before the message. -/
theorem message_nestedUnder (v : Violation) (name label : String) :
    (v.nestedUnder name label).message = "the field '" ++ name ++ "' is a " ++ label ++ ": " ++ v.message := by
  simp only [message, nestedUnder, List.map_cons, String.join_cons, lead_eq, String.append_assoc]

/-! ## Chains -/

/-- **Nesting changes nothing but the enclosing fields.** The last one put around comes first, and those that were there
already come last. -/
theorem nestedIn_eq (v : Violation) (around : List (String × String)) :
    v.nestedIn around = { v with parents := around.reverse ++ v.parents } := by
  induction around generalizing v with
  | nil => rfl
  | cons field rest ih =>
    calc v.nestedIn (field :: rest)
        = (v.nestedUnder field.1 field.2).nestedIn rest := rfl
      _ = { v with parents := rest.reverse ++ field :: v.parents } := ih _
      _ = { v with parents := (field :: rest).reverse ++ v.parents } := by simp

theorem nestedIn_concat (v : Violation) (around : List (String × String)) (name label : String) :
    v.nestedIn (around ++ [(name, label)]) = (v.nestedIn around).nestedUnder name label := by
  simp [nestedIn]

/-- **The states are the violation inside each beginning of the chain.** -/
theorem states_eq (v : Violation) (around : List (String × String)) :
    v.states around = around.inits.map v.nestedIn := by
  induction around generalizing v with
  | nil => rfl
  | cons field rest ih =>
    have hrest : (v.nestedUnder field.1 field.2).states rest =
        rest.inits.map fun before => v.nestedIn (field :: before) := ih _
    rw [states, List.scanl_cons, List.inits_cons, List.map_cons, List.map_map]
    exact congrArg (v :: ·) hrest

/-- Fields that are put around later leave the earlier states as they are. -/
theorem states_prefix (v : Violation) (around later : List (String × String)) :
    v.states around <+: v.states (around ++ later) := by
  rw [states_eq, states_eq, List.inits_append, List.map_append]
  exact List.prefix_append _ _

/-! ## The whole chain -/

/-- what a violation must be inside fields that were put around `v` in turn: all that `v` said of the offending field, and
texts that follow from the enclosing fields, from the outermost to the innermost -/
structure IsNesting (v : Violation) (around : List (String × String)) (w : Violation) : Prop where
  family : w.family = v.family
  ruleName : w.ruleName = v.ruleName
  fieldName : w.fieldName = v.fieldName
  reason : w.reason = v.reason
  parents : w.parents = around.reverse ++ v.parents
  fieldPath : w.fieldPath = (around.reverse ++ v.parents).map Prod.fst ++ [v.fieldName]
  path : w.path = " → ".intercalate w.fieldPath
  message : w.message = String.join ((around.reverse ++ v.parents).map fun field =>
    "the field '" ++ field.1 ++ "' is a " ++ field.2 ++ ": ") ++ v.reason

theorem isNesting_nestedIn (v : Violation) (around : List (String × String)) :
    v.IsNesting around (v.nestedIn around) := by
  rw [nestedIn_eq]
  constructor <;> rfl

/-- what one more field must do: its name and its words come before the texts, once and with one separator -/
structure IsStep (w : Violation) (name label : String) (x : Violation) : Prop where
  fieldPath : x.fieldPath = name :: w.fieldPath
  path : x.path = name ++ " → " ++ w.path
  message : x.message = "the field '" ++ name ++ "' is a " ++ label ++ ": " ++ w.message

theorem isStep_nestedUnder (w : Violation) (name label : String) : w.IsStep name label (w.nestedUnder name label) :=
  ⟨w.fieldPath_nestedUnder name label, w.path_nestedUnder name label, w.message_nestedUnder name label⟩

/-- **Nesting composes over any chain.** Take any violation, of any rule and with any enclosing fields, and put any
fields around it in turn. The states that it goes through are the violation itself, then what it is inside each longer
beginning of the chain. In all of them the rule, the field, the reason and the type that was found are the same, the
enclosing fields are those put around so far, the last one first, and then those from before, and the names, the path and
the message say just these. A further field adds its name to the path and its words to the message, both in front, and
changes none of the states before. -/
theorem nesting_composes (v : Violation) (around : List (String × String)) :
    v.IsNesting around (v.nestedIn around) ∧
    (∀ name label, (v.nestedIn around).IsStep name label (v.nestedIn (around ++ [(name, label)]))) ∧
    v.states around = around.inits.map v.nestedIn ∧
    ∀ later, v.states around <+: v.states (around ++ later) := by
  refine ⟨v.isNesting_nestedIn around, fun name label => ?_, v.states_eq around, v.states_prefix around⟩
  rw [nestedIn_concat]
  exact (v.nestedIn around).isStep_nestedUnder name label

/-- two fields around one that has a field around it already -/
example : (Violation.states ⟨.booleanNaming (some .string), "x_enabled", "r", [("a", "List")]⟩
    [("b", "Set"), ("c", "List")]).map message =
      ["the field 'a' is a List: r", "the field 'b' is a Set: the field 'a' is a List: r",
        "the field 'c' is a List: the field 'b' is a Set: the field 'a' is a List: r"] := by decide

end CatalogLint.Violation
