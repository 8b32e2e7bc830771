/-
Sessions with a registry. A request registers a rule or asks for something; `Registry.serve` answers it and gives the
registry as it is afterwards, and `Registry.serveAll` answers requests in turn, each with the registry that the one
before has left. A request that cannot be granted is answered with an error.
-/
import CatalogLint.Rule.Registry

namespace CatalogLint

/-- what a registry is asked to do -/
inductive Request where
  | register (rule : Rule)
  | get (name : String)
  | contains (name : String)
  | names
  | ordered
  | check (name : String) (schema : Schema) (exceptions : NameSet)

/-- what is given when a request is granted -/
inductive Reply where
  | done
  | rule (rule : Rule)
  | truth (value : Bool)
  | names (names : List String)
  | rules (rules : List Rule)
  | report (violation : Option Violation)

namespace Registry

/-- the registry after a request, and the answer -/
def serve (r : Registry) : Request → Registry × Run RuleError Reply
  | .register rule =>
    match (r.register rule).outcome with
    | .ok next => (next, ⟨(r.register rule).records, .ok .done⟩)
    | .error e => (r, ⟨(r.register rule).records, .error e⟩)
  | .get name => (r, .ofExcept ((r.get name).map .rule))
  | .contains name => (r, .value (.truth (r.contains name)))
  | .names => (r, .value (.names r.names))
  | .ordered => (r, .value (.rules r.rules))
  | .check name schema exceptions =>
    (r, .ofExcept ((r.get name).map fun rule => .report (rule.check schema exceptions)))

/-- the registry after requests in turn, and all answers -/
def serveAll (r : Registry) : List Request → Registry × List (Run RuleError Reply)
  | [] => (r, [])
  | request :: rest =>
    let (next, answer) := r.serve request
    let (last, answers) := next.serveAll rest
    (last, answer :: answers)

end Registry

end CatalogLint
