/-
Documents from values with identity. What holds itself nowhere becomes a document once, and all who name it share it.
What does hold itself would be endless as a document, so it is laid out as far as it is read: a reader of schemas goes
round a cycle until it comes to a schema that it is inside of, and data that is only shown goes round once. There
`Document.again` ends it.
-/
import CatalogLint.Validation.Part
import CatalogLint.Yaml.Graph

namespace CatalogLint.Yaml.Graph

/-! ## Values without cycles -/

/-- what is known of a node -/
inductive Mark where
  | unseen
  /-- the search is inside of it -/
  | opened
  /-- it leads into a cycle -/
  | cyclic
  | plain (d : Document)

abbrev Search := StateM (Array Mark)

/-- the documents of the parts, if none of them leads into a cycle; all parts are searched -/
def searchAll (search : Nat → Search (Option Document)) (parts : List Nat) : Search (Option (List Document)) := do
  return (← parts.mapM search).mapM id

/-- the document of a node that does not lead into a cycle -/
def search (g : Graph) : Nat → Nat → Search (Option Document)
  | 0, _ => return none
  | fuel + 1, n => do
    match (← get)[n]? with
    | some (.plain d) => return some d
    | some .unseen =>
      modify (·.modify n fun _ => .opened)
      let found ← match g.vertices[n]? with
        | some (some (.scalar key)) => pure (some (.scalar key.value))
        | some (some (.set members)) => pure (some (.set (members.map Key.value)))
        | some (some (.list items)) => pure ((← searchAll (search g fuel) items).map .list)
        | some (some (.mapping entries)) =>
          let values ← searchAll (search g fuel) (entries.map Prod.snd)
          pure (values.map fun ds => .mapping ((entries.map (·.1.value)).zip ds))
        | some (some (.pairs entries)) =>
          let firsts ← searchAll (search g fuel) (entries.map Prod.fst)
          let seconds ← searchAll (search g fuel) (entries.map Prod.snd)
          pure (do return .list ((← firsts).zipWith .pair (← seconds)))
        | _ => pure none
      modify (·.modify n fun _ => (found.map .plain).getD .cyclic)
      return found
    | _ => return none

/-! ## Values with cycles -/

/-- lays out a node that is read as a part; `inside` are the nodes that may not come again -/
def layOut (g : Graph) (marks : Array Mark) : Nat → Part → List Nat → Nat → Document
  | 0, _, _, _ => .null
  | fuel + 1, part, inside, n =>
    match marks[n]?, g.vertices[n]? with
    | some (.plain d), _ => d
    | _, some (some (.scalar key)) => .scalar key.value
    | _, some (some (.set members)) => .set (members.map Key.value)
    | _, some (some (.list items)) =>
      let inside := if part = .leaf then inside else []
      if n ∈ inside then .again false
      else .list (items.map (layOut g marks fuel .leaf (n :: inside)))
    | _, some (some (.pairs entries)) =>
      let inside := if part = .leaf then inside else []
      if n ∈ inside then .again false
      else
        let value := layOut g marks fuel .leaf (n :: inside)
        .list (entries.map fun (k, v) => .pair (value k) (value v))
    | _, some (some (.mapping entries)) =>
      if part.isBounded && n ∈ inside then .again true
      else
        let inner := if part.isBounded then n :: inside else inside
        .mapping (entries.map fun (key, v) =>
          let below := part.under key.value
          (key.value, layOut g marks fuel below (if below = .leaf && part ≠ .leaf then [] else inner) v))
    | _, _ => .null

/-- the document of the outermost value, read as a part; between two schemas there are fewer than six steps -/
def document (g : Graph) (part : Part) : Document :=
  let size := g.vertices.size
  let (found, marks) := (search g (size + 1) g.root).run (Array.replicate size .unseen)
  match found with
  | some d => d
  | none => layOut g marks (6 * size + 10) part [] g.root

end CatalogLint.Yaml.Graph
