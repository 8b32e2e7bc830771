/-
Merge keys. A mapping may take over the entries of others: those of its merge keys come first, so its own entries win,
and of several mappings under one key the first one wins. `flatten` puts the entries of a mapping in this order, and
those of the mappings it merges as well. A value key of a mapping is a plain text once the mapping is flat, wherever the
same node stands otherwise.

A mapping may merge itself; its merge keys are gone by then, so it takes over the entries it has at that time.
-/
import CatalogLint.Yaml.Node

namespace CatalogLint.Yaml.Merge

/-- nodes that are being changed -/
abbrev Editing := StateT (Array Node) (Except Fault)

/-- the content of a node -/
def contentAt (n : Nat) : Editing Node.Content := return ((← get)[n]?.map Node.content).getD (.scalar "")

/-- the entries of a mapping -/
def entriesAt (n : Nat) : Editing (List (Nat × Nat)) := do
  match ← contentAt n with
  | .mapping entries => return entries
  | _ => return []

def setEntries (n : Nat) (entries : List (Nat × Nat)) : Editing Unit :=
  modify (·.modify n fun node => { node with content := .mapping entries })

/-- the entries that the value of a merge key stands for -/
def mergedFrom (flatten : Nat → Editing Unit) (v : Nat) : Editing (List (Nat × Nat)) := do
  match ← contentAt v with
  | .mapping _ => flatten v; entriesAt v
  | .sequence items =>
    let lists ← items.mapM fun n => do
      match ← contentAt n with
      | .mapping _ => flatten n; entriesAt n
      | _ => throw (.malformed .badMerge)
    return lists.reverse.flatten
  | .scalar _ => throw (.malformed .badMerge)

/-- goes over as many entries of a mapping as `left` says, from a position on; gives the entries to merge -/
def gather (flatten : Nat → Editing Unit) (n : Nat) : Nat → Nat → List (Nat × Nat) → Editing (List (Nat × Nat))
  | 0, _, merged => return merged
  | left + 1, position, merged => do
    let entries ← entriesAt n
    match entries[position]? with
    | none => return merged
    | some (k, v) =>
      match (← get)[k]?.map Node.tag with
      | some .merge =>
        setEntries n (entries.eraseIdx position)
        gather flatten n left position (merged ++ (← mergedFrom flatten v))
      | some .value =>
        modify (·.modify k fun node => { node with tag := .text })
        gather flatten n left (position + 1) merged
      | _ => gather flatten n left (position + 1) merged

/-- puts the entries of a mapping in order, to a depth of merges -/
def flattenTo : Nat → Nat → Editing Unit
  | 0, _ => pure ()
  | depth + 1, n => do
    let merged ← gather (flattenTo depth) n (← entriesAt n).length 0 []
    setEntries n (merged ++ (← entriesAt n))

/-- whether a mapping has a key that means more than itself -/
def hasMark (nodes : Array Node) (entries : List (Nat × Nat)) : Bool :=
  entries.any fun (k, _) => nodes[k]?.any fun node => node.tag = .merge || node.tag = .value

/-- puts the entries of a mapping in order; every merge takes one key away, so the depth is at most their number -/
def flatten (n : Nat) : Editing Unit := do
  if hasMark (← get) (← entriesAt n) then
    let count := (← get).foldl (fun total node => match node.content with
      | .mapping entries => total + entries.length
      | _ => total) 1
    flattenTo (count + 1) n

end CatalogLint.Yaml.Merge
