/-
Values with their identity. Each node stands for one value, however often it is named, and a collection holds the nodes
of its parts, so a collection may hold itself. Keys of mappings are scalars.

`Graph.ofNodes` finds the values level by level: the parts of a collection are looked at after everything that stands
beside it, and the first fault met is the one that counts. What a mapping merges is settled when its parts are looked
at.
-/
import CatalogLint.Yaml.Merge
import CatalogLint.Yaml.Value

namespace CatalogLint.Yaml

/-- a scalar as a key; no number is the same key as itself only where it comes from the same node, unless a word names
it -/
structure Key where
  value : Scalar
  source : Option Nat

/-- whether two keys are one -/
def Key.same (a b : Key) : Bool := a.source == b.source && a.value.same b.value

/-- what a node stands for; the parts are given by their nodes -/
inductive Vertex where
  | scalar (key : Key)
  | list (items : List Nat)
  | set (members : List Key)
  | mapping (entries : List (Key × Nat))
  | pairs (entries : List (Nat × Nat))

structure Graph where
  /-- the values by node; nodes that only steer a merge have none -/
  vertices : Array (Option Vertex)
  root : Nat

namespace Graph

/-! ## Scalars -/

/-- the text that stands for a node where a scalar is wanted; in a mapping it is that of the first value key -/
def textAt (nodes : Array Node) : Nat → Nat → Except Fault String
  | 0, _ => .error .endlessText
  | fuel + 1, n =>
    match nodes[n]?.map Node.content with
    | some (.scalar text) => .ok text
    | some (.mapping entries) =>
      match entries.find? fun (k, _) => nodes[k]?.any (·.tag = .value) with
      | some (_, v) => textAt nodes fuel v
      | none => .error (.malformed .notAScalar)
    | _ => .error (.malformed .notAScalar)

/-- the scalar that a node stands for -/
def scalarAt (nodes : Array Node) (n : Nat) (node : Node) : Except Fault Key := do
  if node.tag = .merge || node.tag = .value || node.tag = .other then throw (.malformed .unknownTag)
  let text ← textAt nodes (nodes.size + 1) n
  if node.tag = .stamp then
    match node.content with
    | .scalar _ => pure ()
    | _ => throw .compositeStamp
  let value ← Value.ofText node.tag text
  return ⟨value, if value = .float .nan && !Value.isNanWord text then some n else none⟩

/-! ## Collections -/

structure BuildState where
  nodes : Array Node
  vertices : Array (Option Vertex)
  /-- the collections met so far, in this order -/
  met : Array Nat

abbrev Build := StateT BuildState (Except Fault)

namespace Build

def fail {α : Type} (reason : Malformed) : Build α := throw (.malformed reason)

def setVertex (n : Nat) (v : Vertex) : Build Unit :=
  modify fun s => { s with vertices := s.vertices.modify n fun _ => some v }

/-- makes sure that a node has a value; the parts of a collection are left for later -/
def visit (n : Nat) : Build Unit := do
  let s ← get
  match s.nodes[n]?, s.vertices[n]? with
  | some node, some none =>
    if node.tag.isCollection then
      setVertex n (.list [])
      modify fun s => { s with met := s.met.push n }
    else setVertex n (.scalar (← scalarAt s.nodes n node))
  | _, _ => pure ()

/-- the scalar of a node that has been visited -/
def keyAt (n : Nat) : Build Key := do
  match (← get).vertices[n]? with
  | some (some (.scalar key)) => return key
  | _ => fail .compositeKey

/-- edits the nodes -/
def edit (change : Merge.Editing Unit) : Build Unit := do
  let s ← get
  let (_, nodes) ← change.run s.nodes
  set { s with nodes := nodes }

/-- the entries of a mapping with what it merges; the last value of a key counts -/
def entriesOf (n : Nat) : Build (List (Key × Nat)) := do
  edit (Merge.flatten n)
  match (← get).nodes[n]?.map Node.content with
  | some (.mapping entries) =>
    entries.foldlM (fun known (k, v) => do
      visit k
      let key ← keyAt k
      visit v
      return Document.putBy Key.same key v known) []
  | _ => fail .notAMapping

/-- the only entry of an item in a list of entries -/
def entryOf (n : Nat) : Build (Nat × Nat) := do
  match (← get).nodes[n]?.map Node.content with
  | some (.mapping [(k, v)]) => visit k; visit v; return (k, v)
  | _ => fail .notAnEntry

/-- looks at the parts of a collection -/
def fill (n : Nat) : Build Unit := do
  match (← get).nodes[n]? with
  | none => pure ()
  | some node =>
    match node.tag, node.content with
    | .sequence, .sequence items => items.forM visit; setVertex n (.list items)
    | .pairs, .sequence items => setVertex n (.pairs (← items.mapM entryOf))
    | .mapping, .mapping _ => setVertex n (.mapping (← entriesOf n))
    | .set, .mapping _ => setVertex n (.set ((← entriesOf n).map Prod.fst))
    | .mapping, _ | .set, _ => fail .notAMapping
    | _, _ => fail .notASequence

/-- looks at the parts of the collections from a position on, in the order in which they were met -/
def fillFrom : Nat → Nat → Build Unit
  | 0, _ => pure ()
  | fuel + 1, position => do
    match (← get).met[position]? with
    | none => pure ()
    | some n => fill n; fillFrom fuel (position + 1)

end Build

open Build

/-- the values of the nodes of a text; every node is met once at most -/
def ofNodes (g : NodeGraph) : Except Fault Graph := do
  let size := g.nodes.size
  let (_, s) ← (do visit g.root; fillFrom (size + 1) 0 : Build Unit).run ⟨g.nodes, Array.replicate size none, #[]⟩
  return ⟨s.vertices, g.root⟩

end Graph

end CatalogLint.Yaml
