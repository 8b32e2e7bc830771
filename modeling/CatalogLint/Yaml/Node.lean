/-
Nodes: what the tokens of a text describe. A node is a scalar with its text, a sequence or a mapping, and it has a tag.
Nodes are known by number, so an alias is the number of the node that was given its name before; a name is given once.
A node has its name while it is still being read, and so may hold itself. `NodeGraph.ofTokens` reads the nodes of a text
with at most one document.
-/
import CatalogLint.Yaml.Fault
import CatalogLint.Yaml.Lexer
import CatalogLint.Yaml.Tag

namespace CatalogLint.Yaml

/-- what a node holds; the parts are given by their numbers -/
inductive Node.Content where
  | scalar (text : String)
  | sequence (items : List Nat)
  | mapping (entries : List (Nat × Nat))

structure Node where
  tag : Tag
  content : Node.Content

/-- the nodes of a text, and the number of the outermost -/
structure NodeGraph where
  nodes : Array Node
  root : Nat

namespace Node

/-! ## What is known while reading -/

structure ParseState where
  /-- the tokens that are left -/
  tokens : List Token
  /-- the fault that stands after them -/
  fault : Option Fault
  nodes : Array Node
  /-- the names given so far -/
  anchors : List (String × Nat)
  /-- what the handles of tags stand for -/
  handles : List (String × String)

abbrev Parse := StateT ParseState (Except Fault)

namespace Parse

def fail {α : Type} (reason : Malformed) : Parse α := throw (.malformed reason)

/-- the next token -/
def peek : Parse Token := do
  let s ← get
  match s.tokens, s.fault with
  | t :: _, _ => return t
  | [], some f => throw f
  | [], none => return .streamEnd

/-- goes over the next token -/
def advance : Parse Unit := modify fun s => { s with tokens := s.tokens.drop 1 }

/-- goes over the next token, which must be the given one -/
def expect (t : Token) : Parse Unit := do
  if (← peek) = t then advance else fail .unexpectedToken

/-- the node that was given a name -/
def aliased (name : String) : Parse Nat := do
  match (← get).anchors.lookup name with
  | some n => return n
  | none => fail .undefinedAlias

/-- adds a node, perhaps with a name, which must be new -/
def add (name : Option String) (n : Node) : Parse Nat := do
  let s ← get
  if name.any fun name => (s.anchors.lookup name).isSome then fail .duplicateAnchor
  let number := s.nodes.size
  set { s with nodes := s.nodes.push n, anchors := (name.map (·, number)).toList ++ s.anchors }
  return number

/-- adds the node where nothing is written -/
def addAbsent : Parse Nat := add none ⟨.null, .scalar ""⟩

/-- gives a node what it holds -/
def fill (n : Nat) (content : Content) : Parse Unit :=
  modify fun s => { s with nodes := s.nodes.modify n fun node => { node with content := content } }

/-- the whole name of a tag -/
def tagName (handle : Option String) (suffix : String) : Parse String := do
  match handle with
  | none => return suffix
  | some h =>
    match (← get).handles.lookup h with
    | some expansion => return expansion ++ suffix
    | none => fail .undefinedHandle

end Parse

open Parse

/-! ## Properties -/

/-- what may be written before a node -/
structure Properties where
  anchor : Option String
  tag : Option String

namespace Properties

def isEmpty (p : Properties) : Bool := p.anchor.isNone && p.tag.isNone

/-- an anchor and a tag in either order, or one of them, or none -/
def read : Parse Properties := do
  match ← peek with
  | .anchor name =>
    advance
    match ← peek with
    | .tag handle suffix => advance; return ⟨some name, some (← tagName handle suffix)⟩
    | _ => return ⟨some name, none⟩
  | .tag handle suffix =>
    advance
    match ← peek with
    | .anchor name => advance; return ⟨some name, some (← tagName handle suffix)⟩
    | _ => return ⟨none, some (← tagName handle suffix)⟩
  | _ => return ⟨none, none⟩

/-- the tag of a scalar; without a name it follows from the text, unless the text is quoted, and a mark alone asks for
that too -/
def scalarTag (p : Properties) (plain : Bool) (text : String) : Tag :=
  match p.tag with
  | none => if plain then .ofPlain text else .text
  | some name => if name = "!" then .ofPlain text else .ofName name

/-- the tag of a collection, which is `usual` unless another name is written -/
def collectionTag (p : Properties) (usual : Tag) : Tag :=
  match p.tag with
  | none => usual
  | some name => if name = "!" then usual else .ofName name

end Properties

/-! ## Nodes -/

/-- where a node may stand, which decides the collections that it may be -/
inductive Place where
  /-- inside a flow collection -/
  | flow
  /-- as an item of a block sequence or as a whole document -/
  | item
  /-- as a key or a value of a block mapping, where a sequence may have the indentation of the mapping -/
  | entry
  deriving DecidableEq

/-- whether a token shows that no node is written at a place -/
def Place.isVacant : Place → Token → Bool
  | .flow, t => t = .value || t = .flowEntry || t = .flowSequenceEnd || t = .flowMappingEnd
  | .item, t => t = .blockEntry || t = .blockEnd
  | .entry, t => t = .key || t = .value || t = .blockEnd

mutual
/-- a node -/
def read (place : Place) : Nat → Parse Nat
  | 0 => fail .unexpectedToken
  | fuel + 1 => do
    match ← peek with
    | .alias name => advance; aliased name
    | _ => readContent place (← Properties.read) fuel

/-- a node after its properties -/
def readContent (place : Place) (p : Properties) : Nat → Parse Nat
  | 0 => fail .unexpectedToken
  | fuel + 1 => do
    match ← peek with
    | .scalar plain text => advance; add p.anchor ⟨p.scalarTag plain text, .scalar text⟩
    | .flowSequenceStart =>
      let n ← add p.anchor ⟨p.collectionTag .sequence, .sequence []⟩
      advance
      fill n (.sequence (← readFlowItems true fuel))
      return n
    | .flowMappingStart =>
      let n ← add p.anchor ⟨p.collectionTag .mapping, .mapping []⟩
      advance
      fill n (.mapping (← readFlowEntries true fuel))
      return n
    | .blockSequenceStart =>
      if place = .flow then fail .unexpectedToken
      let n ← add p.anchor ⟨p.collectionTag .sequence, .sequence []⟩
      advance
      fill n (.sequence (← readItems .item fuel))
      expect .blockEnd
      return n
    | .blockMappingStart =>
      if place = .flow then fail .unexpectedToken
      let n ← add p.anchor ⟨p.collectionTag .mapping, .mapping []⟩
      advance
      fill n (.mapping (← readEntries fuel))
      return n
    | t =>
      if t = .blockEntry && place = .entry then
        let n ← add p.anchor ⟨p.collectionTag .sequence, .sequence []⟩
        fill n (.sequence (← readItems .entry fuel))
        return n
      else if p.isEmpty then fail .unexpectedToken
      else add p.anchor ⟨p.scalarTag true "", .scalar ""⟩

/-- a node, or an absent one where the next token shows that none is written -/
def readOptional (place : Place) (isVacant : Token → Bool) : Nat → Parse Nat
  | 0 => fail .unexpectedToken
  | fuel + 1 => do if isVacant (← peek) then addAbsent else read place fuel

/-- the items of a block sequence; `place` is that of the sequence if it has the indentation of a mapping around it -/
def readItems (place : Place) : Nat → Parse (List Nat)
  | 0 => fail .unexpectedToken
  | fuel + 1 => do
    if (← peek) = .blockEntry then
      advance
      let n ← readOptional .item (fun t => t = .blockEntry || place.isVacant t) fuel
      return n :: (← readItems place fuel)
    else return []

/-- the entries of a block mapping, to its end -/
def readEntries : Nat → Parse (List (Nat × Nat))
  | 0 => fail .unexpectedToken
  | fuel + 1 => do
    match ← peek with
    | .key =>
      advance
      let k ← readOptional .entry Place.entry.isVacant fuel
      let v ← readValue .entry fuel
      return (k, v) :: (← readEntries fuel)
    | _ => expect .blockEnd; return []

/-- the value of a key, an absent one where no colon is written -/
def readValue (place : Place) : Nat → Parse Nat
  | 0 => fail .unexpectedToken
  | fuel + 1 => do
    if (← peek) = .value then
      advance
      readOptional place place.isVacant fuel
    else addAbsent

/-- the items of a flow sequence, to its end; a key begins a mapping of one entry -/
def readFlowItems (first : Bool) : Nat → Parse (List Nat)
  | 0 => fail .unexpectedToken
  | fuel + 1 => do
    if (← peek) = .flowSequenceEnd then advance; return []
    unless first do expect .flowEntry
    match ← peek with
    | .flowSequenceEnd => advance; return []
    | .key =>
      advance
      let n ← add none ⟨.mapping, .mapping []⟩
      let k ← readOptional .flow Place.flow.isVacant fuel
      let v ← readValue .flow fuel
      fill n (.mapping [(k, v)])
      return n :: (← readFlowItems false fuel)
    | _ =>
      let n ← read .flow fuel
      return n :: (← readFlowItems false fuel)

/-- the entries of a flow mapping, to its end; a node without a key's mark is a key without a value -/
def readFlowEntries (first : Bool) : Nat → Parse (List (Nat × Nat))
  | 0 => fail .unexpectedToken
  | fuel + 1 => do
    if (← peek) = .flowMappingEnd then advance; return []
    unless first do expect .flowEntry
    match ← peek with
    | .flowMappingEnd => advance; return []
    | .key =>
      advance
      let k ← readOptional .flow Place.flow.isVacant fuel
      let v ← readValue .flow fuel
      return (k, v) :: (← readFlowEntries false fuel)
    | _ =>
      let k ← read .flow fuel
      let v ← addAbsent
      return (k, v) :: (← readFlowEntries false fuel)
end

/-! ## Documents -/

/-- notes the directives before a document; `versioned` says whether a version has been given -/
def readDirectives (versioned : Bool) : List Token → Parse Unit
  | .directive d :: rest => do
    advance
    match d with
    | .version major =>
      if versioned then fail .duplicateDirective
      if major ≠ 1 then fail .unsupportedVersion
      readDirectives true rest
    | .handle name expansion =>
      if ((← get).handles.lookup name).isSome then fail .duplicateDirective
      modify fun s => { s with handles := (name, expansion) :: s.handles }
      readDirectives versioned rest
    | .other => readDirectives versioned rest
  | _ => pure ()

/-- what the handles stand for that need no directive -/
def commonHandles : List (String × String) := [("!", "!"), ("!!", Tag.commonPrefix)]

/-- whether a token ends a document before it has begun -/
def endsDocument : Token → Bool
  | .directive _ | .documentStart | .documentEnd | .streamEnd => true
  | _ => false

/-- a document with what may stand before it -/
def readDocument (fuel : Nat) : Parse Nat := do
  match ← peek with
  | .directive _ | .documentStart =>
    readDirectives false (← get).tokens
    expect .documentStart
    modify fun s => { s with handles := s.handles ++ commonHandles }
    readOptional .item endsDocument fuel
  | _ =>
    modify fun s => { s with handles := commonHandles }
    read .item fuel

/-- the ends of a document that are written -/
def readEnds : List Token → Parse Unit
  | .documentEnd :: rest => do advance; readEnds rest
  | _ => pure ()

/-- the only document; a text without any is a null -/
def readOnly (fuel : Nat) : Parse Nat := do
  if (← peek) = .streamEnd then addAbsent
  else
    let n ← readDocument fuel
    readEnds (← get).tokens
    if (← peek) = .streamEnd then return n
    modify fun s => { s with handles := [] }
    readDirectives false (← get).tokens
    let _ ← peek
    fail .severalDocuments

end Node

/-- the nodes that tokens describe; none takes more than four rounds for each token -/
def NodeGraph.ofTokens (t : TokenStream) : Except Fault NodeGraph := do
  let (root, s) ← (Node.readOnly (4 * t.tokens.length + 4)).run ⟨t.tokens, t.fault, #[], [], []⟩
  return ⟨s.nodes, root⟩

end CatalogLint.Yaml
