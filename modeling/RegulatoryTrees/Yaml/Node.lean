import RegulatoryTrees.Yaml.Tag
import RegulatoryTrees.Yaml.Token

/-!
# YAML nodes

The nodes that the tokens of a document make up, with the tag of every node. Nodes are numbered, and a collection holds the
numbers of its parts. So an alias stands for the very node that its anchor names, and a node can contain itself.
-/

namespace RegulatoryTrees

namespace Yaml

/-- The number of a node in its document. -/
abbrev NodeId := Nat

/-- What a node is made of. -/
inductive Content where
  | scalar (text : String)
  | sequence (items : List NodeId)
  | mapping (entries : List (NodeId × NodeId))

/-- A node of a document. -/
structure Node where
  tag : Tag
  content : Content

/-- The scalar where a document says nothing. -/
def Node.nothing : Node := ⟨.null, .scalar ""⟩

/-- A document: its nodes by their numbers, and the node that holds the others. -/
structure Document where
  nodes : Array Node
  root : NodeId

/-- The state of a parser: the tokens left, what handles of tags stand for, the nodes that anchors name, and the nodes so
far. -/
structure Parser where
  rest : List Token
  /-- What stands in the way of further tokens; without it the text ends after those left. -/
  obstacle : Option Failure
  handles : List (String × String) := []
  anchors : List (String × NodeId) := []
  nodes : Array Node := #[]

/-- A step of a parser. -/
abbrev Parse := StateT Parser (Except Failure)

namespace Parse

/-- Give up. -/
def refuse {α : Type} : Parse α := throw .malformed

/-- The next token, if the text does not end here. -/
def peek : Parse (Option Token) := do
  let s ← get
  match s.rest, s.obstacle with
  | [], some failure => throw failure
  | rest, _ => return rest.head?

/-- Go behind the next token. -/
def drop : Parse Unit := modify fun s => { s with rest := s.rest.tail }

/-- The next token is a given one, and the parser goes behind it. -/
def accept (t : Token) : Parse Bool := do
  if (← peek) = some t then
    drop
    return true
  else return false

/-- The next token is one of some. -/
def faces (ts : List Token) : Parse Bool := return (← peek).any ts.contains

/-! ## Anchors and tags -/

/-- The node that an anchor names. -/
def anchored (name : String) : Parse NodeId := do
  match (← get).anchors.lookup name with
  | some id => return id
  | none => refuse

/-- Add a node and let its anchor name it. An anchor names one node only. -/
def add (anchor : Option String) (n : Node) : Parse NodeId := do
  let s ← get
  let id := s.nodes.size
  let anchors ← match anchor with
    | none => pure s.anchors
    | some name => if (s.anchors.lookup name).isSome then refuse else pure ((name, id) :: s.anchors)
  set { s with nodes := s.nodes.push n, anchors }
  return id

/-- Give a collection its parts. -/
def fill (id : NodeId) (tag : Tag) (content : Content) : Parse NodeId := do
  modify fun s => { s with nodes := s.nodes.setIfInBounds id ⟨tag, content⟩ }
  return id

/-- The anchor and the tag before a node, in either order. -/
def properties : Parse (Option String × Option (Option String × String)) := do
  match ← peek with
  | some (.anchor name) =>
    drop
    match ← peek with
    | some (.tag handle suffix) =>
      drop
      return (some name, some (handle, suffix))
    | _ => return (some name, none)
  | some (.tag handle suffix) =>
    drop
    match ← peek with
    | some (.anchor name) =>
      drop
      return (some name, some (handle, suffix))
    | _ => return (none, some (handle, suffix))
  | _ => return (none, none)

/-- The name of a tag. One that is a mere exclamation mark is no tag. -/
def tagName (tag : Option (Option String × String)) : Parse (Option String) := do
  match tag with
  | none => return none
  | some (none, name) => return some name
  | some (some handle, suffix) =>
    match (← get).handles.lookup handle with
    | some beginning => return some (beginning ++ suffix)
    | none => refuse

/-- The name that leaves the tag of a node to its form. -/
def openTag : String := "!"

/-- The tag of a collection. -/
def collectionTag (default : Tag) (name : Option String) : Tag :=
  match name with
  | some name => if name = openTag then default else .ofName name
  | none => default

/-- The tag of a scalar. -/
def scalarTag (name : Option String) (text : String) (plain : Bool) : Tag :=
  match name with
  | some name => if name = openTag then Form.tagOf text else .ofName name
  | none => if plain then Form.tagOf text else .text

/-! ## Nodes -/

mutual

/-- A node; inside brackets `block` is false, and `indentless` says that the items of a list may stand right below a key. -/
def node (fuel : Nat) (block indentless : Bool) : Parse NodeId :=
  match fuel with
  | 0 => refuse
  | fuel + 1 => do
    match ← peek with
    | some (.alias name) =>
      drop
      anchored name
    | _ =>
      let (anchor, given) ← properties
      let name ← tagName given
      let listTag := collectionTag .list name
      let mapTag := collectionTag .map name
      match ← peek with
      | some (.scalar text plain) =>
        drop
        add anchor ⟨scalarTag name text plain, .scalar text⟩
      | some .flowSequence =>
        drop
        let id ← add anchor ⟨listTag, .sequence []⟩
        fill id listTag (.sequence (← flowItems fuel true))
      | some .flowMapping =>
        drop
        let id ← add anchor ⟨mapTag, .mapping []⟩
        fill id mapTag (.mapping (← flowEntries fuel true))
      | next =>
        if indentless && next = some .blockEntry then
          let id ← add anchor ⟨listTag, .sequence []⟩
          fill id listTag (.sequence (← indentlessItems fuel))
        else if block && next = some .blockSequence then
          drop
          let id ← add anchor ⟨listTag, .sequence []⟩
          fill id listTag (.sequence (← blockItems fuel))
        else if block && next = some .blockMapping then
          drop
          let id ← add anchor ⟨mapTag, .mapping []⟩
          fill id mapTag (.mapping (← blockEntries fuel))
        else if anchor.isSome || name.isSome then add anchor ⟨scalarTag name "" true, .scalar ""⟩
        else refuse

/-- A node, or nothing where one of some tokens follows. -/
def nodeUnless (fuel : Nat) (ends : List Token) (block indentless : Bool) : Parse NodeId :=
  match fuel with
  | 0 => refuse
  | fuel + 1 => do
    if ← faces ends then add none .nothing
    else node fuel block indentless

/-- The items of a block list. -/
def blockItems (fuel : Nat) : Parse (List NodeId) :=
  match fuel with
  | 0 => refuse
  | fuel + 1 => do
    if ← accept .blockEntry then
      let n ← nodeUnless fuel [.blockEntry, .blockEnd] true false
      return n :: (← blockItems fuel)
    else if ← accept .blockEnd then return []
    else refuse

/-- The items of a list right below a key. -/
def indentlessItems (fuel : Nat) : Parse (List NodeId) :=
  match fuel with
  | 0 => refuse
  | fuel + 1 => do
    if ← accept .blockEntry then
      let n ← nodeUnless fuel [.blockEntry, .key, .value, .blockEnd] true false
      return n :: (← indentlessItems fuel)
    else return []

/-- The entries of a block mapping. -/
def blockEntries (fuel : Nat) : Parse (List (NodeId × NodeId)) :=
  match fuel with
  | 0 => refuse
  | fuel + 1 => do
    if ← accept .key then
      let ends := [.key, .value, .blockEnd]
      let k ← nodeUnless fuel ends true true
      let v ← if ← accept .value then nodeUnless fuel ends true true else add none .nothing
      return (k, v) :: (← blockEntries fuel)
    else if ← accept .blockEnd then return []
    else refuse

/-- The rest of an entry between brackets whose key has been announced; `closing` is the closing bracket. -/
def flowPair (fuel : Nat) (closing : Token) : Parse (NodeId × NodeId) :=
  match fuel with
  | 0 => refuse
  | fuel + 1 => do
    let k ← nodeUnless fuel [.value, .flowEntry, closing] false false
    let v ← if ← accept .value then nodeUnless fuel [.flowEntry, closing] false false else add none .nothing
    return (k, v)

/-- The items of a list between brackets; an item may be a single entry of a mapping. -/
def flowItems (fuel : Nat) (first : Bool) : Parse (List NodeId) :=
  match fuel with
  | 0 => refuse
  | fuel + 1 => do
    if ← accept .flowSequenceEnd then return []
    if !first then
      if !(← accept .flowEntry) then refuse
    if ← accept .flowSequenceEnd then return []
    let n ← if ← accept .key then do
        let entry ← flowPair fuel .flowSequenceEnd
        add none ⟨.map, .mapping [entry]⟩
      else node fuel false false
    return n :: (← flowItems fuel false)

/-- The entries of a mapping between brackets; a key without a sign has no value. -/
def flowEntries (fuel : Nat) (first : Bool) : Parse (List (NodeId × NodeId)) :=
  match fuel with
  | 0 => refuse
  | fuel + 1 => do
    if ← accept .flowMappingEnd then return []
    if !first then
      if !(← accept .flowEntry) then refuse
    if ← accept .flowMappingEnd then return []
    let entry ← if ← accept .key then flowPair fuel .flowMappingEnd else do
      let k ← node fuel false false
      pure (k, ← add none .nothing)
    return entry :: (← flowEntries fuel false)

end

/-! ## Documents -/

/-- What handles stand for unless a directive says otherwise. -/
def commonHandles : List (String × String) := [("!", "!"), ("!!", Tag.common)]

/-- The directives before a document and the sign that begins it; `versioned` says that one of them has named a version. -/
def opening (fuel : Nat) (versioned : Bool) (handles : List (String × String)) : Parse Unit :=
  match fuel with
  | 0 => refuse
  | fuel + 1 => do
    match ← peek with
    | some (.directive d) =>
      drop
      match d with
      | .version major _ => if versioned || major != 1 then refuse else opening fuel true handles
      | .tagHandle handle beginning =>
        if (handles.lookup handle).isSome then refuse else opening fuel versioned ((handle, beginning) :: handles)
      | .unknown => opening fuel versioned handles
    | some .documentStart =>
      drop
      modify fun s => { s with handles := handles ++ commonHandles }
    | _ => refuse

/-- No other document follows. Signs for the end of a document may stand there, however many. -/
def ending : Parse Unit := do
  modify fun s => { s with rest := s.rest.dropWhile (· == .documentEnd) }
  if (← peek).isSome then
    opening ((← get).rest.length + 1) false []
    refuse

/-- The root of the only document, if there is one. -/
def document : Parse (Option NodeId) := do
  let count := (← get).rest.length
  let fuel := 4 * count + 8
  let root ← match ← peek with
    | none => return none
    | some (.directive _) | some .documentStart => do
      opening (count + 1) false []
      match ← peek with
      | none | some .documentStart | some .documentEnd | some (.directive _) => add none .nothing
      | _ => node fuel true false
    | _ => do
      modify fun s => { s with handles := commonHandles }
      node fuel true false
  ending
  return some root

end Parse

/-- The document that a text holds, if it holds one. -/
def Document.ofText (text : String) : Except Failure (Option Document) := do
  let found := tokens text
  let (root, s) ← Parse.document.run { rest := found.tokens, obstacle := found.obstacle }
  return root.map fun root => ⟨s.nodes, root⟩

end Yaml

end RegulatoryTrees
