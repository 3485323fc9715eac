import RegulatoryTrees.Value.Display
import RegulatoryTrees.Yaml.Merge
import RegulatoryTrees.Yaml.ScalarValue

/-!
# YAML

The value that a YAML text holds. Only plain data is read: tags of other kinds make a text malformed. Collections are read in
the order in which they are met, those further out first, and the first failure counts. Only then are they put into one
another, so that a collection may lie inside itself.
-/

namespace RegulatoryTrees

namespace Yaml

/-- What a node stands for; what lies in a collection is given by its node. -/
inductive Datum where
  | scalar (s : Scalar)
  | list (items : List NodeId)
  /-- A list of pairs. -/
  | pairs (items : List (NodeId × NodeId))
  | mapping (entries : List (Scalar × NodeId))
  | set (members : List Scalar)

namespace Datum

/-- What a datum is. -/
def shape : Datum → Shape
  | .mapping _ => .mapping
  | .set _ => .sequence .set
  | _ => .sequence .list

/-- The collection of a tag, without anything in it. -/
def emptyOf? : Tag → Option Datum
  | .list => some (.list [])
  | .orderedMap | .pairs => some (.pairs [])
  | .map => some (.mapping [])
  | .set => some (.set [])
  | _ => none

end Datum

/-- The state of a reader of nodes: the document, what the nodes that have been met stand for, and the collections that are
still to be filled, the first one to be filled first. -/
structure Reader where
  document : Document
  data : Array (Option Datum)
  waiting : List NodeId := []

/-- A step of a reader. -/
abbrev Read := StateT Reader (Except Failure)

namespace Read

/-- Give up. -/
def refuse {α : Type} : Read α := throw .malformed

/-- Say what a node stands for. -/
def put (id : NodeId) (datum : Datum) : Read Unit := modify fun s => { s with data := s.data.setIfInBounds id (some datum) }

/-- The text of a scalar. A mapping stands for the value of its key that is an equals sign. -/
def scalarText (d : Document) : (fuel : Nat) → NodeId → Except Failure String
  | 0, _ => .error .endlessScalar
  | fuel + 1, id =>
    match (d.node id).content with
    | .scalar text => .ok text
    | .sequence _ => .error .malformed
    | .mapping entries =>
      match entries.find? fun (k, _) => (d.node k).tag = .equals with
      | some (_, v) => scalarText d fuel v
      | none => .error .malformed

/-- The scalar that a node stands for. -/
def scalarOf (d : Document) (id : NodeId) : Except Failure Scalar := do
  let text ← scalarText d (d.nodes.size + 1) id
  match (d.node id).tag, (d.node id).content with
  | .timestamp, .mapping _ => throw .momentWithParts
  | tag, _ => ScalarValue.ofText tag text

/-- Meet a node. A scalar is read at once; a collection is empty until its turn comes. -/
def meet (id : NodeId) : Read Datum := do
  let s ← get
  match s.data[id]?.join, Datum.emptyOf? (s.document.node id).tag with
  | some datum, _ => return datum
  | none, some datum =>
    put id datum
    modify fun s => { s with waiting := s.waiting ++ [id] }
    return datum
  | none, none =>
    let datum := Datum.scalar (← scalarOf s.document id)
    put id datum
    return datum

/-- The key that a node stands for; collections are none. -/
def key (id : NodeId) : Read Scalar := do
  match ← meet id with
  | .scalar s => return s
  | _ => refuse

/-- The entries of a mapping, after it has been given what it merges. -/
def entries (id : NodeId) : Read (List (Scalar × NodeId)) := do
  let document ← (← get).document.merged id
  modify fun s => { s with document }
  (document.entries id).mapM fun (k, v) => do
    let name ← key k
    let _ ← meet v
    return (name, v)

/-- The pair that a mapping with one entry stands for. -/
def pair (id : NodeId) : Read (NodeId × NodeId) := do
  match ((← get).document.node id).content with
  | .mapping [(k, v)] =>
    let _ ← meet k
    let _ ← meet v
    return (k, v)
  | _ => refuse

/-- Fill a collection. -/
def fill (id : NodeId) : Read Unit := do
  let n := (← get).document.node id
  match n.tag, n.content with
  | .list, .sequence items =>
    items.forM fun item => do let _ ← meet item
    put id (.list items)
  | .orderedMap, .sequence items | .pairs, .sequence items => put id (.pairs (← items.mapM pair))
  | .map, .mapping _ => put id (.mapping (← entries id))
  | .set, .mapping _ => put id (.set ((← entries id).map Prod.fst))
  | _, _ => refuse

/-- Fill all collections that wait. A collection waits once, so `fuel` above their number is enough. -/
def fillAll (fuel : Nat) : Read Unit :=
  match fuel with
  | 0 => pure ()
  | fuel + 1 => do
    match (← get).waiting with
    | [] => pure ()
    | id :: rest =>
      modify fun s => { s with waiting := rest }
      fill id
      fillAll fuel

end Read

/-- What the nodes of a document stand for. -/
def Document.data (d : Document) : Except Failure (Array (Option Datum)) := do
  let start : Reader := { document := d, data := Array.replicate d.nodes.size none }
  let all : Read Unit := do
    let _ ← Read.meet d.root
    Read.fillAll (d.nodes.size + 1)
  let (_, s) ← all.run start
  return s.data

/-! ## Values -/

/-- The order of the members of a set: numbers before all else. -/
def memberBefore (a b : Scalar) : Bool :=
  match a.keyNumber?, b.keyNumber? with
  | some x, some y => x.compare? y != some .gt
  | some _, none => true
  | none, some _ => false
  | none, none => a.plain ≤ b.plain

/-- The value of a set. -/
def setOf (members : List Scalar) : Value :=
  .sequence .set <| ((Value.ofEntries (members.map (·, Value.null))).map Prod.fst).mergeSort memberBefore |>.map .scalar

/-- A value in its place, and whether it refers to something that the place lies in. -/
structure Placed where
  value : Value
  refers : Bool

/-- The value of a node, given the nodes that it lies in, the nearest one first. Values that do not refer to what lies around
them are the same in every place and are made once. -/
def placed (data : Array (Option Datum)) :
    (fuel : Nat) → (around : List NodeId) → NodeId → StateM (Array (Option Value)) Placed
  | 0, _, _ => return ⟨.missing, false⟩
  | fuel + 1, around, id => do
    if let some v := (← get)[id]?.join then return ⟨v, false⟩
    let datum := data[id]?.join.getD (.scalar .null)
    match around.findIdx? (· == id) with
    | some levels => return ⟨.recurrence datum.shape levels, true⟩
    | none =>
      let inside := placed data fuel (id :: around)
      let p ← match datum with
        | .scalar s => pure ⟨.scalar s, false⟩
        | .list items => do
          let ps ← items.mapM inside
          pure ⟨.list (ps.map Placed.value), ps.any Placed.refers⟩
        | .pairs items => do
          let ps ← items.mapM fun (k, v) => do
            let first ← inside k
            let second ← inside v
            pure (Placed.mk (.tuple [first.value, second.value]) (first.refers || second.refers))
          pure ⟨.list (ps.map Placed.value), ps.any Placed.refers⟩
        | .mapping entries => do
          let ps ← entries.mapM fun (k, v) => do
            let p ← inside v
            pure ((k, p.value), p.refers)
          pure ⟨.mapping (Value.ofEntries (ps.map Prod.fst)), ps.any Prod.snd⟩
        | .set members => pure ⟨setOf members, false⟩
      if !p.refers then modify (·.setIfInBounds id (some p.value))
      return p

/-- The value of a document. -/
def Document.value (d : Document) : Except Failure Value := do
  let data ← d.data
  let made := Array.replicate d.nodes.size none
  return ((placed data (d.nodes.size + 1) [] d.root).run made).1.value

/-- The value that a text holds; a text without a document holds null. -/
def read (text : String) : Except Failure Value := do
  match ← Document.ofText text with
  | none => return .null
  | some d => d.value

end Yaml

end RegulatoryTrees
