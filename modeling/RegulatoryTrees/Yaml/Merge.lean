import RegulatoryTrees.Yaml.Node

/-!
# Merging mappings

A key of a mapping may ask for the entries of other mappings. Such entries come before the mapping's own, which win. The
mapping that is changed keeps its number, so every place that refers to it sees the change.
-/

namespace RegulatoryTrees

namespace Yaml

namespace Document

/-- The node of a number. -/
def node (d : Document) (id : NodeId) : Node := d.nodes.getD id .nothing

/-- The entries of a mapping. -/
def entries (d : Document) (id : NodeId) : List (NodeId × NodeId) :=
  match (d.node id).content with
  | .mapping entries => entries
  | _ => []

/-- The document after a change of a node. -/
def change (d : Document) (id : NodeId) (f : Node → Node) : Document :=
  { d with nodes := d.nodes.setIfInBounds id (f (d.node id)) }

/-- The document after a mapping has been given other entries. -/
def withEntries (d : Document) (id : NodeId) (entries : List (NodeId × NodeId)) : Document :=
  d.change id fun n => { n with content := .mapping entries }

/-- The document in which the keys of a mapping are ordinary ones: one that is a mere equals sign is a text. -/
def withOrdinaryKeys (d : Document) (id : NodeId) : Document :=
  (d.entries id).foldl
    (fun d (k, _) => if (d.node k).tag = .equals then d.change k fun n => { n with tag := .text } else d) d

/-- The first entry that asks for a merge, and the other entries. -/
def takeMerge? (d : Document) : List (NodeId × NodeId) → Option (NodeId × List (NodeId × NodeId))
  | [] => none
  | (k, v) :: rest =>
    if (d.node k).tag = .merge then some (v, rest)
    else (takeMerge? d rest).map fun (found, others) => (found, (k, v) :: others)

mutual

/-- Let a mapping hold what it merges, after the entries already gathered for it. -/
def merge (fuel : Nat) (d : Document) (id : NodeId) (gathered : List (NodeId × NodeId)) : Except Failure Document :=
  match fuel with
  | 0 => .error .malformed
  | fuel + 1 =>
    match d.takeMerge? (d.entries id) with
    | none => .ok ((d.withOrdinaryKeys id).withEntries id (gathered ++ d.entries id))
    | some (value, others) => do
      let (d, found) ← contribution fuel (d.withEntries id others) value
      merge fuel d id (gathered ++ found)

/-- The entries that a node gives to a mapping that merges it: its own if it is a mapping, those of its items if it is a list
of mappings, the last item first. -/
def contribution (fuel : Nat) (d : Document) (id : NodeId) : Except Failure (Document × List (NodeId × NodeId)) :=
  match fuel with
  | 0 => .error .malformed
  | fuel + 1 =>
    match (d.node id).content with
    | .scalar _ => .error .malformed
    | .mapping _ => do
      let d ← merge fuel d id []
      return (d, d.entries id)
    | .sequence items =>
      items.foldlM (fun (d, found) item =>
        match (d.node item).content with
        | .mapping _ => do
          let d ← merge fuel d item []
          return (d, d.entries item ++ found)
        | _ => .error .malformed) (d, [])

end

/-- The number of entries of all mappings. -/
def entryCount (d : Document) : Nat :=
  d.nodes.toList.foldl (fun count n => match n.content with
    | .mapping entries => count + entries.length
    | _ => count) 0

/-- The document after a mapping has been given what it merges. Each merge takes an entry away that asks for one, so the number
of entries bounds how deep merges go. -/
def merged (d : Document) (id : NodeId) : Except Failure Document := merge (2 * d.entryCount + 4) d id []

end Document

end Yaml

end RegulatoryTrees
