import RegulatoryTrees.Evaluation

/-!
# Graphs of trees

A tree as a flat graph: branches of conditions, members of groups and ways out of routers are all edges. Graphs are written
in two languages for drawing programs.
-/

namespace RegulatoryTrees

/-- A node of a graph. The kind is a word, since a graph need not come from a tree. -/
structure Vertex where
  id : String
  kind : String
  label : String
  depth : Int
  status : Option String
  obligations : List String

/-- An edge of a graph. -/
structure Edge where
  source : String
  target : String
  kind : String
  label : String

/-- A graph with the node that it starts from. -/
structure Graph where
  root : String
  vertices : List Vertex
  edges : List Edge

/-- The color of a status. -/
def Status.color : Status → String
  | .compliant => "#28a745"
  | .requiresAction => "#ffc107"
  | .blocked => "#dc3545"
  | .noApplicableRules => "#6c757d"

/-- The color of the nodes of a kind that has one of its own. -/
def NodeKind.color? : NodeKind → Option String
  | .condition => some "#3b82f6"
  | .group => some "#8b5cf6"
  | .router => some "#f59e0b"
  | .anchor => some "#ef4444"
  | .leaf => none

namespace Vertex

/-- The color of a node: that of its status, or that of its kind. -/
def color (v : Vertex) : String :=
  match v.status.filter (· != "") with
  | some status => ((Status.all.find? (·.name == status)).map Status.color).getD "#6c757d"
  | none => ((NodeKind.all.find? (·.name == v.kind)).bind NodeKind.color?).getD "#e9ecef"

/-- A leaf of a tree. -/
def isLeaf (v : Vertex) : Bool := v.kind == NodeKind.leaf.name

end Vertex

namespace Edge

/-- The color of an edge, by its branch. -/
def color (e : Edge) : String :=
  if e.kind == "true" then "#28a745" else if e.kind == "false" then "#dc3545" else "#6c757d"

/-- The line of an edge: branches are drawn through. -/
def style (e : Edge) : String := if e.kind == "member" || e.kind == "route" then "dashed" else "solid"

end Edge

namespace Graph

/-- The node of an identifier. -/
def vertex? (g : Graph) (id : String) : Option Vertex := g.vertices.find? (·.id == id)

/-- The edges from a node to nodes of the graph, with those nodes. -/
def children (g : Graph) (id : String) : List (Edge × Vertex) :=
  (g.edges.filter (·.source == id)).filterMap fun e => (g.vertex? e.target).map (e, ·)

/-! ## From trees -/

/-- A label, or other words where there is none. -/
def labelOr (h : Header) (other : String) : String :=
  match h.label with
  | some label => if label.isEmpty then other else label
  | none => other

/-- The label of a node. -/
def labelOf : Node → Except Condition.Failure String
  | .condition h c _ _ _ => if labelOr h "" = "" then c.describe else .ok (labelOr h "")
  | .leaf l => .ok l.decision
  | .group h _ _ _ => .ok (labelOr h h.id)
  | .router h routes => .ok (labelOr h (Decimal.ofNat routes.length ++ " branches"))
  | .anchor h conflictId _ => .ok (labelOr h ("Conflict " ++ conflictId))

/-- A node of a tree as a node of a graph. -/
def vertexOf (depth : Nat) (n : Node) : Except Condition.Failure Vertex := do
  let label ← labelOf n
  let (status, obligations) := match n with
    | .leaf l => (some l.status.name, l.obligations)
    | _ => (none, [])
  return ⟨n.id, n.kind.name, label, depth, status, obligations⟩

/-- The nodes and edges of a part of a tree. -/
structure Piece where
  vertices : List Vertex
  edges : List Edge

/-- Two pieces, one after the other. -/
def Piece.append (a b : Piece) : Piece := ⟨a.vertices ++ b.vertices, a.edges ++ b.edges⟩

/-- A piece with an edge in front of it. -/
def Piece.behind (e : Edge) (p : Piece) : Piece := { p with edges := e :: p.edges }

mutual

/-- The graph of a node at a depth with all that lies below it. -/
def pieceOf (depth : Nat) : Node → Except Condition.Failure Piece
  | n@(.condition h _ _ whenTrue whenFalse) => do
    let top ← vertexOf depth n
    let upper ← pieceOf (depth + 1) whenTrue
    let lower ← pieceOf (depth + 1) whenFalse
    let below := (upper.behind ⟨h.id, whenTrue.id, "true", "Yes"⟩).append
      (lower.behind ⟨h.id, whenFalse.id, "false", "No"⟩)
    return ⟨top :: below.vertices, below.edges⟩
  | n@(.group h members _ _) => do
    let top ← vertexOf depth n
    let below ← piecesOf (depth + 1) h.id members
    return ⟨top :: below.vertices, below.edges⟩
  | n@(.router h routes) => do
    let top ← vertexOf depth n
    return ⟨[top], routes.map fun r => ⟨h.id, r.target, "route", r.jurisdiction ++ " (" ++ r.role.name ++ ")"⟩⟩
  | n => do return ⟨[← vertexOf depth n], []⟩

/-- The graph of the members of a group. -/
def piecesOf (depth : Nat) (group : String) : List Node → Except Condition.Failure Piece
  | [] => .ok ⟨[], []⟩
  | n :: rest => do
    let first ← pieceOf depth n
    let others ← piecesOf depth group rest
    return (first.behind ⟨group, n.id, "member", ""⟩).append others

end

/-- The graph of a tree. -/
def ofTree (tree : Node) : Except Condition.Failure Graph := do
  let all ← pieceOf 0 tree
  return ⟨tree.id, all.vertices, all.edges⟩

/-! ## Highlights -/

/-- What is emphasised in a drawing. -/
structure Highlight where
  vertices : List String := []
  edges : List (String × String) := []

/-- The path of an evaluation: its nodes and the pairs of neighbours on it. -/
def Highlight.ofEvaluation (e : Evaluation) : Highlight :=
  let path := e.trace.map Step.nodeId ++ [e.leaf.id]
  ⟨path, path.zip path.tail⟩

/-! ## Drawing languages -/

/-- Backslashes and quotes are protected by a backslash. -/
def escape (s : String) : String :=
  String.ofList (s.toList.flatMap fun c => if c == '\\' || c == '"' then ['\\', c] else [c])

/-- Lines with line ends between them. -/
def joinLines (lines : List String) : String := String.intercalate "\n" lines

/-- A node in the DOT language. -/
def dotVertex (highlight : Highlight) (v : Vertex) : String :=
  let marked := highlight.vertices.contains v.id
  "    \"" ++ v.id ++ "\" [label=\"" ++ (if marked then "→ " else "") ++ escape v.label ++
    "\", shape=" ++ (if v.isLeaf then "ellipse" else "box") ++
    ", fillcolor=\"" ++ v.color ++
    "\", color=\"" ++ (if marked then "#000000" else "#495057") ++
    "\", penwidth=" ++ (if marked then "4" else "2") ++ "];"

/-- An edge in the DOT language. -/
def dotEdge (highlight : Highlight) (e : Edge) : String :=
  let marked := highlight.edges.contains (e.source, e.target)
  let color := if marked then "#000000" else e.color
  "    \"" ++ e.source ++ "\" -> \"" ++ e.target ++ "\" [label=\"" ++ escape e.label ++
    "\", color=\"" ++ color ++ "\", fontcolor=\"" ++ color ++
    "\", penwidth=" ++ (if marked then "3" else "1") ++
    ", style=" ++ (if marked then "bold" else e.style) ++ "];"

/-- A graph in the DOT language. -/
def dot (g : Graph) (highlight : Highlight) : String :=
  joinLines ([
    "digraph DecisionTree \x7b",
    "    rankdir=TB;",
    "    node [shape=box, style=\"rounded,filled\", fontname=\"Arial\"];",
    "    edge [fontname=\"Arial\", fontsize=10];",
    ""] ++ g.vertices.map (dotVertex highlight) ++ [""] ++ g.edges.map (dotEdge highlight) ++ ["\x7d"])

/-- A node in the Mermaid language. -/
def mermaidVertex (v : Vertex) : String :=
  let label := v.label.map fun c => if c == '"' then '\'' else c
  if v.isLeaf then "    " ++ v.id ++ "((\"" ++ label ++ "\"))"
  else if v.kind == NodeKind.router.name then "    " ++ v.id ++ "\x7b\"" ++ label ++ "\"\x7d"
  else "    " ++ v.id ++ "[\"" ++ label ++ "\"]"

/-- An edge in the Mermaid language. -/
def mermaidEdge (e : Edge) : String :=
  if e.label.isEmpty then "    " ++ e.source ++ " -.-> " ++ e.target
  else "    " ++ e.source ++ " -->|" ++ e.label ++ "| " ++ e.target

/-- A graph in the Mermaid language. -/
def mermaid (g : Graph) : String :=
  joinLines (["flowchart TD"] ++ g.vertices.map mermaidVertex ++ g.edges.map mermaidEdge ++ [""] ++
    g.vertices.map fun v => "    style " ++ v.id ++ " fill:" ++ v.color)

end Graph

/-! ## Records -/

/-- A node of a graph as a record. -/
def Vertex.write (v : Vertex) : Value := .record [
  ("id", .text v.id),
  ("type", .text v.kind),
  ("label", .text v.label),
  ("depth", .int v.depth),
  ("status", v.status.elim .null .text),
  ("obligations", .list (v.obligations.map .text)),
  ("color", .text v.color)]

/-- An edge of a graph as a record. -/
def Edge.write (e : Edge) : Value := .record [
  ("source", .text e.source),
  ("target", .text e.target),
  ("kind", .text e.kind),
  ("label", .text e.label),
  ("color", .text e.color),
  ("style", .text e.style)]

end RegulatoryTrees
