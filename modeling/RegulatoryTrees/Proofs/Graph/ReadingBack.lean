import RegulatoryTrees.Proofs.Graph
import RegulatoryTrees.Proofs.Graph.Dot

/-!
# Reading graphs back

The labels of a graph are escaped in the DOT language and its identifiers are not. So what is read back of its text are its nodes
and edges exactly if no identifier has a quote or a backslash, whatever the labels are (`Graph.read?_dot_iff`); for the graph of a
tree these are the identifiers of its nodes and those that its routers lead to (`read_dot_ofTree`).
-/

namespace RegulatoryTrees

/-- What the text of a graph should say of a node. -/
def Vertex.statement (v : Vertex) : Dot.Statement := .vertex v.id v.label

/-- What the text of a graph should say of an edge. -/
def Edge.statement (e : Edge) : Dot.Statement := .edge e.source e.target e.label

namespace Graph

open Dot (IsClause IsPlain Spells Statement Token isClause_marks isClause_plain quote read? readFrom spells_escape spells_marks
  spells_plain statement?)

/-- What the text of a graph should say. -/
def statements (g : Graph) : List Statement := g.vertices.map Vertex.statement ++ g.edges.map Edge.statement

/-! ## Nodes -/

/-- What stands behind the label of a node. -/
def vertexStyle (v : Vertex) : List Char :=
  [", shape=".toList, (if v.isLeaf then "ellipse" else "box").toList, ", fillcolor=".toList, quote v.color.toList,
    ", color=".toList, quote "#495057".toList, ", penwidth=".toList, "2".toList, "]".toList].flatten

/-- The line of a vertex, cut at its quotes into an indentation, the identifier, the label and the style. -/
theorem toList_dotVertex (v : Vertex) :
    (dotVertex {} v).toList = "    ".toList ++ (quote v.id.toList ++
      (" [label=".toList ++ (quote (escape v.label).toList ++ (vertexStyle v ++ [';'])))) := by
  have hunmarked : ({} : Highlight).vertices.contains v.id = false := rfl
  have hid : "    \"".toList = "    ".toList ++ ['"'] := by decide
  have hlabel : "\" [label=\"".toList = '"' :: (" [label=".toList ++ ['"']) := by decide
  have hshape : "\", shape=".toList = '"' :: ", shape=".toList := by decide
  have hcolor : ", fillcolor=\"".toList = ", fillcolor=".toList ++ ['"'] := by decide
  have hborder : "\", color=\"".toList = '"' :: (", color=".toList ++ ['"']) := by decide
  have hwidth : "\", penwidth=".toList = '"' :: ", penwidth=".toList := by decide
  have hend : "];".toList = "]".toList ++ [';'] := by decide
  unfold dotVertex vertexStyle
  simp only [hunmarked, Bool.false_eq_true, if_false, String.toList_append, String.toList_empty, hid, hlabel, hshape, hcolor,
    hborder, hwidth, hend, quote, List.flatten_cons, List.flatten_nil, List.append_nil, List.append_assoc, List.cons_append,
    List.nil_append]

/-- Colours hold no quote and no backslash. -/
theorem isPlain_color (v : Vertex) : IsPlain v.color := by
  unfold Vertex.color
  cases v.status.filter (· != "") with
  | none =>
    cases h : NodeKind.all.find? (·.name == v.kind) with
    | none => decide
    | some kind => cases kind <;> decide
  | some status =>
    cases h : Status.all.find? (·.name == status) with
    | none => simp only [h]; decide
    | some st => simp only [h]; cases st <;> decide

/-- The style of a vertex is a part of a statement. -/
theorem isClause_vertexStyle (v : Vertex) : IsClause (vertexStyle v) := by
  have hshape : IsClause (if v.isLeaf then "ellipse" else "box").toList := by
    split <;> exact isClause_marks (by decide) (by decide)
  have hcolor : IsClause (quote v.color.toList) := isClause_plain (isPlain_color v)
  have hborder : IsClause (quote "#495057".toList) := isClause_plain (by decide)
  have hmarks : ∀ cs : List Char, '"' ∉ cs ∧ ';' ∉ cs → IsClause cs := fun cs h => isClause_marks h.1 h.2
  refine Dot.isClause_flatten ?_
  simp only [List.forall_mem_cons]
  exact ⟨hmarks _ (by decide), hshape, hmarks _ (by decide), hcolor, hmarks _ (by decide), hborder, hmarks _ (by decide),
    hmarks _ (by decide), hmarks _ (by decide), nofun⟩

/-- A line is read from where its indentation ends. -/
theorem readFrom_line (rest : List Char) : readFrom ('\n' :: ("    ".toList ++ rest)) = readFrom rest := by
  have hindent : "    ".toList ++ rest = ' ' :: ' ' :: ' ' :: ' ' :: rest := rfl
  have hspace : ∀ cs, readFrom (' ' :: cs) = readFrom cs := Dot.readFrom_blank (by decide) (by decide)
  rw [hindent, Dot.readFrom_blank (by decide) (by decide), hspace, hspace, hspace, hspace]

/-- What the label of a node or an edge and what follows it stand for. -/
def labelTokens (label : String) (more : List Token) : List Token :=
  .mark ' ' :: .mark '[' :: .mark 'l' :: .mark 'a' :: .mark 'b' :: .mark 'e' :: .mark 'l' :: .mark '=' ::
    .string label.toList :: more

/-- Whatever a label is, it is read back. -/
theorem spells_label (label : String) {style : List Char} {more : List Token} (h : Spells style more) :
    Spells (" [label=".toList ++ (quote (escape label).toList ++ style)) (labelTokens label more) := by
  have hmarks : Spells " [label=".toList (" [label=".toList.map .mark) := spells_marks (by decide)
  exact hmarks.append ((spells_escape label).append h)

/-- The label among attributes is the text after its name. -/
theorem label?_labelTokens (label : String) (more : List Token) :
    Dot.label? ((labelTokens label more).filter (!·.isBlank)) = some label := by
  have hlabel : Dot.label? ((labelTokens label more).filter (!·.isBlank)) = some (String.ofList label.toList) := rfl
  rw [hlabel, String.ofList_toList]

/-- A text with a label after it is the statement of a vertex. -/
theorem statement?_vertex (id label : String) (more : List Token) :
    statement? ((.string id.toList :: labelTokens label more : List Token).filter (!·.isBlank)) =
      some (some (.vertex id label)) := by
  have hstatement : statement? ((.string id.toList :: labelTokens label more : List Token).filter (!·.isBlank)) =
      (Dot.label? ((labelTokens label more).filter (!·.isBlank))).map fun label =>
        some (.vertex (String.ofList id.toList) label) := rfl
  rw [hstatement, label?_labelTokens, String.ofList_toList]
  rfl

/-- The line of a node is read as the node exactly if its identifier is plain. -/
theorem readFrom_dotVertex_iff (v : Vertex) (rest : List Char) (ss : List Statement) :
    readFrom ('\n' :: (dotVertex {} v).toList ++ rest) = some (v.statement :: ss) ↔
      IsPlain v.id ∧ readFrom rest = some ss := by
  rw [toList_dotVertex, List.cons_append, List.append_assoc, readFrom_line]
  by_cases hid : IsPlain v.id
  · obtain ⟨ts, hstyle, hts⟩ := isClause_vertexStyle v
    have hspells : Spells _ (.string v.id.toList :: labelTokens v.label ts) :=
      (spells_plain hid).append (spells_label v.label hstyle)
    have hends : .mark ';' ∉ (.string v.id.toList :: labelTokens v.label ts : List Token) := by simpa [labelTokens] using hts
    have hline := Dot.readFrom_statement hspells hends (statement?_vertex v.id v.label ts) rest
    simp only [List.append_assoc, List.singleton_append] at hline ⊢
    rw [hline]
    simp [hid, Vertex.statement]
  · rw [List.append_assoc]
    exact iff_of_false (Dot.readFrom_ne_of_first hid rfl _ ss) fun h => hid h.1

/-! ## Edges -/

/-- What stands behind the label of an edge. -/
def edgeStyle (e : Edge) : List Char :=
  [", color=".toList, quote e.color.toList, ", fontcolor=".toList, quote e.color.toList, ", penwidth=".toList, "1".toList,
    ", style=".toList, e.style.toList, "]".toList].flatten

/-- The line of an edge, cut at its quotes into an indentation, both ends, the label and the style. -/
theorem toList_dotEdge (e : Edge) :
    (dotEdge {} e).toList = "    ".toList ++ (quote e.source.toList ++ (" -> ".toList ++ (quote e.target.toList ++
      (" [label=".toList ++ (quote (escape e.label).toList ++ (edgeStyle e ++ [';'])))))) := by
  have hunmarked : ({} : Highlight).edges.contains (e.source, e.target) = false := rfl
  have hsource : "    \"".toList = "    ".toList ++ ['"'] := by decide
  have htarget : "\" -> \"".toList = '"' :: (" -> ".toList ++ ['"']) := by decide
  have hlabel : "\" [label=\"".toList = '"' :: (" [label=".toList ++ ['"']) := by decide
  have hcolor : "\", color=\"".toList = '"' :: (", color=".toList ++ ['"']) := by decide
  have hfont : "\", fontcolor=\"".toList = '"' :: (", fontcolor=".toList ++ ['"']) := by decide
  have hwidth : "\", penwidth=".toList = '"' :: ", penwidth=".toList := by decide
  have hend : "];".toList = "]".toList ++ [';'] := by decide
  unfold dotEdge edgeStyle
  simp only [hunmarked, Bool.false_eq_true, if_false, String.toList_append, hsource, htarget, hlabel, hcolor, hfont, hwidth, hend,
    quote, List.flatten_cons, List.flatten_nil, List.append_nil, List.append_assoc, List.cons_append, List.nil_append]

/-- The style of an edge is a part of a statement. -/
theorem isClause_edgeStyle (e : Edge) : IsClause (edgeStyle e) := by
  have hplain : IsPlain e.color := by
    unfold Edge.color
    split
    · decide
    · split <;> decide
  have hstyle : IsClause e.style.toList := by
    unfold Edge.style
    split <;> exact isClause_marks (by decide) (by decide)
  have hcolor : IsClause (quote e.color.toList) := isClause_plain hplain
  have hmarks : ∀ cs : List Char, '"' ∉ cs ∧ ';' ∉ cs → IsClause cs := fun cs h => isClause_marks h.1 h.2
  refine Dot.isClause_flatten ?_
  simp only [List.forall_mem_cons]
  exact ⟨hmarks _ (by decide), hcolor, hmarks _ (by decide), hcolor, hmarks _ (by decide), hmarks _ (by decide),
    hmarks _ (by decide), hstyle, hmarks _ (by decide), nofun⟩

/-- What an edge with its label and what follows it stand for. -/
def edgeTokens (e : Edge) (more : List Token) : List Token :=
  .string e.source.toList :: .mark ' ' :: .mark '-' :: .mark '>' :: .mark ' ' :: .string e.target.toList ::
    labelTokens e.label more

/-- Two texts with an arrow between them and a label after them are the statement of an edge. -/
theorem statement?_edge (e : Edge) (more : List Token) :
    statement? ((edgeTokens e more).filter (!·.isBlank)) = some (some e.statement) := by
  have hstatement : statement? ((edgeTokens e more).filter (!·.isBlank)) =
      (Dot.label? ((labelTokens e.label more).filter (!·.isBlank))).map fun label =>
        some (.edge (String.ofList e.source.toList) (String.ofList e.target.toList) label) := rfl
  rw [hstatement, label?_labelTokens, String.ofList_toList, String.ofList_toList]
  rfl

/-- The line of an edge is read as the edge exactly if the identifiers at both its ends are plain. -/
theorem readFrom_dotEdge_iff (e : Edge) (rest : List Char) (ss : List Statement) :
    readFrom ('\n' :: (dotEdge {} e).toList ++ rest) = some (e.statement :: ss) ↔
      (IsPlain e.source ∧ IsPlain e.target) ∧ readFrom rest = some ss := by
  rw [toList_dotEdge, List.cons_append, List.append_assoc, readFrom_line]
  simp only [List.append_assoc]
  by_cases hsource : IsPlain e.source
  · by_cases htarget : IsPlain e.target
    · obtain ⟨ts, hstyle, hts⟩ := isClause_edgeStyle e
      have harrow : Spells " -> ".toList [.mark ' ', .mark '-', .mark '>', .mark ' '] := spells_marks (by decide)
      have hspells : Spells _ (edgeTokens e ts) :=
        (spells_plain hsource).append (harrow.append ((spells_plain htarget).append (spells_label e.label hstyle)))
      have hends : .mark ';' ∉ edgeTokens e ts := by simpa [edgeTokens, labelTokens] using hts
      have hline := Dot.readFrom_statement hspells hends (statement?_edge e ts) rest
      simp only [List.append_assoc, List.singleton_append] at hline ⊢
      rw [hline]
      simp [hsource, htarget]
    · exact iff_of_false (Dot.readFrom_ne_of_target hsource htarget e.label _ ss) fun h => htarget h.1.2
  · exact iff_of_false (Dot.readFrom_ne_of_first hsource rfl _ ss) fun h => hsource h.1.1

/-! ## Graphs -/

/-- Lines that are read one by one are read together. -/
theorem readFrom_lines_iff {α : Type} {line : α → String} {statement : α → Statement} {Clean : α → Prop}
    (hline : ∀ a rest ss, readFrom ('\n' :: (line a).toList ++ rest) = some (statement a :: ss) ↔
      Clean a ∧ readFrom rest = some ss) (as : List α) (rest : List Char) (ss : List Statement) :
    readFrom (as.flatMap (fun a => '\n' :: (line a).toList) ++ rest) = some (as.map statement ++ ss) ↔
      (∀ a ∈ as, Clean a) ∧ readFrom rest = some ss := by
  induction as with
  | nil => simp
  | cons a as ih =>
    have hfirst := hline a (as.flatMap (fun a => '\n' :: (line a).toList) ++ rest) (as.map statement ++ ss)
    rw [List.flatMap_cons, List.append_assoc, List.map_cons, List.forall_mem_cons, and_assoc, ← ih]
    exact hfirst

/-- Joined lines are the first one and the others, each after a line break. -/
theorem toList_joinLines (first : String) (lines : List String) :
    (joinLines (first :: lines)).toList = first.toList ++ lines.flatMap fun line => '\n' :: line.toList := by
  have hbreak : "\n".toList = ['\n'] := rfl
  rw [joinLines, String.toList_intercalate, hbreak]
  induction lines generalizing first with
  | nil => simp
  | cons line lines ih =>
    rw [List.map_cons, List.map_cons, List.intercalate_cons_cons, ← List.map_cons, ih, List.flatMap_cons]
    simp

/-- What stands before the nodes of a graph. -/
def preamble : List Char :=
  "digraph DecisionTree \x7b".toList ++
    ["    rankdir=TB;", "    node [shape=box, style=\"rounded,filled\", fontname=\"Arial\"];",
      "    edge [fontname=\"Arial\", fontsize=10];", ""].flatMap fun line => '\n' :: line.toList

/-- The text of a graph is its preamble and the lines of its vertices and of its edges, with a blank line between these. -/
theorem toList_dot (g : Graph) :
    (g.dot {}).toList = preamble ++ (g.vertices.flatMap (fun v => '\n' :: (dotVertex {} v).toList) ++
      '\n' :: (g.edges.flatMap (fun e => '\n' :: (dotEdge {} e).toList) ++ '\n' :: "\x7d".toList)) := by
  have hlines : ∀ (first last : String) (lines vertices edges : List String),
      (joinLines (first :: lines ++ vertices ++ [""] ++ edges ++ [last])).toList =
        (first.toList ++ lines.flatMap fun line => '\n' :: line.toList) ++ (vertices.flatMap (fun line => '\n' :: line.toList) ++
          '\n' :: (edges.flatMap (fun line => '\n' :: line.toList) ++ '\n' :: last.toList)) := by
    intro first last lines vertices edges
    rw [List.cons_append, List.cons_append, List.cons_append, List.cons_append, toList_joinLines]
    simp
  rw [dot, hlines, List.flatMap_map, List.flatMap_map]
  rfl

/-- A statement about the graph as a whole is passed over. -/
theorem readFrom_setting {line cs : List Char} {ts : List Token} (hline : line = cs ++ [';']) (hcs : Spells cs ts)
    (hts : .mark ';' ∉ ts) (hsetting : statement? (ts.filter (!·.isBlank)) = some none) (rest : List Char) :
    readFrom (line ++ rest) = readFrom rest := by
  rw [hline, List.append_assoc, List.singleton_append, Dot.readFrom_statement hcs hts hsetting]
  exact Option.map_id'

/-- The name of the typeface is one token. -/
theorem spells_arial : Spells (quote "Arial".toList) [.string "Arial".toList] := spells_plain (by decide)

/-- The line that opens the graph states nothing that is read back. -/
theorem readFrom_graphLine (rest : List Char) :
    readFrom ("digraph DecisionTree \x7b".toList ++ '\n' :: "    rankdir=TB;".toList ++ rest) = readFrom rest := by
  have hgraph : Spells "digraph DecisionTree \x7b\n    rankdir=TB".toList _ := spells_marks (by decide)
  exact readFrom_setting (by decide) hgraph (by decide) (by decide) rest

theorem readFrom_nodeLine (rest : List Char) :
    readFrom ('\n' :: "    node [shape=box, style=\"rounded,filled\", fontname=\"Arial\"];".toList ++ rest) = readFrom rest := by
  have hrounded : Spells (quote "rounded,filled".toList) [.string "rounded,filled".toList] := spells_plain (by decide)
  have hnode : Spells ("\n    node [shape=box, style=".toList ++ (quote "rounded,filled".toList ++
      (", fontname=".toList ++ (quote "Arial".toList ++ "]".toList)))) _ :=
    (spells_marks (by decide)).append (hrounded.append ((spells_marks (by decide)).append
      (spells_arial.append (spells_marks (by decide)))))
  exact readFrom_setting (by decide) hnode (by decide) (by decide) rest

theorem readFrom_edgeLine (rest : List Char) :
    readFrom ('\n' :: "    edge [fontname=\"Arial\", fontsize=10];".toList ++ rest) = readFrom rest := by
  have hedge : Spells ("\n    edge [fontname=".toList ++ (quote "Arial".toList ++ ", fontsize=10]".toList)) _ :=
    (spells_marks (by decide)).append (spells_arial.append (spells_marks (by decide)))
  exact readFrom_setting (by decide) hedge (by decide) (by decide) rest

/-- The text before the nodes says nothing about nodes and edges. -/
theorem readFrom_preamble (rest : List Char) : readFrom (preamble ++ rest) = readFrom rest := by
  have hlines : ∀ first second third fourth : String,
      (first.toList ++ [second, third, fourth, ""].flatMap fun line => '\n' :: line.toList) ++ rest =
        first.toList ++ '\n' :: second.toList ++ ('\n' :: third.toList ++ ('\n' :: fourth.toList ++ '\n' :: rest)) := by
    intro first second third fourth
    simp
  calc readFrom (preamble ++ rest)
    _ = readFrom _ := congrArg readFrom (hlines _ _ _ _)
    _ = readFrom _ := readFrom_graphLine _
    _ = readFrom _ := readFrom_nodeLine _
    _ = readFrom ('\n' :: rest) := readFrom_edgeLine _
    _ = readFrom rest := Dot.readFrom_blank (by decide) (by decide) rest

/-- What is read back of the text of a graph are its nodes and edges exactly if its identifiers are plain. -/
theorem read?_dot_iff (g : Graph) :
    read? (g.dot {}) = some g.statements ↔
      (∀ v ∈ g.vertices, IsPlain v.id) ∧ ∀ e ∈ g.edges, IsPlain e.source ∧ IsPlain e.target := by
  have hend : readFrom ('\n' :: "\x7d".toList) = some [] := by decide
  have hedges : readFrom ('\n' :: (g.edges.flatMap (fun e => '\n' :: (dotEdge {} e).toList) ++ ('\n' :: "\x7d".toList))) =
      some (g.edges.map Edge.statement) ↔ ∀ e ∈ g.edges, IsPlain e.source ∧ IsPlain e.target := by
    have hlines := readFrom_lines_iff readFrom_dotEdge_iff g.edges ('\n' :: "\x7d".toList) []
    rw [List.append_nil] at hlines
    rw [Dot.readFrom_blank (by decide) (by decide), hlines, hend]
    exact and_iff_left rfl
  rw [read?, toList_dot, readFrom_preamble, statements, readFrom_lines_iff readFrom_dotVertex_iff, hedges]

/-! ## Graphs of trees -/

/-- A vertex has the identifier of its node. -/
theorem id_vertexOf {depth : Nat} {n : Node} {v : Vertex} (h : vertexOf depth n = .ok v) : v.id = n.id := by
  obtain ⟨label, -, h⟩ := Except.bind_eq_ok.1 h
  cases h
  rfl

mutual

/-- The nodes of the graph of a node and all that lies below it are these. -/
theorem ids_pieceOf {depth : Nat} {n : Node} {p : Piece} (h : pieceOf depth n = .ok p) :
    p.vertices.map Vertex.id = n.preorder.map Node.id := by
  match n with
  | .condition header c note whenTrue whenFalse =>
    rw [pieceOf] at h
    obtain ⟨top, htop, h⟩ := Except.bind_eq_ok.1 h
    obtain ⟨upper, hupper, h⟩ := Except.bind_eq_ok.1 h
    obtain ⟨lower, hlower, h⟩ := Except.bind_eq_ok.1 h
    cases h
    simp [Piece.append, Piece.behind, Node.preorder, id_vertexOf htop, ids_pieceOf hupper, ids_pieceOf hlower]
  | .group header members entry exit =>
    rw [pieceOf] at h
    obtain ⟨top, htop, h⟩ := Except.bind_eq_ok.1 h
    obtain ⟨below, hbelow, h⟩ := Except.bind_eq_ok.1 h
    cases h
    simp [Node.preorder, id_vertexOf htop, ids_piecesOf hbelow]
  | .router _ _ | .leaf _ | .anchor _ _ _ =>
    rw [pieceOf] at h
    · obtain ⟨top, htop, h⟩ := Except.bind_eq_ok.1 h
      cases h
      simp [Node.preorder, id_vertexOf htop]
    all_goals simp

/-- The nodes of the graph of the members of a group are these and all that lies below them. -/
theorem ids_piecesOf {depth : Nat} {group : String} {ns : List Node} {p : Piece} (h : piecesOf depth group ns = .ok p) :
    p.vertices.map Vertex.id = (Node.preorderAll ns).map Node.id := by
  match ns with
  | [] =>
    cases h
    rfl
  | n :: rest =>
    rw [piecesOf] at h
    obtain ⟨first, hfirst, h⟩ := Except.bind_eq_ok.1 h
    obtain ⟨others, hothers, h⟩ := Except.bind_eq_ok.1 h
    cases h
    simp [Piece.append, Piece.behind, Node.preorderAll, ids_pieceOf hfirst, ids_piecesOf hothers]

end

/-- The nodes of the graph of a tree are those of the tree. -/
theorem ids_ofTree {tree : Node} {g : Graph} (h : ofTree tree = .ok g) : g.vertices.map Vertex.id = tree.ids := by
  obtain ⟨all, hall, h⟩ := Except.bind_eq_ok.1 h
  cases h
  rw [Node.ids, Node.walk_eq_preorder]
  exact ids_pieceOf hall

/-- The identifiers that a router leads to. -/
def targetsOf : Node → List String
  | .router _ routes => routes.map Route.target
  | _ => []

/-- An edge that leaves a node leads to a node below it, or to where a router leads. -/
theorem target_of_mem_edgesOf {n : Node} {e : Edge} (h : e ∈ edgesOf n) :
    e.source = n.id ∧ ((∃ m ∈ n.walk, m.id = e.target) ∨ e.target ∈ targetsOf n) := by
  cases n with
  | condition header c note whenTrue whenFalse =>
    rcases List.mem_pair.1 h with rfl | rfl
    · exact ⟨rfl, Or.inl ⟨whenTrue, Node.mem_walk_of_mem_children List.mem_cons_self, rfl⟩⟩
    · exact ⟨rfl, Or.inl ⟨whenFalse, Node.mem_walk_of_mem_children (List.mem_cons_of_mem _ List.mem_cons_self), rfl⟩⟩
  | group header members entry exit =>
    obtain ⟨m, hm, rfl⟩ := List.mem_map.1 h
    exact ⟨rfl, Or.inl ⟨m, Node.mem_walk_of_mem_children hm, rfl⟩⟩
  | router header routes =>
    obtain ⟨r, hr, rfl⟩ := List.mem_map.1 h
    exact ⟨rfl, Or.inr (List.mem_map_of_mem hr)⟩
  | leaf | anchor => exact absurd h List.not_mem_nil

/-- The identifiers in the graph of a tree are plain exactly if those of the nodes are, and those that the routers lead to. -/
theorem isPlain_ofTree_iff {tree : Node} {g : Graph} (h : ofTree tree = .ok g) :
    ((∀ v ∈ g.vertices, IsPlain v.id) ∧ ∀ e ∈ g.edges, IsPlain e.source ∧ IsPlain e.target) ↔
      ∀ n ∈ tree.walk, IsPlain n.id ∧ ∀ target ∈ targetsOf n, IsPlain target := by
  have hvertices : (∀ v ∈ g.vertices, IsPlain v.id) ↔ ∀ n ∈ tree.walk, IsPlain n.id := by
    rw [← List.forall_mem_map, ids_ofTree h, Node.ids, List.forall_mem_map]
  rw [hvertices]
  constructor
  · rintro ⟨hids, hedges⟩ n hn
    refine ⟨hids n hn, ?_⟩
    intro target htarget
    cases n with
    | router header routes =>
      obtain ⟨r, hr, rfl⟩ := List.mem_map.1 htarget
      exact (hedges _ ((mem_edges_ofTree h _).2 ⟨_, hn, List.mem_map_of_mem hr⟩)).2
    | condition | leaf | group | anchor => exact absurd htarget List.not_mem_nil
  · intro hplain
    refine ⟨fun n hn => (hplain n hn).1, ?_⟩
    intro e he
    obtain ⟨n, hn, he⟩ := (mem_edges_ofTree h e).1 he
    obtain ⟨hsource, htarget⟩ := target_of_mem_edgesOf he
    refine ⟨hsource ▸ (hplain n hn).1, ?_⟩
    rcases htarget with ⟨m, hm, htarget⟩ | htarget
    · exact htarget ▸ (hplain m (Node.mem_walk_trans hn hm)).1
    · exact (hplain n hn).2 _ htarget

/-- The text of the graph of a tree, of which there is one if every condition has a label or can be put in words, is read back as
the nodes and edges of the graph, with their labels, exactly if no identifier has a quote or a backslash: neither that of a node nor
one that a router leads to. The labels may be any texts. -/
theorem read_dot_ofTree (tree : Node) :
    ((∃ g, ofTree tree = .ok g) ↔ ∀ n ∈ tree.walk, Labelled n) ∧
      ∀ g, ofTree tree = .ok g → (read? (g.dot {}) = some g.statements ↔
        ∀ n ∈ tree.walk, IsPlain n.id ∧ ∀ target ∈ targetsOf n, IsPlain target) := by
  refine ⟨exists_ofTree_iff tree, ?_⟩
  intro g hg
  rw [read?_dot_iff, isPlain_ofTree_iff hg]

end Graph

/-! ## A leaf with quotes -/

namespace Quoting

/-- A leaf of an identifier with a decision. -/
def leaf (id decision : String) : Node := .leaf ⟨⟨id, none, none, [], none⟩, decision, .blocked, [], none⟩

/-- Its graph. -/
def graph (id decision : String) : Graph := ⟨id, [⟨id, "leaf", decision, 0, some "blocked", []⟩], []⟩

/-- The graph of a single leaf is one vertex. -/
theorem ofTree_leaf (id decision : String) : Graph.ofTree (leaf id decision) = .ok (graph id decision) := rfl

/-- A decision with quotes and a backslash at its end. -/
def decision : String := "Treated as \"qualifying\" \\"

/-- An identifier that ends its string, and the statement with it, to start another one. -/
def breaking : String := "x\" [label=\"Exempt\"]; \"y"

end Quoting

namespace Graph

/-- Quotes and backslashes in a label are read back. -/
theorem read_dot_ofTree_quoted :
    ofTree (Quoting.leaf "q" Quoting.decision) = .ok (Quoting.graph "q" Quoting.decision) ∧
      Dot.read? ((Quoting.graph "q" Quoting.decision).dot {}) = some [.vertex "q" Quoting.decision] := by
  have hgraph := Quoting.ofTree_leaf "q" Quoting.decision
  refine ⟨hgraph, ((read_dot_ofTree _).2 _ hgraph).2 ?_⟩
  intro n hn
  rw [Node.walk_eq_preorder] at hn
  obtain rfl := List.mem_singleton.1 hn
  exact ⟨by decide, nofun⟩

/-- One node with quotes in its identifier is read as two. -/
theorem read_dot_ne_statements :
    ofTree (Quoting.leaf Quoting.breaking "Blocked") = .ok (Quoting.graph Quoting.breaking "Blocked") ∧
      Dot.read? ((Quoting.graph Quoting.breaking "Blocked").dot {}) = some [.vertex "x" "Exempt", .vertex "y" "Blocked"] ∧
        (Quoting.graph Quoting.breaking "Blocked").statements = [.vertex Quoting.breaking "Blocked"] := by
  refine ⟨rfl, ?_, rfl⟩
  have hgraph : (Quoting.graph Quoting.breaking "Blocked").vertices =
      [⟨Quoting.breaking, "leaf", "Blocked", 0, some "blocked", []⟩] ∧ (Quoting.graph Quoting.breaking "Blocked").edges = [] :=
    ⟨rfl, rfl⟩
  rw [Dot.read?, toList_dot, readFrom_preamble, hgraph.1, hgraph.2, List.flatMap_singleton, toList_dotVertex]
  decide +kernel

end Graph

end RegulatoryTrees
