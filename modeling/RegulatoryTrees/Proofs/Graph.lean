import RegulatoryTrees.Graph
import RegulatoryTrees.Layout
import RegulatoryTrees.Proofs.Condition.Limits
import RegulatoryTrees.Proofs.Evaluation.Path

/-!
# What the graph of a tree holds

There is a graph of a tree exactly when every condition without a label can be put in words (`exists_ofTree_iff`). Its edges are
those that leave the nodes of the tree (`mem_edges_ofTree`), and of these the edges of a branch are the branches of conditions
(`mem_branches_iff`): members and routes bear other names.
-/

namespace RegulatoryTrees

namespace Graph

/-- The edges that leave a node. -/
def edgesOf : Node → List Edge
  | .condition h _ _ whenTrue whenFalse => [⟨h.id, whenTrue.id, "true", "Yes"⟩, ⟨h.id, whenFalse.id, "false", "No"⟩]
  | .group h members _ _ => members.map fun n => ⟨h.id, n.id, "member", ""⟩
  | .router h routes => routes.map fun r => ⟨h.id, r.target, "route", r.jurisdiction ++ " (" ++ r.role.name ++ ")"⟩
  | .leaf _ | .anchor _ _ _ => []

/-- A condition without a label can be put in words. -/
def Labelled (n : Node) : Prop := ∀ c, n.condition? = some c → labelOr n.header "" = "" → c.value.isWritable = true

/-! ## Nodes -/

/-- A node has a label in a graph if it has one of its own, or no condition, or one that can be put in words. -/
theorem exists_labelOf_iff (n : Node) : (∃ label, labelOf n = .ok label) ↔ Labelled n := by
  cases n with
  | condition h c note whenTrue whenFalse =>
    have hlabelled : Labelled (.condition h c note whenTrue whenFalse) ↔ (labelOr h "" = "" → c.value.isWritable = true) :=
      ⟨fun hall => hall c rfl, fun hwritable d hd => Option.some.inj hd ▸ hwritable⟩
    rw [hlabelled, labelOf]
    split
    · next hempty => rw [Condition.describe_ok_iff, forall_prop_of_true hempty]
    · next hlabel => exact iff_of_true ⟨_, rfl⟩ fun hempty => absurd hempty hlabel
  | leaf | group | router | anchor => exact iff_of_true ⟨_, rfl⟩ fun c hc => nomatch hc

/-- A vertex is drawn for a node that has a label. -/
theorem exists_vertexOf_iff (depth : Nat) (n : Node) : (∃ v, vertexOf depth n = .ok v) ↔ Labelled n := by
  rw [← exists_labelOf_iff]
  unfold vertexOf
  cases labelOf n <;> simp [pure, Except.pure]

/-! ## Pieces -/

mutual

/-- There is a graph of all that lies at and below a node if all of it can be labelled. -/
theorem exists_pieceOf_iff (depth : Nat) (n : Node) : (∃ p, pieceOf depth n = .ok p) ↔ ∀ m ∈ n.preorder, Labelled m := by
  match n with
  | .condition h c note whenTrue whenFalse =>
    rw [pieceOf, Node.preorder, List.forall_mem_cons, List.forall_mem_append, ← exists_vertexOf_iff depth,
      ← exists_pieceOf_iff (depth + 1) whenTrue, ← exists_pieceOf_iff (depth + 1) whenFalse]
    cases vertexOf depth (.condition h c note whenTrue whenFalse) <;> cases pieceOf (depth + 1) whenTrue <;>
      cases pieceOf (depth + 1) whenFalse <;> simp [pure, Except.pure]
  | .group h members entry exit =>
    rw [pieceOf, Node.preorder, List.forall_mem_cons, ← exists_vertexOf_iff depth,
      ← exists_piecesOf_iff (depth + 1) h.id members]
    cases vertexOf depth (.group h members entry exit) <;> cases piecesOf (depth + 1) h.id members <;>
      simp [pure, Except.pure]
  | .router h routes =>
    rw [pieceOf, Node.preorder, List.forall_mem_singleton, ← exists_vertexOf_iff depth]
    · cases vertexOf depth (.router h routes) <;> simp [pure, Except.pure]
    all_goals simp
  | .leaf l =>
    rw [pieceOf, Node.preorder, List.forall_mem_singleton, ← exists_vertexOf_iff depth]
    · cases vertexOf depth (.leaf l) <;> simp [pure, Except.pure]
    all_goals simp
  | .anchor h conflictId pairedId =>
    rw [pieceOf, Node.preorder, List.forall_mem_singleton, ← exists_vertexOf_iff depth]
    · cases vertexOf depth (.anchor h conflictId pairedId) <;> simp [pure, Except.pure]
    all_goals simp

/-- There is a graph of the members of a group if all that lies at and below them can be labelled. -/
theorem exists_piecesOf_iff (depth : Nat) (group : String) (ns : List Node) :
    (∃ p, piecesOf depth group ns = .ok p) ↔ ∀ m ∈ Node.preorderAll ns, Labelled m := by
  match ns with
  | [] => simp [piecesOf, Node.preorderAll]
  | n :: rest =>
    rw [piecesOf, Node.preorderAll, List.forall_mem_append, ← exists_pieceOf_iff depth n,
      ← exists_piecesOf_iff depth group rest]
    cases pieceOf depth n <;> cases piecesOf depth group rest <;> simp [pure, Except.pure]

end

mutual

/-- The edges of the graph of a node and all that lies below it leave the node or what lies below. -/
theorem mem_edges_pieceOf {depth : Nat} {n : Node} {p : Piece} (h : pieceOf depth n = .ok p) (edge : Edge) :
    edge ∈ p.edges ↔ ∃ m ∈ n.preorder, edge ∈ edgesOf m := by
  match n with
  | .condition header c note whenTrue whenFalse =>
    rw [pieceOf] at h
    obtain ⟨top, -, h⟩ := Except.bind_eq_ok.1 h
    obtain ⟨upper, hupper, h⟩ := Except.bind_eq_ok.1 h
    obtain ⟨lower, hlower, h⟩ := Except.bind_eq_ok.1 h
    cases h
    simp only [Piece.append, Piece.behind, Node.preorder, List.mem_append, List.mem_cons, mem_edges_pieceOf hupper,
      mem_edges_pieceOf hlower, or_and_right, exists_or, exists_eq_left]
    rw [edgesOf, List.mem_pair]
    exact or_or_or_comm
  | .group header members entry exit =>
    rw [pieceOf] at h
    obtain ⟨top, -, h⟩ := Except.bind_eq_ok.1 h
    obtain ⟨below, hbelow, h⟩ := Except.bind_eq_ok.1 h
    cases h
    simp only [Node.preorder, List.mem_cons, mem_edges_piecesOf hbelow, or_and_right, exists_or, exists_eq_left]
    rfl
  | .router header routes =>
    rw [pieceOf] at h
    obtain ⟨top, -, h⟩ := Except.bind_eq_ok.1 h
    cases h
    simp [Node.preorder, edgesOf]
  | .leaf l =>
    rw [pieceOf] at h
    · obtain ⟨top, -, h⟩ := Except.bind_eq_ok.1 h
      cases h
      simp [Node.preorder, edgesOf]
    all_goals simp
  | .anchor header conflictId pairedId =>
    rw [pieceOf] at h
    · obtain ⟨top, -, h⟩ := Except.bind_eq_ok.1 h
      cases h
      simp [Node.preorder, edgesOf]
    all_goals simp

/-- The edges of the graph of the members of a group lead to the members, or leave what lies at and below them. -/
theorem mem_edges_piecesOf {depth : Nat} {group : String} {ns : List Node} {p : Piece} (h : piecesOf depth group ns = .ok p)
    (edge : Edge) :
    edge ∈ p.edges ↔ edge ∈ (ns.map fun n => Edge.mk group n.id "member" "") ∨
      ∃ m ∈ Node.preorderAll ns, edge ∈ edgesOf m := by
  match ns with
  | [] =>
    cases h
    simp [Node.preorderAll]
  | n :: rest =>
    rw [piecesOf] at h
    obtain ⟨first, hfirst, h⟩ := Except.bind_eq_ok.1 h
    obtain ⟨others, hothers, h⟩ := Except.bind_eq_ok.1 h
    cases h
    simp only [Piece.append, Piece.behind, Node.preorderAll, List.mem_append, List.mem_cons, List.map_cons,
      mem_edges_pieceOf hfirst, mem_edges_piecesOf hothers, or_and_right, exists_or]
    exact or_or_or_comm

end

/-! ## Trees -/

/-- There is a graph of a tree exactly when each condition has a label or can be put in words. -/
theorem exists_ofTree_iff (tree : Node) : (∃ g, ofTree tree = .ok g) ↔ ∀ n ∈ tree.walk, Labelled n := by
  rw [Node.walk_eq_preorder, ← exists_pieceOf_iff 0, ofTree]
  cases pieceOf 0 tree <;> simp [pure, Except.pure]

/-- The edges of the graph of a tree are those that leave its nodes. -/
theorem mem_edges_ofTree {tree : Node} {g : Graph} (h : ofTree tree = .ok g) (edge : Edge) :
    edge ∈ g.edges ↔ ∃ n ∈ tree.walk, edge ∈ edgesOf n := by
  obtain ⟨all, hall, h⟩ := Except.bind_eq_ok.1 h
  cases h
  rw [Node.walk_eq_preorder]
  exact mem_edges_pieceOf hall edge

/-- Of the edges that leave a node, those with the name of a branch are its branches. -/
theorem mem_branches_iff (n : Node) (t : Turn) :
    t ∈ n.branches ↔ ∃ edge ∈ edgesOf n, edge.source = t.source ∧ edge.kind = branchName t.branch ∧ edge.target = t.target := by
  obtain ⟨source, branch, target⟩ := t
  cases n with
  | condition h c note whenTrue whenFalse =>
    cases branch <;> simp [Node.branches, edgesOf, branchName, eq_comm]
  | leaf | anchor => simp [Node.branches, edgesOf]
  | group | router => cases branch <;> simp [Node.branches, edgesOf, branchName]

end Graph

end RegulatoryTrees
