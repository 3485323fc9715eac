import Mathlib.Data.List.Nodup
import Mathlib.Tactic.Ring
import RegulatoryTrees.Layout
import RegulatoryTrees.Proofs.Outcome

/-!
# Exact layouts

A layout that is computed exactly never fails, and it can be read off the tree: each node with nothing drawn below it takes one
column, a node is drawn as many levels down as branches are taken to it, and a condition is centred above its columns
(`ofTree_eq`). The recursion passes down how far a subtree is from the left, so the statement for a subtree is about boxes at
any depth and distance (`subtree_eq`).
-/

namespace RegulatoryTrees

namespace Node

/-! ## The nodes that are drawn -/

/-- The number of nodes that are drawn with nothing below them. -/
def columns : Node → Nat
  | .condition _ _ _ whenTrue whenFalse => columns whenFalse + columns whenTrue
  | _ => 1

/-- The node that branches lead to when they are taken one after the other. -/
def along? : Node → List Bool → Option Node
  | n, [] => some n
  | .condition _ _ _ whenTrue whenFalse, branch :: rest =>
    if branch then along? whenTrue rest else along? whenFalse rest
  | _, _ :: _ => none

/-- A node that is drawn: the branches taken to it, the node, and the number of columns to the left of its own. -/
structure Spot where
  way : List Bool
  node : Node
  before : Nat

namespace Spot

/-- A spot of a branch, seen from the condition above, with so many columns to the left of the branch. -/
def under (branch : Bool) (columns : Nat) (s : Spot) : Spot := ⟨branch :: s.way, s.node, columns + s.before⟩

/-- The spots of the two nodes below a condition, the one for a condition that does not hold first. -/
def children (s : Spot) : List (Bool × Spot) :=
  match s.node with
  | .condition _ _ _ whenTrue whenFalse =>
    [(false, ⟨s.way ++ [false], whenFalse, s.before⟩), (true, ⟨s.way ++ [true], whenTrue, whenFalse.columns + s.before⟩)]
  | _ => []

/-- The children of a spot move along with it. -/
theorem children_under (branch : Bool) (columns : Nat) (s : Spot) :
    (s.under branch columns).children = s.children.map fun child => (child.1, child.2.under branch columns) := by
  obtain ⟨way, n, before⟩ := s
  cases n <;> simp [children, under, Nat.add_left_comm]

end Spot

/-- The nodes that are drawn, each after those below it, the branch for a condition that does not hold first. -/
def spots : Node → List Spot
  | .condition header c note whenTrue whenFalse =>
    (spots whenFalse).map (Spot.under false 0) ++ (spots whenTrue).map (Spot.under true whenFalse.columns) ++
      [⟨[], .condition header c note whenTrue whenFalse, 0⟩]
  | n => [⟨[], n, 0⟩]

/-- The ways to the nodes that are drawn. -/
def ways (n : Node) : List (List Bool) := n.spots.map Spot.way

section Single

variable {n : Node}
  (hn : ∀ header c note whenTrue whenFalse, n = .condition header c note whenTrue whenFalse → False)

include hn

/-- A node without a condition takes one column. -/
theorem columns_single : n.columns = 1 := by
  rw [columns]
  exact hn

/-- A node without a condition is the only spot of its tree. -/
theorem spots_single : n.spots = [⟨[], n, 0⟩] := by
  rw [spots]
  exact hn

theorem children_single (way : List Bool) (before : Nat) : (Spot.mk way n before).children = [] := by
  cases n with
  | condition => exact (hn _ _ _ _ _ rfl).elim
  | leaf | group | router | anchor => rfl

end Single

/-- Every tree takes a column. -/
theorem columns_pos (n : Node) : 0 < n.columns := by
  fun_induction columns n with
  | case1 _ _ _ whenTrue whenFalse hfalse htrue => omega
  | case2 => exact Nat.one_pos

theorem along?_nil (n : Node) : n.along? [] = some n := by
  rw [along?]

/-- The spots of a condition are those of its branches, seen from it, and its own. -/
theorem mem_spots_condition {header : Header} {c : Condition} {note : Option String} {whenTrue whenFalse : Node} {s : Spot} :
    s ∈ (Node.condition header c note whenTrue whenFalse).spots ↔
      (∃ t ∈ whenFalse.spots, t.under false 0 = s) ∨ (∃ t ∈ whenTrue.spots, t.under true whenFalse.columns = s) ∨
        s = ⟨[], .condition header c note whenTrue whenFalse, 0⟩ := by
  simp only [spots, List.mem_append, List.mem_map, List.mem_singleton, or_assoc]

/-- A way leads on from where its first part leads to. -/
theorem along?_append (n : Node) (p q : List Bool) : n.along? (p ++ q) = (n.along? p).bind fun m => m.along? q := by
  fun_induction along? n p with
  | case1 n => rfl
  | case2 header c note whenTrue whenFalse rest ih => exact ih
  | case3 header c note whenTrue whenFalse branch rest hbranch ih =>
    rw [List.cons_append, along?, if_neg hbranch, ih]
  | case4 n branch rest hn =>
    rw [List.cons_append, along?]
    · rfl
    · exact hn

/-- A node is drawn after all those below it. -/
theorem getLast?_spots (n : Node) : n.spots.getLast? = some ⟨[], n, 0⟩ := by
  cases n with
  | condition => rw [spots, List.getLast?_concat]
  | leaf | group | router | anchor => rfl

/-- The root is a spot of its tree, with nothing to its left. -/
theorem mem_spots_self (n : Node) : ⟨[], n, 0⟩ ∈ n.spots := List.mem_of_getLast? n.getLast?_spots

/-- The ways lead to the nodes. -/
theorem along?_of_mem_spots (n : Node) : ∀ s ∈ n.spots, n.along? s.way = some s.node := by
  induction n using spots.induct with
  | case1 header c note whenTrue whenFalse hfalse htrue =>
    intro s hs
    rw [mem_spots_condition] at hs
    rcases hs with ⟨s, hs, rfl⟩ | ⟨s, hs, rfl⟩ | rfl
    · exact hfalse s hs
    · exact htrue s hs
    · exact along?_nil _
  | case2 n hn =>
    intro s hs
    rw [spots_single hn] at hs
    rw [List.mem_singleton.1 hs]
    exact along?_nil n

/-- The ways to the nodes below a condition go on from its branches. -/
theorem ways_condition (header : Header) (c : Condition) (note : Option String) (whenTrue whenFalse : Node) :
    (Node.condition header c note whenTrue whenFalse).ways =
      whenFalse.ways.map (false :: ·) ++ whenTrue.ways.map (true :: ·) ++ [[]] := by
  simp only [ways, spots, List.map_append, List.map_map, List.map_cons, List.map_nil, Function.comp_def, Spot.under]

/-- The only way in a tree without a condition has no turn. -/
theorem ways_single {n : Node}
    (hn : ∀ header c note whenTrue whenFalse, n = .condition header c note whenTrue whenFalse → False) : n.ways = [[]] := by
  rw [ways, spots_single hn, List.map_singleton]

/-- All nodes that branches lead to are drawn. -/
theorem mem_ways_of_along? {n m : Node} {way : List Bool} (h : n.along? way = some m) : way ∈ n.ways := by
  fun_induction along? n way with
  | case1 n => cases n <;> simp [ways, spots]
  | case2 header c note whenTrue whenFalse rest ih =>
    rw [ways_condition]
    simp [ih h]
  | case3 header c note whenTrue whenFalse branch rest hbranch ih =>
    rw [ways_condition]
    simp [Bool.eq_false_of_not_eq_true hbranch, ih h]
  | case4 => cases h

/-- The ways to the nodes that are drawn are those that lead to a node. -/
theorem mem_ways {n : Node} {way : List Bool} : way ∈ n.ways ↔ (n.along? way).isSome := by
  constructor
  · intro hway
    obtain ⟨s, hs, rfl⟩ := List.mem_map.1 hway
    rw [along?_of_mem_spots n s hs]
    rfl
  · intro hway
    obtain ⟨m, hm⟩ := Option.isSome_iff_exists.1 hway
    exact mem_ways_of_along? hm

/-- No two nodes that are drawn are reached by the same way. -/
theorem nodup_ways (n : Node) : n.ways.Nodup := by
  induction n using spots.induct with
  | case1 header c note whenTrue whenFalse hfalse htrue =>
    have hfalse' : (whenFalse.ways.map (false :: ·)).Nodup := hfalse.map fun _ _ h => (List.cons.inj h).2
    have htrue' : (whenTrue.ways.map (true :: ·)).Nodup := htrue.map fun _ _ h => (List.cons.inj h).2
    rw [ways_condition]
    refine List.nodup_append.2 ⟨List.nodup_append.2 ⟨hfalse', htrue', ?_⟩, List.nodup_singleton _, ?_⟩
    · intro p hp q hq heq
      obtain ⟨_, -, rfl⟩ := List.mem_map.1 hp
      obtain ⟨_, -, rfl⟩ := List.mem_map.1 hq
      cases heq
    · intro p hp q hq heq
      rw [List.mem_singleton.1 hq] at heq
      rcases List.mem_append.1 hp with hp | hp <;> obtain ⟨_, -, rfl⟩ := List.mem_map.1 hp <;> cases heq
  | case2 n hn =>
    rw [ways_single hn]
    exact List.nodup_singleton _

/-- A node that is drawn is the one that its way leads to. -/
theorem eq_of_way_eq (n : Node) {s t : Spot} (hs : s ∈ n.spots) (ht : t ∈ n.spots) (h : s.way = t.way) : s = t :=
  List.inj_on_of_nodup_map n.nodup_ways hs ht h

/-- The columns of a node lie among those of the tree. -/
theorem before_add_columns_le (n : Node) : ∀ s ∈ n.spots, s.before + s.node.columns ≤ n.columns := by
  induction n using spots.induct with
  | case1 header c note whenTrue whenFalse hfalse htrue =>
    intro s hs
    rw [mem_spots_condition] at hs
    rcases hs with ⟨s, hs, rfl⟩ | ⟨s, hs, rfl⟩ | rfl
    · have h := hfalse s hs
      simp only [Spot.under, columns]
      omega
    · have h := htrue s hs
      simp only [Spot.under, columns]
      omega
    · exact Nat.le_of_eq (Nat.zero_add _)
  | case2 n hn =>
    intro s hs
    rw [spots_single hn] at hs
    rw [List.mem_singleton.1 hs]
    exact Nat.le_of_eq (Nat.zero_add _)

end Node

namespace Layout

/-! ## Boxes and links -/

section Exact

variable (config : LayoutConfig Rat) (highlighted : List String)

/-- The width of a column. -/
def pitch : Rat := config.nodeWidth + config.horizontalSpacing

/-- How far the box of a node is from the left end of its columns. -/
def inset (n : Node) : Rat :=
  match n with
  | .condition _ _ _ _ _ => n.columns * pitch config / 2 - config.nodeWidth / 2
  | _ => 0

/-- The box of a spot of a subtree that begins at a depth and a distance from the left. -/
def boxAt (depth : Nat) (left : Rat) (s : Node.Spot) : Box Rat where
  id := s.node.id
  kind := s.node.kind
  x := left + s.before * pitch config + inset config s.node + config.padding
  y := (depth + s.way.length : Nat) * (config.nodeHeight + config.verticalSpacing) + config.padding
  width := config.nodeWidth
  height := config.nodeHeight
  depth := depth + s.way.length
  onPath := highlighted.contains s.node.id

/-- The link from a box to one below it on a branch. -/
def linkOf (upper lower : Box Rat) (branch : Bool) : Link Rat where
  fromId := upper.id
  toId := lower.id
  fromX := upper.x + upper.width / 2
  fromY := upper.y + upper.height
  toX := lower.x + lower.width / 2
  toY := lower.y
  branch := branch
  onPath := upper.onPath && lower.onPath

/-- The links from a spot to those below it. -/
def linksAt (depth : Nat) (left : Rat) (s : Node.Spot) : List (Link Rat) :=
  s.children.map fun child =>
    linkOf (boxAt config highlighted depth left s) (boxAt config highlighted depth left child.2) child.1

variable {config highlighted}

/-- The box of a spot is the same whether it is seen from the top of a branch or from the condition above. -/
theorem boxAt_under (depth : Nat) (left : Rat) (branch : Bool) (columns : Nat) (s : Node.Spot) :
    boxAt config highlighted depth left (s.under branch columns) =
      boxAt config highlighted (depth + 1) (left + columns * pitch config) s := by
  have hdepth : depth + (branch :: s.way).length = depth + 1 + s.way.length := by
    rw [List.length_cons]
    omega
  have hx : left + (columns + s.before : Nat) * pitch config + inset config s.node + config.padding =
      left + columns * pitch config + s.before * pitch config + inset config s.node + config.padding := by
    push_cast
    ring
  simp only [boxAt, Node.Spot.under, hdepth, hx]

/-- The links below a branch are those of the branch, one deeper and as far to the right as the columns before it. -/
theorem linksAt_under (depth : Nat) (left : Rat) (branch : Bool) (columns : Nat) (s : Node.Spot) :
    linksAt config highlighted depth left (s.under branch columns) =
      linksAt config highlighted (depth + 1) (left + columns * pitch config) s := by
  simp only [linksAt, Node.Spot.children_under, List.map_map, Function.comp_def, boxAt_under]

theorem inset_single {n : Node}
    (hn : ∀ header c note whenTrue whenFalse, n = .condition header c note whenTrue whenFalse → False) : inset config n = 0 := by
  rw [inset]
  exact hn

/-! ## Exact arithmetic -/

theorem add_eq (x y : Rat) : Coordinate.add x y = .ok (x + y) := rfl

theorem sub_eq (x y : Rat) : Coordinate.sub x y = .ok (x - y) := rfl

theorem half_eq (x : Rat) : Coordinate.half x = .ok (x / 2) := rfl

/-- With exact coordinates a box is placed without fail. -/
theorem place_eq (n : Node) (depth : Nat) (left : Rat) :
    place config highlighted n depth left =
      .ok ⟨n.id, n.kind, left + config.padding, depth * (config.nodeHeight + config.verticalSpacing) + config.padding,
        config.nodeWidth, config.nodeHeight, depth, highlighted.contains n.id⟩ :=
  rfl

theorem connect_eq (upper lower : Box Rat) (branch : Bool) : connect upper lower branch = .ok (linkOf upper lower branch) :=
  rfl

/-! ## The layout of a tree -/

/-- A single box is placed at the left end of its column. -/
theorem place_single (n : Node) (depth : Nat) (left : Rat) (h : inset config n = 0) :
    place config highlighted n depth left = .ok (boxAt config highlighted depth left ⟨[], n, 0⟩) := by
  rw [place_eq]
  simp [boxAt, h]

/-- A condition is placed in the middle of its columns. -/
theorem place_middle (n : Node) (depth : Nat) (left : Rat)
    (h : inset config n = n.columns * pitch config / 2 - config.nodeWidth / 2) :
    place config highlighted n depth (left + n.columns * pitch config / 2 - config.nodeWidth / 2) =
      .ok (boxAt config highlighted depth left ⟨[], n, 0⟩) := by
  rw [place_eq]
  simp only [boxAt, h, List.length_nil, Nat.add_zero, Nat.cast_zero]
  congr 2
  ring

/-- The links of a condition lead to the boxes at the top of its branches. -/
theorem linksAt_condition (header : Header) (c : Condition) (note : Option String) (whenTrue whenFalse : Node) (depth : Nat)
    (left : Rat) :
    linksAt config highlighted depth left ⟨[], .condition header c note whenTrue whenFalse, 0⟩ =
      [linkOf (boxAt config highlighted depth left ⟨[], .condition header c note whenTrue whenFalse, 0⟩)
          (boxAt config highlighted (depth + 1) left ⟨[], whenFalse, 0⟩) false,
        linkOf (boxAt config highlighted depth left ⟨[], .condition header c note whenTrue whenFalse, 0⟩)
          (boxAt config highlighted (depth + 1) (left + whenFalse.columns * pitch config) ⟨[], whenTrue, 0⟩) true] := by
  have hfalse : boxAt config highlighted depth left ⟨[false], whenFalse, 0⟩ =
      boxAt config highlighted (depth + 1) left ⟨[], whenFalse, 0⟩ :=
    (boxAt_under depth left false 0 ⟨[], whenFalse, 0⟩).trans (by simp)
  have htrue : boxAt config highlighted depth left ⟨[true], whenTrue, whenFalse.columns⟩ =
      boxAt config highlighted (depth + 1) (left + whenFalse.columns * pitch config) ⟨[], whenTrue, 0⟩ :=
    boxAt_under depth left true whenFalse.columns ⟨[], whenTrue, 0⟩
  simp only [linksAt, Node.Spot.children, List.map_cons, List.map_nil, List.nil_append, Nat.add_zero, hfalse, htrue]

/-- A subtree takes its columns, and its boxes and links are those of its spots. -/
theorem subtree_eq (n : Node) : ∀ (depth : Nat) (left : Rat),
    subtree config highlighted depth left n =
      .ok ⟨boxAt config highlighted depth left ⟨[], n, 0⟩, n.columns * pitch config,
        n.spots.map (boxAt config highlighted depth left), n.spots.flatMap (linksAt config highlighted depth left)⟩ := by
  induction n using Node.spots.induct with
  | case1 header c note whenTrue whenFalse hfalse htrue =>
    intro depth left
    have hcolumns : whenFalse.columns * pitch config + whenTrue.columns * pitch config =
        ((Node.condition header c note whenTrue whenFalse).columns : Nat) * pitch config := by
      rw [Node.columns]
      push_cast
      ring
    simp only [subtree, hfalse, htrue, Except.ok_bind, add_eq, sub_eq, half_eq, connect_eq, hcolumns]
    rw [place_middle _ depth left rfl]
    simp only [Except.ok_bind, Node.spots, List.map_append, List.map_map, List.map_cons, List.map_nil, List.flatMap_append,
      List.flatMap_map, List.flatMap_cons, List.flatMap_nil, Function.comp_def, boxAt_under, linksAt_under, linksAt_condition,
      Nat.cast_zero, zero_mul, add_zero, List.append_nil]
    rfl
  | case2 n hn =>
    intro depth left
    rw [subtree, place_single n depth left (inset_single hn)]
    · simp only [Except.ok_bind, add_eq, Node.columns_single hn, Node.spots_single hn, List.map_cons, List.map_nil,
        List.flatMap_cons, List.flatMap_nil, linksAt, Node.children_single hn, List.append_nil, pitch, Nat.cast_one, one_mul]
      rfl
    · exact hn

/-- The layout of a tree has the boxes and links of its spots, and a canvas that goes beyond the outermost of them by the
padding. -/
theorem ofTree_eq (config : LayoutConfig Rat) (highlighted : List String) (tree : Node) :
    ofTree config highlighted tree =
      .ok ⟨tree.spots.map (boxAt config highlighted 0 0), tree.spots.flatMap (linksAt config highlighted 0 0),
        greatest (tree.spots.map fun s => (boxAt config highlighted 0 0 s).x + config.nodeWidth) + config.padding,
        greatest (tree.spots.map fun s => (boxAt config highlighted 0 0 s).y + config.nodeHeight) + config.padding⟩ := by
  have hright : ∀ boxes : List (Box Rat),
      (boxes.mapM fun b => Coordinate.add b.x b.width) = .ok (boxes.map fun b => b.x + b.width) :=
    fun boxes => Except.mapM_eq_ok_map fun _ _ => rfl
  have hbottom : ∀ boxes : List (Box Rat),
      (boxes.mapM fun b => Coordinate.add b.y b.height) = .ok (boxes.map fun b => b.y + b.height) :=
    fun boxes => Except.mapM_eq_ok_map fun _ _ => rfl
  have hzero : (Coordinate.zero : Rat) = 0 := rfl
  rw [ofTree, hzero, subtree_eq]
  simp only [Except.ok_bind, hright, hbottom]
  rw [List.map_map, List.map_map]
  rfl

end Exact

end Layout

end RegulatoryTrees
