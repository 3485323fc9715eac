import Mathlib.Data.List.Forall2
import RegulatoryTrees.Proofs.Layout.Exact

/-!
# The links of a layout

A link is drawn for each branch of a condition, from the box of the condition to that of the node below it (`draws_ofTree`). The
branches are told apart by the way to their condition and the answer for which they are taken (`Node.mem_forks`,
`Node.nodup_forks`), so that two nodes with one identifier do not mix up their links.
-/

namespace RegulatoryTrees

namespace Node

/-- The branches that are drawn, each with the spots of its ends, in the order of the conditions above them. -/
def arms (n : Node) : List (Spot × Bool × Spot) := n.spots.flatMap fun s => s.children.map fun child => (s, child)

/-- The branches that are drawn, each by the way to its condition and the answer for which it is taken. -/
def forks (n : Node) : List (List Bool × Bool) := n.arms.map fun arm => (arm.1.way, arm.2.1)

namespace Spot

/-- The nodes below a condition are the two that its branches lead to. -/
theorem mem_children {s : Spot} {child : Bool × Spot} :
    child ∈ s.children ↔ ∃ header c note whenTrue whenFalse, s.node = .condition header c note whenTrue whenFalse ∧
      (child = (false, ⟨s.way ++ [false], whenFalse, s.before⟩) ∨
        child = (true, ⟨s.way ++ [true], whenTrue, whenFalse.columns + s.before⟩)) := by
  obtain ⟨way, n, before⟩ := s
  cases n with
  | condition header c note whenTrue whenFalse =>
    simp only [children, List.mem_pair]
    constructor
    · exact fun h => ⟨header, c, note, whenTrue, whenFalse, rfl, h⟩
    · rintro ⟨_, _, _, _, _, ⟨⟩, h⟩
      exact h
  | leaf | group | router | anchor => simp [children]

/-- A node below a condition is one branch further on. -/
theorem way_of_mem_children {s : Spot} {child : Bool × Spot} (h : child ∈ s.children) :
    child.2.way = s.way ++ [child.1] := by
  obtain ⟨_, _, _, _, _, -, rfl | rfl⟩ := mem_children.1 h <;> rfl

/-- A condition has one branch for each answer. -/
theorem nodup_children (s : Spot) : (s.children.map Prod.fst).Nodup := by
  unfold children
  split
  · exact List.nodup_cons.2 ⟨by simp, List.nodup_singleton true⟩
  · exact List.nodup_nil

end Spot

/-- An arm is a spot with one of its children. -/
theorem mem_arms {n : Node} {arm : Spot × Bool × Spot} : arm ∈ n.arms ↔ arm.1 ∈ n.spots ∧ arm.2 ∈ arm.1.children := by
  obtain ⟨s, child⟩ := arm
  simp only [arms, List.mem_flatMap, List.mem_map, Prod.mk.injEq]
  constructor
  · rintro ⟨_, hs, _, hchild, rfl, rfl⟩
    exact ⟨hs, hchild⟩
  · exact fun ⟨hs, hchild⟩ => ⟨s, hs, child, hchild, rfl, rfl⟩

/-- The nodes below those that are drawn are drawn. -/
theorem mem_spots_of_mem_children (n : Node) : ∀ s ∈ n.spots, ∀ child ∈ s.children, child.2 ∈ n.spots := by
  induction n using spots.induct with
  | case1 header c note whenTrue whenFalse hfalse htrue =>
    intro s hs child hchild
    rw [mem_spots_condition] at hs
    rcases hs with ⟨s, hs, rfl⟩ | ⟨s, hs, rfl⟩ | rfl
    · rw [Spot.children_under] at hchild
      obtain ⟨below, hbelow, rfl⟩ := List.mem_map.1 hchild
      exact mem_spots_condition.2 (.inl ⟨below.2, hfalse s hs below hbelow, rfl⟩)
    · rw [Spot.children_under] at hchild
      obtain ⟨below, hbelow, rfl⟩ := List.mem_map.1 hchild
      exact mem_spots_condition.2 (.inr (.inl ⟨below.2, htrue s hs below hbelow, rfl⟩))
    · rcases List.mem_pair.1 hchild with rfl | rfl
      · exact mem_spots_condition.2 (.inl ⟨_, mem_spots_self whenFalse, rfl⟩)
      · exact mem_spots_condition.2 (.inr (.inl ⟨_, mem_spots_self whenTrue, rfl⟩))
  | case2 n hn =>
    intro s hs child hchild
    rw [spots_single hn] at hs
    rw [List.mem_singleton.1 hs, children_single hn] at hchild
    cases hchild

/-- A branch is drawn exactly if it leads to a node. -/
theorem mem_forks {n : Node} {way : List Bool} {branch : Bool} :
    (way, branch) ∈ n.forks ↔ (n.along? (way ++ [branch])).isSome := by
  constructor
  · intro h
    obtain ⟨⟨s, child⟩, harm, heq⟩ := List.mem_map.1 h
    obtain ⟨rfl, rfl⟩ := Prod.mk.inj heq
    obtain ⟨hs, hchild⟩ := mem_arms.1 harm
    rw [← Spot.way_of_mem_children hchild, along?_of_mem_spots n _ (mem_spots_of_mem_children n s hs child hchild)]
    rfl
  · intro h
    rw [along?_append, Option.isSome_bind, Option.any_eq_true] at h
    obtain ⟨m, hm, hbranch⟩ := h
    obtain ⟨s, hs, rfl⟩ := List.mem_map.1 (mem_ways_of_along? hm)
    obtain rfl : s.node = m := Option.some.inj ((along?_of_mem_spots n s hs).symm.trans hm)
    have hchild : ∃ child ∈ s.children, child.1 = branch := by
      cases hnode : s.node with
      | condition header c note whenTrue whenFalse =>
        cases branch
        · exact ⟨_, Spot.mem_children.2 ⟨_, _, _, _, _, hnode, .inl rfl⟩, rfl⟩
        · exact ⟨_, Spot.mem_children.2 ⟨_, _, _, _, _, hnode, .inr rfl⟩, rfl⟩
      | leaf | group | router | anchor =>
        rw [hnode] at hbranch
        cases hbranch
    obtain ⟨child, hchild, rfl⟩ := hchild
    exact List.mem_map.2 ⟨(s, child), mem_arms.2 ⟨hs, hchild⟩, rfl⟩

/-- No branch is drawn twice. -/
theorem nodup_forks (n : Node) : n.forks.Nodup := by
  rw [forks, arms, List.map_flatMap, List.nodup_flatMap]
  constructor
  · intro s _
    rw [List.map_map]
    exact List.Nodup.of_map Prod.snd (by simpa [List.map_map, Function.comp_def] using s.nodup_children)
  · refine (List.pairwise_map.1 n.nodup_ways).imp fun {s t} hne => List.disjoint_left.2 fun {fork} hs ht => ?_
    simp only [List.mem_map] at hs ht
    obtain ⟨_, ⟨_, -, rfl⟩, rfl⟩ := hs
    obtain ⟨_, ⟨_, -, rfl⟩, heq⟩ := ht
    exact hne (Prod.mk.inj heq).1.symm

end Node

namespace Layout

/-- A layout draws a tree: it has a box for each node that branches lead to, at the depth of so many branches, and for each branch
the link between the boxes of its ends. -/
structure Draws (l : Layout Rat) (tree : Node) : Prop where
  boxes : List.Forall₂ (fun way b => ∃ n, tree.along? way = some n ∧ b.id = n.id ∧ b.kind = n.kind ∧ b.depth = way.length)
    tree.ways l.boxes
  links : List.Forall₂ (fun fork k => ∃ upper lower, (fork.1, upper) ∈ tree.ways.zip l.boxes ∧
    (fork.1 ++ [fork.2], lower) ∈ tree.ways.zip l.boxes ∧ k = linkOf upper lower fork.2) tree.forks l.links

variable {config : LayoutConfig Rat} {highlighted : List String}

/-- The links from the spots of a tree are those of its branches. -/
theorem flatMap_linksAt (n : Node) (depth : Nat) (left : Rat) :
    n.spots.flatMap (linksAt config highlighted depth left) =
      n.arms.map fun arm =>
        linkOf (boxAt config highlighted depth left arm.1) (boxAt config highlighted depth left arm.2.2) arm.2.1 := by
  rw [Node.arms, List.map_flatMap]
  simp only [List.map_map]
  rfl

/-- The boxes of the spots of a tree are those of the nodes that branches lead to. -/
theorem forall₂_boxAt (tree : Node) :
    List.Forall₂ (fun way b => ∃ n, tree.along? way = some n ∧ b.id = n.id ∧ b.kind = n.kind ∧ b.depth = way.length)
      tree.ways (tree.spots.map (boxAt config highlighted 0 0)) := by
  rw [Node.ways, List.forall₂_map_left_iff, List.forall₂_map_right_iff, List.forall₂_same]
  intro s hs
  exact ⟨s.node, tree.along?_of_mem_spots s hs, rfl, rfl, Nat.zero_add _⟩

/-- The ways to the nodes drawn, each with its box. -/
theorem zip_ways_boxAt (tree : Node) :
    tree.ways.zip (tree.spots.map (boxAt config highlighted 0 0)) =
      tree.spots.map fun s => (s.way, boxAt config highlighted 0 0 s) :=
  List.zip_map' ..

/-- The layout of a tree draws it. -/
theorem draws_ofTree {tree : Node} {l : Layout Rat} (h : ofTree config highlighted tree = .ok l) : l.Draws tree := by
  rw [ofTree_eq] at h
  cases h
  refine ⟨forall₂_boxAt tree, ?_⟩
  have hbox : ∀ s ∈ tree.spots, (s.way, boxAt config highlighted 0 0 s) ∈
      tree.ways.zip (tree.spots.map (boxAt config highlighted 0 0)) := by
    intro s hs
    rw [zip_ways_boxAt]
    exact List.mem_map_of_mem hs
  simp only [flatMap_linksAt]
  rw [Node.forks, List.forall₂_map_left_iff, List.forall₂_map_right_iff, List.forall₂_same]
  intro arm harm
  obtain ⟨hs, hchild⟩ := Node.mem_arms.1 harm
  refine ⟨_, _, hbox _ hs, ?_, rfl⟩
  rw [← Node.Spot.way_of_mem_children hchild]
  exact hbox _ (tree.mem_spots_of_mem_children _ hs _ hchild)

end Layout

end RegulatoryTrees
