import Mathlib.Data.List.Basic
import RegulatoryTrees.Tree.Walk

/-!
# The walk is the order by recursion

`walk` keeps the nodes still to be visited on a stack, `preorder` recurses: here, that both list the same nodes in the same
order (`walk_eq_preorder`), and which conditions a tree holds.
-/

namespace RegulatoryTrees

namespace Node

/-- The nodes of two lists of trees are those of the first and then those of the second. -/
theorem preorderAll_append (xs ys : List Node) : preorderAll (xs ++ ys) = preorderAll xs ++ preorderAll ys := by
  induction xs with
  | nil => rfl
  | cons x xs ih => simp only [List.cons_append, preorderAll, ih, List.append_assoc]

/-- A node comes before the nodes below it, child by child. -/
theorem preorder_eq (n : Node) : n.preorder = n :: preorderAll n.children := by
  cases n <;> simp [preorder, preorderAll, children]

/-- Visiting a stack adds the nodes of its trees, in the order of the stack. By induction on the number of nodes on the stack,
which shrinks by the node that is visited. -/
theorem visit_eq (visited stack : List Node) : visit visited stack = visited.reverse ++ preorderAll stack := by
  induction hn : sizeAll stack using Nat.strongRecOn generalizing visited stack with
  | ind size ih =>
    cases stack with
    | nil => simp [visit, preorderAll]
    | cons n rest =>
      have hlt : sizeAll (n.children ++ rest) < size := by
        have := sizeAll_children_lt n
        rw [sizeAll_append, ← hn, sizeAll]
        omega
      rw [visit, ih _ hlt _ _ rfl, preorderAll_append, preorderAll, preorder_eq]
      simp

/-- The walk lists the nodes of a tree in the order by recursion. -/
theorem walk_eq_preorder (tree : Node) : tree.walk = tree.preorder := by
  simp [walk, visit_eq, preorderAll]

/-- The root of a tree is a node of it. -/
theorem mem_walk_self (tree : Node) : tree ∈ tree.walk := by
  rw [walk_eq_preorder, preorder_eq]
  exact List.mem_cons_self

mutual

/-- What lies below a node that lies below another one lies below that one. -/
theorem mem_preorder_trans {n m : Node} (hm : m ∈ n.preorder) (tree : Node) (hn : n ∈ tree.preorder) :
    m ∈ tree.preorder := by
  rw [preorder_eq] at hn
  rcases List.mem_cons.1 hn with rfl | hn
  · exact hm
  · rw [preorder_eq]
    refine List.mem_cons_of_mem tree ?_
    match tree with
    | .condition _ _ _ whenTrue whenFalse =>
      simp only [children, preorderAll, List.append_nil, List.mem_append] at hn ⊢
      exact hn.imp (mem_preorder_trans hm whenTrue) (mem_preorder_trans hm whenFalse)
    | .group _ members _ _ => exact mem_preorderAll_trans hm members hn
    | .leaf _ | .router _ _ | .anchor _ _ _ => exact absurd hn List.not_mem_nil

/-- What lies below a node of some trees is a node of them. -/
theorem mem_preorderAll_trans {n m : Node} (hm : m ∈ n.preorder) (trees : List Node) (hn : n ∈ preorderAll trees) :
    m ∈ preorderAll trees := by
  match trees with
  | [] => exact absurd hn List.not_mem_nil
  | tree :: rest =>
    rw [preorderAll, List.mem_append] at hn ⊢
    exact hn.imp (mem_preorder_trans hm tree) (mem_preorderAll_trans hm rest)

end

/-- The nodes below a node of a tree are nodes of the tree. -/
theorem mem_walk_trans {tree n m : Node} (hn : n ∈ tree.walk) (hm : m ∈ n.walk) : m ∈ tree.walk := by
  rw [walk_eq_preorder] at hn hm ⊢
  exact mem_preorder_trans hm tree hn

/-- The children of a node are nodes of its tree. -/
theorem mem_walk_of_mem_children {n m : Node} (h : m ∈ n.children) : m ∈ n.walk := by
  rw [walk_eq_preorder, preorder_eq]
  refine List.mem_cons_of_mem n ?_
  generalize n.children = ns at h
  induction ns with
  | nil => exact absurd h List.not_mem_nil
  | cons first rest ih =>
    rw [preorderAll, List.mem_append]
    rcases List.mem_cons.1 h with rfl | h
    · exact Or.inl (walk_eq_preorder m ▸ mem_walk_self m)
    · exact Or.inr (ih h)

/-- The nodes below a child of a node are nodes of its tree. -/
theorem mem_walk_of_child {tree child n : Node} (h : child ∈ tree.children) (hn : n ∈ child.walk) : n ∈ tree.walk :=
  mem_walk_trans (mem_walk_of_mem_children h) hn

/-- The condition of a node, if it is one. -/
def condition? : Node → Option Condition
  | .condition _ c _ _ _ => some c
  | _ => none

/-- The conditions of a tree, in the order of the walk. -/
def conditions (tree : Node) : List Condition := tree.walk.filterMap condition?

/-- The conditions of a tree are those of the nodes of its walk. -/
theorem mem_conditions {tree : Node} {c : Condition} : c ∈ tree.conditions ↔ ∃ n ∈ tree.walk, n.condition? = some c :=
  List.mem_filterMap

/-- The condition at the root of a tree is one of its conditions. -/
theorem mem_conditions_self (header : Header) (c : Condition) (note : Option String) (whenTrue whenFalse : Node) :
    c ∈ (Node.condition header c note whenTrue whenFalse).conditions :=
  mem_conditions.2 ⟨_, mem_walk_self _, rfl⟩

/-- The conditions below a node of a tree are conditions of the tree. -/
theorem mem_conditions_of_mem_walk {tree n : Node} (h : n ∈ tree.walk) {c : Condition} (hc : c ∈ n.conditions) :
    c ∈ tree.conditions := by
  obtain ⟨m, hm, hc⟩ := mem_conditions.1 hc
  exact mem_conditions.2 ⟨m, mem_walk_trans h hm, hc⟩

/-- The conditions below a child of a node are conditions of its tree. -/
theorem mem_conditions_of_child {tree child : Node} (h : child ∈ tree.children) {c : Condition} (hc : c ∈ child.conditions) :
    c ∈ tree.conditions :=
  mem_conditions_of_mem_walk (mem_walk_of_mem_children h) hc

/-- The fact paths of a tree are those of its conditions. -/
theorem mem_factPaths {tree : Node} {path : String} : path ∈ tree.factPaths ↔ ∃ c ∈ tree.conditions, c.fact = path := by
  have hpath : ∀ n : Node, n.factPath? = n.condition?.map Condition.fact := fun n => by cases n <;> rfl
  rw [factPaths, List.mem_eraseDups, funext hpath, conditions, ← List.map_filterMap]
  exact List.mem_map

end Node

/-! ## A small tree -/

namespace Licence

/-- A header that is an identifier only. -/
def header (id : String) : Header := ⟨id, none, none, [], none⟩

/-- A leaf whose decision is its identifier. -/
def leaf (id : String) (status : Status) : Leaf := ⟨header id, id, status, [], none⟩

/-- A tree that asks for a licence and then for its kind. -/
def tree : Node :=
  .condition (header "licensed") ⟨"licence", "some?", .null⟩ none
    (.condition (header "unlimited") ⟨"kind", "eq", .text "full"⟩ none
      (.leaf (leaf "trade" .compliant)) (.leaf (leaf "limit" .requiresAction)))
    (.leaf (leaf "stop" .blocked))

theorem conditions_tree : tree.conditions = [⟨"licence", "some?", .null⟩, ⟨"kind", "eq", .text "full"⟩] := by
  rw [Node.conditions, Node.walk_eq_preorder]
  rfl

end Licence

end RegulatoryTrees
