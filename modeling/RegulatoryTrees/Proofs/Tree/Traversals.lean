import Mathlib.Logic.Function.Iterate
import RegulatoryTrees.Proofs.FirstOccurrences
import RegulatoryTrees.Proofs.Tree.Addresses

/-!
# What is collected from a walk

Each round of the walk takes the top node from the stack and puts its children there (`round`), so the nodes still to come get fewer
by one (`sizeAll_round`) and the outcome stays the same (`visit_round`): the walk ends after as many rounds as the tree has nodes
(`iterate_round_size`). It comes to every address once, in the order by recursion, and what is collected from the tree is collected in
that order (`walk_in_preorder`).
-/

namespace RegulatoryTrees

namespace Node

/-! ## Rounds -/

/-- A round of the walk, with the nodes visited, the last one first, and the stack: the top node is visited, and its children take
its place. -/
def round : List Node × List Node → List Node × List Node
  | (visited, n :: rest) => (n :: visited, n.children ++ rest)
  | (visited, []) => (visited, [])

/-- A tree has one node more than its children have together. -/
theorem size_eq (n : Node) : n.size = sizeAll n.children + 1 := by
  cases n <;> simp [size, sizeAll, children]

/-- Only an empty stack has no nodes. -/
theorem sizeAll_eq_zero {stack : List Node} : sizeAll stack = 0 ↔ stack = [] := by
  cases stack with
  | nil => simp [sizeAll]
  | cons n rest =>
    rw [sizeAll, size_eq]
    simp

/-- A round takes one node from those still to come. -/
theorem sizeAll_round (s : List Node × List Node) : sizeAll (round s).2 = sizeAll s.2 - 1 := by
  match s with
  | (visited, []) => rfl
  | (visited, n :: rest) =>
    rw [round, sizeAll_append, sizeAll, size_eq]
    omega

/-- A round does not change the outcome of the walk. -/
theorem visit_round (s : List Node × List Node) : visit (round s).1 (round s).2 = visit s.1 s.2 := by
  match s with
  | (visited, []) => rfl
  | (visited, n :: rest) => rw [round, visit.eq_2]

/-- Each round takes one node from the stack, until there are none. -/
theorem sizeAll_iterate_round (s : List Node × List Node) (k : Nat) : sizeAll (round^[k] s).2 = sizeAll s.2 - k := by
  induction k with
  | zero => rfl
  | succ k ih =>
    rw [Function.iterate_succ_apply', sizeAll_round, ih]
    omega

/-- No number of rounds changes the outcome of the walk. -/
theorem visit_iterate_round (s : List Node × List Node) (k : Nat) :
    visit (round^[k] s).1 (round^[k] s).2 = visit s.1 s.2 := by
  induction k with
  | zero => rfl
  | succ k ih => rw [Function.iterate_succ_apply', visit_round, ih]

/-- The walk of a tree ends after as many rounds as there are nodes, and not before. -/
theorem iterate_round_size (tree : Node) :
    round^[tree.size] ([], [tree]) = (tree.walk.reverse, []) ∧ ∀ k < tree.size, (round^[k] ([], [tree])).2 ≠ [] := by
  have hleft (k : Nat) : sizeAll (round^[k] ([], [tree])).2 = tree.size - k := sizeAll_iterate_round ([], [tree]) k
  constructor
  · have hempty : (round^[tree.size] ([], [tree])).2 = [] := sizeAll_eq_zero.1 ((hleft _).trans (Nat.sub_self _))
    have hvisited : (round^[tree.size] ([], [tree])).1.reverse = tree.walk := by
      have houtcome := visit_iterate_round ([], [tree]) tree.size
      rwa [hempty, visit] at houtcome
    exact Prod.ext (List.reverse_eq_iff.1 hvisited) hempty
  · intro k hk hempty
    have := hleft k
    rw [hempty, sizeAll] at this
    omega

/-! ## Trees of conditions and leaves -/

/-- Every node of a tree is a condition or a leaf. -/
def IsBinary : Node → Prop
  | .condition _ _ _ whenTrue whenFalse => IsBinary whenTrue ∧ IsBinary whenFalse
  | .leaf _ => True
  | .group _ _ _ _ | .router _ _ | .anchor _ _ _ => False

/-- A tree is of conditions and leaves if every node of its walk is one of them. -/
theorem isBinary_iff (n : Node) : n.IsBinary ↔ ∀ m ∈ n.walk, m.kind = .condition ∨ m.kind = .leaf := by
  rw [walk_eq_preorder]
  cases n with
  | condition header c note whenTrue whenFalse =>
    have htrue := isBinary_iff whenTrue
    have hfalse := isBinary_iff whenFalse
    rw [walk_eq_preorder] at htrue hfalse
    rw [IsBinary, htrue, hfalse, preorder, List.forall_mem_cons, List.forall_mem_append]
    exact (and_iff_right (Or.inl rfl)).symm
  | leaf l => simp [IsBinary, preorder, kind]
  | group _ _ _ _ | router _ _ | anchor _ _ _ =>
    refine ⟨False.elim, fun h => ?_⟩
    rw [preorder_eq] at h
    rcases h _ List.mem_cons_self with h | h <;> cases h

/-- A tree of conditions and leaves has one leaf more than conditions, as every condition joins two trees. -/
theorem countP_leaf_preorder {n : Node} (h : n.IsBinary) :
    (n.preorder.countP fun m => m.kind = .leaf) = (n.preorder.countP fun m => m.kind = .condition) + 1 := by
  match n with
  | .condition header c note whenTrue whenFalse =>
    have htrue := countP_leaf_preorder h.1
    have hfalse := countP_leaf_preorder h.2
    rw [preorder, List.countP_cons_of_neg (by simp [kind]), List.countP_cons_of_pos (by simp [kind]), List.countP_append,
      List.countP_append, htrue, hfalse]
    omega
  | .leaf l => rfl
  | .group _ _ _ _ | .router _ _ | .anchor _ _ _ => exact h.elim

/-- A tree of conditions and leaves has one leaf more than it has conditions. -/
theorem leaves_counts {tree : Node} (h : tree.IsBinary) : tree.counts.leaves = tree.counts.conditions + 1 := by
  have hleaves := tree.ofKind_counts .leaf
  have hconditions := tree.ofKind_counts .condition
  rw [walk_eq_preorder] at hleaves hconditions
  exact hleaves.trans ((countP_leaf_preorder h).trans (congrArg (· + 1) hconditions.symm))

/-! ## What is collected -/

/-- A node is the first one with an identifier among some nodes. -/
def IsFirstWith (id : String) (nodes : List Node) (n : Node) : Prop :=
  n.id = id ∧ ∃ before after, nodes = before ++ n :: after ∧ ∀ m ∈ before, m.id ≠ id

/-- What is found is the first node of the walk with the identifier. -/
theorem find?_eq_some_iff {tree n : Node} {id : String} : tree.find? id = some n ↔ IsFirstWith id tree.walk n := by
  rw [find?, List.find?_eq_some_iff_append, IsFirstWith]
  simp

/-- Nothing is found only if no node has the identifier. -/
theorem find?_eq_none_iff {tree : Node} {id : String} : tree.find? id = none ↔ id ∉ tree.ids := by
  rw [find?, ids, List.find?_eq_none]
  simp

/-- The fact paths are listed in the order in which the walk meets them first. -/
theorem listsFirsts_factPaths (tree : Node) : ListsFirsts factPath? tree.walk tree.factPaths :=
  listsFirsts_eraseDups factPath? tree.walk

/-- As many nodes are counted as there are identifiers in the walk, repeated ones included. -/
theorem total_counts_eq_length_ids (tree : Node) : tree.counts.total = tree.ids.length := by
  rw [total_counts, ids, List.length_map]

/-- The walk with a stack ends after as many rounds as there are nodes and has then come to every address of the tree once, in the
order by recursion. So all nodes are counted as often as identifiers are listed, each under its kind; the fact paths are listed in the
order of the first conditions that ask for them; the node found by an identifier is the first one with it, and none is found exactly
if no node has it; and a tree of conditions and leaves has one leaf more than conditions. -/
theorem walk_in_preorder (tree : Node) :
    (round^[tree.size] ([], [tree]) = (tree.walk.reverse, []) ∧ (∀ k < tree.size, (round^[k] ([], [tree])).2 ≠ []) ∧
      tree.walk = tree.preorder ∧ tree.addresses.Nodup ∧ (∀ address, address ∈ tree.addresses ↔ (tree.at? address).isSome) ∧
      tree.addresses.map tree.at? = tree.walk.map some) ∧
    (tree.counts.total = tree.ids.length ∧
      ∀ kind, tree.counts.ofKind kind = tree.preorder.countP fun n => n.kind = kind) ∧
    ListsFirsts factPath? tree.preorder tree.factPaths ∧
    (∀ id, (∀ n, tree.find? id = some n ↔ IsFirstWith id tree.preorder n) ∧ (tree.find? id = none ↔ id ∉ tree.ids)) ∧
    (tree.IsBinary → tree.counts.leaves = tree.counts.conditions + 1) := by
  obtain ⟨hends, hgoes⟩ := iterate_round_size tree
  refine ⟨⟨hends, hgoes, tree.walk_eq_preorder, tree.nodup_addresses, fun _ => mem_addresses, tree.map_at?_addresses⟩, ?_⟩
  rw [← walk_eq_preorder]
  exact ⟨⟨tree.total_counts_eq_length_ids, tree.ofKind_counts⟩, tree.listsFirsts_factPaths,
    fun _ => ⟨fun _ => find?_eq_some_iff, find?_eq_none_iff⟩, leaves_counts⟩

/-- The walk of the tree that asks for a licence and its kind: five rounds, two conditions and so three leaves. -/
theorem walk_in_preorder_licence :
    Licence.tree.IsBinary ∧ Licence.tree.counts.conditions = 2 ∧ Licence.tree.counts.leaves = 3 ∧
      round^[5] ([], [Licence.tree]) = (Licence.tree.walk.reverse, []) ∧
      Licence.tree.ids = ["licensed", "unlimited", "trade", "limit", "stop"] ∧
      ListsFirsts factPath? Licence.tree.preorder Licence.tree.factPaths ∧ Licence.tree.find? "licence" = none := by
  obtain ⟨⟨hends, -⟩, -, hpaths, hfind, hleaves⟩ := walk_in_preorder Licence.tree
  have hbinary : Licence.tree.IsBinary := ⟨⟨trivial, trivial⟩, trivial⟩
  have hids : Licence.tree.ids = ["licensed", "unlimited", "trade", "limit", "stop"] := by
    rw [ids, walk_eq_preorder]
    rfl
  have hconditions : Licence.tree.counts.conditions = 2 := by
    rw [counts, walk_eq_preorder]
    rfl
  refine ⟨hbinary, hconditions, ?_, hends, hids, hpaths, (hfind "licence").2.2 ?_⟩
  · rw [hleaves hbinary, hconditions]
  · rw [hids]
    decide

end Node

end RegulatoryTrees
