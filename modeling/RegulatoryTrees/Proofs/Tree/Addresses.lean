import Mathlib.Data.List.Forall2
import Mathlib.Data.List.Nodup
import RegulatoryTrees.Proofs.Tree.Walk

/-!
# Where the nodes of a tree are

A node of a tree is at an address: the numbers of the children on the way to it. One node may occur at several addresses, and each of
them is a step of the walk of its own (`map_at?_addresses`): no address is listed twice, and all at which there are nodes are listed.
-/

namespace RegulatoryTrees

namespace Node

/-! ## Children -/

/-- A tree among others has no more nodes than all of them. -/
theorem size_le_sizeAll {m : Node} {ns : List Node} (h : m ∈ ns) : m.size ≤ sizeAll ns := by
  induction ns with
  | nil => exact absurd h List.not_mem_nil
  | cons n rest ih =>
    rw [sizeAll]
    rcases List.mem_cons.1 h with rfl | h
    · exact Nat.le_add_right _ _
    · exact Nat.le_trans (ih h) (Nat.le_add_left _ _)

/-- What holds of each node of whose children it holds is true of all nodes. -/
theorem of_children {motive : Node → Prop} (node : ∀ n : Node, (∀ m ∈ n.children, motive m) → motive n) (n : Node) :
    motive n := by
  induction hsize : n.size using Nat.strongRecOn generalizing n with
  | ind size ih =>
    refine node n fun m hm => ih m.size ?_ m rfl
    rw [← hsize]
    exact Nat.lt_of_le_of_lt (size_le_sizeAll hm) (sizeAll_children_lt n)

/-- The nodes of some trees are those of each, one tree after the other. -/
theorem preorderAll_eq_flatMap (ns : List Node) : preorderAll ns = ns.flatMap preorder := by
  induction ns with
  | nil => rfl
  | cons n rest ih => rw [preorderAll, ih, List.flatMap_cons]

/-- The nodes of a tree are its root and the nodes of its children. -/
theorem preorder_eq_flatMap (n : Node) : n.preorder = n :: n.children.flatMap preorder := by
  rw [preorder_eq, preorderAll_eq_flatMap]

/-- What lies at and below a node of a tree follows in one stretch of its walk. -/
theorem preorder_infix {n m : Node} (h : m ∈ n.preorder) : m.preorder <:+: n.preorder := by
  induction n using of_children with
  | node n ih =>
    rw [preorder_eq_flatMap] at h
    rcases List.mem_cons.1 h with rfl | h
    · exact List.infix_refl _
    · obtain ⟨child, hchild, hm⟩ := List.mem_flatMap.1 h
      rw [n.preorder_eq_flatMap]
      exact List.infix_cons ((ih child hchild hm).trans (List.infix_flatMap_of_mem hchild preorder))

/-! ## Addresses -/

/-- The node at an address. -/
def at? : Node → List Nat → Option Node
  | n, [] => some n
  | n, i :: rest => n.children[i]?.bind (at? · rest)

mutual

/-- The addresses of the nodes of a tree, in the order of the walk. -/
def addresses : Node → List (List Nat)
  | .condition _ _ _ whenTrue whenFalse => [] :: ((addresses whenTrue).map (0 :: ·) ++ (addresses whenFalse).map (1 :: ·))
  | .group _ members _ _ => [] :: addressesFrom 0 members
  | .leaf _ | .router _ _ | .anchor _ _ _ => [[]]

/-- The addresses of the nodes of some trees, which are numbered from some number on. -/
def addressesFrom (i : Nat) : List Node → List (List Nat)
  | [] => []
  | n :: rest => (addresses n).map (i :: ·) ++ addressesFrom (i + 1) rest

end

/-- The addresses in some children are those of each, after its index. -/
theorem addressesFrom_eq (i : Nat) (ns : List Node) :
    addressesFrom i ns = (ns.zipIdx i).flatMap fun child => child.1.addresses.map (child.2 :: ·) := by
  induction ns generalizing i with
  | nil => rfl
  | cons n rest ih => rw [addressesFrom, ih, List.zipIdx_cons, List.flatMap_cons]

/-- The addresses of a tree are the empty one and, after the index of each child, those of the child. -/
theorem addresses_eq (n : Node) :
    n.addresses = [] :: n.children.zipIdx.flatMap fun child => child.1.addresses.map (child.2 :: ·) := by
  cases n with
  | condition => simp [addresses, children]
  | group => rw [addresses, addressesFrom_eq, children]
  | leaf | router | anchor => rfl

/-- The first address is the empty one, which is that of the root. -/
theorem addresses_eq_cons_tail (n : Node) : n.addresses = [] :: n.addresses.tail := by
  rw [addresses_eq, List.tail_cons]

/-- An address leads by its first index to a child and from there on by the rest. -/
theorem at?_cons {n child : Node} {i : Nat} (h : n.children[i]? = some child) (address : List Nat) :
    n.at? (i :: address) = child.at? address := by
  rw [at?, h, Option.bind_some]

/-- Each child of a node is at its number. -/
theorem at?_concat (n : Node) (address : List Nat) (i : Nat) :
    n.at? (address ++ [i]) = (n.at? address).bind fun parent => parent.children[i]? := by
  induction address generalizing n with
  | nil =>
    rw [List.nil_append, at?, at?, Option.bind_some]
    exact Option.bind_fun_some _
  | cons j rest ih =>
    rw [List.cons_append, at?, at?]
    cases n.children[j]? with
    | none => rfl
    | some child => exact ih child

/-! ## The walk by addresses -/

/-- At the addresses of a tree are the nodes of its walk, in the same order. -/
theorem map_at?_addresses (n : Node) : n.addresses.map n.at? = n.walk.map some := by
  rw [walk_eq_preorder]
  induction n using of_children with
  | node n ih =>
    have hbelow : ∀ child ∈ n.children.zipIdx,
        (child.1.addresses.map fun address => n.at? (child.2 :: address)) = child.1.preorder.map some := by
      intro child hchild
      have hmem := List.mem_zipIdx_iff_getElem?.1 hchild
      rw [← ih child.1 (List.mem_of_getElem? hmem)]
      exact List.map_congr_left fun address _ => at?_cons hmem address
    rw [addresses_eq, preorder_eq_flatMap, List.map_cons, List.map_cons, List.map_flatMap, List.map_flatMap, at?]
    simp only [List.map_map, Function.comp_def]
    rw [List.flatMap_congr hbelow]
    conv_rhs => rw [← List.zipIdx_map_fst 0 n.children, List.flatMap_map]

/-- There are as many addresses as nodes. -/
theorem length_addresses (n : Node) : n.addresses.length = n.walk.length := by
  rw [← List.length_map n.at?, map_at?_addresses, List.length_map]

/-- All addresses of nodes are listed. -/
theorem mem_addresses {n : Node} {address : List Nat} : address ∈ n.addresses ↔ (n.at? address).isSome := by
  constructor
  · intro h
    have hat := List.mem_map_of_mem (f := n.at?) h
    rw [map_at?_addresses] at hat
    obtain ⟨m, -, hm⟩ := List.mem_map.1 hat
    rw [← hm, Option.isSome_some]
  · intro h
    induction address generalizing n with
    | nil =>
      rw [addresses_eq]
      exact List.mem_cons_self
    | cons i rest ih =>
      obtain ⟨m, hm⟩ := Option.isSome_iff_exists.1 h
      obtain ⟨child, hchild, hm⟩ := Option.bind_eq_some_iff.1 hm
      rw [addresses_eq]
      refine List.mem_cons_of_mem _ (List.mem_flatMap.2 ⟨(child, i), List.mem_zipIdx_iff_getElem?.2 hchild, ?_⟩)
      exact List.mem_map_of_mem (ih (Option.isSome_iff_exists.2 ⟨m, hm⟩))

/-- No address is listed twice. -/
theorem nodup_addresses (n : Node) : n.addresses.Nodup := by
  induction n using of_children with
  | node n ih =>
    rw [addresses_eq, List.nodup_cons, List.nodup_flatMap]
    refine ⟨?_, ?_, ?_⟩
    · intro hmem
      obtain ⟨child, -, hmem⟩ := List.mem_flatMap.1 hmem
      obtain ⟨address, -, heq⟩ := List.mem_map.1 hmem
      exact List.cons_ne_nil _ _ heq
    · intro child hchild
      exact (ih child.1 (List.mem_of_getElem? (List.mem_zipIdx_iff_getElem?.1 hchild))).map fun _ _ heq => (List.cons.inj heq).2
    · have hnumbers : (n.children.zipIdx.map Prod.snd).Nodup := by
        rw [List.zipIdx_map_snd]
        exact List.nodup_range'
      refine (List.pairwise_map.1 hnumbers).imp fun hne address hmem hmem' => hne ?_
      obtain ⟨rest, -, rfl⟩ := List.mem_map.1 hmem
      obtain ⟨rest', -, heq⟩ := List.mem_map.1 hmem'
      exact (List.cons.inj heq).1.symm

end Node

/-! ## Counting nodes -/

namespace NodeCounts

/-- The number of nodes of a kind. -/
def ofKind (c : NodeCounts) : NodeKind → Nat
  | .condition => c.conditions
  | .leaf => c.leaves
  | .group => c.groups
  | .router => c.routers
  | .anchor => c.anchors

/-- Counting a node adds one to the count of its kind and nothing to the others. -/
theorem ofKind_add (c : NodeCounts) (kind k : NodeKind) : (c.add kind).ofKind k = c.ofKind k + if kind = k then 1 else 0 := by
  cases kind <;> cases k <;> rfl

theorem total_add (c : NodeCounts) (kind : NodeKind) : (c.add kind).total = c.total + 1 := by
  cases kind <;> simp only [add, total] <;> omega

end NodeCounts

namespace Node

/-- The count of a kind is the number of nodes of that kind in the walk. -/
theorem ofKind_counts (tree : Node) (k : NodeKind) : tree.counts.ofKind k = tree.walk.countP fun n => n.kind = k := by
  have hfold (ns : List Node) (c : NodeCounts) :
      (ns.foldl (fun c n => c.add n.kind) c).ofKind k = c.ofKind k + ns.countP fun n => n.kind = k := by
    induction ns generalizing c with
    | nil => rfl
    | cons n rest ih =>
      rw [List.foldl_cons, ih, NodeCounts.ofKind_add, List.countP_cons]
      simp only [decide_eq_true_eq]
      omega
  have hzero : NodeCounts.ofKind {} k = 0 := by cases k <;> rfl
  rw [counts, hfold, hzero, Nat.zero_add]

/-- All nodes of the walk are counted. -/
theorem total_counts (tree : Node) : tree.counts.total = tree.walk.length := by
  have hfold (ns : List Node) (c : NodeCounts) : (ns.foldl (fun c n => c.add n.kind) c).total = c.total + ns.length := by
    induction ns generalizing c with
    | nil => rfl
    | cons n rest ih =>
      rw [List.foldl_cons, ih, NodeCounts.total_add, List.length_cons]
      omega
  rw [counts, hfold]
  exact Nat.zero_add _

end Node

end RegulatoryTrees
