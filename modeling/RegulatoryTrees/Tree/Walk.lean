import RegulatoryTrees.Tree
import RegulatoryTrees.Text.Case

/-!
# Walking through a tree

All nodes of a tree, each before the nodes below it. `preorder` is the order by recursion and `walk` the same order from a
stack of nodes still to be visited, which needs no depth of recursion; what is collected from a tree is collected from `walk`.
-/

namespace RegulatoryTrees

namespace Node

mutual

/-- The number of nodes of a tree. -/
def size : Node → Nat
  | .condition _ _ _ whenTrue whenFalse => size whenTrue + size whenFalse + 1
  | .group _ members _ _ => sizeAll members + 1
  | .leaf _ | .router _ _ | .anchor _ _ _ => 1

/-- The number of nodes of some trees. -/
def sizeAll : List Node → Nat
  | [] => 0
  | n :: rest => size n + sizeAll rest

end

mutual

/-- The nodes of a tree, each before the nodes below it. -/
def preorder : Node → List Node
  | n@(.condition _ _ _ whenTrue whenFalse) => n :: (preorder whenTrue ++ preorder whenFalse)
  | n@(.group _ members _ _) => n :: preorderAll members
  | n => [n]

/-- The nodes of some trees, one tree after the other. -/
def preorderAll : List Node → List Node
  | [] => []
  | n :: rest => preorder n ++ preorderAll rest

end

theorem sizeAll_append (xs ys : List Node) : sizeAll (xs ++ ys) = sizeAll xs + sizeAll ys := by
  induction xs with
  | nil => simp [sizeAll]
  | cons x xs ih => simp [sizeAll, ih, Nat.add_assoc]

theorem sizeAll_children_lt (n : Node) : sizeAll n.children < size n := by
  cases n <;> simp [children, size, sizeAll]

/-- The nodes of the trees on a stack, the top one first, added to those already visited, the last one first. -/
def visit (visited : List Node) (stack : List Node) : List Node :=
  match stack with
  | [] => visited.reverse
  | n :: rest => visit (n :: visited) (n.children ++ rest)
termination_by sizeAll stack
decreasing_by
  rw [sizeAll_append, sizeAll]
  have := sizeAll_children_lt n
  omega

/-- The nodes of a tree in the order in which they are visited. -/
def walk (tree : Node) : List Node := visit [] [tree]

end Node

/-- The number of nodes of each kind. -/
structure NodeCounts where
  conditions : Nat := 0
  leaves : Nat := 0
  groups : Nat := 0
  routers : Nat := 0
  anchors : Nat := 0
  deriving DecidableEq

namespace NodeCounts

/-- One more node of a kind. -/
def add (c : NodeCounts) : NodeKind → NodeCounts
  | .condition => { c with conditions := c.conditions + 1 }
  | .leaf => { c with leaves := c.leaves + 1 }
  | .group => { c with groups := c.groups + 1 }
  | .router => { c with routers := c.routers + 1 }
  | .anchor => { c with anchors := c.anchors + 1 }

/-- The number of nodes of all kinds. -/
def total (c : NodeCounts) : Nat := c.conditions + c.leaves + c.groups + c.routers + c.anchors

end NodeCounts

namespace Node

/-- The fact path of a condition. -/
def factPath? : Node → Option String
  | .condition _ c _ _ _ => some c.fact
  | _ => none

/-- The fact paths of the conditions of a tree, each once. -/
def factPaths (tree : Node) : List String := (tree.walk.filterMap factPath?).eraseDups

/-- The number of nodes of each kind in a tree. -/
def counts (tree : Node) : NodeCounts := tree.walk.foldl (fun c n => c.add n.kind) {}

/-- The identifiers of the nodes of a tree. -/
def ids (tree : Node) : List String := tree.walk.map id

/-- The first node with an identifier. -/
def find? (tree : Node) (id : String) : Option Node := tree.walk.find? (·.id == id)

/-- The texts of a node that a search looks through. -/
def searchedTexts (n : Node) : List String :=
  [n.id, n.header.label.getD ""] ++
    match n with
    | .condition _ c _ _ _ => [c.fact]
    | .leaf l => [l.decision]
    | _ => []

end Node

/-- Some characters stand one after the other in a text. -/
def occursWithin (needle : List Char) : List Char → Bool
  | [] => needle.isEmpty
  | c :: rest => needle.isPrefixOf (c :: rest) || occursWithin needle rest

namespace Node

/-- One of a node's texts contains the sought one, case aside. -/
def mentions (query : String) (n : Node) : Bool :=
  n.searchedTexts.any fun text => occursWithin (Text.lowercase query).toList (Text.lowercase text).toList

/-- The identifiers of the nodes that mention a text, each once. -/
def search (tree : Node) (query : String) : List String :=
  ((tree.walk.filter (mentions query)).map id).eraseDups

end Node

end RegulatoryTrees
