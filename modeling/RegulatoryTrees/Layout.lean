import RegulatoryTrees.Evaluation
import RegulatoryTrees.Number.Quantity

/-!
# Layout

Trees are drawn with the branch for a condition that does not hold on the left, the other one on its right, and the condition
centred above both. Every node that is not a condition is a single box. The vertical position of a box depends on its depth
only. The arithmetic is a parameter: `Quantity` computes as the numbers are written, `Rat` exactly.
-/

namespace RegulatoryTrees

/-- What the layout computes with. -/
class Coordinate (α : Type) where
  zero : α
  ofNat : Nat → α
  add : α → α → Except Overflow α
  sub : α → α → Except Overflow α
  mul : α → α → Except Overflow α
  half : α → Except Overflow α
  larger : α → α → α

instance : Coordinate Quantity where
  zero := .whole 0
  ofNat n := .whole n
  add := Quantity.add
  sub := Quantity.sub
  mul := Quantity.mul
  half := Quantity.half
  larger := Quantity.larger

instance : Coordinate Rat where
  zero := 0
  ofNat n := n
  add x y := .ok (x + y)
  sub x y := .ok (x - y)
  mul x y := .ok (x * y)
  half x := .ok (x / 2)
  larger x y := if x < y then y else x

/-- The sizes that a layout is made with. -/
structure LayoutConfig (α : Type) where
  nodeWidth : α
  nodeHeight : α
  horizontalSpacing : α
  verticalSpacing : α
  padding : α

/-- The sizes used where none are given. -/
def LayoutConfig.default : LayoutConfig Quantity := ⟨.whole 200, .whole 80, .whole 40, .whole 60, .whole 20⟩

/-- A node in its place; `x` and `y` are those of its upper left corner. -/
structure Box (α : Type) where
  id : String
  kind : NodeKind
  x : α
  y : α
  width : α
  height : α
  depth : Nat
  onPath : Bool

/-- A line from a condition to the node below it on one of its branches. -/
structure Link (α : Type) where
  fromId : String
  toId : String
  fromX : α
  fromY : α
  toX : α
  toY : α
  branch : Bool
  onPath : Bool

/-- A tree in its place: its boxes, each after those below it, its links, and the size of the canvas. -/
structure Layout (α : Type) where
  boxes : List (Box α)
  links : List (Link α)
  width : α
  height : α

/-- The name of a branch. -/
def branchName (branch : Bool) : String := if branch then "true" else "false"

namespace Box

variable {α : Type} [Coordinate α]

/-- The horizontal middle of a box. -/
def centerX (b : Box α) : Except Overflow α := do Coordinate.add b.x (← Coordinate.half b.width)

/-- The lower edge of a box. -/
def bottomY (b : Box α) : Except Overflow α := Coordinate.add b.y b.height

end Box

namespace Link

/-- The name of a link: its upper node and its branch. -/
def id {α : Type} (l : Link α) : String := l.fromId ++ "-" ++ branchName l.branch

/-- A curve between two points whose control points lie at half the height between them. -/
def curve (fromX fromY toX toY : Quantity) : Except Overflow String := do
  let middle ← (← fromY.add toY).half
  return "M " ++ fromX.text ++ " " ++ fromY.text ++ " C " ++ fromX.text ++ " " ++ middle.text ++ ", " ++
    toX.text ++ " " ++ middle.text ++ ", " ++ toX.text ++ " " ++ toY.text

/-- The curve of a link. -/
def path (l : Link Quantity) : Except Overflow String := curve l.fromX l.fromY l.toX l.toY

end Link

namespace Layout

variable {α : Type} [Coordinate α]

open Coordinate

/-- Place a node at a depth and a distance from the left. -/
def place (config : LayoutConfig α) (highlighted : List String) (node : Node) (depth : Nat) (left : α) :
    Except Overflow (Box α) := do
  let x ← add left config.padding
  let y ← add (← mul (ofNat depth) (← add config.nodeHeight config.verticalSpacing)) config.padding
  return {
    id := node.id, kind := node.kind, x := x, y := y, width := config.nodeWidth, height := config.nodeHeight,
    depth := depth, onPath := highlighted.contains node.id }

/-- Connect a box with the one below it on a branch. -/
def connect (upper lower : Box α) (branch : Bool) : Except Overflow (Link α) := do
  let fromX ← upper.centerX
  let fromY ← upper.bottomY
  let toX ← lower.centerX
  return {
    fromId := upper.id, toId := lower.id, fromX := fromX, fromY := fromY, toX := toX, toY := lower.y,
    branch := branch, onPath := upper.onPath && lower.onPath }

/-- A subtree in its place: the box of its root, the width it takes, and all its boxes and links. -/
structure Subtree (α : Type) where
  root : Box α
  extent : α
  boxes : List (Box α)
  links : List (Link α)

/-- Lay out a subtree. -/
def subtree (config : LayoutConfig α) (highlighted : List String) (depth : Nat) (left : α) :
    Node → Except Overflow (Subtree α)
  | node@(.condition _ _ _ whenTrue whenFalse) => do
    let lower ← subtree config highlighted (depth + 1) left whenFalse
    let upper ← subtree config highlighted (depth + 1) (← add left lower.extent) whenTrue
    let total ← add lower.extent upper.extent
    let x ← sub (← add left (← half total)) (← half config.nodeWidth)
    let root ← place config highlighted node depth x
    let toFalse ← connect root lower.root false
    let toTrue ← connect root upper.root true
    return ⟨root, total, lower.boxes ++ upper.boxes ++ [root], lower.links ++ upper.links ++ [toFalse, toTrue]⟩
  | node => do
    let box ← place config highlighted node depth left
    return ⟨box, ← add config.nodeWidth config.horizontalSpacing, [box], []⟩

/-- The greatest of some numbers, the earliest where several are. -/
def greatest : List α → α
  | [] => zero
  | x :: rest => rest.foldl larger x

/-- Lay out a tree, marking the highlighted nodes. -/
def ofTree (config : LayoutConfig α) (highlighted : List String) (tree : Node) : Except Overflow (Layout α) := do
  let all ← subtree config highlighted 0 zero tree
  let right ← all.boxes.mapM fun b => add b.x b.width
  let width ← add (greatest right) config.padding
  let bottom ← all.boxes.mapM fun b => add b.y b.height
  let height ← add (greatest bottom) config.padding
  return ⟨all.boxes, all.links, width, height⟩

/-- The identifiers of the nodes that the steps of a trace are about, and that of the leaf they lead to, if it is given; each
once. -/
def pathOfTrace (trace : List Step) (leaf : Option Leaf) : List String :=
  (trace.map Step.nodeId ++ (leaf.map Leaf.id).toList).eraseDups

/-- The first box of a node. -/
def box? (l : Layout α) (id : String) : Option (Box α) := l.boxes.find? (·.id == id)

end Layout

/-! ## Records -/

/-- A quantity as a value. -/
def Quantity.toValue : Quantity → Value
  | .flag b => .bool b
  | .whole n => .int n
  | .real d => .double d

/-- The quantity that a value is. -/
def Quantity.ofValue? : Value → Option Quantity
  | .bool b => some (.flag b)
  | .int n => some (.whole n)
  | .double d => some (.real d)
  | _ => none

/-- The fields of a box. -/
def Box.fields (b : Box Quantity) : List (String × Value) := [
  ("id", .text b.id),
  ("type", .text b.kind.name),
  ("x", b.x.toValue),
  ("y", b.y.toValue),
  ("width", b.width.toValue),
  ("height", b.height.toValue),
  ("depth", .int b.depth),
  ("isLeaf", .bool (b.kind == .leaf)),
  ("isOnPath", .bool b.onPath)]

/-- A link as a record. -/
def Link.write (l : Link Quantity) : Except Overflow Value := do
  return .record [
    ("id", .text l.id),
    ("fromId", .text l.fromId),
    ("toId", .text l.toId),
    ("fromX", l.fromX.toValue),
    ("fromY", l.fromY.toValue),
    ("toX", l.toX.toValue),
    ("toY", l.toY.toValue),
    ("label", .text (branchName l.branch)),
    ("isOnPath", .bool l.onPath),
    ("path", .text (← l.path))]

/-- A layout as a record. -/
def Layout.write (l : Layout Quantity) : Except Overflow Value := do
  let links ← l.links.mapM Link.write
  return .record [
    ("nodes", .list (l.boxes.map fun b => .record b.fields)),
    ("edges", .list links),
    ("width", l.width.toValue),
    ("height", l.height.toValue)]

end RegulatoryTrees
