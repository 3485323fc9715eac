import RegulatoryTrees.Proofs.Layout.Canvas

/-!
# Layouts of branches

A layout does not depend on where its tree stands: below a condition, the layouts of the two branches are moved as they are, one
level down and so many columns to the right (`boxAt_below`, `linksAt_below`, `ofTree_condition`). Nor does it depend on what is
highlighted, but for the marks (`unmarked_ofTree`).
-/

namespace RegulatoryTrees

/-- A box moved to the right and down, one level deeper. -/
def Box.moved (right down : Rat) (b : Box Rat) : Box Rat := { b with x := b.x + right, y := b.y + down, depth := b.depth + 1 }

/-- A link moved to the right and down. -/
def Link.moved (right down : Rat) (k : Link Rat) : Link Rat :=
  { k with fromX := k.fromX + right, fromY := k.fromY + down, toX := k.toX + right, toY := k.toY + down }

namespace Layout

/-- The layout of a branch in its place below a condition, with so many columns to its left. -/
def below (config : LayoutConfig Rat) (columns : Nat) (l : Layout Rat) : Layout Rat :=
  let right := columns * (config.nodeWidth + config.horizontalSpacing)
  let down := config.nodeHeight + config.verticalSpacing
  { l with boxes := l.boxes.map (Box.moved right down), links := l.links.map (Link.moved right down) }

/-- A layout without its marks. -/
def unmarked {α : Type} (l : Layout α) : Layout α :=
  { l with boxes := l.boxes.map fun b => { b with onPath := false }, links := l.links.map fun k => { k with onPath := false } }

variable {config : LayoutConfig Rat} {highlighted : List String}

/-- Further to the right and one level down, the box of a spot is moved as it is. -/
theorem boxAt_moved (depth : Nat) (left right : Rat) (s : Node.Spot) :
    boxAt config highlighted (depth + 1) (left + right) s =
      (boxAt config highlighted depth left s).moved right (config.nodeHeight + config.verticalSpacing) := by
  have hx : left + right + s.before * pitch config + inset config s.node + config.padding =
      left + s.before * pitch config + inset config s.node + config.padding + right := by
    ring
  have hy : ((depth + s.way.length + 1 : Nat) : Rat) * (config.nodeHeight + config.verticalSpacing) + config.padding =
      ((depth + s.way.length : Nat) : Rat) * (config.nodeHeight + config.verticalSpacing) + config.padding +
        (config.nodeHeight + config.verticalSpacing) := by
    push_cast
    ring
  simp only [boxAt, Box.moved, hx, Nat.add_right_comm depth 1, hy]

/-- A link between boxes that are moved is moved with them. -/
theorem linkOf_moved (right down : Rat) (upper lower : Box Rat) (branch : Bool) :
    linkOf (upper.moved right down) (lower.moved right down) branch = (linkOf upper lower branch).moved right down := by
  simp only [linkOf, Box.moved, Link.moved, add_right_comm]

section Below

variable (branch : Bool) (columns : Nat) (s : Node.Spot)

/-- The box of a spot of a branch is moved by the columns to the left of the branch, and one level down. -/
theorem boxAt_below :
    boxAt config highlighted 0 0 (s.under branch columns) =
      (boxAt config highlighted 0 0 s).moved (columns * (config.nodeWidth + config.horizontalSpacing))
        (config.nodeHeight + config.verticalSpacing) :=
  (boxAt_under 0 0 branch columns s).trans (boxAt_moved 0 0 _ s)

/-- The links below a branch are those of its tree moved down by a level and right by the columns before it. -/
theorem linksAt_below :
    linksAt config highlighted 0 0 (s.under branch columns) =
      (linksAt config highlighted 0 0 s).map
        (Link.moved (columns * (config.nodeWidth + config.horizontalSpacing)) (config.nodeHeight + config.verticalSpacing)) := by
  simp only [linksAt, Node.Spot.children_under, List.map_map, Function.comp_def, boxAt_below, linkOf_moved]

end Below

/-- The boxes and links of the spots of a branch are those of its layout, in its place below the condition. -/
theorem spots_below (branch : Bool) (columns : Nat) {n : Node} {l : Layout Rat} (h : ofTree config highlighted n = .ok l) :
    (n.spots.map (Node.Spot.under branch columns)).map (boxAt config highlighted 0 0) = (l.below config columns).boxes ∧
      (n.spots.map (Node.Spot.under branch columns)).flatMap (linksAt config highlighted 0 0) =
        (l.below config columns).links := by
  rw [ofTree_eq] at h
  cases h
  constructor
  · simp only [below, List.map_map, Function.comp_def, boxAt_below]
  · simp only [below, List.flatMap_map, List.map_flatMap, linksAt_below]

/-- The box at the top of a branch is the last one of its layout. -/
theorem getLast?_below (branch : Bool) (columns : Nat) {n : Node} {l : Layout Rat} (h : ofTree config highlighted n = .ok l) :
    (l.below config columns).boxes.getLast? = some (boxAt config highlighted 0 0 ⟨[branch], n, columns⟩) := by
  rw [← (spots_below branch columns h).1, List.getLast?_map, List.getLast?_map, n.getLast?_spots]
  rfl

/-- Without its marks, a layout is the same whatever is highlighted. -/
theorem unmarked_ofTree {tree : Node} {highlighted' : List String} {l l' : Layout Rat}
    (h : ofTree config highlighted tree = .ok l) (h' : ofTree config highlighted' tree = .ok l') : l.unmarked = l'.unmarked := by
  rw [ofTree_eq] at h h'
  cases h
  cases h'
  simp only [unmarked, flatMap_linksAt, List.map_map, Function.comp_def]
  rfl

/-- The layout of a condition has the boxes and links of the layout of its branch for a condition that does not hold, one level
down, then those of the layout of its other branch, one level down and to the right by a column for each box of the first branch that
is no condition, and then its own box and the links from it to the boxes at the top of the branches, which are the last ones of
their layouts. In the layout of any tree, what is highlighted changes nothing but the marks. -/
theorem ofTree_condition (config : LayoutConfig Rat) (highlighted : List String) (header : Header) (c : Condition)
    (note : Option String) (whenTrue whenFalse : Node) :
    (∃ lower upper l root lowerTop upperTop, ofTree config highlighted whenFalse = .ok lower ∧
      ofTree config highlighted whenTrue = .ok upper ∧
      ofTree config highlighted (.condition header c note whenTrue whenFalse) = .ok l ∧
      (root.id = header.id ∧ root.kind = .condition ∧ root.depth = 0) ∧
      (lower.below config 0).boxes.getLast? = some lowerTop ∧
      (upper.below config lower.singles).boxes.getLast? = some upperTop ∧
      l.boxes = (lower.below config 0).boxes ++ (upper.below config lower.singles).boxes ++ [root] ∧
      l.links = (lower.below config 0).links ++ (upper.below config lower.singles).links ++
        [linkOf root lowerTop false, linkOf root upperTop true]) ∧
    ∀ tree highlighted', ∃ l l', ofTree config highlighted tree = .ok l ∧ ofTree config highlighted' tree = .ok l' ∧
      l.unmarked = l'.unmarked := by
  constructor
  · obtain ⟨lower, hlower⟩ : ∃ l, ofTree config highlighted whenFalse = .ok l := ⟨_, ofTree_eq ..⟩
    obtain ⟨upper, hupper⟩ : ∃ l, ofTree config highlighted whenTrue = .ok l := ⟨_, ofTree_eq ..⟩
    have hsingles : lower.singles = whenFalse.columns := singles_ofTree hlower
    have htop := getLast?_below true whenFalse.columns hupper
    obtain ⟨hboxes, hlinks⟩ := spots_below false 0 hlower
    obtain ⟨hboxes', hlinks'⟩ := spots_below true whenFalse.columns hupper
    rw [← hsingles] at htop
    refine ⟨lower, upper, _, boxAt config highlighted 0 0 ⟨[], .condition header c note whenTrue whenFalse, 0⟩, _, _,
      hlower, hupper, ofTree_eq .., ⟨rfl, rfl, rfl⟩, getLast?_below false 0 hlower, htop, ?_, ?_⟩
    · rw [hsingles, ← hboxes, ← hboxes', Node.spots, List.map_append, List.map_append]
      rfl
    · rw [hsingles, ← hlinks, ← hlinks', Node.spots, List.flatMap_append, List.flatMap_append]
      simp only [List.flatMap_singleton]
      rfl
  · intro tree highlighted'
    exact ⟨_, _, ofTree_eq .., ofTree_eq .., unmarked_ofTree (ofTree_eq ..) (ofTree_eq ..)⟩

end Layout

end RegulatoryTrees
