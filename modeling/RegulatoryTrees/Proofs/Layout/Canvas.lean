import Mathlib.Order.Bounds.Basic
import RegulatoryTrees.Proofs.Layout.Separation

/-!
# The canvas of a layout

In each column of a tree stands one box with nothing below it (`Node.exists_spot_of_lt_columns`, `Node.countP_spots`), and no box
sticks out beyond the columns. So the canvas is as wide as its columns and as high as its levels, with the padding around them, and
boxes touch the padding on all four sides (`ofTree_canvas`).
-/

namespace RegulatoryTrees

namespace Node

/-! ## Columns and levels -/

/-- The number of branches on the longest way to a node that is drawn. -/
def levels : Node → Nat
  | .condition _ _ _ whenTrue whenFalse => max (levels whenFalse) (levels whenTrue) + 1
  | _ => 0

/-- A node that is none with a condition is of another kind. -/
theorem kind_ne_condition {n : Node}
    (hn : ∀ header c note whenTrue whenFalse, n = .condition header c note whenTrue whenFalse → False) :
    n.kind ≠ .condition := by
  cases n with
  | condition => exact (hn _ _ _ _ _ rfl).elim
  | leaf | group | router | anchor => exact nofun

/-- In each column stands a node that is no condition. -/
theorem exists_spot_of_lt_columns (n : Node) :
    ∀ i < n.columns, ∃ s ∈ n.spots, s.node.kind ≠ .condition ∧ s.before = i := by
  induction n using spots.induct with
  | case1 header c note whenTrue whenFalse hfalse htrue =>
    intro i hi
    rw [columns] at hi
    by_cases h : i < whenFalse.columns
    · obtain ⟨s, hs, hkind, rfl⟩ := hfalse i h
      exact ⟨_, mem_spots_condition.2 (.inl ⟨s, hs, rfl⟩), hkind, Nat.zero_add _⟩
    · obtain ⟨s, hs, hkind, hbefore⟩ := htrue (i - whenFalse.columns) (by omega)
      refine ⟨_, mem_spots_condition.2 (.inr (.inl ⟨s, hs, rfl⟩)), hkind, ?_⟩
      simp only [Spot.under, hbefore]
      omega
  | case2 n hn =>
    intro i hi
    rw [columns_single hn] at hi
    exact ⟨_, mem_spots_self n, kind_ne_condition hn, (Nat.lt_one_iff.1 hi).symm⟩

/-- The nodes drawn that are no conditions are as many as the columns. -/
theorem countP_spots (n : Node) : n.spots.countP (fun s => s.node.kind != .condition) = n.columns := by
  fun_induction spots n with
  | case1 header c note whenTrue whenFalse hfalse htrue =>
    simp only [List.countP_append, List.countP_map, Function.comp_def, Spot.under, hfalse, htrue, columns]
    rfl
  | case2 n hn => simp [columns_single hn, kind_ne_condition hn]

/-- The longest way to a node that is drawn has as many branches as the tree has levels. -/
theorem isGreatest_levels (n : Node) : IsGreatest {d | ∃ s ∈ n.spots, s.way.length = d} n.levels := by
  induction n using spots.induct with
  | case1 header c note whenTrue whenFalse hfalse htrue =>
    rw [levels]
    constructor
    · rcases max_choice whenFalse.levels whenTrue.levels with h | h
      · obtain ⟨s, hs, hlength⟩ := hfalse.1
        exact ⟨_, mem_spots_condition.2 (.inl ⟨s, hs, rfl⟩), by rw [Spot.under, List.length_cons, hlength, h]⟩
      · obtain ⟨s, hs, hlength⟩ := htrue.1
        exact ⟨_, mem_spots_condition.2 (.inr (.inl ⟨s, hs, rfl⟩)), by rw [Spot.under, List.length_cons, hlength, h]⟩
    · rintro d ⟨s, hs, rfl⟩
      rw [mem_spots_condition] at hs
      rcases hs with ⟨s, hs, rfl⟩ | ⟨s, hs, rfl⟩ | rfl
      · exact Nat.succ_le_succ (le_max_of_le_left (hfalse.2 ⟨s, hs, rfl⟩))
      · exact Nat.succ_le_succ (le_max_of_le_right (htrue.2 ⟨s, hs, rfl⟩))
      · exact Nat.zero_le _
  | case2 n hn =>
    have hlevels : n.levels = 0 := by
      rw [levels]
      exact hn
    rw [hlevels, spots_single hn]
    refine ⟨⟨_, List.mem_singleton_self _, rfl⟩, ?_⟩
    rintro d ⟨s, hs, rfl⟩
    rw [List.mem_singleton.1 hs]
    exact Nat.le_refl 0

end Node

namespace Layout

/-- The number of boxes that are no conditions. -/
def singles {α : Type} (l : Layout α) : Nat := l.boxes.countP (·.kind != .condition)

/-- The greatest of some numbers is one of them, and none is greater. -/
theorem isGreatest_greatest {xs : List Rat} (h : xs ≠ []) : IsGreatest {x | x ∈ xs} (greatest xs) := by
  cases xs with
  | nil => exact absurd rfl h
  | cons x rest =>
    have hlarger : (Coordinate.larger : Rat → Rat → Rat) = max := by
      funext a b
      rw [max_def_lt]
      rfl
    have hmax : (x :: rest).max? = some (greatest (x :: rest)) := by
      rw [List.max?_cons', greatest, hlarger]
    exact List.max?_eq_some_iff.1 hmax

variable {config : LayoutConfig Rat}

/-- A greatest number that is known is the one that is found. -/
theorem greatest_eq {xs : List Rat} {m : Rat} (h : IsGreatest {x | x ∈ xs} m) : greatest xs = m :=
  (isGreatest_greatest (List.ne_nil_of_mem h.1)).unique h

/-- The boxes of a layout that are no conditions are as many as the columns of the tree. -/
theorem singles_ofTree {highlighted : List String} {tree : Node} {l : Layout Rat} (h : ofTree config highlighted tree = .ok l) :
    l.singles = tree.columns := by
  rw [ofTree_eq] at h
  cases h
  rw [singles, List.countP_map, ← tree.countP_spots]
  rfl

/-- Only above two branches is a box set in. -/
theorem inset_of_kind {n : Node} (h : n.kind ≠ .condition) : inset config n = 0 := by
  cases n with
  | condition => exact absurd rfl h
  | leaf | group | router | anchor => rfl

/-! ## From side to side -/

/-- In each column stands a box at its left end. -/
theorem exists_boxAt_x (config : LayoutConfig Rat) (highlighted : List String) {tree : Node} {i : Nat} (hi : i < tree.columns) :
    ∃ s ∈ tree.spots, (boxAt config highlighted 0 0 s).x = i * pitch config + config.padding := by
  obtain ⟨s, hs, hkind, rfl⟩ := tree.exists_spot_of_lt_columns i hi
  refine ⟨s, hs, ?_⟩
  simp only [boxAt, inset_of_kind hkind]
  ring

section Sides

variable (hwidth : 0 ≤ config.nodeWidth) (hspacing : 0 ≤ config.horizontalSpacing) (highlighted : List String)

include hwidth hspacing

/-- A box lies between the left end of the first column and the right end of the last one, less the spacing there. -/
theorem boxAt_x_within {tree : Node} {s : Node.Spot} (hs : s ∈ tree.spots) :
    config.padding ≤ (boxAt config highlighted 0 0 s).x ∧
      (boxAt config highlighted 0 0 s).x + config.nodeWidth ≤
        tree.columns * pitch config - config.horizontalSpacing + config.padding := by
  have hpitch := pitch_nonneg hwidth hspacing
  have hleft : 0 ≤ (s.before : Rat) * pitch config := mul_nonneg (Nat.cast_nonneg _) hpitch
  have hright : ((s.before : Rat) + s.node.columns) * pitch config ≤ tree.columns * pitch config :=
    mul_le_mul_of_nonneg_right (by exact_mod_cast tree.before_add_columns_le s hs) hpitch
  have hinset := inset_nonneg hwidth hspacing s.node
  have hend := inset_add_width_le hwidth hspacing s.node
  simp only [boxAt]
  constructor <;> linarith

/-- The box that is furthest to the right ends where the last column does, less the spacing. -/
theorem isGreatest_right (tree : Node) :
    IsGreatest {x | x ∈ tree.spots.map fun s => (boxAt config highlighted 0 0 s).x + config.nodeWidth}
      (tree.columns * pitch config - config.horizontalSpacing + config.padding) := by
  constructor
  · obtain ⟨s, hs, hx⟩ := exists_boxAt_x config highlighted (Nat.sub_one_lt (Nat.ne_of_gt tree.columns_pos))
    refine List.mem_map.2 ⟨s, hs, ?_⟩
    rw [hx, Nat.cast_pred tree.columns_pos, pitch]
    ring
  · intro x hx
    obtain ⟨s, hs, rfl⟩ := List.mem_map.1 hx
    exact (boxAt_x_within hwidth hspacing highlighted hs).2

end Sides

/-! ## From top to bottom -/

section Levels

variable (hheight : 0 ≤ config.nodeHeight) (hspacing : 0 ≤ config.verticalSpacing) (highlighted : List String)

include hheight hspacing

/-- A box lies between the top of the first level and the lower end of the boxes of the last one. -/
theorem boxAt_y_within {tree : Node} {s : Node.Spot} (hs : s ∈ tree.spots) :
    config.padding ≤ (boxAt config highlighted 0 0 s).y ∧
      (boxAt config highlighted 0 0 s).y + config.nodeHeight ≤
        tree.levels * (config.nodeHeight + config.verticalSpacing) + config.nodeHeight + config.padding := by
  have hlevel : 0 ≤ config.nodeHeight + config.verticalSpacing := add_nonneg hheight hspacing
  have htop : 0 ≤ (s.way.length : Rat) * (config.nodeHeight + config.verticalSpacing) := mul_nonneg (Nat.cast_nonneg _) hlevel
  have hbottom : (s.way.length : Rat) * (config.nodeHeight + config.verticalSpacing) ≤
      tree.levels * (config.nodeHeight + config.verticalSpacing) :=
    mul_le_mul_of_nonneg_right (by exact_mod_cast tree.isGreatest_levels.2 ⟨s, hs, rfl⟩) hlevel
  simp only [boxAt, Nat.zero_add]
  constructor <;> linarith

/-- The lowest box is on the last level. -/
theorem isGreatest_bottom (tree : Node) :
    IsGreatest {y | y ∈ tree.spots.map fun s => (boxAt config highlighted 0 0 s).y + config.nodeHeight}
      (tree.levels * (config.nodeHeight + config.verticalSpacing) + config.nodeHeight + config.padding) := by
  constructor
  · obtain ⟨s, hs, hlength⟩ := tree.isGreatest_levels.1
    refine List.mem_map.2 ⟨s, hs, ?_⟩
    simp only [boxAt, Nat.zero_add, hlength]
    ring
  · intro y hy
    obtain ⟨s, hs, rfl⟩ := List.mem_map.1 hy
    exact (boxAt_y_within hheight hspacing highlighted hs).2

end Levels

/-! ## Layouts of trees -/

/-- The canvas of a layout is exactly as wide as one column for each box that is no condition, less the last spacing, and as high as
the levels down to the deepest box, with the padding around them: every box lies within the padding, and boxes touch it on the
left, on the right, at the top and at the bottom. -/
theorem ofTree_canvas (config : LayoutConfig Rat) (highlighted : List String) (tree : Node) (hwidth : 0 ≤ config.nodeWidth)
    (hheight : 0 ≤ config.nodeHeight) (hhorizontal : 0 ≤ config.horizontalSpacing) (hvertical : 0 ≤ config.verticalSpacing) :
    ∃ l, ofTree config highlighted tree = .ok l ∧ l.Draws tree ∧
      l.width = l.singles * (config.nodeWidth + config.horizontalSpacing) - config.horizontalSpacing + 2 * config.padding ∧
      (∃ deepest, IsGreatest {d | ∃ b ∈ l.boxes, b.depth = d} deepest ∧
        l.height = deepest * (config.nodeHeight + config.verticalSpacing) + config.nodeHeight + 2 * config.padding) ∧
      (∀ b ∈ l.boxes, (config.padding ≤ b.x ∧ b.x + b.width ≤ l.width - config.padding) ∧
        config.padding ≤ b.y ∧ b.y + b.height ≤ l.height - config.padding) ∧
      (∃ b ∈ l.boxes, b.x = config.padding) ∧ (∃ b ∈ l.boxes, b.x + b.width = l.width - config.padding) ∧
      (∃ b ∈ l.boxes, b.y = config.padding) ∧ ∃ b ∈ l.boxes, b.y + b.height = l.height - config.padding := by
  have hl := ofTree_eq config highlighted tree
  have hright := isGreatest_right hwidth hhorizontal highlighted tree
  have hbottom := isGreatest_bottom hheight hvertical highlighted tree
  have hdraws := draws_ofTree hl
  rw [greatest_eq hright, greatest_eq hbottom] at hl hdraws
  have hmem : ∀ s ∈ tree.spots, boxAt config highlighted 0 0 s ∈ tree.spots.map (boxAt config highlighted 0 0) :=
    fun s hs => List.mem_map_of_mem hs
  have hdepths : {d | ∃ s ∈ tree.spots, s.way.length = d} =
      {d | ∃ b ∈ tree.spots.map (boxAt config highlighted 0 0), b.depth = d} := by
    ext d
    simp [boxAt]
  refine ⟨_, hl, hdraws, ?_, ⟨tree.levels, ?_, ?_⟩, ?_, ?_, ?_, ?_, ?_⟩
  · rw [singles_ofTree hl, pitch]
    ring
  · exact hdepths ▸ tree.isGreatest_levels
  · ring
  · intro b hb
    obtain ⟨s, hs, rfl⟩ := List.mem_map.1 hb
    simp only [add_sub_cancel_right]
    exact ⟨boxAt_x_within hwidth hhorizontal highlighted hs, boxAt_y_within hheight hvertical highlighted hs⟩
  · obtain ⟨s, hs, hx⟩ := exists_boxAt_x config highlighted tree.columns_pos
    exact ⟨_, hmem s hs, by rw [hx]; simp⟩
  · obtain ⟨s, hs, hx⟩ := List.mem_map.1 hright.1
    exact ⟨_, hmem s hs, by simpa [boxAt] using hx⟩
  · exact ⟨_, hmem _ tree.mem_spots_self, by simp [boxAt]⟩
  · obtain ⟨s, hs, hy⟩ := List.mem_map.1 hbottom.1
    exact ⟨_, hmem s hs, by simpa [boxAt] using hy⟩

/-- The small tree has three boxes that are no conditions and two levels below the root, so its canvas is 720 wide and 400 high. -/
theorem ofTree_canvas_licence :
    0 ≤ Licence.config.nodeWidth ∧ 0 ≤ Licence.config.nodeHeight ∧ 0 ≤ Licence.config.horizontalSpacing ∧
      0 ≤ Licence.config.verticalSpacing ∧
      ∃ l, ofTree Licence.config [] Licence.tree = .ok l ∧ l.singles = 3 ∧ l.width = 720 ∧ l.height = 400 := by
  have hwidth : 0 ≤ Licence.config.nodeWidth := by norm_num [Licence.config]
  have hheight : 0 ≤ Licence.config.nodeHeight := by norm_num [Licence.config]
  have hhorizontal : 0 ≤ Licence.config.horizontalSpacing := by norm_num [Licence.config]
  have hvertical : 0 ≤ Licence.config.verticalSpacing := by norm_num [Licence.config]
  obtain ⟨l, hl, -, hcanvas, ⟨deepest, hdeepest, hlow⟩, -⟩ :=
    ofTree_canvas Licence.config [] Licence.tree hwidth hheight hhorizontal hvertical
  have hsingles : l.singles = 3 := singles_ofTree hl
  rw [ofTree_eq] at hl
  have hlevels : deepest = 2 := by
    cases hl
    refine hdeepest.unique ⟨⟨_, List.mem_cons_of_mem _ List.mem_cons_self, rfl⟩, ?_⟩
    rintro d ⟨b, hb, rfl⟩
    obtain ⟨s, hs, rfl⟩ := List.mem_map.1 hb
    exact (Nat.zero_add _).le.trans (Licence.tree.isGreatest_levels.2 ⟨s, hs, rfl⟩)
  refine ⟨hwidth, hheight, hhorizontal, hvertical, l, ofTree_eq .. ▸ hl, hsingles, ?_, ?_⟩
  · rw [hcanvas, hsingles]
    norm_num [Licence.config]
  · rw [hlow, hlevels]
    norm_num [Licence.config]

end Layout

end RegulatoryTrees
