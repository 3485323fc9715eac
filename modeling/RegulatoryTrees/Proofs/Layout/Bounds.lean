import RegulatoryTrees.Proofs.Layout.Exact
import RegulatoryTrees.Proofs.Number.Ranges

/-!
# Trees that can be laid out

A layout as numbers are written fails only where a whole number is too large for a double. No box is farther from the left or
from the top than the columns of the tree can take it (`exists_subtree`), so there is a layout unless the tree has so many
columns, or the sizes are so large, that their product comes near the greatest double (`exists_ofTree`).
-/

namespace RegulatoryTrees

/-- The sizes of a layout that are whole keep to a bound. -/
structure LayoutConfig.Within (size : Nat) (config : LayoutConfig Quantity) : Prop where
  nodeWidth : config.nodeWidth.Within size
  nodeHeight : config.nodeHeight.Within size
  horizontalSpacing : config.horizontalSpacing.Within size
  verticalSpacing : config.verticalSpacing.Within size
  padding : config.padding.Within size

/-- The sizes used where none are given. -/
theorem LayoutConfig.default_within : LayoutConfig.default.Within 200 where
  nodeWidth := Quantity.within_whole (by decide)
  nodeHeight := Quantity.within_whole (by decide)
  horizontalSpacing := Quantity.within_whole (by decide)
  verticalSpacing := Quantity.within_whole (by decide)
  padding := Quantity.within_whole (by decide)

/-- The place of a box keeps to one bound where it is whole, and its sizes keep to another. -/
structure Box.Within (reach size : Nat) (b : Box Quantity) : Prop where
  x : b.x.Within reach
  y : b.y.Within reach
  width : b.width.Within size
  height : b.height.Within size

namespace Layout

/-- The boxes and the extent of a subtree in its place keep to bounds where they are whole. -/
structure Subtree.Within (reach size extent : Nat) (s : Subtree Quantity) : Prop where
  root : s.root.Within reach size
  extent : s.extent.Within extent
  boxes : ∀ b ∈ s.boxes, b.Within reach size

section Connect

variable {reach size : Nat} (hlimit : reach + size < wholeLimit)

include hlimit

/-- The middle of a box within reach can be computed. -/
theorem exists_centerX {b : Box Quantity} (hb : b.Within reach size) : ∃ x, b.centerX = .ok x := by
  obtain ⟨half, hhalf, hwithin⟩ := Quantity.exists_half hb.width (by omega)
  obtain ⟨x, hx, -⟩ := Quantity.exists_add hb.x hwithin (by omega) (by omega)
  exact ⟨x, Except.bind_eq_ok.2 ⟨half, hhalf, hx⟩⟩

/-- Boxes that keep to bounds below the limit can be connected. -/
theorem exists_connect {upper lower : Box Quantity} (hupper : upper.Within reach size) (hlower : lower.Within reach size)
    (branch : Bool) : ∃ l, connect upper lower branch = .ok l := by
  obtain ⟨fromX, hfromX⟩ := exists_centerX hlimit hupper
  obtain ⟨fromY, hfromY, -⟩ := Quantity.exists_add hupper.y hupper.height (by omega) (by omega)
  obtain ⟨toX, htoX⟩ := exists_centerX hlimit hlower
  exact ⟨_, Except.bind_eq_ok.2 ⟨fromX, hfromX, Except.bind_eq_ok.2 ⟨fromY, hfromY, Except.bind_eq_ok.2 ⟨toX, htoX, rfl⟩⟩⟩⟩

end Connect

section Subtrees

variable {config : LayoutConfig Quantity} {size columns : Nat} (highlighted : List String) (hconfig : config.Within size)
  (hlimit : columns * (2 * size + 1) + size + size < wholeLimit)

include hconfig hlimit

/-- A node can be placed unless it is too deep or too far from the left. -/
theorem exists_place (n : Node) {depth before : Nat} {left : Quantity} (hdepth : depth < columns) (hbefore : before ≤ columns)
    (hleft : left.Within (before * (2 * size))) :
    ∃ b, place config highlighted n depth left = .ok b ∧ b.Within (columns * (2 * size + 1) + size) size := by
  have hleft_le : before * (2 * size) ≤ columns * (2 * size + 1) := Nat.mul_le_mul hbefore (Nat.le_succ _)
  have hlevel_le : depth * (size + size) ≤ columns * (2 * size + 1) := Nat.mul_le_mul (Nat.le_of_lt hdepth) (by omega)
  have hcolumns_le : columns ≤ columns * (2 * size + 1) := Nat.le_mul_of_pos_right _ (Nat.succ_pos _)
  have hcount : (Quantity.whole depth).Within depth := Quantity.within_whole (Nat.le_of_eq (Int.natAbs_natCast depth))
  refine Except.exists_bind_eq_ok (Quantity.exists_add hleft hconfig.padding (by omega) (by omega)) fun x hx => ?_
  refine Except.exists_bind_eq_ok (Quantity.exists_add hconfig.nodeHeight hconfig.verticalSpacing (by omega) (by omega))
    fun level hlevel => ?_
  refine Except.exists_bind_eq_ok (Quantity.exists_mul hcount hlevel (by omega) (by omega)) fun offset hoffset => ?_
  refine Except.exists_bind_eq_ok (Quantity.exists_add hoffset hconfig.padding (by omega) (by omega)) fun y hy => ?_
  exact ⟨_, rfl, hx.mono (by omega), hy.mono (by omega), hconfig.nodeWidth, hconfig.nodeHeight⟩

/-- A subtree can be laid out unless it goes too deep or too far to the right. A distance from the left is at most that of so
many columns, and all of them are below the limit. -/
theorem exists_subtree (n : Node) : ∀ (depth before : Nat) (left : Quantity), depth + n.columns ≤ columns →
    before + n.columns ≤ columns → left.Within (before * (2 * size)) →
      ∃ s, subtree config highlighted depth left n = .ok s ∧
        s.Within (columns * (2 * size + 1) + size) size (n.columns * (2 * size)) := by
  have hdistance : ∀ before, before ≤ columns → before * (2 * size) < wholeLimit := fun before hle =>
    Nat.lt_of_le_of_lt (Nat.mul_le_mul hle (Nat.le_add_right (2 * size) 1)) (by omega)
  induction n using Node.columns.induct with
  | case1 header c note whenTrue whenFalse hfalse htrue =>
    intro depth before left hdepth hbefore hleft
    have htruePos := whenTrue.columns_pos
    have hfalsePos := whenFalse.columns_pos
    rw [Node.columns] at hdepth hbefore ⊢
    rw [subtree]
    refine Except.exists_bind_eq_ok (hfalse _ before left (by omega) (by omega) hleft) fun lower hlower => ?_
    refine Except.exists_bind_eq_ok
      (Quantity.exists_add hleft hlower.extent (hdistance _ (by omega)) (hdistance _ (by omega))) fun middle hmiddle => ?_
    rw [← Nat.add_mul] at hmiddle
    refine Except.exists_bind_eq_ok (htrue _ _ middle (by omega) (by omega) hmiddle) fun upper hupper => ?_
    refine Except.exists_bind_eq_ok
      (Quantity.exists_add hlower.extent hupper.extent (hdistance _ (by omega)) (hdistance _ (by omega))) fun total htotal => ?_
    rw [← Nat.add_mul] at htotal
    refine Except.exists_bind_eq_ok (Quantity.exists_half htotal (hdistance _ (by omega))) fun halfTotal hhalf => ?_
    refine Except.exists_bind_eq_ok
      (Quantity.exists_add hleft hhalf (hdistance _ (by omega)) (by omega)) fun center hcenter => ?_
    refine Except.exists_bind_eq_ok (Quantity.exists_half hconfig.nodeWidth (by omega)) fun halfWidth hwidth => ?_
    refine Except.exists_bind_eq_ok (Quantity.exists_sub hcenter hwidth (hdistance _ (by omega)) (by omega)) fun x hx => ?_
    refine Except.exists_bind_eq_ok (exists_place highlighted hconfig hlimit _ (by omega) (by omega) hx) fun root hroot => ?_
    obtain ⟨toFalse, htoFalse⟩ := exists_connect hlimit hroot hlower.root false
    obtain ⟨toTrue, htoTrue⟩ := exists_connect hlimit hroot hupper.root true
    rw [htoFalse, Except.ok_bind, htoTrue, Except.ok_bind]
    refine ⟨_, rfl, hroot, htotal, ?_⟩
    intro b hb
    rcases List.mem_append.1 hb with hb | hb
    · exact (List.mem_append.1 hb).elim (hlower.boxes b) (hupper.boxes b)
    · exact List.mem_singleton.1 hb ▸ hroot
  | case2 n hn =>
    intro depth before left hdepth hbefore hleft
    rw [Node.columns_single hn] at hdepth hbefore ⊢
    have hpitch_le : 2 * size + 1 ≤ columns * (2 * size + 1) := Nat.le_mul_of_pos_left _ (by omega)
    rw [subtree]
    · refine Except.exists_bind_eq_ok (exists_place highlighted hconfig hlimit n (by omega) (by omega) hleft)
        fun root hroot => ?_
      refine Except.exists_bind_eq_ok
        (Quantity.exists_add hconfig.nodeWidth hconfig.horizontalSpacing (by omega) (by omega)) fun extent hextent => ?_
      exact ⟨_, rfl, hroot, hextent.mono (by omega), fun b hb => List.mem_singleton.1 hb ▸ hroot⟩
    · exact hn

end Subtrees

/-- The greatest of some quantities that keep to a bound keeps to it. -/
theorem greatest_within {bound : Nat} {qs : List Quantity} (h : ∀ q ∈ qs, q.Within bound) : (greatest qs).Within bound := by
  cases qs with
  | nil => exact Quantity.within_whole (Nat.zero_le _)
  | cons q qs =>
    obtain ⟨hq, hqs⟩ := List.forall_mem_cons.1 h
    refine List.foldlRecOn qs Coordinate.larger hq fun best hbest r hr => ?_
    have hlarger : Coordinate.larger best r = best ∨ Coordinate.larger best r = r := Quantity.larger_eq best r
    rcases hlarger with heq | heq
    · rw [heq]
      exact hbest
    · rw [heq]
      exact hqs r hr

/-- There is a layout of a tree whose columns, times the sizes, stay below the limit. -/
theorem exists_ofTree {config : LayoutConfig Quantity} {size : Nat} {tree : Node} (highlighted : List String)
    (hconfig : config.Within size) (hlimit : (tree.columns + 1) * (2 * size + 1) < wholeLimit) :
    ∃ l, ofTree config highlighted tree = .ok l := by
  have hreach : tree.columns * (2 * size + 1) + size + size < wholeLimit := by
    rw [Nat.add_mul] at hlimit
    omega
  obtain ⟨all, hall, hwithin⟩ := exists_subtree highlighted hconfig hreach tree 0 0 (.whole 0) (by omega) (by omega)
    (Quantity.within_whole (Nat.zero_le _))
  have ends {start extent : Box Quantity → Quantity}
      (hstart : ∀ b ∈ all.boxes, (start b).Within (tree.columns * (2 * size + 1) + size))
      (hextent : ∀ b ∈ all.boxes, (extent b).Within size) :
      ∃ qs, (all.boxes.mapM fun b => Coordinate.add (start b) (extent b)) = .ok qs ∧
        ∃ q, Coordinate.add (greatest qs) config.padding = .ok q := by
    obtain ⟨qs, hqs, hbound⟩ := Except.exists_mapM_eq_ok_forall fun b hb =>
      Quantity.exists_add (hstart b hb) (hextent b hb) (by omega) (by omega)
    obtain ⟨q, hq, -⟩ := Quantity.exists_add (greatest_within hbound) hconfig.padding (by omega) (by omega)
    exact ⟨qs, hqs, q, hq⟩
  obtain ⟨right, hright, width, hwidth⟩ := ends (fun b hb => (hwithin.boxes b hb).x) fun b hb => (hwithin.boxes b hb).width
  obtain ⟨bottom, hbottom, height, hheight⟩ :=
    ends (fun b hb => (hwithin.boxes b hb).y) fun b hb => (hwithin.boxes b hb).height
  exact ⟨_, Except.bind_eq_ok.2 ⟨all, hall, Except.bind_eq_ok.2 ⟨right, hright, Except.bind_eq_ok.2 ⟨width, hwidth,
    Except.bind_eq_ok.2 ⟨bottom, hbottom, Except.bind_eq_ok.2 ⟨height, hheight, rfl⟩⟩⟩⟩⟩⟩

end Layout

end RegulatoryTrees
