import Mathlib.Order.Interval.Set.OrdConnected
import RegulatoryTrees.Proofs.Layout.Separation

/-!
# Links do not cross

Of the two links from a condition, the one for a condition that does not hold ends to the left of the middle of its box, the other
to the right (`center_sides`). Both stay within the columns of the condition (`uIcc_center_subset`), and the columns of different
conditions at one depth are apart, so links that leave boxes of one depth meet only where they begin (`ofTree_uncrossed`).
-/

namespace RegulatoryTrees

namespace Node

/-- The columns of a node below a condition are among those of the condition. -/
theorem Spot.columns_of_mem_children {s : Spot} {child : Bool × Spot} (h : child ∈ s.children) :
    s.before ≤ child.2.before ∧ child.2.before + child.2.node.columns ≤ s.before + s.node.columns := by
  obtain ⟨header, c, note, whenTrue, whenFalse, hnode, rfl | rfl⟩ := mem_children.1 h <;>
    simp only [hnode, columns] <;> omega

end Node

namespace Layout

variable {config : LayoutConfig Rat}

/-! ## The middle of a box -/

/-- How far the middle of the box of a node is from the left end of its columns. -/
def middle (config : LayoutConfig Rat) (n : Node) : Rat := inset config n + config.nodeWidth / 2

/-- The middle of the box of a spot. -/
def center (config : LayoutConfig Rat) (s : Node.Spot) : Rat :=
  s.before * pitch config + middle config s.node + config.padding

/-- A link leads from the middle of the one box to that of the other. -/
theorem linkOf_boxAt (config : LayoutConfig Rat) (highlighted : List String) (s t : Node.Spot) (branch : Bool) :
    (linkOf (boxAt config highlighted 0 0 s) (boxAt config highlighted 0 0 t) branch).fromX = center config s ∧
      (linkOf (boxAt config highlighted 0 0 s) (boxAt config highlighted 0 0 t) branch).toX = center config t := by
  constructor <;> simp only [linkOf, boxAt, center, middle] <;> ring

/-- The middle of a condition is that of its columns. -/
theorem middle_condition (header : Header) (c : Condition) (note : Option String) (whenTrue whenFalse : Node) :
    middle config (.condition header c note whenTrue whenFalse) =
      whenFalse.columns * pitch config / 2 + whenTrue.columns * pitch config / 2 := by
  rw [middle, inset, Node.columns]
  push_cast
  ring

/-- The columns below a node have some width. -/
theorem columns_mul_pitch_pos (hwidth : 0 < config.nodeWidth) (hspacing : 0 ≤ config.horizontalSpacing) (n : Node) :
    0 < n.columns * pitch config := by
  have hpitch : 0 < pitch config := by
    rw [pitch]
    linarith
  exact mul_pos (by exact_mod_cast n.columns_pos) hpitch

/-- The middle of a box is at most in the middle of its columns. -/
theorem middle_le (hspacing : 0 ≤ config.horizontalSpacing) (n : Node) :
    middle config n ≤ n.columns * pitch config / 2 := by
  unfold middle inset
  split
  · linarith
  · next hn =>
    rw [Node.columns_single hn, Nat.cast_one, pitch]
    linarith

/-- The middle of a box is at most half a column, less half a box, before the middle of its columns. -/
theorem le_middle (hspacing : 0 ≤ config.horizontalSpacing) (n : Node) :
    n.columns * pitch config / 2 + config.nodeWidth / 2 ≤ middle config n + pitch config / 2 := by
  have hp : pitch config = config.nodeWidth + config.horizontalSpacing := rfl
  unfold middle inset
  split
  · linarith
  · next hn =>
    rw [Node.columns_single hn, Nat.cast_one]
    linarith

/-- The middle of a box lies within its columns. -/
theorem middle_within (hwidth : 0 < config.nodeWidth) (hspacing : 0 ≤ config.horizontalSpacing) (n : Node) :
    0 < middle config n ∧ middle config n < n.columns * pitch config := by
  have hinset := inset_nonneg (Rat.le_of_lt hwidth) hspacing n
  have hmiddle := middle_le hspacing n
  have hcolumns := columns_mul_pitch_pos hwidth hspacing n
  refine ⟨?_, by linarith⟩
  rw [middle]
  linarith

/-! ## The links of one condition -/

section Links

variable (hwidth : 0 < config.nodeWidth) (hspacing : 0 ≤ config.horizontalSpacing) {s : Node.Spot} {child : Bool × Node.Spot}
  (h : child ∈ s.children)

include hwidth hspacing h

/-- On the branch for a condition that does not hold, the box below is further left; on the other one, further right. A box is
in the middle of its columns at most, or at least, and those of the other branch, one or more, lie beyond. -/
theorem center_sides : if child.1 then center config s < center config child.2 else center config child.2 < center config s := by
  obtain ⟨header, c, note, whenTrue, whenFalse, hnode, rfl | rfl⟩ := Node.Spot.mem_children.1 h
  · have hbelow := middle_le hspacing whenFalse
    have hother := columns_mul_pitch_pos hwidth hspacing whenTrue
    simp only [center, hnode, middle_condition, Bool.false_eq_true, if_false]
    linarith
  · have hbelow := le_middle hspacing whenTrue
    have hother : pitch config ≤ whenFalse.columns * pitch config :=
      le_mul_of_one_le_left (pitch_nonneg (Rat.le_of_lt hwidth) hspacing) (by exact_mod_cast whenFalse.columns_pos)
    simp only [center, hnode, middle_condition, if_true, Nat.cast_add, add_mul]
    linarith

/-- A link stays within the columns of its condition. -/
theorem uIcc_center_subset : Set.uIcc (center config s) (center config child.2) ⊆
    Set.Ioo (s.before * pitch config + config.padding) ((s.before + s.node.columns : Nat) * pitch config + config.padding) := by
  have hpitch := pitch_nonneg (Rat.le_of_lt hwidth) hspacing
  have within (t : Node.Spot) : center config t ∈
      Set.Ioo (t.before * pitch config + config.padding) ((t.before + t.node.columns : Nat) * pitch config + config.padding) := by
    obtain ⟨hpos, hlt⟩ := middle_within hwidth hspacing t.node
    rw [center]
    push_cast
    constructor <;> linarith
  obtain ⟨hbefore, hcolumns⟩ := Node.Spot.columns_of_mem_children h
  have hleft : (s.before : Rat) * pitch config ≤ child.2.before * pitch config :=
    mul_le_mul_of_nonneg_right (by exact_mod_cast hbefore) hpitch
  have hright : ((child.2.before + child.2.node.columns : Nat) : Rat) * pitch config ≤
      (s.before + s.node.columns : Nat) * pitch config :=
    mul_le_mul_of_nonneg_right (by exact_mod_cast hcolumns) hpitch
  exact Set.ordConnected_Ioo.uIcc_subset (within s) (Set.Ioo_subset_Ioo (by linarith) (by linarith) (within child.2))

end Links

/-! ## Links of two conditions -/

/-- Where the columns of one condition end before those of another begin, their links are apart. -/
theorem uIcc_center_inter_of_apart (hwidth : 0 < config.nodeWidth) (hspacing : 0 ≤ config.horizontalSpacing) {s t : Node.Spot}
    {below below' : Bool × Node.Spot} (hbelow : below ∈ s.children) (hbelow' : below' ∈ t.children)
    (h : s.before + s.node.columns ≤ t.before) :
    Set.uIcc (center config s) (center config below.2) ∩ Set.uIcc (center config t) (center config below'.2) = ∅ := by
  have hcolumns : ((s.before + s.node.columns : Nat) : Rat) * pitch config ≤ t.before * pitch config :=
    mul_le_mul_of_nonneg_right (by exact_mod_cast h) (pitch_nonneg (Rat.le_of_lt hwidth) hspacing)
  rw [Set.eq_empty_iff_forall_notMem]
  rintro x ⟨hx, hx'⟩
  have hright := (uIcc_center_subset hwidth hspacing hbelow hx).2
  have hleft := (uIcc_center_subset hwidth hspacing hbelow' hx').1
  linarith

/-- The two links of a condition meet only where they begin. -/
theorem uIcc_center_inter (hwidth : 0 < config.nodeWidth) (hspacing : 0 ≤ config.horizontalSpacing) {s : Node.Spot}
    {below below' : Bool × Node.Spot} (hbelow : below ∈ s.children) (hbelow' : below' ∈ s.children) (hne : below.1 ≠ below'.1) :
    Set.uIcc (center config s) (center config below.2) ∩ Set.uIcc (center config s) (center config below'.2) =
      {center config s} := by
  have meet {x y z : Rat} (hy : y < x) (hz : x < z) : Set.uIcc x y ∩ Set.uIcc x z = {x} := by
    rw [Set.uIcc_of_ge (Rat.le_of_lt hy), Set.uIcc_of_le (Rat.le_of_lt hz)]
    exact Set.Icc_inter_Icc_eq_singleton (Rat.le_of_lt hy) (Rat.le_of_lt hz)
  have hside := center_sides hwidth hspacing hbelow
  have hside' := center_sides hwidth hspacing hbelow'
  cases hbranch : below.1 with
  | false =>
    have hbranch' : below'.1 = true := by simpa [hbranch] using hne.symm
    simp only [hbranch, hbranch', Bool.false_eq_true, if_false, if_true] at hside hside'
    exact meet hside hside'
  | true =>
    have hbranch' : below'.1 = false := by simpa [hbranch] using hne.symm
    simp only [hbranch, hbranch', Bool.false_eq_true, if_false, if_true] at hside hside'
    rw [Set.inter_comm]
    exact meet hside' hside

/-! ## Layouts of trees -/

/-- A layout has a link for each branch that leads to a node, from the middle of the box of its condition to that of the node. The
link for a condition that does not hold goes to the left, the other one to the right; and of two different links that leave boxes
of one depth, the horizontal intervals share no point, unless they leave the same box, and then only the one in which they
begin. -/
theorem ofTree_uncrossed (config : LayoutConfig Rat) (highlighted : List String) (tree : Node)
    (hwidth : 0 < config.nodeWidth) (hspacing : 0 ≤ config.horizontalSpacing) :
    ∃ l, ofTree config highlighted tree = .ok l ∧ l.Draws tree ∧
      tree.forks.Nodup ∧ (∀ way branch, (way, branch) ∈ tree.forks ↔ (tree.along? (way ++ [branch])).isSome) ∧
      (∀ a ∈ tree.forks.zip l.links, if a.1.2 then a.2.fromX < a.2.toX else a.2.toX < a.2.fromX) ∧
      ∀ a ∈ tree.forks.zip l.links, ∀ b ∈ tree.forks.zip l.links, a.1 ≠ b.1 → a.1.1.length = b.1.1.length →
        (a.1.1 ≠ b.1.1 → Set.uIcc a.2.fromX a.2.toX ∩ Set.uIcc b.2.fromX b.2.toX = ∅) ∧
          (a.1.1 = b.1.1 → a.2.fromX = b.2.fromX ∧
            Set.uIcc a.2.fromX a.2.toX ∩ Set.uIcc b.2.fromX b.2.toX = {a.2.fromX}) := by
  have hl := ofTree_eq config highlighted tree
  refine ⟨_, hl, draws_ofTree hl, tree.nodup_forks, fun _ _ => Node.mem_forks, ?_, ?_⟩
  · intro a ha
    rw [flatMap_linksAt, Node.forks, List.zip_map'] at ha
    obtain ⟨⟨s, child⟩, harm, rfl⟩ := List.mem_map.1 ha
    obtain ⟨hfrom, hto⟩ := linkOf_boxAt config highlighted s child.2 child.1
    simp only [hfrom, hto]
    exact center_sides hwidth hspacing (Node.mem_arms.1 harm).2
  · intro a ha b hb hne hlength
    rw [flatMap_linksAt, Node.forks, List.zip_map'] at ha hb
    obtain ⟨⟨s, child⟩, harm, rfl⟩ := List.mem_map.1 ha
    obtain ⟨⟨t, child'⟩, harm', rfl⟩ := List.mem_map.1 hb
    obtain ⟨hs, hchild⟩ := Node.mem_arms.1 harm
    obtain ⟨ht, hchild'⟩ := Node.mem_arms.1 harm'
    obtain ⟨hfrom, hto⟩ := linkOf_boxAt config highlighted s child.2 child.1
    obtain ⟨hfrom', hto'⟩ := linkOf_boxAt config highlighted t child'.2 child'.1
    simp only [hfrom, hto, hfrom', hto'] at hne hlength ⊢
    constructor
    · intro hways
      rcases Node.parts_or_parts (Node.not_prefix_of_length_eq hways hlength)
        (Node.not_prefix_of_length_eq hways.symm hlength.symm) with hparts | hparts
      · exact uIcc_center_inter_of_apart hwidth hspacing hchild hchild' (tree.columns_apart s hs t ht hparts)
      · rw [Set.inter_comm]
        exact uIcc_center_inter_of_apart hwidth hspacing hchild' hchild (tree.columns_apart t ht s hs hparts)
    · intro hways
      obtain rfl : s = t := tree.eq_of_way_eq hs ht hways
      exact ⟨rfl, uIcc_center_inter hwidth hspacing hchild hchild' fun hbranch => hne (by rw [hbranch])⟩

/-- In the small tree, the two links from its root go to different sides and meet only where they begin. -/
theorem ofTree_uncrossed_licence :
    0 < Licence.config.nodeWidth ∧ 0 ≤ Licence.config.horizontalSpacing ∧
      Licence.tree.forks = [([true], false), ([true], true), ([], false), ([], true)] ∧
      ∃ l, ofTree Licence.config [] Licence.tree = .ok l ∧
        ∀ a ∈ Licence.tree.forks.zip l.links, ∀ b ∈ Licence.tree.forks.zip l.links, a.1 = ([], false) → b.1 = ([], true) →
          a.2.toX < a.2.fromX ∧ b.2.fromX < b.2.toX ∧
            Set.uIcc a.2.fromX a.2.toX ∩ Set.uIcc b.2.fromX b.2.toX = {a.2.fromX} := by
  have hwidth : 0 < Licence.config.nodeWidth := by norm_num [Licence.config]
  have hspacing : 0 ≤ Licence.config.horizontalSpacing := by norm_num [Licence.config]
  obtain ⟨l, hl, -, -, -, hsides, hmeet⟩ := ofTree_uncrossed Licence.config [] Licence.tree hwidth hspacing
  refine ⟨hwidth, hspacing, rfl, l, hl, fun a ha b hb hfirst hsecond => ?_⟩
  have hside := hsides a ha
  have hside' := hsides b hb
  rw [hfirst, if_neg Bool.false_ne_true] at hside
  rw [hsecond, if_pos rfl] at hside'
  have hne : a.1 ≠ b.1 := by
    rw [hfirst, hsecond]
    decide
  have hway : a.1.1 = b.1.1 := by rw [hfirst, hsecond]
  exact ⟨hside, hside', ((hmeet a ha b hb hne (congrArg List.length hway)).2 hway).2⟩

end Layout

end RegulatoryTrees
