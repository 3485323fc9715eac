import Mathlib.Tactic.Linarith
import RegulatoryTrees.Proofs.Layout.Links
import RegulatoryTrees.Proofs.Tree.Walk

/-!
# Boxes do not overlap

Of two nodes of which neither lies below the other, the one that is reached by the branch for a condition that does not hold is
drawn to the left of the other one, with the spacing between them (`ofTree_separated`). The columns of the one end before those
of the other begin (`columns_apart`), and a box lies within the columns of its node, less the spacing at their right end
(`inset_nonneg`, `inset_add_width_le`).
-/

namespace RegulatoryTrees

namespace Node

/-- Two ways part: where one takes the branch for a condition that does not hold, the other takes the one for a condition that
holds. -/
inductive Parts : List Bool → List Bool → Prop where
  | here (p q : List Bool) : Parts (false :: p) (true :: q)
  | after (branch : Bool) {p q : List Bool} (h : Parts p q) : Parts (branch :: p) (branch :: q)

/-- Ways part if neither goes on where the other ends. -/
theorem parts_or_parts {p q : List Bool} (hpq : ¬p <+: q) (hqp : ¬q <+: p) : Parts p q ∨ Parts q p := by
  induction p generalizing q with
  | nil => exact absurd List.nil_prefix hpq
  | cons a p ih =>
    cases q with
    | nil => exact absurd List.nil_prefix hqp
    | cons b q =>
      by_cases hab : a = b
      · subst hab
        have hpq' : ¬p <+: q := fun h => hpq (List.cons_prefix_cons.2 ⟨rfl, h⟩)
        have hqp' : ¬q <+: p := fun h => hqp (List.cons_prefix_cons.2 ⟨rfl, h⟩)
        exact (ih hpq' hqp').imp (Parts.after a) (Parts.after a)
      · cases a <;> cases b
        · exact absurd rfl hab
        · exact Or.inl (Parts.here p q)
        · exact Or.inr (Parts.here q p)
        · exact absurd rfl hab

/-- Of two different ways of one length neither goes on where the other ends. -/
theorem not_prefix_of_length_eq {p q : List Bool} (hne : p ≠ q) (hlength : p.length = q.length) : ¬p <+: q :=
  fun h => hne (h.eq_of_length hlength)

/-- Where two ways part, the columns of the one node end before those of the other begin. -/
theorem columns_apart (n : Node) :
    ∀ s ∈ n.spots, ∀ t ∈ n.spots, Parts s.way t.way → s.before + s.node.columns ≤ t.before := by
  induction n using spots.induct with
  | case1 header c note whenTrue whenFalse hfalse htrue =>
    intro s hs t ht hparts
    rw [mem_spots_condition] at hs ht
    rcases hs with ⟨s, hs, rfl⟩ | ⟨s, hs, rfl⟩ | rfl
    · rcases ht with ⟨t, ht, rfl⟩ | ⟨t, ht, rfl⟩ | rfl
      · cases hparts with
        | after _ h =>
          have hapart := hfalse s hs t ht h
          simp only [Spot.under]
          omega
      · have hwithin := before_add_columns_le whenFalse s hs
        simp only [Spot.under]
        omega
      · cases hparts
    · rcases ht with ⟨t, ht, rfl⟩ | ⟨t, ht, rfl⟩ | rfl
      · cases hparts
      · cases hparts with
        | after _ h =>
          have hapart := htrue s hs t ht h
          simp only [Spot.under]
          omega
      · cases hparts
    · cases hparts
  | case2 n hn =>
    intro s hs t ht hparts
    rw [spots_single hn] at hs
    rw [List.mem_singleton.1 hs] at hparts
    cases hparts

end Node

namespace Layout

variable {config : LayoutConfig Rat}

/-! ## Boxes within their columns -/

theorem pitch_nonneg (hwidth : 0 ≤ config.nodeWidth) (hspacing : 0 ≤ config.horizontalSpacing) : 0 ≤ pitch config := by
  rw [pitch]
  linarith

/-- The columns below a condition are at least two. -/
theorem two_le_columns (header : Header) (c : Condition) (note : Option String) (whenTrue whenFalse : Node) :
    (2 : Rat) ≤ (Node.condition header c note whenTrue whenFalse).columns := by
  have hfalse := whenFalse.columns_pos
  have htrue := whenTrue.columns_pos
  have hsum : 2 ≤ (Node.condition header c note whenTrue whenFalse).columns := by
    rw [Node.columns]
    omega
  exact_mod_cast hsum

/-- A condition takes at least the width of two columns. -/
theorem pitch_add_pitch_le (hwidth : 0 ≤ config.nodeWidth) (hspacing : 0 ≤ config.horizontalSpacing) (header : Header)
    (c : Condition) (note : Option String) (whenTrue whenFalse : Node) :
    pitch config + pitch config ≤ (Node.condition header c note whenTrue whenFalse).columns * pitch config := by
  have h := mul_le_mul_of_nonneg_right (two_le_columns header c note whenTrue whenFalse) (pitch_nonneg hwidth hspacing)
  linarith

/-- A box begins at the left end of its columns or further right. -/
theorem inset_nonneg (hwidth : 0 ≤ config.nodeWidth) (hspacing : 0 ≤ config.horizontalSpacing) (n : Node) :
    0 ≤ inset config n := by
  unfold inset
  split
  · next header c note whenTrue whenFalse =>
    have h := pitch_add_pitch_le hwidth hspacing header c note whenTrue whenFalse
    have hp : pitch config = config.nodeWidth + config.horizontalSpacing := rfl
    linarith
  · exact le_refl 0

/-- A box ends before the right end of its columns, by the spacing or more. -/
theorem inset_add_width_le (hwidth : 0 ≤ config.nodeWidth) (hspacing : 0 ≤ config.horizontalSpacing) (n : Node) :
    inset config n + config.nodeWidth + config.horizontalSpacing ≤ n.columns * pitch config := by
  have hp : pitch config = config.nodeWidth + config.horizontalSpacing := rfl
  unfold inset
  split
  · next header c note whenTrue whenFalse =>
    have h := pitch_add_pitch_le hwidth hspacing header c note whenTrue whenFalse
    linarith
  · next hn =>
    rw [Node.columns_single hn, Nat.cast_one]
    linarith

/-- Where the columns of one node end before those of another begin, its box is to the left of the other's. -/
theorem boxAt_separated (hwidth : 0 ≤ config.nodeWidth) (hspacing : 0 ≤ config.horizontalSpacing) (highlighted : List String)
    (depth : Nat) (left : Rat) {s t : Node.Spot} (h : s.before + s.node.columns ≤ t.before) :
    (boxAt config highlighted depth left s).x + config.nodeWidth + config.horizontalSpacing ≤
      (boxAt config highlighted depth left t).x := by
  have hcolumns : ((s.before : Rat) + s.node.columns) * pitch config ≤ t.before * pitch config :=
    mul_le_mul_of_nonneg_right (by exact_mod_cast h) (pitch_nonneg hwidth hspacing)
  have hright := inset_add_width_le hwidth hspacing s.node
  have hleft := inset_nonneg hwidth hspacing t.node
  simp only [boxAt]
  linarith

/-! ## Layouts of trees -/

/-- A layout has a box for each node that branches lead to. Where the ways to two nodes part, the box of the one on the branch
for a condition that does not hold is to the left of the other's, by the spacing or more; and the ways part if neither node lies
below the other, as of two different nodes at one depth. -/
theorem ofTree_separated (config : LayoutConfig Rat) (highlighted : List String) (tree : Node)
    (hwidth : 0 ≤ config.nodeWidth) (hspacing : 0 ≤ config.horizontalSpacing) :
    ∃ l, ofTree config highlighted tree = .ok l ∧
      tree.ways.Nodup ∧ (∀ way, way ∈ tree.ways ↔ (tree.along? way).isSome) ∧
      List.Forall₂ (fun way b => ∃ n, tree.along? way = some n ∧ b.id = n.id ∧ b.kind = n.kind ∧ b.depth = way.length)
        tree.ways l.boxes ∧
      ∀ a ∈ tree.ways.zip l.boxes, ∀ b ∈ tree.ways.zip l.boxes,
        (Node.Parts a.1 b.1 → a.2.x + a.2.width + config.horizontalSpacing ≤ b.2.x) ∧
          ((¬a.1 <+: b.1 ∧ ¬b.1 <+: a.1) ∨ (a.1 ≠ b.1 ∧ a.2.depth = b.2.depth) →
            Node.Parts a.1 b.1 ∨ Node.Parts b.1 a.1) := by
  refine ⟨_, ofTree_eq config highlighted tree, tree.nodup_ways, fun _ => Node.mem_ways, forall₂_boxAt tree, ?_⟩
  intro a ha b hb
  rw [zip_ways_boxAt] at ha hb
  obtain ⟨s, hs, rfl⟩ := List.mem_map.1 ha
  obtain ⟨t, ht, rfl⟩ := List.mem_map.1 hb
  refine ⟨fun h => boxAt_separated hwidth hspacing highlighted 0 0 (tree.columns_apart s hs t ht h), fun h => ?_⟩
  rcases h with ⟨hst, hts⟩ | ⟨hne, hdepth⟩
  · exact Node.parts_or_parts hst hts
  · have hlength : s.way.length = t.way.length := by simpa [boxAt] using hdepth
    exact Node.parts_or_parts (Node.not_prefix_of_length_eq hne hlength)
      (Node.not_prefix_of_length_eq hne.symm hlength.symm)

end Layout

namespace Licence

/-- Sizes to draw the small tree with. -/
def config : LayoutConfig Rat := ⟨200, 80, 40, 60, 20⟩

end Licence

namespace Layout

/-- In the small tree, the box of a business without a licence is to the left of that of a business with a full licence, one
level further down. -/
theorem ofTree_separated_licence :
    0 ≤ Licence.config.nodeWidth ∧ 0 ≤ Licence.config.horizontalSpacing ∧
      Licence.tree.ways = [[false], [true, false], [true, true], [true], []] ∧
      ∃ l, ofTree Licence.config [] Licence.tree = .ok l ∧
        ∀ a ∈ Licence.tree.ways.zip l.boxes, ∀ b ∈ Licence.tree.ways.zip l.boxes, a.1 = [false] → b.1 = [true, true] →
          a.2.x + a.2.width + 40 ≤ b.2.x := by
  have hwidth : 0 ≤ Licence.config.nodeWidth := by norm_num [Licence.config]
  have hspacing : 0 ≤ Licence.config.horizontalSpacing := by norm_num [Licence.config]
  obtain ⟨l, hl, -, -, -, hapart⟩ := ofTree_separated Licence.config [] Licence.tree hwidth hspacing
  refine ⟨hwidth, hspacing, rfl, l, hl, fun a ha b hb hfirst hsecond => ?_⟩
  have hparts : Node.Parts a.1 b.1 := by
    rw [hfirst, hsecond]
    exact Node.Parts.here [] [true]
  exact (hapart a ha b hb).1 hparts

end Layout

end RegulatoryTrees
