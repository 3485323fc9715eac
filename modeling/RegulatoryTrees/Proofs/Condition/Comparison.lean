import Mathlib.Order.WithBot
import RegulatoryTrees.Condition
import RegulatoryTrees.Proofs.Value.Equivalence

/-!
# Comparing numbers by conditions

The operators that compare numbers ask for the order of two exact values, with minus infinity below and infinity above all finite
ones: nothing is rounded, also not where an integer is compared with a double. So they form one total order on all numbers but
NaN, and a comparison with NaN does not hold, without being reported as a problem (`comparisons_of_numbers`).
-/

namespace RegulatoryTrees

namespace Number

/-! ## Exact values -/

/-- The place of a number among the rational numbers and the two infinities; NaN has none. -/
def place? : Number → Option (WithBot (WithTop ℚ))
  | .real (.infinite negative) => some (if negative then ⊥ else ⊤)
  | x => x.toRat?.map fun q : ℚ => ((q : WithTop ℚ) : WithBot (WithTop ℚ))

/-- A finite number has the place of its value. -/
theorem place?_of_toRat? {x : Number} {q : ℚ} (h : x.toRat? = some q) :
    x.place? = some ((q : WithTop ℚ) : WithBot (WithTop ℚ)) := by
  have hplace : x.place? = x.toRat?.map fun q : ℚ => ((q : WithTop ℚ) : WithBot (WithTop ℚ)) := by
    cases x with
    | whole n => rfl
    | real d =>
      cases d with
      | infinite negative => cases h
      | nan | finite => rfl
  rw [hplace, h, Option.map_some]

/-- Every number but NaN has a place. -/
theorem exists_place? {x : Number} (h : x ≠ .real .nan) : ∃ a, x.place? = some a := by
  rcases position?_cases x with hx | ⟨negative, rfl⟩ | ⟨units, -, hvalue⟩
  · exact absurd (position?_eq_none.1 hx) h
  · exact ⟨_, rfl⟩
  · exact ⟨_, place?_of_toRat? hvalue⟩

/-- Units are ordered as the values of so many units. -/
theorem compare_units (a b : Int) : compare a b = compare (a / unitsInOne : ℚ) (b / unitsInOne) := by
  have hpos : (0 : ℚ) < unitsInOne := lt_of_le_of_ne (Nat.cast_nonneg _) unitsInOne_ne_zero.symm
  have hlt {a b : Int} : (a / unitsInOne : ℚ) < b / unitsInOne ↔ a < b := by
    rw [div_lt_div_iff_of_pos_right hpos, Int.cast_lt]
  cases h : compare a b with
  | lt => exact (compare_lt_iff_lt.2 (hlt.2 (compare_lt_iff_lt.1 h))).symm
  | eq => exact (compare_eq_iff_eq.2 (units_eq_iff.2 (compare_eq_iff_eq.1 h))).symm
  | gt => exact (compare_gt_iff_gt.2 (hlt.2 (compare_gt_iff_gt.1 h))).symm

/-- Values have the order that they have beside the infinities. -/
theorem compare_coe (p q : ℚ) :
    compare ((p : WithTop ℚ) : WithBot (WithTop ℚ)) ((q : WithTop ℚ) : WithBot (WithTop ℚ)) = compare p q := by
  cases h : compare p q with
  | lt => exact compare_lt_iff_lt.2 (by exact_mod_cast compare_lt_iff_lt.1 h)
  | eq => exact compare_eq_iff_eq.2 (by rw [compare_eq_iff_eq.1 h])
  | gt => exact compare_gt_iff_gt.2 (by exact_mod_cast compare_gt_iff_gt.1 h)

/-- A place is that of an infinity or of the value of so many units. -/
theorem place?_cases {x : Number} {a : WithBot (WithTop ℚ)} (h : x.place? = some a) :
    (∃ negative, x = .real (.infinite negative) ∧ a = if negative then ⊥ else ⊤) ∨
      ∃ units : Int, x.position? = some (0, units) ∧ a = ((units / unitsInOne : ℚ) : WithTop ℚ) := by
  rcases position?_cases x with hx | ⟨negative, rfl⟩ | ⟨units, hx, hvalue⟩
  · rw [position?_eq_none.1 hx] at h
    cases h
  · exact .inl ⟨negative, rfl, (Option.some.inj h).symm⟩
  · exact .inr ⟨units, hx, Option.some.inj (h.symm.trans (place?_of_toRat? hvalue))⟩

/-- Numbers are compared by their places. -/
theorem compare?_eq_compare {x y : Number} {a b : WithBot (WithTop ℚ)} (ha : x.place? = some a) (hb : y.place? = some b) :
    x.compare? y = some (compare a b) := by
  have below (q : ℚ) : compare (⊥ : WithBot (WithTop ℚ)) ((q : WithTop ℚ) : WithBot (WithTop ℚ)) = .lt :=
    compare_lt_iff_lt.2 (WithBot.bot_lt_coe _)
  have above (q : ℚ) : compare ((q : WithTop ℚ) : WithBot (WithTop ℚ)) (⊤ : WithBot (WithTop ℚ)) = .lt :=
    compare_lt_iff_lt.2 (WithBot.coe_lt_coe.2 (WithTop.coe_lt_top q))
  have apart : compare (⊥ : WithBot (WithTop ℚ)) ⊤ = .lt := compare_lt_iff_lt.2 bot_lt_top
  have swapped {a b : WithBot (WithTop ℚ)} (h : compare a b = .lt) : compare b a = .gt :=
    compare_gt_iff_gt.2 (compare_lt_iff_lt.1 h)
  rcases place?_cases ha with ⟨s, rfl, rfl⟩ | ⟨m, hx, rfl⟩ <;> rcases place?_cases hb with ⟨t, rfl, rfl⟩ | ⟨n, hy, rfl⟩
  · cases s <;> cases t <;> simp [compare?, position?, Double.position?, comparePositions, apart, swapped apart] <;> decide
  · rw [compare?, hy]
    cases s with
    | false => exact congrArg some (swapped (above _)).symm
    | true => exact congrArg some (below _).symm
  · rw [compare?, hx]
    cases t with
    | false => exact congrArg some (above _).symm
    | true => exact congrArg some (swapped (below _)).symm
  · rw [compare?, hx, hy, compare_coe, ← compare_units]
    rfl

/-- Numbers cannot be compared exactly if one of them is NaN. -/
theorem compare?_eq_none {x y : Number} : x.compare? y = none ↔ x = .real .nan ∨ y = .real .nan := by
  rw [← position?_eq_none, ← position?_eq_none, compare?]
  cases x.position? <;> cases y.position? <;> simp

/-- A number as a value. -/
def toValue : Number → Value
  | .whole n => .int n
  | .real d => .double d

@[simp] theorem number?_toValue (x : Number) : x.toValue.number? = some x := by cases x <;> rfl

/-- Numbers are strictly equal if their places are the same. -/
theorem strictEquals_toValue (x y : Number) : x.toValue.strictEquals y.toValue = (x.compare? y == some .eq) := by
  cases x <;> cases y <;> rfl

end Number

namespace Operator

/-- The operators that ask for the order or the equality of numbers. -/
def comparing : List Operator := [.eq, .lt, .gt, .lte, .gte]

theorem named?_name (op : Operator) : named? op.name = some op := by cases op <;> decide +kernel

end Operator

namespace Condition

/-! ## Answers -/

/-- What a condition with an operator and an expected number comes to on a number; it may be about any fact. -/
def between (fact : String) (op : Operator) (x y : Number) : Except Failure Outcome :=
  apply ⟨fact, op.name, y.toValue⟩ x.toValue

/-- A comparison of two numbers holds, and no problem is met. -/
def Holds (fact : String) (op : Operator) (x y : Number) : Prop := between fact op x y = .ok (.plain true)

section Between

variable {fact : String} {op : Operator} {x y : Number} {a b : WithBot (WithTop ℚ)}

/-- Comparing two numbers by an operator is to apply the operator to them as values. -/
theorem between_eq_applyOperator : between fact op x y = applyOperator op x.toValue y.toValue := by
  rw [between, apply, operator?, Operator.named?_name]

/-- An operator that asks for an order answers by it, without a problem. -/
theorem between_of_holdsFor? {test : Ordering → Bool} (h : op.holdsFor? = some test) :
    between fact op x y = .ok (.plain ((x.compare? y).any test)) := by
  have horder : order test x.toValue y.toValue = .plain ((x.compare? y).any test) := by
    rw [order, Number.number?_toValue, Number.number?_toValue]
  rw [between_eq_applyOperator, ← horder]
  cases op <;> cases h <;> rfl

/-- Numbers are equal as facts when they compare as equal. -/
theorem between_eq : between fact .eq x y = .ok (.plain (x.compare? y == some .eq)) := by
  rw [between_eq_applyOperator, applyOperator, Number.strictEquals_toValue]

/-- Numbers are unequal as facts when they do not compare as equal, so that NaN is unequal to everything. -/
theorem between_neq : between fact .neq x y = .ok (.plain !(x.compare? y == some .eq)) := by
  rw [between_eq_applyOperator, applyOperator, Number.strictEquals_toValue]

theorem plain_inj {b c : Bool} : (Except.ok (Outcome.plain b) : Except Failure Outcome) = .ok (.plain c) ↔ b = c := by
  simp [Outcome.plain]

/-- An operator that asks for an order holds of two places in such an order. -/
theorem holds_of_holdsFor? {test : Ordering → Bool} (h : op.holdsFor? = some test) (ha : x.place? = some a)
    (hb : y.place? = some b) : Holds fact op x y ↔ test (compare a b) = true := by
  rw [Holds, between_of_holdsFor? h, plain_inj, Number.compare?_eq_compare ha hb, Option.any_some]

/-- Between numbers with places, equality is equality of the places. -/
theorem holds_eq_iff (ha : x.place? = some a) (hb : y.place? = some b) : Holds fact .eq x y ↔ a = b := by
  rw [Holds, between_eq, plain_inj, Number.compare?_eq_compare ha hb, beq_iff_eq, Option.some_inj, compare_eq_iff_eq]

theorem holds_lt_iff (ha : x.place? = some a) (hb : y.place? = some b) : Holds fact .lt x y ↔ a < b := by
  rw [holds_of_holdsFor? rfl ha hb, beq_iff_eq, compare_lt_iff_lt]

theorem holds_gt_iff (ha : x.place? = some a) (hb : y.place? = some b) : Holds fact .gt x y ↔ b < a := by
  rw [holds_of_holdsFor? rfl ha hb, beq_iff_eq, compare_gt_iff_gt]

theorem holds_lte_iff (ha : x.place? = some a) (hb : y.place? = some b) : Holds fact .lte x y ↔ a ≤ b := by
  rw [holds_of_holdsFor? rfl ha hb, bne_iff_ne, compare_le_iff_le]

theorem holds_gte_iff (ha : x.place? = some a) (hb : y.place? = some b) : Holds fact .gte x y ↔ b ≤ a := by
  rw [holds_of_holdsFor? rfl ha hb, bne_iff_ne, compare_ge_iff_ge]

/-- A comparison with NaN does not hold. -/
theorem between_of_nan (h : x = .real .nan ∨ y = .real .nan) (hop : op ∈ Operator.comparing) :
    between fact op x y = .ok (.plain false) := by
  have hnone : x.compare? y = none := Number.compare?_eq_none.2 h
  simp only [Operator.comparing, List.mem_cons, List.not_mem_nil, or_false] at hop
  rcases hop with rfl | hop
  · rw [between_eq, hnone]
    rfl
  · obtain ⟨test, htest⟩ : ∃ test, op.holdsFor? = some test := by
      rcases hop with rfl | rfl | rfl | rfl <;> exact ⟨_, rfl⟩
    rw [between_of_holdsFor? htest, hnone]
    rfl

end Between

/-! ## The order of numbers -/

/-- Of two numbers other than NaN, whole or double, one is less, equal or greater and no two of these; `gte` and `lte` hold when the
order or the equality does, `gt` is `lt` the other way round, and `lt` is transitive. Nothing but inequality holds of NaN, and no
comparison of numbers meets a problem. -/
theorem comparisons_of_numbers (fact : String) (x y z : Number) :
    (x ≠ .real .nan → y ≠ .real .nan → z ≠ .real .nan →
      ((Holds fact .lt x y ∧ ¬Holds fact .eq x y ∧ ¬Holds fact .gt x y) ∨
        (¬Holds fact .lt x y ∧ Holds fact .eq x y ∧ ¬Holds fact .gt x y) ∨
        (¬Holds fact .lt x y ∧ ¬Holds fact .eq x y ∧ Holds fact .gt x y)) ∧
      (Holds fact .gte x y ↔ Holds fact .gt x y ∨ Holds fact .eq x y) ∧
      (Holds fact .lte x y ↔ Holds fact .lt x y ∨ Holds fact .eq x y) ∧
      (Holds fact .gt x y ↔ Holds fact .lt y x) ∧
      (Holds fact .lt x y → Holds fact .lt y z → Holds fact .lt x z)) ∧
    (x = .real .nan ∨ y = .real .nan →
      (∀ op ∈ Operator.comparing, between fact op x y = .ok (.plain false)) ∧
      between fact .neq x y = .ok (.plain true)) ∧
    ∀ op ∈ Operator.neq :: Operator.comparing, ∃ answer, between fact op x y = .ok (.plain answer) := by
  refine ⟨?_, ?_, ?_⟩
  · intro hx hy hz
    obtain ⟨a, ha⟩ := Number.exists_place? hx
    obtain ⟨b, hb⟩ := Number.exists_place? hy
    obtain ⟨c, hc⟩ := Number.exists_place? hz
    rw [holds_lt_iff ha hb, holds_eq_iff ha hb, holds_gt_iff ha hb, holds_gte_iff ha hb, holds_lte_iff ha hb,
      holds_lt_iff hb ha, holds_lt_iff hb hc, holds_lt_iff ha hc]
    refine ⟨?_, ?_, le_iff_lt_or_eq, Iff.rfl, lt_trans⟩
    · rcases lt_trichotomy a b with h | h | h
      · exact .inl ⟨h, h.ne, h.asymm⟩
      · exact .inr (.inl ⟨h.not_lt, h, h.not_gt⟩)
      · exact .inr (.inr ⟨h.asymm, h.ne', h⟩)
    · rw [le_iff_lt_or_eq, eq_comm]
  · intro hnan
    refine ⟨fun op hop => between_of_nan hnan hop, ?_⟩
    rw [between_neq, Number.compare?_eq_none.2 hnan]
    rfl
  · intro op hop
    simp only [Operator.comparing, List.mem_cons, List.not_mem_nil, or_false] at hop
    rcases hop with rfl | rfl | hop
    · exact ⟨_, between_neq⟩
    · exact ⟨_, between_eq⟩
    · rcases hop with rfl | rfl | rfl | rfl <;> exact ⟨_, between_of_holdsFor? rfl⟩

/-- The greatest number up to which doubles hold every whole one lies below the next whole one, which as a double would be rounded
down to it, and that one below infinity. -/
theorem comparisons_of_numbers_limit :
    Holds "units" .lt (.real Holding.limit) (.whole (2 ^ 53 + 1)) ∧
      ¬Holds "units" .eq (.real Holding.limit) (.whole (2 ^ 53 + 1)) ∧
      Holds "units" .lt (.whole (2 ^ 53 + 1)) (.real (.infinite false)) ∧
      Holds "units" .lt (.real Holding.limit) (.real (.infinite false)) ∧
      between "units" .lte (.real .nan) (.whole (2 ^ 53)) = .ok (.plain false) := by
  have hbelow : Holds "units" .lt (.real Holding.limit) (.whole (2 ^ 53 + 1)) := by
    rw [Holds, between_of_holdsFor? rfl]
    decide +kernel
  have hfinite : Holds "units" .lt (.whole (2 ^ 53 + 1)) (.real (.infinite false)) := by
    rw [Holds, between_of_holdsFor? rfl]
    decide +kernel
  obtain ⟨hone, -, -, -, htrans⟩ := (comparisons_of_numbers "units" (.real Holding.limit) (.whole (2 ^ 53 + 1))
    (.real (.infinite false))).1 (by exact nofun) (by exact nofun) (by exact nofun)
  have hnan := ((comparisons_of_numbers "units" (.real .nan) (.whole (2 ^ 53)) (.whole 0)).2.1 (.inl rfl)).1
  refine ⟨hbelow, ?_, hfinite, htrans hbelow hfinite, hnan .lte (by decide)⟩
  rcases hone with ⟨-, heq, -⟩ | ⟨hlt, -, -⟩ | ⟨hlt, -, -⟩
  · exact heq
  · exact absurd hbelow hlt
  · exact absurd hbelow hlt

end Condition

end RegulatoryTrees
