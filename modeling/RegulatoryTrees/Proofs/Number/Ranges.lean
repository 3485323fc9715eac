import RegulatoryTrees.Number.Quantity
import RegulatoryTrees.Proofs.Number.Doubles
import RegulatoryTrees.Proofs.Outcome

/-!
# Quantities that can be computed with

Only whole numbers can be too large to become doubles. A ratio is rounded to at most 53 bits, or to the power of two after
them, so it is a double unless it is near the greatest one (`representable_roundSignificant`). Quantities whose whole numbers
stay below a limit can therefore be added, multiplied and halved, and the bounds of the results are those of the whole numbers.
-/

namespace RegulatoryTrees

/-! ## Rounding within the range of doubles -/

/-- A ratio is rounded to at most one more than its whole part. -/
theorem roundRatio_le (num den : Nat) : roundRatio num den ≤ num / den + 1 := by
  have hmod : num / den % 2 < 2 := Nat.mod_lt _ (by decide)
  simp only [roundRatio]
  split
  · omega
  · split <;> omega

/-- A number of at most 53 bits, or the power of two after them, is a double with as many zeros behind it as doubles can
have. -/
theorem representable_mul_pow {r k : Nat} (hr : r ≤ Nat.pow 2 53) (hk : k < 2045) : Representable (r * Nat.pow 2 k) := by
  have hpow : ∀ i, 0 < Nat.pow 2 i := fun i => Nat.pow_pos (by decide)
  rcases Nat.eq_zero_or_pos r with rfl | hpos
  · rw [Nat.zero_mul]
    exact ⟨Nat.zero_mod _, by decide⟩
  have hne : r * Nat.pow 2 k ≠ 0 := Nat.ne_of_gt (Nat.mul_pos hpos (hpow k))
  have hle : r * Nat.pow 2 k ≤ Nat.pow 2 (53 + k) := by
    have hadd : Nat.pow 2 (53 + k) = Nat.pow 2 53 * Nat.pow 2 k := Nat.pow_add 2 53 k
    rw [hadd]
    exact Nat.mul_le_mul_right _ hr
  have hself : Nat.pow 2 (r * Nat.pow 2 k).log2 ≤ r * Nat.pow 2 k := Nat.log2_self_le hne
  have hlog : (r * Nat.pow 2 k).log2 ≤ 53 + k := (Nat.pow_le_pow_iff_right Nat.one_lt_two).1 (Nat.le_trans hself hle)
  refine ⟨Nat.mod_eq_zero_of_dvd ?_, by omega⟩
  by_cases hbits : (r * Nat.pow 2 k).log2 ≤ 52 + k
  · exact Nat.dvd_trans (Nat.pow_dvd_pow 2 (by omega)) (Nat.dvd_mul_left _ r)
  · have htop : (r * Nat.pow 2 k).log2 = 53 + k := by omega
    have heq : r * Nat.pow 2 k = Nat.pow 2 (53 + k) := Nat.le_antisymm hle (htop ▸ hself)
    rw [htop, heq]
    exact Nat.pow_dvd_pow 2 (by omega)

/-- A ratio below half the greatest power of two that is a double is rounded to a double. -/
theorem representable_roundSignificant {num den : Nat} (h : (num / den).log2 < 2097) :
    Representable (roundSignificant num den) := by
  have hpow : 0 < Nat.pow 2 ((num / den).log2 - 52) := Nat.pow_pos (by decide)
  refine representable_mul_pow (Nat.le_trans (roundRatio_le _ _) ?_) (by omega)
  rw [← Nat.div_div_eq_div_mul]
  refine Nat.succ_le_of_lt ((Nat.div_lt_iff_lt_mul hpow).2 ?_)
  calc num / den < 2 ^ ((num / den).log2 + 1) := Nat.lt_log2_self
    _ ≤ 2 ^ (53 + ((num / den).log2 - 52)) := Nat.pow_le_pow_right (by decide) (by omega)
    _ = Nat.pow 2 53 * Nat.pow 2 ((num / den).log2 - 52) := Nat.pow_add 2 53 _

/-- A number below a power of two, multiplied by another one and divided, has no more bits than both powers have zeros. -/
theorem log2_mul_pow_div_lt {m i : Nat} (h : m < Nat.pow 2 i) (hi : 0 < i) (j den : Nat) :
    (m * Nat.pow 2 j / den).log2 < i + j := by
  have hpow : Nat.pow 2 (i + j) = Nat.pow 2 i * Nat.pow 2 j := Nat.pow_add 2 i j
  have hlt : m * Nat.pow 2 j < Nat.pow 2 (i + j) := by
    rw [hpow]
    exact Nat.mul_lt_mul_of_pos_right h (Nat.pow_pos (by decide))
  by_cases hzero : m * Nat.pow 2 j / den = 0
  · rw [hzero, Nat.log2_zero]
    omega
  · exact (Nat.log2_lt hzero).2 (Nat.lt_of_le_of_lt (Nat.div_le_self _ _) hlt)

/-- Whole numbers below this one are not too large for doubles. -/
def wholeLimit : Nat := Nat.pow 2 1023

namespace Double

/-- A ratio in units with few enough bits is rounded to a finite double. -/
theorem exists_ofUnits_eq_finite (negative : Bool) {num den : Nat} (h : (num / den).log2 < 2097) :
    ∃ m, ofUnits negative num den = .finite negative m := by
  have hunits := representable_roundSignificant h
  exact ⟨⟨_, hunits⟩, dif_pos hunits⟩

/-- A whole number below the limit, divided by any other, has a double. The powers are too large to be computed, so the
exponents are forgotten. -/
theorem exists_ofRatio? {n : Int} (h : n.natAbs < wholeLimit) (den : Nat) : ∃ d, ofRatio? n den = some d := by
  have hlog : (n.natAbs * unitsInOne / den).log2 < 1023 + 1074 := by
    have hpos : 0 < 1023 := by decide
    unfold wholeLimit at h
    unfold unitsInOne
    generalize 1074 = j
    generalize 1023 = i at h hpos
    exact log2_mul_pow_div_lt h hpos j den
  obtain ⟨m, hm⟩ := exists_ofUnits_eq_finite (n < 0) hlog
  rw [ofRatio?, hm]
  exact ⟨_, rfl⟩

theorem exists_ofInt? {n : Int} (h : n.natAbs < wholeLimit) : ∃ d, ofInt? n = some d := exists_ofRatio? h 1

end Double

/-! ## Quantities -/

namespace Quantity

/-- A quantity that is no whole number beyond a bound. -/
def Within (bound : Nat) (q : Quantity) : Prop := ∀ n, q.whole? = some n → n.natAbs ≤ bound

variable {a b : Quantity} {i j : Nat}

theorem Within.mono (h : a.Within i) (hij : i ≤ j) : a.Within j := fun n hn => Nat.le_trans (h n hn) hij

theorem within_whole {n : Int} (h : n.natAbs ≤ i) : (Quantity.whole n).Within i := fun _ hn => Option.some.inj hn ▸ h

/-- A double is within every bound, which is one on whole numbers. -/
theorem within_real (d : Double) : (Quantity.real d).Within i := fun _ hn => nomatch hn

/-- A quantity below the limit can be taken as a double. -/
theorem exists_toDouble (h : a.Within i) (hi : i < wholeLimit) : ∃ d, a.toDouble = .ok d := by
  have hwhole : ∀ n, a.whole? = some n → ∃ d, Double.ofInt? n = some d := fun n hn =>
    Double.exists_ofInt? (Nat.lt_of_le_of_lt (h n hn) hi)
  cases a with
  | real d => exact ⟨d, rfl⟩
  | flag | whole =>
    obtain ⟨d, hd⟩ := hwhole _ rfl
    exact ⟨d, congrArg Overflow.conversion.orFail hd⟩

/-- Quantities below the limit can be combined, and a whole result keeps to the bound of the whole numbers. -/
theorem exists_combine {onWhole : Int → Int → Int} {onReal : Double → Double → Double} {bound : Nat} (ha : a.Within i)
    (hb : b.Within j) (hi : i < wholeLimit) (hj : j < wholeLimit)
    (hbound : ∀ m n : Int, m.natAbs ≤ i → n.natAbs ≤ j → (onWhole m n).natAbs ≤ bound) :
    ∃ c, combine onWhole onReal a b = .ok c ∧ c.Within bound := by
  obtain ⟨x, hx⟩ := exists_toDouble ha hi
  obtain ⟨y, hy⟩ := exists_toDouble hb hj
  have hreal : (do return .real (onReal (← a.toDouble) (← b.toDouble)) : Except Overflow Quantity) =
      .ok (.real (onReal x y)) := by
    rw [hx, hy]
    rfl
  unfold combine
  split
  · next m n hm hn => exact ⟨_, rfl, within_whole (hbound m n (ha m hm) (hb n hn))⟩
  · exact ⟨_, hreal, within_real _⟩

/-- Quantities below the limit have a sum, within the sum of their bounds. -/
theorem exists_add (ha : a.Within i) (hb : b.Within j) (hi : i < wholeLimit) (hj : j < wholeLimit) :
    ∃ c, add a b = .ok c ∧ c.Within (i + j) :=
  exists_combine ha hb hi hj fun m n hm hn => by omega

theorem exists_sub (ha : a.Within i) (hb : b.Within j) (hi : i < wholeLimit) (hj : j < wholeLimit) :
    ∃ c, sub a b = .ok c ∧ c.Within (i + j) :=
  exists_combine ha hb hi hj fun m n hm hn => by omega

theorem exists_mul (ha : a.Within i) (hb : b.Within j) (hi : i < wholeLimit) (hj : j < wholeLimit) :
    ∃ c, mul a b = .ok c ∧ c.Within (i * j) :=
  exists_combine ha hb hi hj fun m n hm hn => by
    rw [Int.natAbs_mul]
    exact Nat.mul_le_mul hm hn

/-- Half of a quantity is never a whole number. -/
theorem exists_half (ha : a.Within i) (hi : i < wholeLimit) : ∃ c, half a = .ok c ∧ c.Within 0 := by
  have hwhole : ∀ n, a.whole? = some n → ∃ d, Double.ofRatio? n 2 = some d := fun n hn =>
    Double.exists_ofRatio? (Nat.lt_of_le_of_lt (ha n hn) hi) 2
  unfold half
  split
  · next n hn =>
    obtain ⟨d, hd⟩ := hwhole n hn
    rw [hd]
    exact ⟨_, rfl, within_real d⟩
  · obtain ⟨d, hd⟩ := exists_toDouble ha hi
    rw [hd]
    exact ⟨_, rfl, within_real _⟩

/-- The larger of two quantities is one of them. -/
theorem larger_eq (a b : Quantity) : larger a b = a ∨ larger a b = b := by
  unfold larger
  split
  · exact .inr rfl
  · exact .inl rfl

end Quantity

end RegulatoryTrees
