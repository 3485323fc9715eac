import RegulatoryTrees.Proofs.Number.Digits

/-!
# Doubles and the decimals written for them

A ratio is rounded by its value alone, so a decimal may be shifted against its exponent. The shortest decimal of a magnitude
reads back as the magnitude: on a grid because that was tried, and beyond the grids because there it is the exact value.
-/

namespace RegulatoryTrees

/-! ## Rounding -/

/-- A ratio and its multiples are rounded alike. -/
theorem roundRatio_mul (num den : Nat) {c : Nat} (hc : 0 < c) : roundRatio (num * c) (den * c) = roundRatio num den := by
  have hlt : 2 * (num * c % (den * c)) < den * c ↔ 2 * (num % den) < den := by
    rw [Nat.mul_mod_mul_right, ← Nat.mul_assoc, Nat.mul_lt_mul_right hc]
  have hgt : den * c < 2 * (num * c % (den * c)) ↔ den < 2 * (num % den) := by
    rw [Nat.mul_mod_mul_right, ← Nat.mul_assoc, Nat.mul_lt_mul_right hc]
  simp only [roundRatio, Nat.mul_div_mul_right num den hc, hlt, hgt]

/-- A ratio and its multiples have the same significant bits. -/
theorem roundSignificant_mul (num den : Nat) {c : Nat} (hc : 0 < c) :
    roundSignificant (num * c) (den * c) = roundSignificant num den := by
  simp only [roundSignificant, Nat.mul_div_mul_right num den hc]
  rw [Nat.mul_right_comm den c, roundRatio_mul num _ hc]

/-- A multiple is not rounded. -/
theorem roundRatio_of_mod_eq_zero {num den : Nat} (hd : 0 < den) (h : num % den = 0) : roundRatio num den = num / den := by
  simp only [roundRatio, h]
  rw [if_pos (by omega)]

/-- What a double can hold is not rounded. -/
theorem roundSignificant_of_representable {units : Nat} (h : Representable units) : roundSignificant units 1 = units := by
  have hpow : 0 < Nat.pow 2 (units.log2 - 52) := Nat.pow_pos (by decide)
  simp only [roundSignificant, Nat.div_one, Nat.one_mul]
  rw [roundRatio_of_mod_eq_zero hpow h.1]
  exact Nat.div_mul_cancel (Nat.dvd_of_mod_eq_zero h.1)

namespace Double

/-- A ratio and its multiples are one double. -/
theorem ofUnits_mul (negative : Bool) (num den : Nat) {c : Nat} (hc : 0 < c) :
    ofUnits negative (num * c) (den * c) = ofUnits negative num den := by
  simp only [ofUnits, roundSignificant_mul num den hc]

/-- The units of a magnitude are those of its double. -/
theorem ofUnits_units (negative : Bool) (m : Magnitude) : ofUnits negative m.units 1 = .finite negative m := by
  have h : roundSignificant m.units 1 = m.units := roundSignificant_of_representable m.representable
  rw [ofUnits]
  simp only [h]
  rw [dif_pos m.representable]

/-- A ratio that is a finite double keeps its sign. -/
theorem sign_of_ofUnits {negative s : Bool} {num den : Nat} {m : Magnitude} (h : ofUnits negative num den = .finite s m) :
    s = negative := by
  unfold ofUnits at h
  simp only at h
  split at h
  · exact (Double.finite.inj h).1.symm
  · exact nomatch h

/-- The double of a ratio, negated, is that of the ratio with the other sign. -/
theorem neg_ofUnits (num den : Nat) : (ofUnits false num den).neg = ofUnits true num den := by
  rw [ofUnits, ofUnits]
  by_cases h : Representable (roundSignificant num den)
  · simp only [dif_pos h]
    rfl
  · simp only [dif_neg h]
    rfl

end Double

namespace Decimal

/-! ## Decimals -/

/-- A decimal with the other sign is the double with the other sign. -/
theorem toDouble_true (digits : Nat) (exponent : Int) :
    toDouble true digits exponent = (toDouble false digits exponent).neg := by
  unfold toDouble
  simp only
  split
  · rfl
  · split
    · rfl
    · split
      · rfl
      · split <;> rw [Double.neg_ofUnits]

/-- Without digits the double is a zero, whatever the exponent. -/
theorem toDouble_zero (negative : Bool) (exponent : Int) : toDouble negative 0 exponent = .zero negative := by
  rw [toDouble]
  exact if_pos rfl

/-- Zeros may be moved from the digits to the exponent. The ratio is the same on either side of the point; only where the
powers of ten stand differs. -/
theorem toDouble_mul_pow (negative : Bool) (digits k : Nat) (exponent : Int) :
    toDouble negative (digits * Nat.pow 10 k) exponent = toDouble negative digits (exponent + k) := by
  have hten : ∀ k, 0 < Nat.pow 10 k := fun k => Nat.pow_pos (by decide)
  have hadd : ∀ i j, Nat.pow 10 (i + j) = Nat.pow 10 i * Nat.pow 10 j := fun i j => Nat.pow_add 10 i j
  rcases Nat.eq_zero_or_pos digits with rfl | hpos
  · simp [toDouble]
  · have hplaces :
        ((digitsOf (digits * Nat.pow 10 k)).length : Int) + exponent = (digitsOf digits).length + (exponent + k) := by
      rw [length_digitsOf_mul_pow hpos k]
      omega
    have hne : digits * Nat.pow 10 k ≠ 0 := Nat.ne_of_gt (Nat.mul_pos hpos (hten k))
    unfold toDouble
    simp only [hplaces]
    rw [if_neg hne, if_neg (Nat.ne_of_gt hpos)]
    congr 2
    generalize unitsInOne = one
    by_cases h : 0 ≤ exponent
    · obtain ⟨e, rfl⟩ := Int.eq_ofNat_of_zero_le h
      rw [if_pos h, if_pos (by omega), Int.toNat_natCast, ← Int.natCast_add, Int.toNat_natCast, hadd,
        Nat.mul_comm (Nat.pow 10 e), Nat.mul_assoc digits]
    · obtain ⟨e, rfl⟩ : ∃ e : Nat, exponent = -e := ⟨exponent.natAbs, by omega⟩
      rw [if_neg h, Int.neg_neg, Int.toNat_natCast]
      by_cases hk : e ≤ k
      · obtain ⟨j, rfl⟩ := Nat.exists_eq_add_of_le hk
        have hj : -(e : Int) + ((e + j : Nat) : Int) = j := by omega
        rw [hj, if_pos (by omega), Int.toNat_natCast, ← Double.ofUnits_mul negative (digits * Nat.pow 10 j * one) 1 (hten e),
          Nat.one_mul, hadd, Nat.mul_comm (Nat.pow 10 e), ← Nat.mul_assoc, Nat.mul_right_comm (digits * Nat.pow 10 j)]
      · obtain ⟨j, rfl⟩ := Nat.exists_eq_add_of_le (Nat.le_of_not_le hk)
        have hj : -((k + j : Nat) : Int) + (k : Int) = -(j : Int) := by omega
        rw [hj, if_neg (by omega), Int.neg_neg, Int.toNat_natCast, hadd, Nat.mul_comm (Nat.pow 10 k) (Nat.pow 10 j),
          Nat.mul_right_comm, Double.ofUnits_mul negative _ _ (hten k)]

/-- A decimal that is a finite double keeps its sign. -/
theorem sign_of_toDouble {negative s : Bool} {digits : Nat} {exponent : Int} {m : Magnitude}
    (h : toDouble negative digits exponent = .finite s m) : s = negative := by
  unfold toDouble at h
  simp only at h
  split at h
  · exact (Double.finite.inj h).1.symm
  · split at h
    · exact nomatch h
    · split at h
      · exact (Double.finite.inj h).1.symm
      · split at h
        · exact Double.sign_of_ofUnits h
        · exact Double.sign_of_ofUnits h

/-- What reads back as a magnitude is the double of that magnitude. -/
theorem toDouble_of_readsBack {m : Magnitude} {digits : Nat} {exponent : Int} (h : readsBack m.units digits exponent = true)
    (negative : Bool) : toDouble negative digits exponent = .finite negative m := by
  rw [readsBack] at h
  cases hd : toDouble false digits exponent with
  | nan => simp [hd] at h
  | infinite s => simp [hd] at h
  | finite s m' =>
    have hm : m' = m := by
      cases m'
      cases m
      simpa [hd] using h
    have hs : s = false := sign_of_toDouble hd
    subst hm hs
    cases negative with
    | false => exact hd
    | true => rw [toDouble_true, hd]; rfl

/-- The exact value of a magnitude is its double. The powers of two and five make up a power of ten, which cancels; they are
too large to be computed, so the exponent is forgotten. -/
theorem toDouble_exact (negative : Bool) (m : Magnitude) (h : 0 < m.units) :
    toDouble negative (m.units * Nat.pow 5 1074) (-1074) = .finite negative m := by
  have hfive : ∀ k, 0 < Nat.pow 5 k := fun k => Nat.pow_pos (by decide)
  have hten : ∀ k, 0 < Nat.pow 10 k := fun k => Nat.pow_pos (by decide)
  have hpow : ∀ k, Nat.pow 5 k * Nat.pow 2 k = Nat.pow 10 k := fun k => (Nat.mul_pow 5 2 k).symm
  have hne : m.units * Nat.pow 5 1074 ≠ 0 := Nat.mul_ne_zero (Nat.ne_of_gt h) (Nat.ne_of_gt (hfive 1074))
  have hlog : ∀ k, m.units.log2 < k → m.units < Nat.pow 2 k := fun k => (Nat.log2_lt (Nat.ne_of_gt h)).1
  have hmost : (digitsOf (m.units * Nat.pow 5 1074)).length ≤ 1474 :=
    length_digitsOf_mul_le (hlog 2098 m.representable.2) (hfive 1074) (by decide) (by decide +kernel)
  have hleast : 673 < (digitsOf (m.units * Nat.pow 5 1074)).length :=
    lt_length_digitsOf_mul h (by decide) (by decide +kernel)
  unfold toDouble
  simp only
  rw [if_neg hne, if_neg (by omega), if_neg (by omega), if_neg (by omega)]
  have hexact : ∀ k, Double.ofUnits negative (m.units * Nat.pow 5 k * Nat.pow 2 k) (Nat.pow 10 k) = .finite negative m := by
    intro k
    rw [Nat.mul_assoc, hpow k, ← Double.ofUnits_units negative m, ← Double.ofUnits_mul negative m.units 1 (hten k), Nat.one_mul]
  have hplaces : (-(-1074 : Int)).toNat = 1074 := rfl
  unfold unitsInOne
  rw [hplaces]
  generalize 1074 = k
  exact hexact k

/-! ## The shortest decimal -/

/-- A decimal found on a grid reads back. -/
theorem readsBack_of_onGrid? {units digits : Nat} {exponent : Int} (h : onGrid? units exponent = some digits) :
    readsBack units digits exponent = true := by
  unfold onGrid? at h
  grind

/-- The first decimal found from some grid on is the double of the magnitude. -/
theorem toDouble_shortestFrom (negative : Bool) (m : Magnitude) (h : 0 < m.units) (leading : Int) (remaining count : Nat) :
    toDouble negative (shortestFrom m.units leading remaining count).1 (shortestFrom m.units leading remaining count).2 =
      .finite negative m := by
  induction remaining generalizing count with
  | zero => exact toDouble_exact negative m h
  | succ remaining ih =>
    rw [shortestFrom]
    split
    · next digits hd => exact toDouble_of_readsBack (readsBack_of_onGrid? hd) negative
    · exact ih (count + 1)

/-- The shortest decimal of a positive magnitude has a positive number for digits. -/
theorem shortest_pos (m : Magnitude) (h : 0 < m.units) : 0 < (shortest m.units).1 := by
  have hread := toDouble_shortestFrom false m h (exponentOf m.units) 17 1
  apply Nat.pos_of_ne_zero
  intro hzero
  rw [shortest] at hzero
  rw [hzero, toDouble_zero] at hread
  have hunits : 0 = m.units := congrArg Magnitude.units (Double.finite.inj hread).2
  omega

/-- The shortest decimal of a magnitude is its double. -/
theorem toDouble_shortest (negative : Bool) (m : Magnitude) (h : 0 < m.units) :
    toDouble negative (shortest m.units).1 (shortest m.units).2 = .finite negative m :=
  toDouble_shortestFrom negative m h _ _ _

end Decimal

end RegulatoryTrees
