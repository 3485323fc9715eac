import Mathlib.Data.List.Induction
import RegulatoryTrees.Number.Decimal

/-!
# Digits and the numbers they stand for

Reading the digits of a number gives the number back, and zeros at either end of some digits do what they should: in front they
count for nothing, at the end each multiplies by ten.
-/

namespace RegulatoryTrees

namespace Decimal

/-- The value of some digits is the one that the library computes. -/
theorem natOfDigits_eq_ofDigitChars (ds : List Char) : natOfDigits ds = Nat.ofDigitChars 10 ds 0 := rfl

/-- The digits of a number stand for it. -/
theorem natOfDigits_digitsOf (n : Nat) : natOfDigits (digitsOf n) = n := by
  rw [natOfDigits_eq_ofDigitChars, digitsOf, Nat.ofDigitChars_ten_toDigits]

/-- Zeros after some digits multiply by powers of ten. -/
theorem natOfDigits_append_zeros (ds : List Char) (k : Nat) :
    natOfDigits (ds ++ List.replicate k '0') = natOfDigits ds * Nat.pow 10 k := by
  rw [natOfDigits_eq_ofDigitChars, Nat.ofDigitChars_append, Nat.ofDigitChars_replicate_zero, Nat.mul_comm]
  rfl

/-- Zeros before some digits count for nothing. -/
theorem natOfDigits_zeros_append (k : Nat) (ds : List Char) :
    natOfDigits (List.replicate k '0' ++ ds) = natOfDigits ds := by
  rw [natOfDigits_eq_ofDigitChars, Nat.ofDigitChars_append, Nat.ofDigitChars_replicate_zero, Nat.mul_zero]
  rfl

/-- Every number has a digit. -/
theorem digitsOf_ne_nil (n : Nat) : digitsOf n ≠ [] := Nat.toDigits_ne_nil

/-- The digits of a number are ASCII digits. -/
theorem isAsciiDigit_of_mem_digitsOf {n : Nat} {c : Char} (h : c ∈ digitsOf n) : Text.isAsciiDigit c = true := by
  have hd : c.isDigit = true := Nat.isDigit_of_mem_toDigits (by decide) (by decide) h
  simpa [Char.isDigit, Text.isAsciiDigit, Char.le_def, UInt32.le_iff_toNat_le] using hd

theorem digitsOf_zero : digitsOf 0 = ['0'] := Nat.toDigits_zero 10

/-- A positive number times ten has one more digit, a zero. -/
theorem digitsOf_mul_ten {n : Nat} (h : 0 < n) : digitsOf (n * 10) = digitsOf n ++ ['0'] := by
  have := Nat.toDigits_append_toDigits (d := 0) (by decide : 1 < 10) h (by decide)
  rw [Nat.toDigits_zero, Nat.add_zero, Nat.mul_comm] at this
  exact this.symm

/-- A positive number times a power of ten has so many more digits. -/
theorem length_digitsOf_mul_pow {n : Nat} (h : 0 < n) (k : Nat) :
    (digitsOf (n * Nat.pow 10 k)).length = (digitsOf n).length + k := by
  induction k with
  | zero => exact congrArg (fun m => (digitsOf m).length) (Nat.mul_one n)
  | succ k ih =>
    have hpos : 0 < n * Nat.pow 10 k := Nat.mul_pos h (Nat.pow_pos (by decide))
    have hstep : n * Nat.pow 10 (k + 1) = n * Nat.pow 10 k * 10 := by rw [Nat.mul_assoc]; rfl
    rw [hstep, digitsOf_mul_ten hpos, List.length_append, ih]
    rfl

/-- A number has at most so many digits if it lies below that power of ten. -/
theorem length_digitsOf_le_iff {n k : Nat} (h : 0 < k) : (digitsOf n).length ≤ k ↔ n < Nat.pow 10 k :=
  Nat.length_toDigits_le_iff (by decide) h

/-- A product has at most so many digits if a bound of one factor times the other is no more than that power of ten. -/
theorem length_digitsOf_mul_le {n a b k : Nat} (hn : n < a) (hb : 0 < b) (hk : 0 < k) (hab : a * b ≤ Nat.pow 10 k) :
    (digitsOf (n * b)).length ≤ k :=
  (length_digitsOf_le_iff hk).2 (Nat.lt_of_lt_of_le (Nat.mul_lt_mul_of_pos_right hn hb) hab)

/-- A multiple of a number that is no less than a power of ten has more digits than that. -/
theorem lt_length_digitsOf_mul {n b k : Nat} (hn : 0 < n) (hk : 0 < k) (hb : Nat.pow 10 k ≤ b) :
    k < (digitsOf (n * b)).length := by
  refine Nat.lt_of_not_le fun hle => ?_
  have hlt := (length_digitsOf_le_iff hk).1 hle
  exact absurd (Nat.le_trans hb (Nat.le_mul_of_pos_left b hn)) (Nat.not_le.2 hlt)

/-- The digits of a positive number begin with no zero. -/
theorem head?_digitsOf {n : Nat} (h : 0 < n) : (digitsOf n).head? ≠ some '0' := by
  induction n using Nat.strongRecOn with
  | ind n ih =>
    by_cases hlt : n < 10
    · rw [digitsOf, Nat.toDigits_of_lt_base hlt]
      have : n = 1 ∨ n = 2 ∨ n = 3 ∨ n = 4 ∨ n = 5 ∨ n = 6 ∨ n = 7 ∨ n = 8 ∨ n = 9 := by omega
      rcases this with rfl | rfl | rfl | rfl | rfl | rfl | rfl | rfl | rfl <;> decide
    · have hdiv := ih (n / 10) (by omega) (by omega)
      rw [digitsOf, Nat.toDigits_of_base_le (by decide) (by omega), List.head?_append]
      rw [digitsOf] at hdiv
      cases hh : (Nat.toDigits 10 (n / 10)).head? with
      | none => exact absurd (List.head?_eq_none_iff.1 hh) Nat.toDigits_ne_nil
      | some c =>
        rw [hh] at hdiv
        simpa using hdiv

/-- An ASCII digit is the numeral of a number below ten. -/
theorem digitsOf_eq_singleton {c : Char} (h : Text.isAsciiDigit c = true) :
    c.toNat - 48 < 10 ∧ digitsOf (c.toNat - 48) = [c] := by
  have hrange : 48 ≤ c.toNat ∧ c.toNat ≤ 57 := by
    simpa [Text.isAsciiDigit, Char.le_def, UInt32.le_iff_toNat_le] using h
  have hlt : c.toNat - 48 < 10 := by omega
  have hchar : c = Char.ofNat (48 + (c.toNat - 48)) := by rw [Nat.add_sub_cancel' hrange.1, Char.ofNat_toNat]
  refine ⟨hlt, ?_⟩
  rw [digitsOf, Nat.toDigits_of_lt_base hlt]
  generalize c.toNat - 48 = n at hlt hchar
  subst hchar
  decide +revert

/-- Digits that begin with no zero, unless they are a zero alone, are those of the number that they stand for. The digits in
front stand for a positive number, which is multiplied by ten. -/
theorem digitsOf_natOfDigits {ds : List Char} (hne : ds ≠ []) (hdigit : ∀ c ∈ ds, Text.isAsciiDigit c = true)
    (hzero : ds.head? = some '0' → ds.length = 1) : digitsOf (natOfDigits ds) = ds := by
  induction ds using List.reverseRecOn with
  | nil => exact absurd rfl hne
  | append_singleton ds c ih =>
    obtain ⟨hlt, hlast⟩ := digitsOf_eq_singleton (hdigit c (by simp))
    rw [natOfDigits_eq_ofDigitChars, Nat.ofDigitChars_append]
    by_cases hds : ds = []
    · subst hds
      simpa [Nat.ofDigitChars] using hlast
    · have hhead : ds.head? ≠ some '0' := by
        intro h
        have hlength := hzero (by rw [List.head?_append, h, Option.some_or])
        rw [List.length_append, List.length_singleton] at hlength
        exact hds (List.eq_nil_of_length_eq_zero (by omega))
      have hfront := ih hds (fun d hd => hdigit d (List.mem_append_left _ hd)) fun h => absurd h hhead
      have hpos : 0 < natOfDigits ds := by
        refine Nat.pos_of_ne_zero fun h => hhead ?_
        rw [← hfront, h, digitsOf_zero]
        rfl
      have happend := Nat.toDigits_append_toDigits (by decide : 1 < 10) hpos hlt
      rw [← digitsOf, ← digitsOf, hfront, hlast] at happend
      exact happend.symm

/-! ## Digits without the zeros at the end -/

/-- Some digits without the zeros at the end. -/
def significant (ds : List Char) : List Char := (ds.reverse.dropWhile (· == '0')).reverse

/-- What is left out are zeros. -/
theorem eq_significant_append (ds : List Char) : ∃ k, ds = significant ds ++ List.replicate k '0' := by
  refine ⟨(ds.reverse.takeWhile (· == '0')).length, ?_⟩
  have hzeros : ds.reverse.takeWhile (· == '0') = List.replicate (ds.reverse.takeWhile (· == '0')).length '0' :=
    List.eq_replicate_iff.2 ⟨rfl, fun c hc => by simpa using List.all_eq_true.1 List.all_takeWhile c hc⟩
  have hsplit := congrArg List.reverse (List.takeWhile_append_dropWhile (p := (· == '0')) (l := ds.reverse))
  rw [List.reverse_append, List.reverse_reverse, hzeros, List.reverse_replicate] at hsplit
  exact hsplit.symm

/-- Digits that begin with no zero do so without the zeros at the end. -/
theorem head?_significant {ds : List Char} (h : ds.head? ≠ some '0') : (significant ds).head? = ds.head? := by
  obtain ⟨k, hk⟩ := eq_significant_append ds
  cases hs : significant ds with
  | cons c cs =>
    rw [hs] at hk
    rw [hk]
    rfl
  | nil =>
    rw [hs, List.nil_append] at hk
    cases k with
    | zero => rw [hk]; rfl
    | succ k =>
      rw [hk] at h
      exact absurd rfl h

end Decimal

end RegulatoryTrees
