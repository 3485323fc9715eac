import RegulatoryTrees.Json
import RegulatoryTrees.Value.Rendering

/-!
# Strings are read back

What is written for a text between quotes is read as that text. A character above U+FFFF is written as two escapes, and the
reader joins them: between the two it awaits the second half (`stringBody_pair`).
-/

namespace RegulatoryTrees

open Rendering (escapeUnit escapeChar quote)

namespace Json

/-! ## Escapes of sixteen bits -/

/-- A digit to base sixteen is read as its value. -/
theorem hexValue?_hexDigit : ∀ {d : Nat}, d < 16 → hexValue? (Text.hexDigit d) = some d := by
  decide

/-- Hexadecimal digits are read as the number they were written for, as far as they reach. -/
theorem hexNumber?_hexDigits (width n : Nat) : hexNumber? (Text.hexDigits width n) = some (n % Nat.pow 16 width) := by
  induction width generalizing n with
  | zero => simp [Text.hexDigits, hexNumber?, Nat.mod_one]
  | succ width ih =>
    have hfold := ih (n / 16)
    rw [hexNumber?] at hfold
    have hmod : 16 * (n / 16 % Nat.pow 16 width) + n % 16 = n % Nat.pow 16 (width + 1) := by
      have hpow : Nat.pow 16 (width + 1) = 16 * Nat.pow 16 width := Nat.mul_comm _ _
      rw [hpow, Nat.mod_mul, Nat.add_comm]
    rw [Text.hexDigits, hexNumber?, List.foldl_append, hfold]
    rw [← hmod]
    simp [hexValue?_hexDigit (Nat.mod_lt n (by decide : 0 < 16))]

/-- An escape of sixteen bits is read as its number, if the string goes on. -/
theorem stringBody_escapeUnit (opening : Nat) (done : Collected) {n : Nat} (hn : n < 0x10000) {rest : List Char}
    (hr : rest ≠ []) : stringBody opening done (escapeUnit n ++ rest) = stringBody opening (done.pushUnit n) rest := by
  obtain ⟨e, rest, rfl⟩ := List.exists_cons_of_ne_nil hr
  have hx := hexNumber?_hexDigits 4 n
  have hlt : n < Nat.pow 16 4 := hn
  rw [Nat.mod_eq_of_lt hlt] at hx
  simp only [Text.hexDigits, List.nil_append, List.cons_append] at hx
  simp only [escapeUnit, Text.hexDigits, List.nil_append, List.cons_append]
  rw [stringBody, hx]

/-! ## Characters -/

/-- A character is no half of a pair. -/
theorem pushUnit_toNat (done : Collected) (c : Char) : done.pushUnit c.toNat = done.push c := by
  have hvalid : c.toNat < 0xD800 ∨ 0xDFFF < c.toNat ∧ c.toNat < 0x110000 := c.valid
  unfold Collected.pushUnit
  rw [if_neg, if_neg, Char.ofNat_toNat]
  · simp only [Bool.and_eq_true, decide_eq_true_eq]
    omega
  · simp only [Bool.and_eq_true, decide_eq_true_eq]
    omega

/-- The two halves of a character above U+FFFF are joined. -/
theorem stringBody_pair (opening : Nat) {done : Collected} (hd : done.half = none) {c : Char} (hc : 0x10000 ≤ c.toNat)
    {rest : List Char} (hr : rest ≠ []) :
    stringBody opening done (escapeUnit (0xD800 + (c.toNat - 0x10000) / 0x400) ++
      (escapeUnit (0xDC00 + (c.toNat - 0x10000) % 0x400) ++ rest)) = stringBody opening (done.push c) rest := by
  have hvalid : c.toNat < 0xD800 ∨ 0xDFFF < c.toNat ∧ c.toNat < 0x110000 := c.valid
  have hmod := Nat.mod_lt (c.toNat - 0x10000) (by decide : 0 < 0x400)
  have hjoined : 0x10000 + (0xD800 + (c.toNat - 0x10000) / 0x400 - 0xD800) * 0x400 +
      (0xDC00 + (c.toNat - 0x10000) % 0x400 - 0xDC00) = c.toNat := by omega
  rw [stringBody_escapeUnit opening done (by omega) (by simp [escapeUnit]), stringBody_escapeUnit opening _ (by omega) hr]
  have hhigh : done.pushUnit (0xD800 + (c.toNat - 0x10000) / 0x400) =
      ⟨done.chars, some (0xD800 + (c.toNat - 0x10000) / 0x400)⟩ := by
    unfold Collected.pushUnit
    rw [if_neg, if_pos, hd]
    · rfl
    · simp only [Bool.and_eq_true, decide_eq_true_eq]
      omega
    · simp only [Bool.and_eq_true, decide_eq_true_eq]
      omega
  have hlow : Collected.pushUnit (0xDC00 + (c.toNat - 0x10000) % 0x400)
      ⟨done.chars, some (0xD800 + (c.toNat - 0x10000) / 0x400)⟩ = done.push c := by
    unfold Collected.pushUnit
    rw [if_pos (by simp only [Bool.and_eq_true, decide_eq_true_eq]; omega)]
    simp only [hjoined, Char.ofNat_toNat, Collected.push, hd]
    rfl
  rw [hhigh, hlow]

/-- What is written for a character is read as that character, if the string goes on. -/
theorem stringBody_escapeChar (opening : Nat) {done : Collected} (hd : done.half = none) (c : Char) {rest : List Char}
    (hr : rest ≠ []) : stringBody opening done (escapeChar c ++ rest) = stringBody opening (done.push c) rest := by
  by_cases hshort : c = '"' ∨ c = '\\' ∨ c = '\n' ∨ c = '\r' ∨ c = '\t' ∨ c = '\x0c' ∨ c = '\x08'
  · rcases hshort with rfl | rfl | rfl | rfl | rfl | rfl | rfl <;> rfl
  · simp only [not_or] at hshort
    obtain ⟨hquote, hslash, hnewline, hreturn, htab, hfeed, hback⟩ := hshort
    simp only [escapeChar, beq_iff_eq, if_neg hquote, if_neg hslash, if_neg hnewline, if_neg hreturn, if_neg htab,
      if_neg hfeed, if_neg hback]
    split
    · next hplain =>
      have hlow : ¬c.toNat < 32 := by
        simp only [Bool.and_eq_true, decide_eq_true_eq] at hplain
        omega
      rw [List.singleton_append, stringBody, if_neg hlow]
      all_goals simp [hquote, hslash]
    · split
      · next hunit => rw [stringBody_escapeUnit opening done hunit hr, pushUnit_toNat]
      · next hpair => rw [List.append_assoc, stringBody_pair opening hd (Nat.le_of_not_lt hpair) hr]

/-! ## Strings -/

/-- What is written for some characters is read as those characters, up to the closing quote. -/
theorem stringBody_escaped (opening : Nat) (cs rest : List Char) : ∀ {done : Collected}, done.half = none →
    stringBody opening done (cs.flatMap escapeChar ++ '"' :: rest) =
      .ok (String.ofList (cs.reverse ++ done.chars).reverse, rest) := by
  induction cs with
  | nil =>
    intro done hd
    simp [stringBody, Collected.text, hd]
  | cons c cs ih =>
    intro done hd
    rw [List.flatMap_cons, List.append_assoc, stringBody_escapeChar opening hd c (by simp), ih rfl]
    simp [Collected.push, hd]

/-- What is written for a text is read as the text. -/
theorem stringBody_quote (opening : Nat) (s : String) (rest : List Char) :
    stringBody opening {} (s.toList.flatMap escapeChar ++ '"' :: rest) = .ok (s, rest) := by
  rw [stringBody_escaped opening s.toList rest rfl]
  simp

end Json

end RegulatoryTrees
