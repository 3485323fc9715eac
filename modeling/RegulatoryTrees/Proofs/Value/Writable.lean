import RegulatoryTrees.Proofs.Outcome
import RegulatoryTrees.Value.Rendering

/-!
# Values that can be written

Which values have a text for people: those without themselves inside, whose integers have no more digits than are written and
whose mappings have keys that JSON keys can be written from (`relaxedText_iff`). Everything else that JSON cannot hold is
written as the text that shows it.
-/

namespace RegulatoryTrees

namespace Scalar

/-- A scalar can be written as a JSON key. -/
def isWritableKey : Scalar → Bool
  | .bytes _ | .date _ | .moment _ => false
  | s => Rendering.fits s

end Scalar

namespace Value

mutual

/-- A value can be written for people. -/
def isWritable : Value → Bool
  | .scalar s => Rendering.fits s
  | .missing => true
  | .sequence .set items => Rendering.allIntegersFit items
  | .sequence _ items => areWritable items
  | .mapping entries => entriesAreWritable entries
  | .recurrence _ _ => false

/-- Some values can be written. -/
def areWritable : List Value → Bool
  | [] => true
  | v :: rest => isWritable v && areWritable rest

/-- Some entries can be written. -/
def entriesAreWritable : List (Scalar × Value) → Bool
  | [] => true
  | (key, v) :: rest => key.isWritableKey && isWritable v && entriesAreWritable rest

end

end Value

namespace Rendering

/-! ## Scalars -/

/-- A whole number can be written unless it has too many digits. -/
theorem integer_ok_iff (n : Int) : (∃ text, integer n = .ok text) ↔ fits (.int n) = true := by
  rw [integer, fits, decide_eq_true_iff]
  by_cases h : (Decimal.digitsOf n.natAbs).length > Decimal.digitLimit
  · simp [h]
  · simp [h, Nat.le_of_not_gt h]

/-- What JSON cannot hold is written for people if its integers can be. -/
theorem other_ok_iff (v : Value) : (∃ text, other relaxed v = .ok text) ↔ integersFit v = true := by
  rw [other, relaxed, Bool.not_true, if_neg Bool.false_ne_true]
  cases integersFit v <;> simp

/-- A key can be written unless it is of a kind that no JSON key is written for, or a whole number with too many digits. -/
theorem key_ok_iff (k : Scalar) : (∃ text, key k = .ok text) ↔ k.isWritableKey = true := by
  cases k with
  | int n => exact integer_ok_iff n
  | null | bool | double | text => simp [key, Scalar.isWritableKey, fits]
  | bytes | date | moment => simp [key, Scalar.isWritableKey]

/-- A scalar can be written unless it is a whole number with too many digits. -/
theorem scalar_ok_iff (s : Scalar) : (∃ text, scalar relaxed s = .ok text) ↔ fits s = true := by
  cases s with
  | int n =>
    rw [← integer_ok_iff, scalar]
    cases integer n <;> simp
  | null | bool | double | text => simp [scalar, fits]
  | bytes | date | moment => exact other_ok_iff _

/-! ## Values -/

mutual

/-- A value can be written if all that is nested in it can. -/
theorem value_ok_iff (v : Value) : (∃ text, value relaxed v = .ok text) ↔ v.isWritable = true := by
  match v with
  | .scalar s => exact scalar_ok_iff s
  | .missing => exact other_ok_iff .missing
  | .sequence .set items => exact other_ok_iff (.sequence .set items)
  | .sequence .list xs =>
    rw [value, Value.isWritable, ← items_ok_iff xs]
    · cases items relaxed xs <;> simp
    · decide
    · decide
  | .sequence .tuple xs =>
    rw [value, Value.isWritable, ← items_ok_iff xs]
    · cases items relaxed xs <;> simp
    · decide
    · decide
  | .mapping es =>
    have unsorted : arranged relaxed (entries relaxed es) = entries relaxed es := rfl
    rw [value, Value.isWritable, ← entries_ok_iff es, unsorted]
    cases (entries relaxed es).mapM Prod.snd <;> simp
  | .recurrence _ _ => simp [value, Value.isWritable]

theorem items_ok_iff (xs : List Value) : (∃ texts, items relaxed xs = .ok texts) ↔ Value.areWritable xs = true := by
  match xs with
  | [] => simp [items, Value.areWritable]
  | x :: rest =>
    rw [items, Value.areWritable, Bool.and_eq_true, ← value_ok_iff x, ← items_ok_iff rest]
    cases value relaxed x <;> cases items relaxed rest <;> simp

theorem entries_ok_iff (es : List (Scalar × Value)) :
    (∃ texts, (entries relaxed es).mapM Prod.snd = .ok texts) ↔ Value.entriesAreWritable es = true := by
  match es with
  | [] => simp [entries, Value.entriesAreWritable, pure, Except.pure]
  | (k, x) :: rest =>
    rw [entries, Value.entriesAreWritable, Bool.and_eq_true, Bool.and_eq_true, ← key_ok_iff k, ← value_ok_iff x,
      ← entries_ok_iff rest, List.mapM_cons]
    cases key k <;> cases value relaxed x <;> cases (entries relaxed rest).mapM Prod.snd <;> simp [pure, Except.pure]

end

end Rendering

/-- A value has a text for people exactly when it can be written. -/
theorem Value.relaxedText_iff (v : Value) : (∃ text, v.relaxedText = .ok text) ↔ v.isWritable = true := by
  rw [relaxedText, ← Rendering.value_ok_iff]
  cases Rendering.value Rendering.relaxed v <;> simp

end RegulatoryTrees
