import RegulatoryTrees.Value

/-!
# Equality of values

Whether two values are the same can be decided, so what is read from a closed text can be checked by computing it.
-/

namespace RegulatoryTrees

namespace Value

mutual

/-- Two values are the same. -/
def isSame : Value → Value → Bool
  | .scalar s, .scalar t => decide (s = t)
  | .missing, .missing => true
  | .sequence kind xs, .sequence kind' ys => decide (kind = kind') && areSame xs ys
  | .mapping es, .mapping fs => entriesAreSame es fs
  | .recurrence shape levels, .recurrence shape' levels' => decide (shape = shape') && decide (levels = levels')
  | _, _ => false

/-- Two lists of values are the same. -/
def areSame : List Value → List Value → Bool
  | [], [] => true
  | x :: xs, y :: ys => isSame x y && areSame xs ys
  | _, _ => false

/-- Two lists of entries are the same. -/
def entriesAreSame : List (Scalar × Value) → List (Scalar × Value) → Bool
  | [], [] => true
  | (key, x) :: es, (key', y) :: fs => decide (key = key') && isSame x y && entriesAreSame es fs
  | _, _ => false

end

mutual

/-- Two values are found to be the same when they are equal. -/
theorem isSame_iff (v w : Value) : isSame v w = true ↔ v = w := by
  cases v <;> cases w <;> simp [isSame]
  case sequence.sequence => simp [areSame_iff]
  case mapping.mapping => simp [entriesAreSame_iff]

theorem areSame_iff (xs ys : List Value) : areSame xs ys = true ↔ xs = ys := by
  match xs, ys with
  | [], [] => simp [areSame]
  | [], _ :: _ | _ :: _, [] => simp [areSame]
  | x :: xs, y :: ys => simp [areSame, isSame_iff x y, areSame_iff xs ys]

theorem entriesAreSame_iff (es fs : List (Scalar × Value)) : entriesAreSame es fs = true ↔ es = fs := by
  match es, fs with
  | [], [] => simp [entriesAreSame]
  | [], _ :: _ | _ :: _, [] => simp [entriesAreSame]
  | (key, x) :: es, (key', y) :: fs => simp [entriesAreSame, isSame_iff x y, entriesAreSame_iff es fs]

end

instance : DecidableEq Value := fun v w => decidable_of_iff (isSame v w = true) (isSame_iff v w)

end Value

end RegulatoryTrees
