import Mathlib.Data.List.Induction
import RegulatoryTrees.Placement
import RegulatoryTrees.Proofs.Partial.Union

/-!
# What placed values come to

Whatever the values are, a key leads to the last one placed with it, and the keys stand in the order in which they were first placed.
-/

namespace RegulatoryTrees

open PartialEvaluation (union union_append union_nil union_singleton)

variable {α : Type}

section PlaceBy

variable {key : α → String} {x : α}

/-- A value whose key is not there goes to the end. -/
theorem placeBy_of_forall_ne {xs : List α} (h : ∀ y ∈ xs, key y ≠ key x) : placeBy key x xs = xs ++ [x] := by
  induction xs with
  | nil => rfl
  | cons y rest ih =>
    obtain ⟨hy, hrest⟩ := List.forall_mem_cons.1 h
    rw [placeBy, if_neg hy, ih hrest, List.cons_append]

/-- A value put in its place replaces one or is added. -/
theorem mem_placeBy {y : α} {xs : List α} (h : y ∈ placeBy key x xs) : y = x ∨ y ∈ xs := by
  induction xs with
  | nil => exact Or.inl (List.mem_singleton.1 h)
  | cons z rest ih =>
    rw [placeBy] at h
    split at h
    · exact (List.mem_cons.1 h).imp_right (List.mem_cons_of_mem z)
    · rcases List.mem_cons.1 h with rfl | h
      · exact Or.inr List.mem_cons_self
      · exact (ih h).imp_right (List.mem_cons_of_mem z)

/-- A value is found under its key once it is placed. -/
theorem find?_placeBy_self (key : α → String) (x : α) (xs : List α) : (placeBy key x xs).find? (key · == key x) = some x := by
  induction xs with
  | nil => simp [placeBy]
  | cons y rest ih =>
    rw [placeBy]
    by_cases h : key y = key x
    · rw [if_pos h, List.find?_cons_of_pos (by simp)]
    · rw [if_neg h, List.find?_cons_of_neg (by simpa using h), ih]

/-- Placing a value does not change what is found under another key. -/
theorem find?_placeBy_other {k : String} (h : key x ≠ k) (xs : List α) :
    (placeBy key x xs).find? (key · == k) = xs.find? (key · == k) := by
  induction xs with
  | nil => simp [placeBy, h]
  | cons y rest ih =>
    rw [placeBy]
    by_cases hy : key y = key x
    · rw [if_pos hy, List.find?_cons_of_neg (by simpa using h), List.find?_cons_of_neg (by simpa [hy] using h)]
    · rw [if_neg hy, List.find?_cons, List.find?_cons, ih]

/-- Placing a value puts its key last, unless it is there. -/
theorem map_placeBy (key : α → String) (x : α) (xs : List α) : (placeBy key x xs).map key = union (xs.map key) [key x] := by
  rw [union_singleton]
  induction xs with
  | nil => rfl
  | cons y rest ih =>
    rw [placeBy]
    by_cases hy : key y = key x
    · simp [hy]
    · have hx : ((y :: rest).map key).contains (key x) = (rest.map key).contains (key x) := by
        rw [List.map_cons, List.contains_cons, beq_eq_false_iff_ne.2 (Ne.symm hy), Bool.false_or]
      rw [if_neg hy, List.map_cons, ih, hx]
      split <;> rfl

end PlaceBy

section PlaceAllBy

variable (key : α → String)

end PlaceAllBy

end RegulatoryTrees
