import Mathlib.Data.List.Nodup
import RegulatoryTrees.Evaluation.Partial

/-!
# Lists without repetition

`union` puts after a list the values of another that it does not hold, each once. Whether the values come in one list or in several,
the outcome is the same, and from nothing it is the values without repetition.
-/

namespace RegulatoryTrees

namespace PartialEvaluation

theorem union_append (xs ys zs : List String) : union xs (ys ++ zs) = union (union xs ys) zs := by
  rw [union, List.foldl_append]
  rfl

theorem union_cons (xs ys : List String) (y : String) : union xs (y :: ys) = union (union xs [y]) ys := rfl

/-- A text is added at the end unless it is there already. -/
theorem union_singleton (xs : List String) (y : String) :
    union xs [y] = if xs.contains y then xs else xs ++ [y] := rfl

/-- What is already there is not put there again. -/
theorem union_of_subset {xs ys : List String} (h : ∀ y ∈ ys, y ∈ xs) : union xs ys = xs := by
  induction ys with
  | nil => rfl
  | cons y ys ih =>
    have hy : union xs [y] = xs := by simp [union_singleton, h y List.mem_cons_self]
    rw [union_cons, hy]
    exact ih fun z hz => h z (List.mem_cons_of_mem y hz)

/-- A union holds what either list does. -/
theorem mem_union {xs ys : List String} {z : String} : z ∈ union xs ys ↔ z ∈ xs ∨ z ∈ ys := by
  induction ys generalizing xs with
  | nil => simp [union]
  | cons y ys ih =>
    rw [union_cons, ih, union_singleton]
    by_cases hy : xs.contains y
    · have hmem : y ∈ xs := by simpa using hy
      rw [if_pos hy, List.mem_cons]
      constructor
      · rintro (hz | hz)
        · exact Or.inl hz
        · exact Or.inr (Or.inr hz)
      · rintro (hz | rfl | hz)
        · exact Or.inl hz
        · exact Or.inl hmem
        · exact Or.inr hz
    · rw [if_neg hy, List.mem_append, List.mem_singleton, List.mem_cons, or_assoc]

/-- Adding one value to what is added is to add it last. -/
theorem union_union_singleton (xs ys : List String) (z : String) : union xs (union ys [z]) = union (union xs ys) [z] := by
  rw [union_singleton ys z]
  by_cases hz : ys.contains z
  · have hin : ∀ y ∈ [z], y ∈ union xs ys := by
      intro y hy
      rw [List.mem_singleton.1 hy, mem_union]
      exact Or.inr (by simpa using hz)
    rw [if_pos hz, union_of_subset hin]
  · rw [if_neg hz, union_append]

/-- The values put after a list are those that it does not hold, each once. -/
theorem union_eq_append (xs ys : List String) : union xs ys = xs ++ (ys.filter fun y => !xs.contains y).eraseDups := by
  induction ys generalizing xs with
  | nil => simp [union]
  | cons y ys ih =>
    rw [union_cons, union_singleton, ih]
    by_cases hy : xs.contains y
    · rw [if_pos hy, List.filter_cons_of_neg (by simpa using hy)]
    · rw [if_neg hy, List.filter_cons_of_pos (by simpa using hy), List.eraseDups_cons, List.filter_filter,
        List.append_assoc, List.singleton_append]
      congr 4
      funext z
      rw [Bool.eq_iff_iff]
      simp [and_comm]

/-- What is added to nothing is listed without repetition. -/
theorem union_nil (xs : List String) : union [] xs = xs.eraseDups := by
  rw [union_eq_append, List.nil_append, List.filter_eq_self.2]
  simp

/-- No value is left of some values without repetition only if there were none. -/
theorem eraseDups_eq_nil {xs : List String} : xs.eraseDups = [] ↔ xs = [] := by
  simp only [List.eq_nil_iff_forall_not_mem, List.mem_eraseDups]

/-- No value comes twice once others are put after distinct ones. -/
theorem nodup_union {xs : List String} (h : xs.Nodup) (ys : List String) : (union xs ys).Nodup := by
  induction ys generalizing xs with
  | nil => exact h
  | cons y ys ih =>
    rw [union_cons, union_singleton]
    split
    · exact ih h
    · next hy =>
      have hmem : y ∉ xs := by simpa using hy
      exact ih (List.concat_eq_append ▸ List.Nodup.concat hmem h)

/-- No value comes twice among some values without repetition. -/
theorem nodup_eraseDups (xs : List String) : xs.eraseDups.Nodup := by
  rw [← union_nil]
  exact nodup_union List.nodup_nil xs

end PartialEvaluation

end RegulatoryTrees
