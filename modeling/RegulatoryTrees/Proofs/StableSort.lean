import Mathlib.Data.List.Basic
import Mathlib.Order.Lattice

/-!
# Stable sorting

A sorted list is determined by its items and by the order of those that tie, so items can be picked before or after sorting
(`filter_mergeSort`). Sorted by a key, a list falls into the items below a key, those at it and those above it, and an item
with a key of its own goes between the items below and those above (`mergeSort_insert`).
-/

namespace RegulatoryTrees

namespace StableSort

variable {α : Type} {le : α → α → Bool} {xs ys : List α}

/-- Two items tie when each may stand before the other. -/
def tied (le : α → α → Bool) (a b : α) : Bool := le a b && le b a

/-- A sorted list is determined by its items and by the order of those that tie. Two heads that stand before each other are
both the first item that ties with either. -/
theorem eq_of_pairwise (refl : ∀ a, le a a) (hx : xs.Pairwise fun a b => le a b) (hy : ys.Pairwise fun a b => le a b)
    (hp : xs.Perm ys) (ties : ∀ a ∈ xs, xs.filter (tied le a) = ys.filter (tied le a)) : xs = ys := by
  induction xs generalizing ys with
  | nil => exact hp.nil_eq
  | cons x xs ih =>
    cases ys with
    | nil => exact absurd hp.eq_nil (List.cons_ne_nil _ _)
    | cons y ys =>
      rw [List.pairwise_cons] at hx hy
      have hyx : le y x := by
        rcases List.mem_cons.1 (hp.mem_iff.1 List.mem_cons_self) with rfl | hm
        · exact refl x
        · exact hy.1 x hm
      have hxy : le x y := by
        rcases List.mem_cons.1 (hp.mem_iff.2 List.mem_cons_self) with rfl | hm
        · exact refl y
        · exact hx.1 y hm
      have htx : tied le x x := by simp [tied, refl x]
      have hty : tied le x y := by simp [tied, hxy, hyx]
      have heads := ties x List.mem_cons_self
      rw [List.filter_cons_of_pos htx, List.filter_cons_of_pos hty] at heads
      obtain ⟨rfl, -⟩ := List.cons.inj heads
      refine congrArg (x :: ·) (ih hx.2 hy.2 hp.cons_inv fun a ha => ?_)
      have tails := ties a (List.mem_cons_of_mem x ha)
      rw [List.filter_cons, List.filter_cons] at tails
      split at tails
      · exact (List.cons.inj tails).2
      · exact tails

variable (trans : ∀ a b c, le a b → le b c → le a c) (total : ∀ a b, le a b || le b a)

include trans total

/-- Sorting leaves the items that tie with an item in their order. -/
theorem filter_tied_mergeSort (a : α) (xs : List α) : (xs.mergeSort le).filter (tied le a) = xs.filter (tied le a) := by
  have hties : (xs.filter (tied le a)).Pairwise fun b c => le b c := by
    refine List.pairwise_of_forall_sublist fun {b c} h => ?_
    have hb := List.mem_filter.1 (h.subset (List.mem_cons_self (a := b)))
    have hc := List.mem_filter.1 (h.subset (List.mem_cons_of_mem b List.mem_cons_self))
    exact trans b a c (Bool.and_eq_true_iff.1 hb.2).2 (Bool.and_eq_true_iff.1 hc.2).1
  have hsub : (xs.filter (tied le a)).Sublist (xs.mergeSort le) :=
    List.sublist_mergeSort trans total hties List.filter_sublist
  have hsub := hsub.filter (tied le a)
  simp only [List.filter_filter, Bool.and_self] at hsub
  exact (hsub.eq_of_length ((List.mergeSort_perm xs le).filter _).length_eq.symm).symm

/-- Lists of the same items, those that tie in the same order, become the same when they are sorted. -/
theorem mergeSort_eq (hp : xs.Perm ys) (ties : ∀ a ∈ xs, xs.filter (tied le a) = ys.filter (tied le a)) :
    xs.mergeSort le = ys.mergeSort le := by
  have refl (a : α) : le a a := by simpa using total a a
  have hperm : (xs.mergeSort le).Perm (ys.mergeSort le) :=
    (List.mergeSort_perm xs le).trans (hp.trans (List.mergeSort_perm ys le).symm)
  refine eq_of_pairwise refl (List.pairwise_mergeSort trans total xs) (List.pairwise_mergeSort trans total ys) hperm ?_
  intro a ha
  rw [filter_tied_mergeSort trans total, filter_tied_mergeSort trans total, ties a (List.mem_mergeSort.1 ha)]

/-- What is picked from a list can be picked before or after sorting. -/
theorem filter_mergeSort (p : α → Bool) (xs : List α) : (xs.mergeSort le).filter p = (xs.filter p).mergeSort le := by
  have refl (a : α) : le a a := by simpa using total a a
  have hperm : ((xs.mergeSort le).filter p).Perm ((xs.filter p).mergeSort le) :=
    ((List.mergeSort_perm xs le).filter p).trans (List.mergeSort_perm (xs.filter p) le).symm
  refine eq_of_pairwise refl ((List.pairwise_mergeSort trans total xs).filter p)
    (List.pairwise_mergeSort trans total (xs.filter p)) hperm fun a _ => ?_
  rw [List.filter_comm, filter_tied_mergeSort trans total, filter_tied_mergeSort trans total, List.filter_comm]

/-! ## Sorting by a key -/

section Keys

variable {κ : Type} [LinearOrder κ] {key : α → κ}

/-- One item does not have a greater key than another. -/
def byKey (key : α → κ) (a b : α) : Bool := key a ≤ key b

omit trans total

theorem byKey_trans (a b c : α) (hab : byKey key a b) (hbc : byKey key b c) : byKey key a c := by
  simp only [byKey, decide_eq_true_eq] at *
  exact le_trans hab hbc

theorem byKey_total (a b : α) : byKey key a b || byKey key b a := by
  simpa [byKey] using le_total (key a) (key b)

/-- A list sorted by a key falls into the items below a key, those at it and those above it. -/
theorem eq_append_of_sorted (k : κ) (h : xs.Pairwise fun a b => key a ≤ key b) :
    xs = xs.filter (key · < k) ++ xs.filter (key · = k) ++ xs.filter (k < key ·) := by
  induction h with
  | nil => rfl
  | @cons x xs hx _ ih =>
    rcases lt_trichotomy (key x) k with hlt | heq | hgt
    · simpa [hlt, hlt.ne, hlt.not_gt] using ih
    · have none_below : xs.filter (key · < k) = [] := by
        simpa [List.filter_eq_nil_iff] using fun a ha => heq ▸ hx a ha
      rw [none_below] at ih
      simpa [heq, none_below] using ih
    · have none_below : xs.filter (key · < k) = [] := by
        simpa [List.filter_eq_nil_iff] using fun a ha => hgt.le.trans (hx a ha)
      have none_at : xs.filter (key · = k) = [] := by
        simpa [List.filter_eq_nil_iff] using fun a ha => (hgt.trans_le (hx a ha)).ne'
      rw [none_below, none_at] at ih
      simpa [hgt, hgt.ne', hgt.not_gt, none_below, none_at] using ih

/-- An item with a key of its own is sorted between the items with lesser and with greater keys. -/
theorem mergeSort_insert {front back : List α} {x : α} (hown : ∀ a ∈ front ++ back, key a ≠ key x) :
    (front ++ back).mergeSort (byKey key) = ((front ++ back).mergeSort (byKey key)).filter (key · < key x) ++
      ((front ++ back).mergeSort (byKey key)).filter (key x < key ·) ∧
    (front ++ x :: back).mergeSort (byKey key) = ((front ++ back).mergeSort (byKey key)).filter (key · < key x) ++
      x :: ((front ++ back).mergeSort (byKey key)).filter (key x < key ·) := by
  have split (xs : List α) : xs.mergeSort (byKey key) = (xs.mergeSort (byKey key)).filter (key · < key x) ++
      (xs.mergeSort (byKey key)).filter (key · = key x) ++ (xs.mergeSort (byKey key)).filter (key x < key ·) :=
    eq_append_of_sorted (key x) <| (List.pairwise_mergeSort byKey_trans byKey_total xs).imp (by simp [byKey])
  have same (p : α → Bool) (hx : p x = false) : ((front ++ x :: back).mergeSort (byKey key)).filter p =
      ((front ++ back).mergeSort (byKey key)).filter p := by
    rw [filter_mergeSort byKey_trans byKey_total, filter_mergeSort byKey_trans byKey_total]
    simp [hx]
  have none_at : (front ++ back).filter (key · = key x) = [] :=
    List.filter_eq_nil_iff.2 fun a ha => by simpa using hown a ha
  have only_at : (front ++ x :: back).filter (key · = key x) = [x] := by
    rw [List.filter_append, List.append_eq_nil_iff] at none_at
    simp [none_at.1, none_at.2]
  constructor
  · have hsplit := split (front ++ back)
    rw [filter_mergeSort byKey_trans byKey_total (key · = key x), none_at, List.mergeSort_nil, List.append_nil] at hsplit
    exact hsplit
  · have hsplit := split (front ++ x :: back)
    rw [filter_mergeSort byKey_trans byKey_total (key · = key x), only_at, List.mergeSort_singleton, same _ (by simp),
      same _ (by simp), List.append_assoc, List.singleton_append] at hsplit
    exact hsplit

end Keys

end StableSort

end RegulatoryTrees
