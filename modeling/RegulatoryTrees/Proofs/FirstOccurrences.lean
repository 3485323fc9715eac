import RegulatoryTrees.Proofs.Partial.Union

/-!
# Texts in the order of their first occurrence

A list of what the items of another one give holds each text once, in the order of the first items that give it (`ListsFirsts`). It
is what is left without repetitions (`listsFirsts_eraseDups`).
-/

namespace RegulatoryTrees

variable {α : Type}

/-- Some texts are those that the items of a list give, each once, in the order of the first items that give them. -/
structure ListsFirsts (given? : α → Option String) (xs : List α) (listed : List String) : Prop where
  nodup : listed.Nodup
  mem_iff (text : String) : text ∈ listed ↔ ∃ x ∈ xs, given? x = some text
  order : listed.Pairwise fun s t => xs.findIdx (given? · == some s) < xs.findIdx (given? · == some t)

/-- Leaving out one text does not change where another one is given first. -/
theorem findIdx_filter_ne {given? : α → Option String} {left text : String} (h : text ≠ left) (xs : List α) :
    xs.findIdx (fun x => (given? x).filter (fun s => !s == left) == some text) = xs.findIdx (given? · == some text) := by
  congr 1
  funext x
  cases given? x with
  | none => rfl
  | some s =>
    rw [Bool.eq_iff_iff]
    simp [h]

/-- Without repetition the texts that items give stand in the order of the first items that give them. The texts after the
first are those that the rest gives with the first one left out. -/
theorem pairwise_findIdx_eraseDups (given? : α → Option String) (xs : List α) :
    (xs.filterMap given?).eraseDups.Pairwise fun s t =>
      xs.findIdx (given? · == some s) < xs.findIdx (given? · == some t) := by
  induction xs generalizing given? with
  | nil => exact .nil
  | cons x xs ih =>
    cases hx : given? x with
    | none =>
      rw [List.filterMap_cons_none hx]
      refine (ih given?).imp fun hlt => ?_
      simpa [List.findIdx_cons, hx] using hlt
    | some first =>
      rw [List.filterMap_cons_some hx, List.eraseDups_cons, List.filter_filterMap]
      have hne : ∀ t ∈ (xs.filterMap fun y => (given? y).filter fun s => !s == first).eraseDups, t ≠ first := by
        intro t ht
        obtain ⟨y, -, hy⟩ := List.mem_filterMap.1 (List.mem_eraseDups.1 ht)
        simpa using (Option.filter_eq_some_iff.1 hy).2
      have hskip {t : String} (ht : t ≠ first) : (x :: xs).findIdx (given? · == some t) = xs.findIdx (given? · == some t) + 1 := by
        simp [List.findIdx_cons, hx, beq_eq_false_iff_ne.2 ht.symm]
      refine .cons (fun t ht => ?_) ((ih _).imp_of_mem fun {s t} hs ht hlt => ?_)
      · rw [hskip (hne t ht), List.findIdx_cons, hx, beq_self_eq_true]
        exact Nat.succ_pos _
      · rw [findIdx_filter_ne (hne s hs), findIdx_filter_ne (hne t ht)] at hlt
        rw [hskip (hne s hs), hskip (hne t ht)]
        exact Nat.succ_lt_succ hlt

/-- The texts that items give are listed by leaving out repetitions. -/
theorem listsFirsts_eraseDups (given? : α → Option String) (xs : List α) :
    ListsFirsts given? xs (xs.filterMap given?).eraseDups where
  nodup := PartialEvaluation.nodup_eraseDups _
  mem_iff text := by rw [List.mem_eraseDups, List.mem_filterMap]
  order := pairwise_findIdx_eraseDups given? xs

end RegulatoryTrees
