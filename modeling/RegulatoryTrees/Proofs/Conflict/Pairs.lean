import RegulatoryTrees.Proofs.Conflict.Order
import RegulatoryTrees.Proofs.Outcome

/-!
# Conflicts of two jurisdictions

Every detector takes a position for each jurisdiction from the verdicts of that jurisdiction alone and holds every two
positions against each other, so what it finds between two jurisdictions does not depend on the others
(`filter_compared`). What is found is then thinned out to one conflict for each identifier, and there others do matter: an
identifier joins the names of two jurisdictions by a hyphen, and names with hyphens in them can be joined to the same text.
-/

namespace RegulatoryTrees

/-! ## The first item of each key -/

section Firsts

variable {α κ : Type} [DecidableEq κ] (key : α → κ)

/-- Of the items with the same key the first one. -/
def firsts (xs : List α) : List α := xs.eraseDupsBy fun a b => key a == key b

@[simp] theorem firsts_nil : firsts key [] = [] := rfl

/-- The first item is kept, and of the rest the first ones with other keys. -/
theorem firsts_cons (x : α) (xs : List α) :
    firsts key (x :: xs) = x :: firsts key (xs.filter fun y => key y ≠ key x) := by
  simp [firsts, List.eraseDupsBy_cons]

/-- Induction along the taking of first items: after an item come those with other keys. -/
theorem firsts_induction {motive : List α → Prop} (nil : motive [])
    (cons : ∀ x xs, motive (xs.filter fun y => key y ≠ key x) → motive (x :: xs)) : ∀ xs, motive xs
  | [] => nil
  | x :: xs => cons x xs (firsts_induction nil cons (xs.filter fun y => key y ≠ key x))
termination_by xs => xs.length
decreasing_by exact Nat.lt_succ_of_le (List.length_filter_le ..)

variable {key} in
/-- The first items of each key are among the items. -/
theorem mem_of_mem_firsts {xs : List α} {x : α} (h : x ∈ firsts key xs) : x ∈ xs := by
  induction xs using firsts_induction key with
  | nil => exact h
  | cons y ys ih =>
    rw [firsts_cons] at h
    rcases List.mem_cons.1 h with rfl | h
    · exact List.mem_cons_self
    · exact List.mem_cons_of_mem y (List.mem_filter.1 (ih h)).1

/-- After an item come items with other keys. -/
theorem key_ne_of_mem_firsts {xs : List α} {x y : α} (h : y ∈ firsts key (xs.filter fun y => key y ≠ key x)) :
    key y ≠ key x := by
  simpa using (List.mem_filter.1 (mem_of_mem_firsts h)).2

/-- The first items have different keys. -/
theorem pairwise_firsts (xs : List α) : (firsts key xs).Pairwise fun x y => key x ≠ key y := by
  induction xs using firsts_induction key with
  | nil => exact .nil
  | cons x xs ih =>
    rw [firsts_cons]
    exact .cons (fun y hy => (key_ne_of_mem_firsts key hy).symm) ih

/-- Some keys can be picked before or after the first items are taken. An item whose key is picked has another key than one
whose key is not. -/
theorem filter_key_firsts (p : κ → Bool) (xs : List α) :
    (firsts key xs).filter (fun x => p (key x)) = firsts key (xs.filter fun x => p (key x)) := by
  induction xs using firsts_induction key with
  | nil => rfl
  | cons x xs ih =>
    rw [firsts_cons, List.filter_cons, List.filter_cons, ih]
    by_cases hx : p (key x)
    · rw [if_pos hx, if_pos hx, firsts_cons, List.filter_comm]
    · rw [if_neg hx, if_neg hx, List.filter_filter]
      congr 1
      refine List.filter_congr fun y _ => ?_
      by_cases hy : key y = key x <;> simp [hy, hx]

/-- The first items that are picked are the first ones among the items picked, less those whose key an item that is not
picked had before. -/
theorem filter_firsts (p : α → Bool) (xs : List α) :
    (firsts key xs).filter p =
      (firsts key (xs.filter p)).filter fun x => !(firsts key xs).any fun y => key y == key x && !p y := by
  induction xs using firsts_induction key with
  | nil => rfl
  | cons x xs ih =>
    rw [List.filter_comm] at ih
    rw [firsts_cons]
    by_cases hx : p x
    · have kept : ((x :: firsts key (xs.filter fun y => key y ≠ key x)).any fun y => key y == key x && !p y) = false := by
        rw [List.any_cons, hx, Bool.not_true, Bool.and_false, Bool.false_or, List.any_eq_false]
        intro y hy
        simp [key_ne_of_mem_firsts key hy]
      rw [List.filter_cons_of_pos hx, List.filter_cons_of_pos hx, firsts_cons,
        List.filter_cons_of_pos (by rw [kept, Bool.not_false]), ih]
      simp only [List.any_cons, hx, Bool.not_true, Bool.and_false, Bool.false_or]
    · have later : firsts key ((xs.filter p).filter fun y => key y ≠ key x) =
          (firsts key (xs.filter p)).filter fun y => key y ≠ key x :=
        (filter_key_firsts key (fun k => decide (k ≠ key x)) (xs.filter p)).symm
      rw [List.filter_cons_of_neg hx, List.filter_cons_of_neg hx, ih, later, List.filter_filter]
      refine List.filter_congr fun y _ => ?_
      by_cases hy : key y = key x
      · simp [hy, hx]
      · have hne : (key x == key y) = false := by simpa using Ne.symm hy
        simp only [List.any_cons, hne, Bool.false_and, Bool.false_or, ne_eq, hy, not_false_eq_true, decide_true,
          Bool.and_true]

end Firsts

/-! ## Pairs -/

section PairsOf

variable {α β : Type} {xs : List α}

/-- The pairs of images are the images of the pairs. -/
theorem pairsOf_map (f : α → β) (xs : List α) : pairsOf (xs.map f) = (pairsOf xs).map (Prod.map f f) := by
  induction xs with
  | nil => rfl
  | cons x xs ih => simp [pairsOf, ih, Function.comp_def]

/-- The pairs of the items picked are the pairs of which both are picked. -/
theorem pairsOf_filter (p : α → Bool) (xs : List α) :
    pairsOf (xs.filter p) = (pairsOf xs).filter fun pair => p pair.1 && p pair.2 := by
  induction xs with
  | nil => rfl
  | cons x xs ih =>
    rw [pairsOf, List.filter_append, ← ih, List.filter_map]
    by_cases hx : p x
    · simp [List.filter_cons_of_pos, hx, pairsOf, Function.comp_def]
    · simp [List.filter_cons_of_neg, hx, Function.comp_def]

/-- What holds of every item and each one after it holds of all pairs. -/
theorem forall_mem_pairsOf {R : α → α → Prop} (h : xs.Pairwise R) : ∀ pair ∈ pairsOf xs, R pair.1 pair.2 := by
  induction h with
  | nil => exact fun _ hp => absurd hp List.not_mem_nil
  | cons hx _ ih =>
    intro pair hp
    rcases List.mem_append.1 hp with hp | hp
    · obtain ⟨y, hy, rfl⟩ := List.mem_map.1 hp
      exact hx y hy
    · exact ih pair hp

/-- Both items of a pair are among the items. -/
theorem mem_of_mem_pairsOf {pair : α × α} (h : pair ∈ pairsOf xs) : pair.1 ∈ xs ∧ pair.2 ∈ xs := by
  induction xs with
  | nil => exact absurd h List.not_mem_nil
  | cons x xs ih =>
    rcases List.mem_append.1 h with h | h
    · obtain ⟨y, hy, rfl⟩ := List.mem_map.1 h
      exact ⟨List.mem_cons_self, List.mem_cons_of_mem x hy⟩
    · exact ⟨List.mem_cons_of_mem x (ih h).1, List.mem_cons_of_mem x (ih h).2⟩

/-- The pairs of a list that is in order are those of its items that are in order. -/
theorem mem_pairsOf_iff {R : α → α → Prop} (asymm : ∀ x y, R x y → ¬R y x) (h : xs.Pairwise R) {x y : α} :
    (x, y) ∈ pairsOf xs ↔ x ∈ xs ∧ y ∈ xs ∧ R x y := by
  constructor
  · intro hp
    have hmem := mem_of_mem_pairsOf hp
    exact ⟨hmem.1, hmem.2, forall_mem_pairsOf h _ hp⟩
  · rintro ⟨hx, hy, hxy⟩
    induction h with
    | nil => exact absurd hx List.not_mem_nil
    | @cons z zs hz _ ih =>
      rw [pairsOf, List.mem_append]
      rcases List.mem_cons.1 hx with rfl | later
      · rcases List.mem_cons.1 hy with rfl | hy
        · exact absurd hxy (asymm _ _ hxy)
        · exact .inl (List.mem_map.2 ⟨y, hy, rfl⟩)
      · rcases List.mem_cons.1 hy with rfl | hy
        · exact absurd hxy (asymm _ _ (hz x later))
        · exact .inr (ih later hy)

/-- What is picked from the yield of some items is the yield of the items picked, when it is the item that decides. -/
theorem filter_flatMap_eq {f : α → List β} {p : α → Bool} {q : β → Bool} (h : ∀ x ∈ xs, ∀ y ∈ f x, q y = p x) :
    (xs.flatMap f).filter q = (xs.filter p).flatMap f := by
  induction xs with
  | nil => rfl
  | cons x xs ih =>
    have hx := h x List.mem_cons_self
    rw [List.flatMap_cons, List.filter_append, ih fun y hy => h y (List.mem_cons_of_mem x hy)]
    by_cases hp : p x
    · have all : (f x).filter q = f x := List.filter_eq_self.2 fun y hy => (hx y hy).trans hp
      rw [all, List.filter_cons_of_pos hp, List.flatMap_cons]
    · have none : (f x).filter q = [] := List.filter_eq_nil_iff.2 fun y hy => by rwa [hx y hy]
      rw [none, List.filter_cons_of_neg hp, List.nil_append]

end PairsOf

namespace Verdict

variable {α : Type} {verdicts : List Verdict} {j k : String}

/-! ## Positions -/

/-- The jurisdictions are those of the verdicts. -/
theorem mem_jurisdictions : j ∈ jurisdictions verdicts ↔ ∃ v ∈ verdicts, v.jurisdiction = j := by
  simp [jurisdictions, List.mem_mergeSort]

/-- The jurisdictions stand in the order of their names. -/
theorem pairwise_jurisdictions (verdicts : List Verdict) : (jurisdictions verdicts).Pairwise (· < ·) := by
  have sorted : (jurisdictions verdicts).Pairwise (· ≤ ·) :=
    (List.pairwise_mergeSort (by simpa using fun _ _ _ => le_trans) (by simpa using le_total) _).imp (by simp)
  have distinct : (jurisdictions verdicts).Nodup :=
    (List.mergeSort_perm _ _).nodup_iff.2 (pairwise_firsts id _)
  exact sorted.imp₂ (fun _ _ => lt_of_le_of_ne) distinct

/-- The jurisdictions of the verdicts of some jurisdictions are these. -/
theorem jurisdictions_filter (p : String → Bool) (verdicts : List Verdict) :
    jurisdictions (verdicts.filter fun v => p v.jurisdiction) = (jurisdictions verdicts).filter p := by
  have picked : (verdicts.filter fun v => p v.jurisdiction).map jurisdiction = (verdicts.map jurisdiction).filter p := by
    rw [List.filter_map]
    rfl
  have distinct : ((verdicts.map jurisdiction).filter p).eraseDups = (verdicts.map jurisdiction).eraseDups.filter p :=
    (filter_key_firsts id p _).symm
  rw [jurisdictions, picked, distinct, jurisdictions,
    StableSort.filter_mergeSort (by simpa using fun _ _ _ => le_trans) (by simpa using le_total)]

/-- The positions of some jurisdictions are taken from their own verdicts. -/
theorem positions_filter (position : List Verdict → Option α) (p : String → Bool) (verdicts : List Verdict) :
    positions position (verdicts.filter fun v => p v.jurisdiction) =
      (positions position verdicts).filter fun x => p x.1 := by
  rw [positions, jurisdictions_filter, List.filterMap_filter, positions, List.filter_filterMap]
  refine List.filterMap_congr fun name _ => ?_
  by_cases hp : p name
  · have own : ofJurisdiction (verdicts.filter fun v => p v.jurisdiction) name = ofJurisdiction verdicts name := by
      rw [ofJurisdiction, List.filter_filter]
      refine List.filter_congr fun v _ => ?_
      by_cases hv : v.jurisdiction = name <;> simp [hv, hp]
    rw [own, if_pos hp]
    cases position (ofJurisdiction verdicts name) <;> simp [Option.filter, hp]
  · rw [if_neg hp]
    cases position (ofJurisdiction verdicts name) <;> simp [Option.filter, hp]

/-- The positions stand in the order of the names of their jurisdictions. -/
theorem pairwise_positions (position : List Verdict → Option α) (verdicts : List Verdict) :
    (positions position verdicts).Pairwise fun x y => x.1 < y.1 := by
  refine (pairwise_jurisdictions verdicts).filterMap _ fun a b hab x hx y hy => ?_
  obtain ⟨_, -, rfl⟩ := Option.map_eq_some_iff.1 hx
  obtain ⟨_, -, rfl⟩ := Option.map_eq_some_iff.1 hy
  exact hab

/-- A position is what a jurisdiction of the verdicts takes by its own verdicts. -/
theorem mem_positions_iff {position : List Verdict → Option α} {x : α} :
    (j, x) ∈ positions position verdicts ↔
      j ∈ jurisdictions verdicts ∧ position (ofJurisdiction verdicts j) = some x := by
  simp [positions, List.mem_filterMap, Option.map_eq_some_iff]

/-- A position is that of a jurisdiction of the verdicts. -/
theorem mem_jurisdictions_of_mem_positions {position : List Verdict → Option α} {x : String × α}
    (h : x ∈ positions position verdicts) : x.1 ∈ jurisdictions verdicts := (mem_positions_iff.1 h).1

end Verdict

/-! ## Conflicts of a pair -/

/-- A name is one of two. -/
def isEither (j k name : String) : Bool := name == j || name == k

/-- The verdicts of two jurisdictions. -/
def Verdict.ofPair (verdicts : List Verdict) (j k : String) : List Verdict :=
  verdicts.filter fun v => isEither j k v.jurisdiction

/-- The names of two jurisdictions as identifiers give them: in their order and joined by a hyphen. -/
def pairName (j k : String) : String := if j < k then j ++ "-" ++ k else k ++ "-" ++ j

/-- The name of a pair does not depend on which jurisdiction comes first. -/
theorem pairName_comm (j k : String) : pairName j k = pairName k j := by
  rcases lt_trichotomy j k with h | rfl | h
  · rw [pairName, if_pos h, pairName, if_neg (lt_asymm h)]
  · rfl
  · rw [pairName, if_neg (lt_asymm h), pairName, if_pos h]

namespace ConflictKind

/-- How the identifiers of conflicts of a kind begin. -/
def opening : ConflictKind → String
  | .classification => "classification-"
  | .obligation => "obligation-"
  | .timeline => "timeline-"
  | .decision => "decision-"

/-- How the identifiers of conflicts of a kind end. -/
def ending : ConflictKind → String
  | .obligation => "-obligation_conflict"
  | _ => ""

/-- The identifier of a conflict of a kind between the jurisdictions of a pair. -/
def identifier (pair : String) (kind : ConflictKind) : String := kind.opening ++ pair ++ kind.ending

/-- Kinds differ in the first letter of their identifiers. -/
theorem opening_inj {kind kind' : ConflictKind} :
    kind.opening.toList.head? = kind'.opening.toList.head? → kind = kind' := by
  cases kind <;> cases kind' <;> decide

/-- Identifiers of different kinds are different, and so are those of pairs with different names. -/
theorem identifier_inj {kind kind' : ConflictKind} {pair pair' : String}
    (h : kind.identifier pair = kind'.identifier pair') : kind = kind' ∧ pair = pair' := by
  have initial (kind : ConflictKind) (pair : String) :
      (kind.identifier pair).toList.head? = kind.opening.toList.head? := by
    have nonempty : kind.opening.toList ≠ [] := by cases kind <;> decide
    rw [identifier, String.append_assoc, String.toList_append, List.head?_append_of_ne_nil _ nonempty]
  have same_kind : kind = kind' := opening_inj (by rw [← initial kind pair, h, initial])
  subst same_kind
  rw [identifier, identifier, String.append_left_inj, String.append_right_inj] at h
  exact ⟨rfl, h⟩

end ConflictKind

namespace Conflict

/-- A conflict is between two jurisdictions, in either order. -/
def isBetween (j k : String) (c : Conflict) : Bool := (c.first == j && c.second == k) || (c.first == k && c.second == j)

/-- A conflict names two jurisdictions, and its identifier is that of its kind and their names. -/
structure Names (c : Conflict) (j k : String) : Prop where
  first : c.first = j
  second : c.second = k
  id : c.id = c.kind.identifier (j ++ "-" ++ k)

end Conflict

namespace Verdict

variable {position : List Verdict → Option α} {compare : (String × α) × String × α → List Conflict} {kind : ConflictKind}

/-! ## Comparing positions -/

/-- What holding the positions of every two jurisdictions against each other yields. -/
def compared (position : List Verdict → Option α) (compare : (String × α) × String × α → List Conflict)
    (verdicts : List Verdict) : List Conflict :=
  (pairsOf (positions position verdicts)).flatMap compare

/-- A comparison of positions yields conflicts of one kind, which name the jurisdictions whose positions they are. -/
def Yields (kind : ConflictKind) (compare : (String × α) × String × α → List Conflict) : Prop :=
  ∀ x y, ∀ c ∈ compare (x, y), c.kind = kind ∧ c.Names x.1 y.1

/-- A conflict that a comparison yields names two jurisdictions of the verdicts, the one with the lesser name first. -/
theorem names_of_mem_compared (hyields : Yields kind compare) {c : Conflict} (h : c ∈ compared position compare verdicts) :
    ∃ j ∈ jurisdictions verdicts, ∃ k ∈ jurisdictions verdicts, j < k ∧ c.Names j k := by
  obtain ⟨⟨x, y⟩, hpair, hc⟩ := List.mem_flatMap.1 h
  have hmem := mem_of_mem_pairsOf hpair
  exact ⟨x.1, mem_jurisdictions_of_mem_positions hmem.1, y.1, mem_jurisdictions_of_mem_positions hmem.2,
    forall_mem_pairsOf (pairwise_positions position verdicts) _ hpair, (hyields x y c hc).2⟩

/-- What comparing positions yields comes from two jurisdictions that take one, the one with the lesser name first. -/
theorem mem_compared_iff {c : Conflict} : c ∈ compared position compare verdicts ↔
    ∃ j x k y, j < k ∧ (j, x) ∈ positions position verdicts ∧ (k, y) ∈ positions position verdicts ∧
      c ∈ compare ((j, x), k, y) := by
  have asymm (x y : String × α) (h : x.1 < y.1) : ¬y.1 < x.1 := lt_asymm h
  have pairs {x y : String × α} : (x, y) ∈ pairsOf (positions position verdicts) ↔
      x ∈ positions position verdicts ∧ y ∈ positions position verdicts ∧ x.1 < y.1 :=
    mem_pairsOf_iff asymm (pairwise_positions position verdicts)
  rw [compared, List.mem_flatMap]
  constructor
  · rintro ⟨⟨⟨j, x⟩, k, y⟩, hpair, hc⟩
    obtain ⟨hx, hy, hlt⟩ := pairs.1 hpair
    exact ⟨j, x, k, y, hlt, hx, hy, hc⟩
  · rintro ⟨j, x, k, y, hlt, hx, hy, hc⟩
    exact ⟨_, pairs.2 ⟨hx, hy, hlt⟩, hc⟩

/-- What a comparison yields between two jurisdictions is what it yields from their verdicts alone. -/
theorem filter_compared (hyields : Yields kind compare) (verdicts : List Verdict) (j k : String) :
    (compared position compare verdicts).filter (·.isBetween j k) = compared position compare (ofPair verdicts j k) := by
  rw [compared, compared, ofPair, positions_filter, pairsOf_filter]
  refine filter_flatMap_eq ?_
  rintro ⟨x, y⟩ hpair c hc
  have named := (hyields x y c hc).2
  have hlt : x.1 < y.1 := forall_mem_pairsOf (pairwise_positions position verdicts) _ hpair
  rw [Conflict.isBetween, named.first, named.second]
  grind [isEither]

/-! ## The detectors as comparisons -/

/-- The numbers of days that a verdict names, where all of them can be read. -/
def dayCountsRead (v : Verdict) : List Nat := v.allDayCounts.toOption.getD []

/-- All numbers of days that some verdicts name can be read. -/
def HasReadableDayCounts (verdicts : List Verdict) : Prop := ∀ v ∈ verdicts, ∃ counts, v.allDayCounts = .ok counts

/-- The greatest number of days that some verdicts name. -/
def greatestDayCount (verdicts : List Verdict) : Option Nat := (verdicts.flatMap dayCountsRead).max?

/-- The conflicts of oppositions between two texts of obligations. -/
def oppositionConflicts (oppositions : List Opposition) : (String × String) × String × String → List Conflict
  | ((j, s), k, t) => (oppositions.filter (·.between s t)).map fun o => obligationConflict o j k

/-- Some verdicts come to a status. -/
def comeTo (verdicts : List Verdict) (status : Status) : Bool := verdicts.any (·.leaf.status == status)

/-- The conflicts between what two jurisdictions permit and block. -/
def statusConflicts : (String × (Status → Bool)) × String × (Status → Bool) → List Conflict
  | (x, y) =>
    ([(x, y), (y, x)].filter fun (permitter, blocker) => permitter.2 .compliant && blocker.2 .blocked).map
      fun (permitter, blocker) => decisionConflict x.1 y.1 permitter.1 blocker.1

/-- Classifications are compared by the last one of each jurisdiction. -/
theorem classificationConflicts_eq (verdicts : List Verdict) :
    classificationConflicts verdicts =
      compared lastClassification? (fun pair => (classificationConflict? pair).toList) verdicts :=
  List.filterMap_eq_flatMap_toList ..

/-- Timelines are compared by the greatest number of days of each jurisdiction. -/
theorem timelineConflicts_eq (h : HasReadableDayCounts verdicts) :
    timelineConflicts verdicts = .ok (compared greatestDayCount (fun pair => (timelineConflict? pair).toList) verdicts) := by
  have counts : (verdicts.mapM fun v => return (v.jurisdiction, ← v.allDayCounts)) =
      (.ok (verdicts.map fun v => (v.jurisdiction, v.dayCountsRead)) : Except Decimal.NumeralTooLong _) := by
    refine Except.mapM_eq_ok_map fun v hv => ?_
    obtain ⟨counts, hcounts⟩ := h v hv
    rw [dayCountsRead, hcounts]
    rfl
  have greatest : (jurisdictions verdicts).filterMap (fun j =>
      ((((verdicts.map fun v => (v.jurisdiction, v.dayCountsRead)).filter (·.1 == j)).flatMap (·.2)).max?).map (j, ·)) =
      positions greatestDayCount verdicts := by
    simp only [List.filter_map, List.flatMap_map]
    rfl
  rw [timelineConflicts, counts, Except.ok_bind, compared, ← List.filterMap_eq_flatMap_toList, ← greatest]
  rfl

/-- Timelines can only be compared when every number of days can be read. -/
theorem hasReadableDayCounts_of_timelineConflicts {found : List Conflict} (h : timelineConflicts verdicts = .ok found) :
    HasReadableDayCounts verdicts := by
  obtain ⟨_, hcounts, -⟩ := Except.bind_eq_ok.1 h
  intro v hv
  obtain ⟨_, hown⟩ := Except.exists_ok_of_mapM hcounts v hv
  obtain ⟨counts, hread, -⟩ := Except.bind_eq_ok.1 hown
  exact ⟨counts, hread⟩

/-- Obligations are compared by their texts, in each jurisdiction all of them in one. -/
theorem obligationConflicts_eq (oppositions : List Opposition) (verdicts : List Verdict) :
    obligationConflicts oppositions verdicts =
      compared (some ∘ obligationText) (oppositionConflicts oppositions) verdicts := rfl

/-- Decisions are compared by the statuses that each jurisdiction comes to. -/
theorem decisionConflicts_eq (verdicts : List Verdict) :
    decisionConflicts verdicts = compared (some ∘ comeTo) statusConflicts verdicts := by
  have names : positions (some ∘ comeTo) verdicts =
      (jurisdictions verdicts).map fun j => (j, comeTo (ofJurisdiction verdicts j)) := by
    simp [positions]
  have comesTo_eq (j : String) (status : Status) :
      (ofJurisdiction verdicts j).any (·.leaf.status == status) = comeTo (ofJurisdiction verdicts j) status := rfl
  rw [decisionConflicts, compared, names, pairsOf_map, List.flatMap_map]
  refine List.flatMap_congr ?_
  rintro ⟨j, k⟩ -
  simp only [statusConflicts, Prod.map, List.filter_cons, List.filter_nil, comesTo_eq]
  cases comeTo (ofJurisdiction verdicts j) .compliant && comeTo (ofJurisdiction verdicts k) .blocked <;>
    cases comeTo (ofJurisdiction verdicts k) .compliant && comeTo (ofJurisdiction verdicts j) .blocked <;> rfl

/-- A comparison that finds one conflict, unless two positions agree, yields what that conflict is. -/
theorem yields_toList {find? : (String × α) × String × α → Option Conflict} {agree : α → α → Prop}
    [∀ a b, Decidable (agree a b)] {found : String → α → String → α → Conflict}
    (hfind : ∀ j a k b, find? ((j, a), k, b) = if agree a b then none else some (found j a k b))
    (hfound : ∀ j a k b, (found j a k b).kind = kind ∧ (found j a k b).Names j k) :
    Yields kind fun pair => (find? pair).toList := by
  rintro ⟨j, a⟩ ⟨k, b⟩ c hc
  have hsome : (if agree a b then none else some (found j a k b)) = some c := hfind j a k b ▸ Option.mem_toList.1 hc
  obtain ⟨-, hc⟩ := Option.ite_none_left_eq_some.1 hsome
  exact Option.some.inj hc ▸ hfound j a k b

/-- A conflict between classifications is of its kind and names both jurisdictions. -/
theorem yields_classification : Yields .classification fun pair => (classificationConflict? pair).toList :=
  yields_toList (fun _ _ _ _ => rfl) fun _ _ _ _ => ⟨rfl, rfl, rfl, by
    simp [ConflictKind.identifier, ConflictKind.opening, ConflictKind.ending, String.append_assoc]⟩

theorem yields_timeline : Yields .timeline fun pair => (timelineConflict? pair).toList :=
  yields_toList (fun _ _ _ _ => rfl) fun _ _ _ _ => ⟨rfl, rfl, rfl, by
    simp [ConflictKind.identifier, ConflictKind.opening, ConflictKind.ending, String.append_assoc]⟩

/-- The oppositions must be of the kind that identifiers of oppositions tell. -/
theorem yields_oppositions {oppositions : List Opposition} (hkind : ∀ o ∈ oppositions, o.kind = .obligation) :
    Yields .obligation (oppositionConflicts oppositions) := by
  intro x y c hc
  obtain ⟨o, ho, rfl⟩ := List.mem_map.1 hc
  have hkind := hkind o (List.mem_filter.1 ho).1
  have id_eq : (obligationConflict o x.1 y.1).id = "obligation-" ++ x.1 ++ "-" ++ y.1 ++ "-" ++ o.kind.name := rfl
  refine ⟨hkind, rfl, rfl, ?_⟩
  rw [id_eq, show (obligationConflict o x.1 y.1).kind = o.kind from rfl, hkind]
  simp [ConflictKind.identifier, ConflictKind.opening, ConflictKind.ending, ConflictKind.name, String.append_assoc]

theorem yields_status : Yields .decision statusConflicts := by
  intro x y c hc
  obtain ⟨_, -, rfl⟩ := List.mem_map.1 hc
  exact ⟨rfl, rfl, rfl, by
    simp [decisionConflict, ConflictKind.identifier, ConflictKind.opening, ConflictKind.ending, String.append_assoc]⟩

/-! ## All conflicts -/

/-- All that is found between jurisdictions before identifiers are looked at. -/
def findings (includeDecisions : Bool) (verdicts : List Verdict) : List Conflict :=
  compared lastClassification? (fun pair => (classificationConflict? pair).toList) verdicts ++
    compared greatestDayCount (fun pair => (timelineConflict? pair).toList) verdicts ++
    compared (some ∘ obligationText) (oppositionConflicts Opposition.known) verdicts ++
    if includeDecisions then compared (some ∘ comeTo) statusConflicts verdicts else []

/-- All known oppositions are of the kind of obligations. -/
theorem kind_of_mem_known : ∀ o ∈ Opposition.known, o.kind = .obligation := by
  simp [Opposition.known]

/-- What is found between two jurisdictions is found from their verdicts alone. -/
theorem filter_findings (includeDecisions : Bool) (verdicts : List Verdict) (j k : String) :
    (findings includeDecisions verdicts).filter (·.isBetween j k) = findings includeDecisions (ofPair verdicts j k) := by
  simp only [findings, List.filter_append, filter_compared yields_classification, filter_compared yields_timeline,
    filter_compared (yields_oppositions kind_of_mem_known)]
  split
  · rw [filter_compared yields_status]
  · rfl

/-- What is found names two jurisdictions of the verdicts, the one with the lesser name first. -/
theorem names_of_mem_findings {includeDecisions : Bool} {c : Conflict} (h : c ∈ findings includeDecisions verdicts) :
    ∃ j ∈ jurisdictions verdicts, ∃ k ∈ jurisdictions verdicts, j < k ∧ c.Names j k := by
  simp only [findings, List.mem_append] at h
  rcases h with ((h | h) | h) | h
  · exact names_of_mem_compared yields_classification h
  · exact names_of_mem_compared yields_timeline h
  · exact names_of_mem_compared (yields_oppositions kind_of_mem_known) h
  · split at h
    · exact names_of_mem_compared yields_status h
    · exact absurd h List.not_mem_nil

/-- Fewer than two verdicts leave nothing to compare. -/
theorem findings_of_length_lt_two (includeDecisions : Bool) (h : verdicts.length < 2) :
    findings includeDecisions verdicts = [] := by
  rw [List.eq_nil_iff_forall_not_mem]
  intro c hc
  obtain ⟨j, hj, k, hk, hlt, -⟩ := names_of_mem_findings hc
  obtain ⟨v, hv, rfl⟩ := mem_jurisdictions.1 hj
  obtain ⟨w, hw, rfl⟩ := mem_jurisdictions.1 hk
  rcases verdicts with _ | ⟨u, _ | ⟨u', rest⟩⟩
  · exact List.not_mem_nil hv
  · rw [List.mem_singleton.1 hv, List.mem_singleton.1 hw] at hlt
    exact lt_irrefl _ hlt
  · simp only [List.length_cons] at h
    omega

/-- The conflicts are the first findings of each identifier. -/
theorem conflicts_eq (h : HasReadableDayCounts verdicts) (includeDecisions : Bool) :
    conflicts includeDecisions verdicts =
      .ok (firsts Conflict.id (findings includeDecisions (verdicts.mergeSort precedes))) := by
  have hsorted : HasReadableDayCounts (verdicts.mergeSort precedes) := fun v hv => h v (List.mem_mergeSort.1 hv)
  rw [conflicts]
  by_cases hlen : (verdicts.mergeSort precedes).length < 2
  · rw [findings_of_length_lt_two _ hlen]
    simp only [hlen, if_true]
    rfl
  · simp only [hlen, if_false, timelineConflicts_eq hsorted, Except.ok_bind, classificationConflicts_eq,
      obligationConflicts_eq, decisionConflicts_eq]
    rfl

/-- Conflicts are found unless there is something to compare and a number of days has too many digits. -/
theorem exists_conflicts_iff (includeDecisions : Bool) :
    (∃ found, conflicts includeDecisions verdicts = .ok found) ↔ verdicts.length < 2 ∨ HasReadableDayCounts verdicts := by
  constructor
  · rintro ⟨found, h⟩
    by_cases hlen : verdicts.length < 2
    · exact .inl hlen
    · simp only [conflicts, List.length_mergeSort, hlen, if_false, Except.bind_eq_ok] at h
      obtain ⟨timelines, htimelines, -⟩ := h
      exact .inr fun v hv => hasReadableDayCounts_of_timelineConflicts htimelines v (List.mem_mergeSort.2 hv)
  · rintro (hlen | hread)
    · exact ⟨[], by simp [conflicts, hlen]; rfl⟩
    · exact ⟨_, conflicts_eq hread includeDecisions⟩

/-! ## Two jurisdictions among others -/

/-- No other pair of jurisdictions has the same name as a pair. -/
def HasOwnName (verdicts : List Verdict) (j k : String) : Prop :=
  ∀ v ∈ verdicts, ∀ w ∈ verdicts, v.jurisdiction ≠ w.jurisdiction → pairName v.jurisdiction w.jurisdiction = pairName j k →
    isEither j k v.jurisdiction ∧ isEither j k w.jurisdiction

/-- Names without hyphens can be told from the name of their pair. -/
theorem hasOwnName_of_no_hyphens (hverdicts : ∀ v ∈ verdicts, '-' ∉ v.jurisdiction.toList) (hj : '-' ∉ j.toList)
    (hk : '-' ∉ k.toList) : HasOwnName verdicts j k := by
  have joined_inj {a b c d : String} (ha : '-' ∉ a.toList) (hb : '-' ∉ b.toList)
      (h : a ++ "-" ++ b = c ++ "-" ++ d) : a = c ∧ b = d := by
    have lists : a.toList ++ '-' :: b.toList = c.toList ++ '-' :: d.toList := by
      simpa [String.toList_append] using congrArg String.toList h
    obtain ⟨hac, -, hbd⟩ := (List.append_cons_inj_of_notMem ha hb).1 lists
    exact ⟨String.toList_inj.1 hac, String.toList_inj.1 hbd⟩
  intro v hv w hw hne hname
  have hv := hverdicts v hv
  have hw := hverdicts w hw
  unfold pairName at hname
  split at hname <;> split at hname <;> grind [isEither]

/-- An identifier of a finding between two jurisdictions is that of no finding between others, if the pair has a name of its
own. -/
theorem isBetween_of_id_eq (hown : HasOwnName verdicts j k) {includeDecisions : Bool} {c d : Conflict}
    (hc : c ∈ findings includeDecisions verdicts) (hd : d ∈ findings includeDecisions verdicts) (hid : c.id = d.id)
    (hbetween : d.isBetween j k) : c.isBetween j k := by
  obtain ⟨a, ha, b, hb, hab, hcnames⟩ := names_of_mem_findings hc
  obtain ⟨p, -, q, -, hpq, hdnames⟩ := names_of_mem_findings hd
  obtain ⟨v, hv, rfl⟩ := mem_jurisdictions.1 ha
  obtain ⟨w, hw, rfl⟩ := mem_jurisdictions.1 hb
  have same_name : pairName v.jurisdiction w.jurisdiction = pairName p q := by
    rw [hcnames.id, hdnames.id] at hid
    rw [pairName, if_pos hab, pairName, if_pos hpq, (ConflictKind.identifier_inj hid).2]
  have pair_name : pairName p q = pairName j k := by
    rw [Conflict.isBetween, hdnames.first, hdnames.second] at hbetween
    simp only [Bool.or_eq_true, Bool.and_eq_true, beq_iff_eq] at hbetween
    rcases hbetween with ⟨rfl, rfl⟩ | ⟨rfl, rfl⟩
    · rfl
    · exact pairName_comm p q
  obtain ⟨hv, hw⟩ := hown v hv w hw hab.ne (same_name.trans pair_name)
  rw [Conflict.isBetween, hcnames.first, hcnames.second]
  grind [isEither]

/-- The conflicts between two jurisdictions among others are those found from their verdicts alone, in the same order, less
those whose identifier is also that of a conflict between others, found first. None is lost if the pair has a name of its
own. -/
theorem conflicts_ofPair (hread : HasReadableDayCounts verdicts) (j k : String) (includeDecisions : Bool) :
    ∃ found alone, conflicts includeDecisions verdicts = .ok found ∧
      conflicts includeDecisions (ofPair verdicts j k) = .ok alone ∧
      found.filter (·.isBetween j k) =
        alone.filter (fun d => !found.any fun c => c.id == d.id && !c.isBetween j k) ∧
      (HasOwnName verdicts j k → found.filter (·.isBetween j k) = alone) := by
  have hpair : HasReadableDayCounts (ofPair verdicts j k) := fun v hv => hread v (List.mem_filter.1 hv).1
  refine ⟨_, _, conflicts_eq hread includeDecisions, conflicts_eq hpair includeDecisions, ?_⟩
  have restricted : findings includeDecisions ((ofPair verdicts j k).mergeSort precedes) =
      (findings includeDecisions (verdicts.mergeSort precedes)).filter (·.isBetween j k) := by
    rw [filter_findings, ofPair, ofPair, sorted_filter]
  have exact_loss := filter_firsts Conflict.id (·.isBetween j k)
    (findings includeDecisions (verdicts.mergeSort precedes))
  rw [← restricted] at exact_loss
  refine ⟨exact_loss, fun hown => exact_loss.trans (List.filter_eq_self.2 fun d hd => ?_)⟩
  have hd := mem_of_mem_firsts hd
  rw [restricted] at hd
  obtain ⟨hd, hbetween⟩ := List.mem_filter.1 hd
  rw [Bool.not_eq_true', List.any_eq_false]
  intro c hc
  rw [Bool.and_eq_true, beq_iff_eq, Bool.not_eq_true']
  rintro ⟨hid, hother⟩
  have hsorted : HasOwnName (verdicts.mergeSort precedes) j k := fun v hv w hw =>
    hown v (List.mem_mergeSort.1 hv) w (List.mem_mergeSort.1 hw)
  rw [isBetween_of_id_eq hsorted (mem_of_mem_firsts hc) hd hid hbetween] at hother
  exact absurd hother (by decide)

/-- What three jurisdictions say about a token, of which two agree. -/
def threeJurisdictions : List Verdict :=
  [permitting "CH" "finma" "Classified as a utility token", euPegged, ukPegged]

/-- The names of three jurisdictions without hyphens leave no doubt about the pairs. -/
theorem conflicts_ofPair_tokens :
    HasReadableDayCounts threeJurisdictions ∧ HasOwnName threeJurisdictions "CH" "EU" ∧
      ∃ found alone, conflicts true threeJurisdictions = .ok found ∧
        conflicts true (ofPair threeJurisdictions "CH" "EU") = .ok alone ∧
        found.filter (·.isBetween "CH" "EU") = alone := by
  have hread : HasReadableDayCounts threeJurisdictions := by
    simp only [HasReadableDayCounts, threeJurisdictions, List.forall_mem_cons]
    exact ⟨⟨[], rfl⟩, ⟨[], rfl⟩, ⟨[], rfl⟩, fun _ hv => absurd hv List.not_mem_nil⟩
  have hown : HasOwnName threeJurisdictions "CH" "EU" :=
    hasOwnName_of_no_hyphens (by decide +kernel) (by decide) (by decide)
  obtain ⟨found, alone, hfound, halone, -, hsame⟩ := conflicts_ofPair hread "CH" "EU" true
  exact ⟨hread, hown, found, alone, hfound, halone, hsame hown⟩

/-- Four jurisdictions, of which two pairs have the same name. -/
def hyphenatedJurisdictions : List Verdict :=
  [permitting "A" "first" "Classified as an e-money token", permitting "A-B" "second" "Classified as an e-money token",
    permitting "B-C" "third" "Classified as a utility token", permitting "C" "fourth" "Classified as a utility token"]

/-- The conflict between "A-B" and "C" is lost, since the one between "A" and "B-C" comes first and has the same
identifier. -/
theorem conflicts_ofPair_hyphens :
    (hyphenatedJurisdictions.map fun v => (v.jurisdiction, v.ruleId)).Nodup ∧
      ∃ found alone, conflicts false hyphenatedJurisdictions = .ok found ∧
        conflicts false (ofPair hyphenatedJurisdictions "A-B" "C") = .ok alone ∧
        found.filter (·.isBetween "A-B" "C") = [] ∧ alone.map (·.id) = ["classification-A-B-C"] := by
  have hread : HasReadableDayCounts hyphenatedJurisdictions := by
    simp only [HasReadableDayCounts, hyphenatedJurisdictions, List.forall_mem_cons]
    exact ⟨⟨[], rfl⟩, ⟨[], rfl⟩, ⟨[], rfl⟩, ⟨[], rfl⟩, fun _ hv => absurd hv List.not_mem_nil⟩
  have hpair : HasReadableDayCounts (ofPair hyphenatedJurisdictions "A-B" "C") :=
    fun v hv => hread v (List.mem_filter.1 hv).1
  have sorted : hyphenatedJurisdictions.mergeSort precedes = hyphenatedJurisdictions :=
    List.mergeSort_of_pairwise (by decide +kernel)
  have names : jurisdictions hyphenatedJurisdictions = ["A", "A-B", "B-C", "C"] :=
    List.mergeSort_of_pairwise (by decide +kernel)
  have pair_sorted : (ofPair hyphenatedJurisdictions "A-B" "C").mergeSort precedes =
      ofPair hyphenatedJurisdictions "A-B" "C" := List.mergeSort_of_pairwise (by decide +kernel)
  have pair_names : jurisdictions (ofPair hyphenatedJurisdictions "A-B" "C") = ["A-B", "C"] :=
    List.mergeSort_of_pairwise (by decide +kernel)
  refine ⟨by decide +kernel, _, _, conflicts_eq hread false, conflicts_eq hpair false, ?_⟩
  simp only [sorted, pair_sorted, findings, compared, positions, names, pair_names]
  decide +kernel

end Verdict

end RegulatoryTrees
