import Mathlib.Data.List.Find
import RegulatoryTrees.Proofs.Conflict.Seams
import RegulatoryTrees.Proofs.Conflict.Timelines

/-!
# Reports of conflicts

The findings stand in order: by kind as the detectors are asked, and of one kind by the names of the two jurisdictions
(`pairwise_findings`), since every detector goes through the pairs of jurisdictions in that order. Of the findings with one identifier
the first is kept, so that none of a kind follows another one between the same jurisdictions (`pairwise_firsts_findings`). The
conflict of obligations that is kept for two jurisdictions is therefore that of the first opposition between them
(`eq_obligationConflict_of_mem_firsts`).
-/

namespace RegulatoryTrees

/-! ## First items -/

section Firsts

variable {α κ : Type} [DecidableEq κ] {key : α → κ}

/-- The first items of each key stand in the order of the list. -/
theorem firsts_sublist (key : α → κ) (xs : List α) : (firsts key xs).Sublist xs := by
  induction xs using firsts_induction key with
  | nil => exact List.Sublist.refl _
  | cons x xs ih =>
    rw [firsts_cons]
    exact (ih.trans List.filter_sublist).cons_cons x

/-- An item that is kept is the first one with its key. -/
theorem find?_of_mem_firsts {xs : List α} {x : α} (h : x ∈ firsts key xs) : (xs.find? fun y => key y == key x) = some x := by
  induction xs using firsts_induction key with
  | nil => exact absurd h List.not_mem_nil
  | cons y ys ih =>
    rw [firsts_cons] at h
    rcases List.mem_cons.1 h with rfl | h
    · exact List.find?_cons_of_pos (beq_self_eq_true _)
    · have hne : key x ≠ key y := key_ne_of_mem_firsts key h
      rw [List.find?_cons_of_neg (by simpa using hne.symm), ← ih h, List.find?_filter]
      refine List.find?_congr fun z _ => ?_
      by_cases hz : key z = key x <;> simp [hz, hne]

end Firsts

/-- The pairs of a list in order are in order, by their first items and then by their second ones. -/
theorem pairwise_pairsOf {α : Type} {R : α → α → Prop} {xs : List α} (h : xs.Pairwise R) :
    (pairsOf xs).Pairwise fun p q => R p.1 q.1 ∨ p.1 = q.1 ∧ R p.2 q.2 := by
  induction h with
  | nil => exact .nil
  | @cons x xs hx hxs ih =>
    refine List.pairwise_append.2 ⟨List.pairwise_map.2 (hxs.imp fun hyz => .inr ⟨rfl, hyz⟩), ih, ?_⟩
    intro p hp q hq
    obtain ⟨y, -, rfl⟩ := List.mem_map.1 hp
    exact .inl (hx q.1 (mem_of_mem_pairsOf hq).1)

/-! ## The order of conflicts -/

/-- The place of a kind among those that the detectors find, as they are asked. -/
def ConflictKind.place : ConflictKind → Nat
  | .classification => 0
  | .timeline => 1
  | .obligation => 2
  | .decision => 3

namespace Conflict

/-- Two jurisdictions come before two others, by the names of the first ones and then of the second ones. -/
def PairBefore (c d : Conflict) : Prop := c.first < d.first ∨ c.first = d.first ∧ c.second < d.second

/-- A conflict comes before another one: it is of an earlier kind, or of the same kind between jurisdictions that come before. -/
def Before (c d : Conflict) : Prop := c.kind.place < d.kind.place ∨ c.kind = d.kind ∧ c.PairBefore d

/-- What tells a conflict from all others: its kind and its two jurisdictions. -/
def subject (c : Conflict) : ConflictKind × String × String := (c.kind, c.first, c.second)

/-- Conflicts of which one comes before the other have different subjects. -/
theorem Before.subject_ne {c d : Conflict} (h : c.Before d) : c.subject ≠ d.subject := by
  intro heq
  obtain ⟨hkind, hpair⟩ := Prod.mk.inj heq
  obtain ⟨hfirst, hsecond⟩ := Prod.mk.inj hpair
  rcases h with h | ⟨-, h | ⟨-, h⟩⟩
  · exact absurd (hkind ▸ h) (lt_irrefl _)
  · exact absurd (hfirst ▸ h) (lt_irrefl _)
  · exact absurd (hsecond ▸ h) (lt_irrefl _)

end Conflict

namespace Verdict

variable {α : Type} {verdicts : List Verdict} {position : List Verdict → Option α}
  {compare : (String × α) × String × α → List Conflict} {kind : ConflictKind}

/-! ## Findings in order -/

/-- What a comparison finds anywhere is of its kind. -/
theorem kind_of_mem_compared (hyields : Yields kind compare) {c : Conflict} (h : c ∈ compared position compare verdicts) :
    c.kind = kind := by
  obtain ⟨pair, -, hc⟩ := List.mem_flatMap.1 h
  exact (hyields pair.1 pair.2 c hc).1

/-- What a comparison yields is in order, but for conflicts between the same two jurisdictions. -/
theorem pairwise_compared (position : List Verdict → Option α) (hyields : Yields kind compare) (verdicts : List Verdict) :
    (compared position compare verdicts).Pairwise fun c d => c.Before d ∨ c.subject = d.subject := by
  have hpairs := pairwise_pairsOf (pairwise_positions position verdicts)
  refine List.pairwise_flatMap.2 ⟨?_, hpairs.imp ?_⟩
  · rintro ⟨x, y⟩ -
    refine List.pairwise_of_forall_mem_list fun c hc d hd => .inr ?_
    obtain ⟨hkind, hc'⟩ := hyields x y c hc
    obtain ⟨hkind', hd'⟩ := hyields x y d hd
    rw [Conflict.subject, Conflict.subject, hkind, hkind', hc'.first, hc'.second, hd'.first, hd'.second]
  · rintro ⟨x, y⟩ ⟨x', y'⟩ hlt c hc d hd
    obtain ⟨hkind, hc'⟩ := hyields x y c hc
    obtain ⟨hkind', hd'⟩ := hyields x' y' d hd
    refine .inl (.inr ⟨hkind.trans hkind'.symm, ?_⟩)
    rw [Conflict.PairBefore, hc'.first, hc'.second, hd'.first, hd'.second]
    exact hlt.imp_right fun ⟨heq, hlt⟩ => ⟨congrArg Prod.fst heq, hlt⟩

/-- The findings are in order, but for those of one kind between the same two jurisdictions. -/
theorem pairwise_findings (includeDecisions : Bool) (verdicts : List Verdict) :
    (findings includeDecisions verdicts).Pairwise fun c d => c.Before d ∨ c.subject = d.subject := by
  have hclassifications := pairwise_compared lastClassification? yields_classification verdicts
  have htimelines := pairwise_compared greatestDayCount yields_timeline verdicts
  have hobligations := pairwise_compared (some ∘ obligationText) (yields_oppositions kind_of_mem_known) verdicts
  have hdecisions := pairwise_compared (some ∘ comeTo) yields_status verdicts
  have hplace {c d : Conflict} {k k' : ConflictKind} (hc : c.kind = k) (hd : d.kind = k') (h : k.place < k'.place) :
      c.Before d ∨ c.subject = d.subject := .inl (.inl (by rwa [hc, hd]))
  rw [findings]
  refine List.pairwise_append.2
    ⟨List.pairwise_append.2 ⟨List.pairwise_append.2 ⟨hclassifications, htimelines, ?_⟩, hobligations, ?_⟩, ?_, ?_⟩
  · intro c hc d hd
    exact hplace (kind_of_mem_compared yields_classification hc) (kind_of_mem_compared yields_timeline hd) (by decide)
  · intro c hc d hd
    have hd := kind_of_mem_compared (yields_oppositions kind_of_mem_known) hd
    rcases List.mem_append.1 hc with hc | hc
    · exact hplace (kind_of_mem_compared yields_classification hc) hd (by decide)
    · exact hplace (kind_of_mem_compared yields_timeline hc) hd (by decide)
  · split
    · exact hdecisions
    · exact .nil
  · intro c hc d hd
    split at hd
    · have hd := kind_of_mem_compared yields_status hd
      rcases List.mem_append.1 hc with hc | hc
      · rcases List.mem_append.1 hc with hc | hc
        · exact hplace (kind_of_mem_compared yields_classification hc) hd (by decide)
        · exact hplace (kind_of_mem_compared yields_timeline hc) hd (by decide)
      · exact hplace (kind_of_mem_compared (yields_oppositions kind_of_mem_known) hc) hd (by decide)
    · exact absurd hd List.not_mem_nil

/-- The findings that are kept are in order. -/
theorem pairwise_firsts_findings (includeDecisions : Bool) (verdicts : List Verdict) :
    (firsts Conflict.id (findings includeDecisions verdicts)).Pairwise Conflict.Before := by
  have hordered := (pairwise_findings includeDecisions verdicts).sublist (firsts_sublist Conflict.id _)
  refine (hordered.and (pairwise_firsts Conflict.id _)).imp_of_mem fun {c d} hc hd ⟨hor, hne⟩ => hor.resolve_right fun heq => hne ?_
  obtain ⟨j, -, k, -, -, hc⟩ := names_of_mem_findings (mem_of_mem_firsts hc)
  obtain ⟨j', -, k', -, -, hd⟩ := names_of_mem_findings (mem_of_mem_firsts hd)
  obtain ⟨hkind, hpair⟩ := Prod.mk.inj heq
  obtain ⟨hfirst, hsecond⟩ := Prod.mk.inj hpair
  rw [hc.id, hd.id, hkind, ← hc.first, ← hc.second, hfirst, hsecond, hd.first, hd.second]

/-! ## Kept conflicts of obligations -/

/-- The first of the known oppositions between the obligations of two jurisdictions. -/
def firstOpposition? (verdicts : List Verdict) (j k : String) : Option Opposition :=
  Opposition.known.find? (·.between (obligationText (ofJurisdiction verdicts j)) (obligationText (ofJurisdiction verdicts k)))

/-- The conflict of obligations that is kept for two jurisdictions is that of the first opposition between them. It is the
first finding with its identifier, which no other detector finds and the conflicts of all oppositions between the two have. -/
theorem eq_obligationConflict_of_mem_firsts {includeDecisions : Bool} {c : Conflict}
    (h : c ∈ firsts Conflict.id (findings includeDecisions verdicts)) (hkind : c.kind = .obligation) :
    ∃ o, firstOpposition? verdicts c.first c.second = some o ∧ c = obligationConflict o c.first c.second := by
  have hfind := find?_of_mem_firsts h
  have hother {kind : ConflictKind} {cs : List Conflict} (hcs : ∀ d ∈ cs, d.kind = kind) (hne : kind ≠ .obligation) :
      (cs.find? fun d => d.id == c.id) ≠ some c := fun hd => hne ((hcs c (List.mem_of_find?_eq_some hd)).symm.trans hkind)
  have hfound : ((compared (some ∘ obligationText) (oppositionConflicts Opposition.known) verdicts).find? fun d => d.id == c.id) =
      some c := by
    rw [findings, List.find?_append, List.find?_append, List.find?_append] at hfind
    rcases Option.or_eq_some_iff.1 hfind with hfind | ⟨-, hfind⟩
    · rcases Option.or_eq_some_iff.1 hfind with hfind | ⟨-, hfind⟩
      · rcases Option.or_eq_some_iff.1 hfind with hfind | ⟨-, hfind⟩
        · exact absurd hfind (hother (fun d hd => kind_of_mem_compared yields_classification hd) (by decide))
        · exact absurd hfind (hother (fun d hd => kind_of_mem_compared yields_timeline hd) (by decide))
      · exact hfind
    · split at hfind
      · exact absurd hfind (hother (fun d hd => kind_of_mem_compared yields_status hd) (by decide))
      · exact absurd hfind (Option.some_ne_none c).symm
  rw [compared, List.find?_flatMap] at hfound
  obtain ⟨⟨⟨j, s⟩, k, t⟩, hpair, hfound⟩ := List.exists_of_findSome?_eq_some hfound
  obtain ⟨hs, ht⟩ := mem_of_mem_pairsOf hpair
  obtain rfl : obligationText (ofJurisdiction verdicts j) = s := Option.some.inj (mem_positions_iff.1 hs).2
  obtain rfl : obligationText (ofJurisdiction verdicts k) = t := Option.some.inj (mem_positions_iff.1 ht).2
  rw [oppositionConflicts, List.find?_map, List.find?_filter] at hfound
  obtain ⟨o, ho, rfl⟩ := Option.map_eq_some_iff.1 hfound
  refine ⟨o, ?_, rfl⟩
  have hknown := kind_of_mem_known o (List.mem_of_find?_eq_some ho)
  rw [← ho]
  refine List.find?_congr fun o' ho' => ?_
  have hid : (obligationConflict o' j k).id = (obligationConflict o j k).id := by
    rw [obligationConflict, obligationConflict, kind_of_mem_known o' ho', hknown]
  simp only [Function.comp_apply, hid, beq_self_eq_true, and_true, Bool.decide_eq_true]
  rfl

/-- The opposition about retail investors, which is the first of those known. -/
def retail : Opposition where
  first := Phrase.apart "retail" "prohibition"
  second := Phrase.apart "retail" "allowed"
  severity := .blocking
  description := "Retail investor eligibility conflict"

/-- Of the known oppositions the one about retail investors blocks, and the others warn. -/
theorem severity_of_mem_known : ∀ o ∈ Opposition.known, o.severity = if o = retail then .blocking else .warning := by
  decide +kernel

/-! ## Reports -/

/-- The conflicts are the kept findings. -/
theorem eq_firsts_of_conflicts {includeDecisions : Bool} {found : List Conflict}
    (h : conflicts includeDecisions verdicts = .ok found) :
    found = firsts Conflict.id (findings includeDecisions (verdicts.mergeSort precedes)) := by
  rcases (exists_conflicts_iff includeDecisions).1 ⟨found, h⟩ with hlength | hread
  · rw [findings_of_length_lt_two _ (by rwa [List.length_mergeSort]), firsts_nil]
    rw [conflicts, if_pos (by rwa [List.length_mergeSort])] at h
    exact (Except.ok.inj h).symm
  · exact Except.ok.inj (h.symm.trans (conflicts_eq hread includeDecisions))

/-- The report on some verdicts, of which there is one unless a number of days is too long to be read, has different identifiers and
names in each conflict two different jurisdictions of the verdicts, the lesser one first. Its conflicts are in order: by kind, and of
one kind by the jurisdictions, so that there is no other one of the kind between the same two. A conflict of obligations is that of the
first opposition between the two jurisdictions: it blocks, so that both have to be satisfied, if that is the one about retail
investors, and otherwise it warns, and the stricter one is to be followed. -/
theorem conflicts_wellFormed (includeDecisions : Bool) (verdicts : List Verdict) :
    ((∃ found, conflicts includeDecisions verdicts = .ok found) ↔ verdicts.length < 2 ∨ HasReadableDayCounts verdicts) ∧
    ∀ found, conflicts includeDecisions verdicts = .ok found →
      (found.map Conflict.id).Nodup ∧
      (∀ c ∈ found, c.first < c.second ∧
        (∃ v ∈ verdicts, v.jurisdiction = c.first) ∧ ∃ v ∈ verdicts, v.jurisdiction = c.second) ∧
      found.Pairwise Conflict.Before ∧ (found.map Conflict.subject).Nodup ∧
      ∀ c ∈ found, c.kind = .obligation → ∃ o, firstOpposition? (verdicts.mergeSort precedes) c.first c.second = some o ∧
        c = obligationConflict o c.first c.second ∧
        (o = retail → c.severity = .blocking ∧ c.resolution = .satisfyBoth) ∧
        (o ≠ retail → c.severity = .warning ∧ c.resolution = .stricter) := by
  refine ⟨exists_conflicts_iff includeDecisions, fun found hfound => ?_⟩
  obtain rfl := eq_firsts_of_conflicts hfound
  have hbefore := pairwise_firsts_findings includeDecisions (verdicts.mergeSort precedes)
  refine ⟨List.pairwise_map.2 (pairwise_firsts Conflict.id _), fun c hc => ?_, hbefore,
    List.pairwise_map.2 (hbefore.imp Conflict.Before.subject_ne), fun c hc hkind => ?_⟩
  · obtain ⟨j, hj, k, hk, hlt, hnames⟩ := names_of_mem_findings (mem_of_mem_firsts hc)
    obtain ⟨v, hv, hvj⟩ := mem_jurisdictions.1 hj
    obtain ⟨w, hw, hwk⟩ := mem_jurisdictions.1 hk
    rw [hnames.first, hnames.second]
    exact ⟨hlt, ⟨v, List.mem_mergeSort.1 hv, hvj⟩, ⟨w, List.mem_mergeSort.1 hw, hwk⟩⟩
  · obtain ⟨o, ho, hco⟩ := eq_obligationConflict_of_mem_firsts hc hkind
    have hseverity := severity_of_mem_known o (List.mem_of_find?_eq_some ho)
    have hc : c.severity = o.severity ∧ c.resolution = if o.severity = .blocking then .satisfyBoth else .stricter := by
      rw [hco]
      exact ⟨rfl, rfl⟩
    refine ⟨o, ho, hco, fun hretail => ?_, fun hretail => ?_⟩
    · rw [hc.1, hc.2, hseverity, if_pos hretail, if_pos rfl]
      exact ⟨rfl, rfl⟩
    · rw [hc.1, hc.2, hseverity, if_neg hretail, if_neg (by decide)]
      exact ⟨rfl, rfl⟩

/-- The EU and the UK are opposed about retail investors and about a registration. -/
def doublyOpposed : List Verdict :=
  [demanding "EU" "mica" ["Issuers must register", "Retail prohibition applies"],
    demanding "UK" "fsma" ["Registration exempt", "Retail allowed"]]

/-- Of two oppositions the one about retail investors is reported. -/
theorem conflicts_wellFormed_doubly :
    ∃ found, conflicts true doublyOpposed = .ok found ∧ found.map Conflict.id = ["obligation-EU-UK-obligation_conflict"] ∧
      (found.map Conflict.subject).Nodup ∧ ∀ c ∈ found, c.severity = .blocking ∧ c.resolution = .satisfyBoth := by
  have hread : HasReadableDayCounts doublyOpposed := hasReadableDayCounts (hasShortDayCounts_of_length (by decide +kernel))
  have sorted : doublyOpposed.mergeSort precedes = doublyOpposed := List.mergeSort_of_pairwise (by decide +kernel)
  have names : jurisdictions doublyOpposed = ["EU", "UK"] := List.mergeSort_of_pairwise (by decide +kernel)
  have hfound := conflicts_eq hread true
  have hkept : (firsts Conflict.id (findings true (doublyOpposed.mergeSort precedes))).map (fun c => (c.id, c.subject)) =
      [("obligation-EU-UK-obligation_conflict", .obligation, "EU", "UK")] := by
    simp only [sorted, findings, compared, positions, names]
    decide +kernel
  obtain ⟨-, hreport⟩ := conflicts_wellFormed true doublyOpposed
  obtain ⟨-, -, -, hsubjects, hobligations⟩ := hreport _ hfound
  refine ⟨_, hfound, ?_, hsubjects, fun c hc => ?_⟩
  · simpa using congrArg (List.map Prod.fst) hkept
  · have hmem := List.mem_map_of_mem (f := fun c => (c.id, c.subject)) hc
    rw [hkept, List.mem_singleton] at hmem
    obtain ⟨hkind, hpair⟩ := Prod.mk.inj (Prod.mk.inj hmem).2
    obtain ⟨hfirst, hsecond⟩ := Prod.mk.inj hpair
    obtain ⟨o, ho, -, hretail, -⟩ := hobligations c hc hkind
    have hopposed : firstOpposition? doublyOpposed "EU" "UK" = some retail := by decide +kernel
    rw [sorted, hfirst, hsecond, hopposed] at ho
    exact hretail (Option.some.inj ho).symm

end Verdict

end RegulatoryTrees
