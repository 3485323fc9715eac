import Mathlib.Data.List.Forall2
import RegulatoryTrees.Proofs.Conflict.Pairs
import RegulatoryTrees.Proofs.Pattern.Language

/-!
# Classifications that diverge

A decision classifies if it holds one of four phrases. Every jurisdiction has room for one classification only, so of several
rules that classify in one jurisdiction the last one counts: a conflict between two jurisdictions is reported exactly if
their last classifications differ. A conflict that is reported is one between classifications that were given, and one that
is missed takes a jurisdiction whose rules classify in different ways (`reportsClassification_iff`).
-/

namespace RegulatoryTrees

namespace Phrase

variable {phrase : String} {ps : List Pattern} {before part after : List Char}

/-! ## Phrases in texts -/

/-- A text is a phrase, in any case. -/
def IsSpelled (phrase part : List Char) : Prop :=
  List.Forall₂ (fun d c => (CharTest.literal .unicode false d.toNat).holds c = true) phrase part

/-- A word begins or ends between two parts of a text. -/
def IsWordEdge (before after : List Char) : Prop :=
  before.getLast?.any (CharacterClass.word.holds false) ≠ after.head?.any (CharacterClass.word.holds false)

/-- A phrase stands in a text as whole words, in any case. -/
def StandsIn (phrase text : String) : Prop :=
  ∃ before part after, text.toList = before ++ part ++ after ∧ IsSpelled phrase.toList part ∧
    IsWordEdge before (part ++ after) ∧ IsWordEdge (before ++ part) after

/-- The phrases that classify. -/
def classifying : List String := ["classified as", "is a", "is an", "treated as"]

/-- The words of a phrase in a row match its spellings, in capitals or not. -/
theorem matchInRow_words : Pattern.MatchInRow (words phrase) before part after ↔ IsSpelled phrase.toList part := by
  rw [words]
  induction phrase.toList generalizing before part with
  | nil => simp [Pattern.MatchInRow, IsSpelled]
  | cons d rest ih =>
    simp only [List.map_cons, Pattern.MatchInRow, ih, IsSpelled, List.forall₂_cons_left_iff]
    constructor
    · rintro ⟨_, b, rfl, ⟨c, rfl, hc⟩, hb⟩
      exact ⟨c, b, hc, hb, rfl⟩
    · rintro ⟨c, b, hc, hb, rfl⟩
      exact ⟨[c], b, rfl, ⟨c, rfl, hc⟩, hb⟩

/-- A character that may be left out matches nothing or itself. -/
theorem matches_maybe_character {c : Char} :
    (maybe (character c)).Matches before part after ↔ part = [] ∨ (character c).Matches before part after := by
  cases part with
  | nil => simp [maybe, character, Pattern.Matches]
  | cons d rest =>
    simp only [maybe, character, Pattern.Matches, reduceCtorEq, false_or, List.length_cons]
    constructor
    · rintro ⟨-, hlength, hall⟩
      obtain rfl : rest = [] := List.eq_nil_of_length_eq_zero (by simpa using hlength 1 rfl)
      exact ⟨d, rfl, hall d List.mem_cons_self⟩
    · rintro ⟨_, hpart, hc⟩
      obtain ⟨rfl, rfl⟩ := List.cons.inj hpart
      exact ⟨Nat.zero_le _, by rintro n ⟨⟩; simp, by simpa using hc⟩

/-- A last character that may be left out. -/
theorem matchInRow_maybe {c : Char} : Pattern.MatchInRow (ps ++ [maybe (character c)]) before part after ↔
    Pattern.MatchInRow ps before part after ∨ Pattern.MatchInRow (ps ++ [character c]) before part after := by
  have single {p : Pattern} {before part : List Char} :
      Pattern.MatchInRow [p] before part after ↔ p.Matches before part after := by
    simp [Pattern.MatchInRow]
  simp only [Pattern.matchInRow_append, single, matches_maybe_character]
  constructor
  · rintro ⟨a, b, rfl, ha, rfl | hb⟩
    · exact .inl (by simpa using ha)
    · exact .inr ⟨a, b, rfl, ha, hb⟩
  · rintro (h | ⟨a, b, rfl, ha, hb⟩)
    · exact ⟨part, [], by simp, by simpa using h, .inl rfl⟩
    · exact ⟨a, b, rfl, ha, .inr hb⟩

/-- The edge of a word matches nothing, at such a place. -/
theorem matches_wordEdge : wordEdge.Matches before part after ↔ part = [] ∧ IsWordEdge before.reverse after := by
  rw [wordEdge, Pattern.Matches, and_congr_right_iff]
  rintro rfl
  cases before <;> cases after <;> simp [Anchor.holds, IsWordEdge]

/-- The pattern of classifications finds the phrases that classify. -/
theorem classifies_occursIn_iff (text : String) :
    classifies.occursIn text = true ↔ ∃ phrase ∈ classifying, StandsIn phrase text := by
  have alternatives {before part after : List Char} :
      (Pattern.ofAlternatives [
        .ofSequence (words "classified as"),
        .ofSequence (words "is a" ++ [maybe (character 'n')]),
        .ofSequence (words "treated as")]).Matches before part after ↔
      ∃ phrase ∈ classifying, IsSpelled phrase.toList part := by
    have is_an : words "is a" ++ [character 'n'] = words "is an" := rfl
    rw [Pattern.matches_ofAlternatives (List.cons_ne_nil _ _)]
    simp only [classifying, List.exists_mem_cons_iff, List.not_mem_nil, false_and, exists_false, or_false, or_assoc,
      Pattern.matches_ofSequence, matchInRow_maybe, is_an, matchInRow_words]
  have whole {before part after : List Char} : classifies.Matches before.reverse part after ↔
      (∃ phrase ∈ classifying, IsSpelled phrase.toList part) ∧ IsWordEdge before (part ++ after) ∧
        IsWordEdge (before ++ part) after := by
    rw [classifies, Pattern.matches_ofSequence]
    simp only [Pattern.MatchInRow, matches_wordEdge, Pattern.Matches, alternatives]
    constructor
    · rintro ⟨_, _, rfl, ⟨rfl, hopens⟩, a, _, rfl, hspelled, _, _, rfl, ⟨rfl, hcloses⟩, rfl⟩
      exact ⟨by simpa using hspelled, by simpa using hopens, by simpa using hcloses⟩
    · rintro ⟨hspelled, hopens, hcloses⟩
      exact ⟨[], part, rfl, ⟨rfl, by simpa using hopens⟩, part, [], by simp, hspelled, [], [], rfl,
        ⟨rfl, by simpa using hcloses⟩, rfl⟩
  rw [Pattern.occursIn_iff (by decide)]
  simp only [whole, StandsIn]
  constructor
  · rintro ⟨before, part, after, htext, ⟨phrase, hphrase, hpart⟩, hopens, hcloses⟩
    exact ⟨phrase, hphrase, before, part, after, htext, hpart, hopens, hcloses⟩
  · rintro ⟨phrase, hphrase, before, part, after, htext, hpart, hopens, hcloses⟩
    exact ⟨before, part, after, htext, ⟨phrase, hphrase, hpart⟩, hopens, hcloses⟩

end Phrase

namespace Verdict

variable {verdicts : List Verdict} {v w : Verdict} {j k x : String}

/-! ## The last classification of a jurisdiction -/

/-- The decision of a verdict holds a phrase that classifies. -/
def Classifies (v : Verdict) : Prop := ∃ phrase ∈ Phrase.classifying, Phrase.StandsIn phrase v.leaf.decision

/-- The classification of a verdict is its decision. -/
theorem classification?_eq_some : v.classification? = some x ↔ v.Classifies ∧ v.leaf.decision = x := by
  rw [classification?, Classifies, ← Phrase.classifies_occursIn_iff]
  split <;> simp_all

theorem classification?_eq_none : v.classification? = none ↔ ¬v.Classifies := by
  rw [classification?, Classifies, ← Phrase.classifies_occursIn_iff]
  simp

instance : DecidablePred Classifies := fun v => decidable_of_iff _ (Phrase.classifies_occursIn_iff v.leaf.decision)

/-- A classification is the one that a jurisdiction gives last. -/
def IsLastClassification (verdicts : List Verdict) (j x : String) : Prop :=
  ∃ earlier v later, verdicts = earlier ++ v :: later ∧ v.jurisdiction = j ∧ v.Classifies ∧ v.leaf.decision = x ∧
    ∀ w ∈ later, w.jurisdiction = j → ¬w.Classifies

/-- The classification that counts for a jurisdiction is the last one. -/
theorem lastClassification?_eq_some :
    lastClassification? (ofJurisdiction verdicts j) = some x ↔ IsLastClassification verdicts j x := by
  have gives {v : Verdict} : (if (v.jurisdiction == j) = true then v.classification? else none) = some x ↔
      v.jurisdiction = j ∧ v.Classifies ∧ v.leaf.decision = x := by
    by_cases hv : v.jurisdiction = j <;> simp [hv, classification?_eq_some]
  have silent {v : Verdict} : (if (v.jurisdiction == j) = true then v.classification? else none) = none ↔
      (v.jurisdiction = j → ¬v.Classifies) := by
    by_cases hv : v.jurisdiction = j <;> simp [hv, classification?_eq_none]
  rw [lastClassification?, ofJurisdiction, List.filterMap_filter, List.getLast?_filterMap, List.findSome?_eq_some_iff]
  simp only [gives, silent]
  constructor
  · rintro ⟨later, v, earlier, hsplit, ⟨hv, hclassifies, hx⟩, hlater⟩
    exact ⟨earlier.reverse, v, later.reverse, by simpa using congrArg List.reverse hsplit, hv, hclassifies, hx,
      fun w hw => hlater w (List.mem_reverse.1 hw)⟩
  · rintro ⟨earlier, v, later, rfl, hv, hclassifies, hx, hlater⟩
    exact ⟨later.reverse, v, earlier.reverse, by simp, ⟨hv, hclassifies, hx⟩, fun w hw => hlater w (List.mem_reverse.1 hw)⟩

/-- A jurisdiction has a last classification as soon as one of its verdicts classifies. -/
theorem exists_isLastClassification (hv : v ∈ verdicts) (hclassifies : v.Classifies) :
    ∃ x, IsLastClassification verdicts v.jurisdiction x := by
  cases hlast : lastClassification? (ofJurisdiction verdicts v.jurisdiction) with
  | some x => exact ⟨x, lastClassification?_eq_some.1 hlast⟩
  | none =>
    have silent := List.filterMap_eq_nil_iff.1 (List.getLast?_eq_none_iff.1 hlast) v
      (List.mem_filter.2 ⟨hv, beq_self_eq_true _⟩)
    exact absurd hclassifies (classification?_eq_none.1 silent)

/-- A last classification is one that a verdict gives. -/
theorem IsLastClassification.exists_mem (h : IsLastClassification verdicts j x) :
    ∃ v ∈ verdicts, v.jurisdiction = j ∧ v.Classifies ∧ v.leaf.decision = x := by
  obtain ⟨earlier, v, later, rfl, hv, hclassifies, hx, -⟩ := h
  exact ⟨v, by simp, hv, hclassifies, hx⟩

/-- A jurisdiction has one last classification. -/
theorem IsLastClassification.unique {y : String} (hx : IsLastClassification verdicts j x)
    (hy : IsLastClassification verdicts j y) : x = y :=
  Option.some.inj ((lastClassification?_eq_some.2 hx).symm.trans (lastClassification?_eq_some.2 hy))

/-- The position that a jurisdiction takes on classification is its last one. -/
theorem mem_positions_classification : (j, x) ∈ positions lastClassification? verdicts ↔ IsLastClassification verdicts j x := by
  rw [mem_positions_iff, lastClassification?_eq_some, and_iff_right_iff_imp]
  intro h
  obtain ⟨v, hv, hj, -⟩ := h.exists_mem
  exact mem_jurisdictions.2 ⟨v, hv, hj⟩

/-! ## Conflicts between classifications -/

/-- A conflict between the classifications of two jurisdictions is reported. -/
def ReportsClassification (verdicts : List Verdict) (j k : String) : Prop :=
  ∃ c ∈ classificationConflicts verdicts, c.first = j ∧ c.second = k

/-- Two jurisdictions classify in different ways. -/
def Diverge (verdicts : List Verdict) (j k : String) : Prop :=
  ∃ v ∈ verdicts, ∃ w ∈ verdicts, v.jurisdiction = j ∧ w.jurisdiction = k ∧ v.Classifies ∧ w.Classifies ∧
    v.leaf.decision ≠ w.leaf.decision

/-- All classifications that a jurisdiction gives are the same. -/
def ClassifiesAlike (verdicts : List Verdict) (j : String) : Prop :=
  ∀ v ∈ verdicts, ∀ w ∈ verdicts, v.jurisdiction = j → w.jurisdiction = j → v.Classifies → w.Classifies →
    v.leaf.decision = w.leaf.decision

/-- A conflict is reported exactly if the last classifications differ. -/
theorem reportsClassification_iff_last (hlt : j < k) : ReportsClassification verdicts j k ↔
    ∃ x y, IsLastClassification verdicts j x ∧ IsLastClassification verdicts k y ∧ x ≠ y := by
  rw [ReportsClassification, classificationConflicts_eq]
  simp only [mem_compared_iff, mem_positions_classification]
  constructor
  · rintro ⟨c, ⟨j', x, k', y, -, hx, hy, hc⟩, hj, hk⟩
    have named := (yields_classification (j', x) (k', y) c hc).2
    obtain rfl : j' = j := named.first.symm.trans hj
    obtain rfl : k' = k := named.second.symm.trans hk
    refine ⟨x, y, hx, hy, ?_⟩
    rintro rfl
    simp [classificationConflict?] at hc
  · rintro ⟨x, y, hx, hy, hne⟩
    obtain ⟨c, hc⟩ : ∃ c, classificationConflict? ((j, x), k, y) = some c := by simp [classificationConflict?, hne]
    have named := (yields_classification (j, x) (k, y) c (by simp [hc])).2
    exact ⟨c, ⟨j, x, k, y, hlt, hx, hy, by simp [hc]⟩, named.first, named.second⟩

/-- Jurisdictions diverge wherever both classify, unless all classifications are the same. -/
theorem diverge_iff : Diverge verdicts j k ↔ ∃ x y, IsLastClassification verdicts j x ∧ IsLastClassification verdicts k y ∧
    (x ≠ y ∨ ¬(ClassifiesAlike verdicts j ∧ ClassifiesAlike verdicts k)) := by
  constructor
  · rintro ⟨v, hv, w, hw, rfl, rfl, hvc, hwc, hne⟩
    obtain ⟨x, hx⟩ := exists_isLastClassification hv hvc
    obtain ⟨y, hy⟩ := exists_isLastClassification hw hwc
    refine ⟨x, y, hx, hy, ?_⟩
    by_contra hsame
    obtain ⟨rfl, halike, halike'⟩ : x = y ∧ _ ∧ _ := by simpa using hsame
    obtain ⟨v', hv', hj, hvc', rfl⟩ := hx.exists_mem
    obtain ⟨w', hw', hk, hwc', heq⟩ := hy.exists_mem
    exact hne (((halike v hv v' hv' rfl hj hvc hvc').trans heq.symm).trans (halike' w' hw' w hw hk rfl hwc' hwc))
  · rintro ⟨x, y, hx, hy, hdiffer⟩
    obtain ⟨v, hv, hj, hvc, rfl⟩ := hx.exists_mem
    obtain ⟨w, hw, hk, hwc, rfl⟩ := hy.exists_mem
    by_contra hnone
    have agree : ∀ v ∈ verdicts, ∀ w ∈ verdicts, v.jurisdiction = j → w.jurisdiction = k → v.Classifies → w.Classifies →
        v.leaf.decision = w.leaf.decision := by
      simpa only [Diverge, not_exists, not_and, not_not] using hnone
    refine hdiffer.elim (· (agree v hv w hw hj hk hvc hwc)) (· ⟨?_, ?_⟩)
    · intro u hu u' hu' huj huj' huc huc'
      exact (agree u hu w hw huj hk huc hwc).trans (agree u' hu' w hw huj' hk huc' hwc).symm
    · intro u hu u' hu' huk huk' huc huc'
      exact (agree v hv u hu hj huk hvc huc).symm.trans (agree v hv u' hu' hj huk' hvc huc')

/-- Sorting verdicts does not change what they say. -/
theorem diverge_sorted : Diverge (verdicts.mergeSort precedes) j k ↔ Diverge verdicts j k := by
  simp only [Diverge, List.mem_mergeSort]

/-- Whether all classifications of a jurisdiction are the same does not depend on the order of the verdicts. -/
theorem classifiesAlike_sorted : ClassifiesAlike (verdicts.mergeSort precedes) j ↔ ClassifiesAlike verdicts j := by
  simp only [ClassifiesAlike, List.mem_mergeSort]

/-- Between two jurisdictions a conflict is reported exactly if their last classifications, in the order of the rules, differ.
It is then one between classifications that were given. Jurisdictions that diverge go unreported exactly if their last
classifications are the same and the rules of one of the two classify in different ways. -/
theorem reportsClassification_iff (verdicts : List Verdict) (hlt : j < k) :
    let sorted := verdicts.mergeSort precedes
    (ReportsClassification sorted j k ↔
      ∃ x y, IsLastClassification sorted j x ∧ IsLastClassification sorted k y ∧ x ≠ y) ∧
    (ReportsClassification sorted j k → Diverge verdicts j k) ∧
    (Diverge verdicts j k ∧ ¬ReportsClassification sorted j k ↔
      (∃ x, IsLastClassification sorted j x ∧ IsLastClassification sorted k x) ∧
        ¬(ClassifiesAlike verdicts j ∧ ClassifiesAlike verdicts k)) := by
  intro sorted
  rw [← diverge_sorted, ← classifiesAlike_sorted, ← classifiesAlike_sorted (j := k)]
  have reported := @reportsClassification_iff_last sorted j k hlt
  refine ⟨reported, ?_, ?_⟩
  · rw [reported, diverge_iff]
    rintro ⟨x, y, hx, hy, hne⟩
    exact ⟨x, y, hx, hy, .inl hne⟩
  · rw [reported, diverge_iff]
    constructor
    · rintro ⟨⟨x, y, hx, hy, hdiffer⟩, hsame⟩
      obtain rfl : x = y := by_contra fun hne => hsame ⟨x, y, hx, hy, hne⟩
      exact ⟨⟨x, hx, hy⟩, hdiffer.resolve_left (· rfl)⟩
    · rintro ⟨⟨x, hx, hy⟩, hnot⟩
      refine ⟨⟨x, x, hx, hy, .inr hnot⟩, ?_⟩
      rintro ⟨x', y', hx', hy', hne⟩
      exact hne ((hx'.unique hx).trans (hy.unique hy'))

/-- What a rule of the EU and a rule of the UK come to on different facts. -/
def differentTokens : List Verdict := [euUnpegged, ukPegged]

/-- One classification of the EU and another one of the UK are reported. -/
theorem reportsClassification_iff_tokens :
    "EU" < "UK" ∧ ReportsClassification (differentTokens.mergeSort precedes) "EU" "UK" ∧
      Diverge differentTokens "EU" "UK" := by
  have hlt : "EU" < "UK" := by decide
  have sorted : differentTokens.mergeSort precedes = differentTokens := List.mergeSort_of_pairwise (by decide +kernel)
  have eu : IsLastClassification differentTokens "EU" "Classified as a utility token" :=
    lastClassification?_eq_some.1 (by decide +kernel)
  have uk : IsLastClassification differentTokens "UK" "Classified as an e-money token" :=
    lastClassification?_eq_some.1 (by decide +kernel)
  obtain ⟨reported, diverge, -⟩ := reportsClassification_iff differentTokens hlt
  rw [sorted] at reported diverge ⊢
  have differ := reported.2 ⟨_, _, eu, uk, by decide⟩
  exact ⟨hlt, differ, diverge differ⟩

/-- Two rules of the EU that classify in different ways, the last one as a rule of the UK does. -/
def maskedClassification : List Verdict :=
  [permitting "EU" "mica-emt" "Classified as an e-money token", permitting "EU" "mica-ut" "Classified as a utility token",
    permitting "UK" "fsma" "Classified as a utility token"]

/-- A divergence from a classification that is not the last one of its jurisdiction is missed. -/
theorem not_reportsClassification_masked :
    (maskedClassification.map fun v => (v.jurisdiction, v.ruleId)).Nodup ∧ "EU" < "UK" ∧
      Diverge maskedClassification "EU" "UK" ∧
      ¬ReportsClassification (maskedClassification.mergeSort precedes) "EU" "UK" := by
  have hlt : "EU" < "UK" := by decide
  have sorted : maskedClassification.mergeSort precedes = maskedClassification :=
    List.mergeSort_of_pairwise (by decide +kernel)
  have eu : IsLastClassification maskedClassification "EU" "Classified as a utility token" :=
    lastClassification?_eq_some.1 (by decide +kernel)
  have uk : IsLastClassification maskedClassification "UK" "Classified as a utility token" :=
    lastClassification?_eq_some.1 (by decide +kernel)
  have unlike : ¬ClassifiesAlike maskedClassification "EU" := by
    unfold ClassifiesAlike
    decide +kernel
  refine ⟨by decide +kernel, hlt, diverge_iff.2 ⟨_, _, eu, uk, .inr fun alike => unlike alike.1⟩, ?_⟩
  rw [sorted, reportsClassification_iff_last hlt]
  rintro ⟨x, y, hx, hy, hne⟩
  exact hne ((hx.unique eu).trans (uk.unique hy))

end Verdict

end RegulatoryTrees
