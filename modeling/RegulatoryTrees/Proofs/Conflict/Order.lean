import Mathlib.Data.String.Basic
import RegulatoryTrees.Conflict.Detection
import RegulatoryTrees.Proofs.StableSort

/-!
# The order of verdicts

Verdicts are sorted by jurisdiction and rule before they are compared, and the sort is stable: verdicts of different rules
are put into one order wherever they stood, verdicts of one rule stay in the order they came in. So the conflicts found
depend on the order of the verdicts only where one rule has been evaluated several times, and there they do, since of
several classifications the last one counts.
-/

namespace RegulatoryTrees

namespace Verdict

variable {u v w : Verdict} {verdicts reordered : List Verdict}

/-! ## The order by jurisdiction and rule -/

/-- Two verdicts are of one rule. -/
def sameRule (v w : Verdict) : Bool := v.jurisdiction == w.jurisdiction && v.ruleId == w.ruleId

/-- Verdicts are in order by jurisdiction, and those of one jurisdiction by rule. -/
theorem precedes_iff : precedes v w = true ↔
    v.jurisdiction < w.jurisdiction ∨ v.jurisdiction = w.jurisdiction ∧ v.ruleId ≤ w.ruleId := by
  simp [precedes]

theorem precedes_trans (u v w : Verdict) (huv : precedes u v) (hvw : precedes v w) : precedes u w := by
  rw [precedes_iff] at *
  rcases huv with huv | ⟨hj, huv⟩
  · rcases hvw with hvw | ⟨hk, -⟩
    · exact .inl (lt_trans huv hvw)
    · exact .inl (hk ▸ huv)
  · rcases hvw with hvw | ⟨hk, hvw⟩
    · exact .inl (hj ▸ hvw)
    · exact .inr ⟨hj.trans hk, le_trans huv hvw⟩

theorem precedes_total (v w : Verdict) : precedes v w || precedes w v := by
  rw [Bool.or_eq_true, precedes_iff, precedes_iff]
  rcases lt_trichotomy v.jurisdiction w.jurisdiction with h | h | h
  · exact .inl (.inl h)
  · rcases le_total v.ruleId w.ruleId with hr | hr
    · exact .inl (.inr ⟨h, hr⟩)
    · exact .inr (.inr ⟨h.symm, hr⟩)
  · exact .inr (.inl h)

/-- Verdicts may stand in either order exactly when they are of one rule. -/
theorem tied_precedes : StableSort.tied precedes v = v.sameRule := by
  funext w
  rw [Bool.eq_iff_iff]
  simp only [StableSort.tied, sameRule, Bool.and_eq_true, beq_iff_eq, precedes_iff]
  constructor
  · rintro ⟨h | ⟨hj, hr⟩, h' | ⟨hj', hr'⟩⟩
    · exact absurd h (lt_asymm h')
    · exact absurd hj'.symm (ne_of_lt h)
    · exact absurd hj.symm (ne_of_lt h')
    · exact ⟨hj, le_antisymm hr hr'⟩
  · rintro ⟨hj, hr⟩
    exact ⟨.inr ⟨hj, hr.le⟩, .inr ⟨hj.symm, hr.ge⟩⟩

/-- Verdicts in another order are sorted into the same list when those of each rule stand in the same order. -/
theorem sorted_eq_of_perm (hp : verdicts.Perm reordered)
    (hrules : ∀ v ∈ verdicts, verdicts.filter v.sameRule = reordered.filter v.sameRule) :
    verdicts.mergeSort precedes = reordered.mergeSort precedes :=
  StableSort.mergeSort_eq precedes_trans precedes_total hp fun v hv => by rw [tied_precedes, hrules v hv]

/-- Some of the verdicts can be picked before or after sorting. -/
theorem sorted_filter (p : Verdict → Bool) (verdicts : List Verdict) :
    (verdicts.mergeSort precedes).filter p = (verdicts.filter p).mergeSort precedes :=
  StableSort.filter_mergeSort precedes_trans precedes_total p verdicts

/-! ## Conflicts and the order of verdicts -/

/-- The conflicts found do not depend on the order of the verdicts, as long as the verdicts of each rule stand in the same
order. -/
theorem conflicts_eq_of_perm (hp : verdicts.Perm reordered)
    (hrules : ∀ v ∈ verdicts, verdicts.filter v.sameRule = reordered.filter v.sameRule) (includeDecisions : Bool) :
    conflicts includeDecisions verdicts = conflicts includeDecisions reordered := by
  rw [conflicts, conflicts, sorted_eq_of_perm hp hrules]

/-- A verdict that permits and asks for nothing. -/
def permitting (jurisdiction ruleId decision : String) : Verdict :=
  ⟨jurisdiction, ruleId, ⟨⟨ruleId, none, none, [], none⟩, decision, .compliant, [], none⟩⟩

/-- What one rule of the EU comes to on the facts of a pegged token. -/
def euPegged : Verdict := permitting "EU" "mica" "Classified as an e-money token"

/-- What the same rule comes to on the facts of a token that is not pegged. -/
def euUnpegged : Verdict := permitting "EU" "mica" "Classified as a utility token"

/-- What a rule of the UK comes to on the facts of a pegged token. -/
def ukPegged : Verdict := permitting "UK" "fsma" "Classified as an e-money token"

/-- The verdict of the UK may stand before those of the EU or between them. -/
theorem conflicts_eq_of_perm_tokens :
    conflicts true [euPegged, ukPegged, euUnpegged] = conflicts true [ukPegged, euPegged, euUnpegged] :=
  conflicts_eq_of_perm (.swap ukPegged euPegged _) (by decide +kernel) true

/-- The conflicts do depend on the order of two verdicts of one rule: the classification that comes last is held against the
one of the UK. -/
theorem conflicts_ne_of_perm_tokens :
    [euUnpegged, euPegged, ukPegged].Perm [euPegged, euUnpegged, ukPegged] ∧
      conflicts false [euUnpegged, euPegged, ukPegged] ≠ conflicts false [euPegged, euUnpegged, ukPegged] := by
  have pegged_last : [euUnpegged, euPegged, ukPegged].mergeSort precedes = [euUnpegged, euPegged, ukPegged] :=
    List.mergeSort_of_pairwise (by decide +kernel)
  have unpegged_last : [euPegged, euUnpegged, ukPegged].mergeSort precedes = [euPegged, euUnpegged, ukPegged] :=
    List.mergeSort_of_pairwise (by decide +kernel)
  have jurisdictions_eq : ["EU", "UK"].mergeSort = ["EU", "UK"] := List.mergeSort_of_pairwise (by decide +kernel)
  have names : jurisdictions [euUnpegged, euPegged, ukPegged] = ["EU", "UK"] := jurisdictions_eq
  have names' : jurisdictions [euPegged, euUnpegged, ukPegged] = ["EU", "UK"] := jurisdictions_eq
  refine ⟨.swap euPegged euUnpegged _, ?_⟩
  simp only [conflicts, pegged_last, unpegged_last, classificationConflicts, timelineConflicts, obligationConflicts,
    positions, names, names']
  decide +kernel

end Verdict

end RegulatoryTrees
