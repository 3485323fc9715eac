import RegulatoryTrees.Conflict.Merging
import RegulatoryTrees.Proofs.Conflict.Seams
import RegulatoryTrees.Proofs.FirstOccurrences

/-!
# The union of obligations

Merging adds the obligations of one verdict after the other to those it has, each once (`allObligations_append`). What it comes to
holds exactly the obligations of the verdicts in the order in which they come first; merging appended verdicts adds the new
obligations of the second ones to those of the first ones, and verdicts that have been merged before add none
(`mergeObligations_isUnion`).
-/

namespace RegulatoryTrees

namespace Verdict

open PartialEvaluation (union union_append union_eq_append union_nil union_of_subset mem_union)

/-- The obligations of some verdicts, in the order in which they are given. -/
def demands (verdicts : List Verdict) : List String := verdicts.flatMap fun v => v.leaf.obligations

/-- The demands of two lists of verdicts are those of the first and then those of the second. -/
theorem demands_append (xs ys : List Verdict) : demands (xs ++ ys) = demands xs ++ demands ys := List.flatMap_append

/-- More verdicts demand no less. -/
theorem demands_subset {xs ys : List Verdict} (h : xs ⊆ ys) : demands xs ⊆ demands ys := by
  intro obligation hobligation
  obtain ⟨v, hv, hdemanded⟩ := List.mem_flatMap.1 hobligation
  exact List.mem_flatMap.2 ⟨v, h hv, hdemanded⟩

/-- An obligation is listed if some verdict demands it. -/
theorem mem_allObligations {verdicts : List Verdict} {obligation : String} :
    obligation ∈ allObligations verdicts ↔ obligation ∈ demands verdicts := List.mem_eraseDups

/-- To merge appended verdicts is to add the obligations of the second ones to what the first ones come to. -/
theorem allObligations_append (xs ys : List Verdict) : allObligations (xs ++ ys) = union (allObligations xs) (demands ys) := by
  change (demands (xs ++ ys)).eraseDups = union (demands xs).eraseDups (demands ys)
  rw [demands_append, ← union_nil, ← union_nil, union_append]

/-- The obligations that are added are those of the second verdicts, merged, that the first ones do not have. -/
theorem allObligations_append_eq (xs ys : List Verdict) :
    allObligations (xs ++ ys) =
      allObligations xs ++ (allObligations ys).filter fun obligation => !(allObligations xs).contains obligation := by
  rw [allObligations_append, union_eq_append]
  exact congrArg (allObligations xs ++ ·)
    (filter_key_firsts id (fun obligation => !(allObligations xs).contains obligation) (demands ys)).symm

/-- Verdicts that have been merged before add nothing. -/
theorem allObligations_again {xs again : List Verdict} (h : again ⊆ xs) (ys : List Verdict) :
    allObligations (xs ++ again ++ ys) = allObligations (xs ++ ys) := by
  have hnone : union (allObligations xs) (demands again) = allObligations xs :=
    union_of_subset fun _ hobligation => mem_allObligations.2 (demands_subset h hobligation)
  rw [allObligations_append, allObligations_append xs again, hnone, ← allObligations_append]

/-- The obligations are listed in the order in which they are first demanded. -/
theorem listsFirsts_allObligations (verdicts : List Verdict) : ListsFirsts some (demands verdicts) (allObligations verdicts) := by
  have h := listsFirsts_eraseDups some (demands verdicts)
  rwa [List.filterMap_some] at h

/-- Merging by either of the two resolutions that merge gives the obligations of the verdicts, each once, in the order in which they
come first. Merging two lists of verdicts after one another adds to what the first one comes to what is new in the second one, and
verdicts that come again, right away or later, change nothing. -/
theorem mergeObligations_isUnion {resolution : Resolution} (h : resolution = .cumulative ∨ resolution = .stricter)
    (verdicts : List Verdict) :
    ∃ merged, mergeObligations resolution verdicts = .ok merged ∧
      ListsFirsts some (demands verdicts) merged ∧
      (∀ xs ys, verdicts = xs ++ ys →
        ∃ first second, mergeObligations resolution xs = .ok first ∧ mergeObligations resolution ys = .ok second ∧
          merged = first ++ second.filter fun obligation => !first.contains obligation) ∧
      ∀ xs again ys, verdicts = xs ++ ys → again ⊆ xs → mergeObligations resolution (xs ++ again ++ ys) = .ok merged := by
  have hmerges (vs : List Verdict) : mergeObligations resolution vs = .ok (allObligations vs) := by
    rcases h with rfl | rfl <;> rfl
  refine ⟨_, hmerges verdicts, listsFirsts_allObligations verdicts, ?_, ?_⟩
  · rintro xs ys rfl
    exact ⟨_, _, hmerges xs, hmerges ys, allObligations_append_eq xs ys⟩
  · rintro xs again ys rfl hagain
    rw [hmerges, allObligations_again hagain]

/-- Two rules of the EU and one of the UK; each of the later ones asks for something that was asked for before. -/
def repeatedDemands : List Verdict :=
  [demanding "EU" "mica" ["Keep records", "Publish prices"], demanding "UK" "fsma" ["Register", "Keep records"],
    demanding "EU" "dora" ["Publish prices", "Test systems"]]

/-- The demands that are repeated are merged into four, whether the first rule is asked once more in between or not. -/
theorem mergeObligations_isUnion_repeated :
    (Resolution.stricter = .cumulative ∨ Resolution.stricter = .stricter) ∧
      mergeObligations .stricter repeatedDemands = .ok ["Keep records", "Publish prices", "Register", "Test systems"] ∧
      ListsFirsts some (demands repeatedDemands) ["Keep records", "Publish prices", "Register", "Test systems"] ∧
      mergeObligations .stricter (repeatedDemands.take 1 ++ repeatedDemands.take 1 ++ repeatedDemands.drop 1) =
        .ok ["Keep records", "Publish prices", "Register", "Test systems"] := by
  have hresolution : Resolution.stricter = .cumulative ∨ Resolution.stricter = .stricter := .inr rfl
  obtain ⟨merged, hmerged, hlists, -, hagain⟩ := mergeObligations_isUnion hresolution repeatedDemands
  obtain rfl : merged = ["Keep records", "Publish prices", "Register", "Test systems"] := by
    cases hmerged
    decide
  exact ⟨hresolution, hmerged, hlists, hagain (repeatedDemands.take 1) _ (repeatedDemands.drop 1) rfl (List.Subset.refl _)⟩

end Verdict

end RegulatoryTrees
