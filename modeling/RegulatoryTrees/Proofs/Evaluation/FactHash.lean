import RegulatoryTrees.Proofs.Evaluation.Cache
import RegulatoryTrees.Proofs.Value.Reordering

/-!
# What the hash of facts tells

The hash of facts is the digest of their canonical text. So facts that JSON can hold have a hash, and, as long as the digest tells
their texts apart, the hash tells facts apart that differ in more than the order of keys and no others (`hash_eq_iff`).
-/

namespace RegulatoryTrees

namespace Value

/-- The hash of facts is the digest of their canonical text. -/
theorem hash_of_canonicalText {facts : Value} {text : String} (h : facts.canonicalText = .ok text) :
    facts.hash = .ok (Digest.ofText text) := by
  rw [hash, h]
  rfl

/-- Facts that JSON can hold have hashes. As long as the digest tells their canonical texts apart, they have one hash exactly when
they are the same up to the order of keys. -/
theorem hash_eq_iff {f g : Value} (hf : f.IsJson) (hg : g.IsJson) (hcollision : NoCollision [f, g]) :
    ∃ a b, f.hash = .ok a ∧ g.hash = .ok b ∧ (a = b ↔ Reordered f g) := by
  obtain ⟨s, hs⟩ := hf.exists_canonicalText
  obtain ⟨t, ht⟩ := hg.exists_canonicalText
  refine ⟨Digest.ofText s, Digest.ofText t, hash_of_canonicalText hs, hash_of_canonicalText ht, ?_⟩
  have htexts : s = t ↔ Reordered f g := by
    rw [← canonicalText_eq_iff hf hg, hs, ht, Except.ok.injEq]
  rw [← htexts]
  constructor
  · intro h
    exact hcollision f (by simp) g (by simp) s t hs ht h
  · intro h
    rw [h]

/-- Facts that are the same up to the order of keys have one canonical text, which no digest tells from itself. -/
theorem noCollision_of_reordered {f g : Value} (hf : f.IsJson) (hg : g.IsJson) (h : Reordered f g) : NoCollision [f, g] := by
  have hsame := (canonicalText_eq_iff hf hg).2 h
  have htext : ∀ x ∈ [f, g], x.canonicalText = f.canonicalText := by
    intro x hx
    simp only [List.mem_cons, List.not_mem_nil, or_false] at hx
    rcases hx with rfl | rfl
    · rfl
    · exact hsame.symm
  intro x hx y hy a b ha hb _
  rw [htext x hx] at ha
  rw [htext y hy] at hb
  exact Except.ok.inj (ha.symm.trans hb)

end Value

/-! ## Facts about a licence and its kind -/

namespace Licence

open Value

/-- A licence, its kinds with their levels, and whether it has been withdrawn. -/
def description : List (String × Value) :=
  [("licence", .text "A1"), ("kinds", .list [.text "full", .int 1, .double (.zero false)]), ("withdrawn", .null)]

/-- The fields of the description are as in a JSON text. -/
theorem isJson_of_mem_description : ∀ f ∈ description, f.2.IsJson := by
  intro f hf
  simp only [description, List.mem_cons, List.not_mem_nil, or_false] at hf
  rcases hf with rfl | rfl | rfl
  · exact .text "A1"
  · refine .list fun x hx => ?_
    simp only [List.mem_cons, List.not_mem_nil, or_false] at hx
    rcases hx with rfl | rfl | rfl
    · exact .text "full"
    · exact .int (by decide)
    · exact .double (.zero false)
  · exact .null

theorem isJson_issued (number : String) : (issued number).IsJson := by
  have h : Value.IsJson (.mapping ([("licence", Value.text number)].map entryOf)) := by
    refine .mapping (List.nodup_singleton _) fun f hf => ?_
    rw [List.mem_singleton.1 hf]
    exact .text number
  exact h

/-- Two licences with different numbers differ in more than the order of keys. -/
theorem not_reordered_issued : ¬Reordered (issued "A1") (issued "B2") := by
  intro h
  have htext := (canonicalText_eq_iff (isJson_issued "A1") (isJson_issued "B2")).2 h
  rw [canonicalText_issued, canonicalText_issued] at htext
  exact absurd (Except.ok.inj htext) (by decide +kernel)

/-- A description has the hash of the same description the other way round, and two licences have different hashes. -/
theorem hash_eq_iff_description :
    (∃ a b, (Value.mapping (description.map entryOf)).hash = .ok a ∧
      (Value.mapping (description.reverse.map entryOf)).hash = .ok b ∧ a = b) ∧
      ∃ a b, (issued "A1").hash = .ok a ∧ (issued "B2").hash = .ok b ∧ a ≠ b := by
  have hf : (Value.mapping (description.map entryOf)).IsJson := .mapping (by decide) isJson_of_mem_description
  have hg : (Value.mapping (description.reverse.map entryOf)).IsJson :=
    .mapping (by decide) fun f h => isJson_of_mem_description f (List.mem_reverse.1 h)
  have hsame := reordered_of_perm (by decide) isJson_of_mem_description (List.reverse_perm description).symm
  have hissued : NoCollision [issued "A1", issued "B2"] := noCollision_issued.mono (by simp)
  obtain ⟨a, b, ha, hb, hiff⟩ := hash_eq_iff hf hg (noCollision_of_reordered hf hg hsame)
  obtain ⟨c, d, hc, hd, hcd⟩ := hash_eq_iff (isJson_issued "A1") (isJson_issued "B2") hissued
  exact ⟨⟨a, b, ha, hb, hiff.2 hsame⟩, c, d, hc, hd, hcd.not.2 not_reordered_issued⟩

end Licence

end RegulatoryTrees
