import RegulatoryTrees.Proofs.Partial.Result

/-!
# Learning facts only narrows what is foreseen

Facts that complete others lead through some of the nodes explored before, in the same order: a condition that was decided is
decided alike, and one that was not may now choose one of its branches (`Narrows`). So no leaf becomes reachable by learning a
fact, no other fact becomes missing, and the steps before anything branches only go on (`evaluatePartial_narrows`).
-/

namespace RegulatoryTrees

open PartialEvaluation

namespace Completes

variable {header : Header} {c : Condition} {note : Option String} {whenTrue whenFalse : Node} {known full : Value} {holds : Bool}

/-- A condition that is decided with the known facts is decided alike with the full ones. -/
theorem course (h : Completes (.condition header c note whenTrue whenFalse) known full)
    (hway : PartialEvaluation.course known c = .ok (some holds)) : PartialEvaluation.course full c = .ok (some holds) := by
  obtain ⟨fact, o, hf, hu, ho, rfl⟩ := course_eq_some hway
  exact course_of_decided (h.factIn hf hu) hu ho

/-- A condition that is decided with the known facts has the same step with the full ones. -/
theorem step? (h : Completes (.condition header c note whenTrue whenFalse) known full)
    (hway : PartialEvaluation.course known c = .ok (some holds)) (depth : Nat) :
    Visit.step? full ⟨.condition header c note whenTrue whenFalse, depth⟩ =
      Visit.step? known ⟨.condition header c note whenTrue whenFalse, depth⟩ := by
  obtain ⟨fact, o, hf, hu, ho, -⟩ := course_eq_some hway
  simp only [Visit.step?, decision?_eq header hf hu ho, decision?_eq header (h.factIn hf hu) hu ho]

end Completes

namespace PartialEvaluation

/-- What is explored with the full facts narrows what is explored with the known ones: these are some of the visits, the
conditions at which both branches are taken look at facts that were missing before, and the steps before the first of them begin
as before. -/
structure Narrows (known full : Value) (vs ws : List Visit) : Prop where
  visits : ws.Sublist vs
  openFacts : ∀ fact ∈ ws.filterMap (Visit.openFact? full), fact ∈ vs.filterMap (Visit.openFact? known)
  steps : (determinate known vs).filterMap (Visit.step? known) <+: (determinate full ws).filterMap (Visit.step? full)

namespace Narrows

variable {known full : Value} {v : Visit} {vs ws : List Visit}

/-- A node that is not a condition is visited whatever the facts. -/
theorem single (h : v.node.condition? = none) : Narrows known full [v] [v] where
  visits := .refl _
  openFacts := by
    rw [List.filterMap_cons_none (Visit.openFact?_of_condition?_eq_none h full)]
    exact fun fact hfact => absurd hfact List.not_mem_nil
  steps := by
    rw [determinate_decided (Visit.openFact?_of_condition?_eq_none h known),
      List.filterMap_cons_none (Visit.step?_of_condition?_eq_none h known)]
    exact List.nil_prefix

/-- Below a condition at which both branches were taken, only the visits and the missing facts count. -/
theorem below_open {fact : String} (hknown : v.openFact? known = some fact)
    (hfull : ∀ other, v.openFact? full = some other → other = fact) (hvisits : ws.Sublist vs)
    (hfacts : ∀ fact ∈ ws.filterMap (Visit.openFact? full), fact ∈ vs.filterMap (Visit.openFact? known)) :
    Narrows known full (v :: vs) (v :: ws) where
  visits := hvisits.cons_cons v
  openFacts := by
    intro other hother
    rw [List.filterMap_cons_some hknown, List.mem_cons]
    cases ho : v.openFact? full with
    | none =>
      rw [List.filterMap_cons_none ho] at hother
      exact Or.inr (hfacts other hother)
    | some found =>
      rw [List.filterMap_cons_some ho, List.mem_cons] at hother
      exact hother.imp (fun heq => heq.trans (hfull found ho)) (hfacts other)
  steps := by
    rw [determinate, List.takeWhile_cons_of_neg (by simp [hknown])]
    exact List.nil_prefix

/-- A condition that is decided alike adds the same step. -/
theorem decided (hknown : v.openFact? known = none) (hfull : v.openFact? full = none) (hstep : v.step? full = v.step? known)
    (h : Narrows known full vs ws) : Narrows known full (v :: vs) (v :: ws) where
  visits := h.visits.cons_cons v
  openFacts := by
    rw [List.filterMap_cons_none hknown, List.filterMap_cons_none hfull]
    exact h.openFacts
  steps := by
    rw [determinate_decided hknown, determinate_decided hfull]
    cases hs : v.step? known with
    | none =>
      rw [List.filterMap_cons_none hs, List.filterMap_cons_none (hstep.trans hs)]
      exact h.steps
    | some step =>
      rw [List.filterMap_cons_some hs, List.filterMap_cons_some (hstep.trans hs)]
      exact List.cons_prefix_cons.2 ⟨rfl, h.steps⟩

end Narrows

/-- Only the fact of a condition can be missing there. -/
theorem fact_of_openFact? {facts : Value} {header : Header} {c : Condition} {note : Option String} {whenTrue whenFalse : Node}
    {depth : Nat} {fact : String}
    (h : Visit.openFact? facts ⟨.condition header c note whenTrue whenFalse, depth⟩ = some fact) : fact = c.fact := by
  simp only [Visit.openFact?] at h
  split at h
  · exact (Option.some.inj h).symm
  · cases h

/-- What is explored with facts that complete others narrows what is explored with these. Where the known facts leave a course
open, both branches may be explored with the full ones, or one of them, or none if the condition fails. -/
theorem narrows_explored {known full : Value} (n : Node) : ∀ {depth : Nat}, Completes n known full →
    (∀ v ∈ explored known depth n, v.Succeeds known) →
      Narrows known full (explored known depth n) (explored full depth n) := by
  intro depth hc hs
  match n with
  | .condition header c note whenTrue whenFalse =>
    obtain ⟨way, hway⟩ := exists_course_of_succeeds hs
    cases way with
    | none =>
      obtain ⟨hstrue, hsfalse⟩ := succeeds_of_open hs hway
      have htrue := narrows_explored whenTrue (hc.of_child List.mem_cons_self) hstrue
      have hfalse := narrows_explored whenFalse (hc.of_child (List.mem_pair.2 (.inr rfl))) hsfalse
      rw [explored_open hway]
      cases hfull : course full c with
      | error cause =>
        rw [explored, hfull]
        exact .below_open (openFact?_open hway) (fun _ => fact_of_openFact?) (List.nil_sublist _)
          fun fact hfact => absurd hfact List.not_mem_nil
      | ok way' =>
        cases way' with
        | none =>
          rw [explored_open hfull]
          refine .below_open (openFact?_open hway) (fun _ => fact_of_openFact?) (htrue.visits.append hfalse.visits) ?_
          intro fact hfact
          rw [List.filterMap_append, List.mem_append] at hfact ⊢
          exact hfact.imp (htrue.openFacts fact) (hfalse.openFacts fact)
        | some holds =>
          rw [explored_decided hfull]
          cases holds with
          | true =>
            refine .below_open (openFact?_open hway) (fun _ => fact_of_openFact?)
              (htrue.visits.trans (List.sublist_append_left _ _)) fun fact hfact => ?_
            rw [List.filterMap_append]
            exact List.mem_append_left _ (htrue.openFacts fact hfact)
          | false =>
            refine .below_open (openFact?_open hway) (fun _ => fact_of_openFact?)
              (hfalse.visits.trans (List.sublist_append_right _ _)) fun fact hfact => ?_
            rw [List.filterMap_append]
            exact List.mem_append_right _ (hfalse.openFacts fact hfact)
    | some holds =>
      have hfull := hc.course hway
      have hsbelow := succeeds_of_decided hs hway
      rw [explored_decided hway, explored_decided hfull]
      refine .decided (openFact?_decided hway) (openFact?_decided hfull) (hc.step? hway depth) ?_
      cases holds with
      | true => exact narrows_explored whenTrue (hc.of_child List.mem_cons_self) hsbelow
      | false => exact narrows_explored whenFalse (hc.of_child (List.mem_pair.2 (.inr rfl))) hsbelow
  | .leaf _ | .group _ _ _ _ | .router _ _ | .anchor _ _ _ =>
    rw [explored_of_condition?_eq_none rfl, explored_of_condition?_eq_none rfl]
    exact .single rfl

end PartialEvaluation

/-! ## Learning facts -/

/-- Learning facts only narrows a partial evaluation: it does not come to a node that takes no part in evaluation, its leaves are
some of those that were reachable, in their order, its missing facts were missing before, and its trace goes on from the one
before. -/
theorem evaluatePartial_narrows {tree : Node} {known full : Value} {p : PartialEvaluation}
    (hp : tree.evaluatePartial known = .ok p) (hc : Completes tree known full) :
    (∀ f, tree.evaluatePartial full = .error f → ∀ id kind, f.cause ≠ .notEvaluable id kind) ∧
      ∀ q, tree.evaluatePartial full = .ok q →
        q.leaves.Sublist p.leaves ∧ q.missing ⊆ p.missing ∧ p.trace <+: q.trace := by
  obtain ⟨hsucceeds, rfl⟩ := outline_of_evaluatePartial hp
  have hnarrows := narrows_explored tree hc hsucceeds
  constructor
  · intro f hf id kind hcause
    obtain ⟨v, hv, hn⟩ := exists_not_evaluable_of_evaluatePartial hf hcause
    rw [(hsucceeds v (hnarrows.visits.subset hv)).2] at hn
    cases hn
  · intro q hq
    obtain ⟨-, rfl⟩ := outline_of_evaluatePartial hq
    refine ⟨hnarrows.visits.filterMap Visit.leaf?, fun fact hfact => ?_, hnarrows.steps⟩
    exact List.mem_eraseDups.2 (hnarrows.openFacts fact (List.mem_eraseDups.1 hfact))

/-- Learning the kind of a licence narrows what is foreseen of it to one leaf. -/
theorem evaluatePartial_narrows_licence :
    Licence.tree.evaluatePartial Licence.known = .ok Licence.outlook ∧
      Completes Licence.tree Licence.known Licence.full ∧
      Licence.tree.evaluatePartial Licence.full = .ok Licence.settled ∧
      Licence.settled.leaves.Sublist Licence.outlook.leaves ∧ Licence.settled.missing ⊆ Licence.outlook.missing ∧
      Licence.outlook.trace <+: Licence.settled.trace :=
  ⟨Licence.evaluatePartial_known, Licence.completes_full, Licence.evaluatePartial_full,
    (evaluatePartial_narrows Licence.evaluatePartial_known Licence.completes_full).2 _ Licence.evaluatePartial_full⟩

end RegulatoryTrees
