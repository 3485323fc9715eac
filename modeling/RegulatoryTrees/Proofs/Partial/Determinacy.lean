import Mathlib.Data.List.TakeWhile
import RegulatoryTrees.Proofs.Partial.Result

/-!
# When the known facts settle the outcome

An evaluation follows the nodes that a partial one with the same facts explores, up to the first condition at which the partial one
takes both branches (`Follows`). Each such condition adds a reachable leaf (`length_leaves`). So a partial evaluation is
determinate exactly if it misses no fact, exactly if it reaches one leaf, and exactly if the full one looked at no missing fact
that it needed; and then both come to the same (`isDeterminate_iff`).
-/

namespace RegulatoryTrees

/-- The names of the operators that ask for presence. -/
theorem Operator.any_testsPresence (name : String) :
    (Operator.named? name).any Operator.testsPresence = (name == isNil.name || name == isSome.name) := by
  cases hop : Operator.named? name with
  | none =>
    have hne : ∀ op ∈ Operator.all, ¬(op.name == name) = true := List.find?_eq_none.1 hop
    have hnil : isNil.name ≠ name := by simpa using hne .isNil (by decide)
    have hsome : isSome.name ≠ name := by simpa using hne .isSome (by decide)
    simp [hnil.symm, hsome.symm]
  | some op =>
    have hname : op.name = name := by simpa using List.find?_some hop
    subst hname
    cases op <;> decide

/-- The fact of a step is missing, and its operator does not ask for presence. -/
def Step.lacksFact (s : Step) : Bool := !s.present && s.op != Operator.isNil.name && s.op != Operator.isSome.name

namespace PartialEvaluation

/-- A step lacks its fact where the condition is undecided. -/
theorem lacksFact_of_stepOf {header : Header} {c : Condition} {fact : Value} {depth : Nat} {seen : Evaluation.Observation}
    {step : Step} (h : Evaluation.stepOf header c fact depth seen = .ok step) : step.lacksFact = isUndecided c fact := by
  obtain ⟨-, hop, hpresent, -⟩ := Evaluation.stepOf_fields h
  rw [Step.lacksFact, hop, hpresent, isUndecided, Condition.operator?, Operator.any_testsPresence, Bool.not_not, Bool.not_or,
    Bool.and_assoc]
  rfl

/-! ## Leaves -/

/-- Every condition at which both branches are taken adds a leaf to the first one. -/
theorem length_leaves {facts : Value} (n : Node) : ∀ {depth : Nat}, (∀ v ∈ explored facts depth n, v.Succeeds facts) →
    ((explored facts depth n).filterMap Visit.leaf?).length =
      ((explored facts depth n).filterMap (Visit.openFact? facts)).length + 1 := by
  intro depth hs
  match n with
  | .leaf l => rfl
  | .condition header c note whenTrue whenFalse =>
    obtain ⟨way, hway⟩ := exists_course_of_succeeds hs
    cases way with
    | none =>
      obtain ⟨hstrue, hsfalse⟩ := succeeds_of_open hs hway
      have htrue := length_leaves whenTrue hstrue
      have hfalse := length_leaves whenFalse hsfalse
      rw [explored_open hway, List.filterMap_cons_none rfl, List.filterMap_cons_some (openFact?_open hway), List.filterMap_append,
        List.filterMap_append, List.length_append, List.length_cons, List.length_append, htrue, hfalse]
      omega
    | some holds =>
      have hsbelow := succeeds_of_decided hs hway
      rw [explored_decided hway, List.filterMap_cons_none rfl, List.filterMap_cons_none (openFact?_decided hway)]
      cases holds with
      | true => exact length_leaves whenTrue hsbelow
      | false => exact length_leaves whenFalse hsbelow
  | .group _ _ _ _ | .router _ _ | .anchor _ _ _ =>
    have hv := (hs _ (by rw [explored_of_condition?_eq_none rfl]; exact List.mem_cons_self)).2
    cases hv

/-! ## The way of a full evaluation -/

/-- An evaluation follows the nodes explored with the same facts: its steps up to the first that lacks its fact are theirs, there
is such a step exactly if both branches of some condition were taken, and if there is none, they say all that it says. -/
structure Follows (facts : Value) (vs : List Visit) (e : Evaluation) : Prop where
  steps : (determinate facts vs).filterMap (Visit.step? facts) = e.trace.takeWhile fun s => !s.lacksFact
  openFacts : vs.filterMap (Visit.openFact? facts) = [] ↔ ∀ s ∈ e.trace, s.lacksFact = false
  settled : vs.filterMap (Visit.openFact? facts) = [] →
    vs.filterMap Visit.leaf? = [e.leaf] ∧ vs.flatMap (Visit.diagnostics facts) = e.diagnostics

namespace Follows

variable {facts : Value} {v : Visit} {vs : List Visit} {step : Step} {rest : Evaluation}

/-- A leaf on its own is followed to an end without a step. -/
theorem leaf (facts : Value) (l : Leaf) (depth : Nat) : Follows facts [⟨.leaf l, depth⟩] ⟨l, [], []⟩ where
  steps := rfl
  openFacts := ⟨fun _ _ hs => absurd hs List.not_mem_nil, fun _ => rfl⟩
  settled := fun _ => ⟨rfl, rfl⟩

/-- At a condition at which both branches are taken an evaluation goes on without its fact. -/
theorem undecided {fact : String} (hopen : v.openFact? facts = some fact) (hlacks : step.lacksFact = true) (vs : List Visit)
    (diagnostics : List Diagnostic) (rest : Evaluation) :
    Follows facts (v :: vs) (Evaluation.afterStep step diagnostics rest) where
  steps := by
    rw [determinate, List.takeWhile_cons_of_neg (by simp [hopen]), Evaluation.afterStep,
      List.takeWhile_cons_of_neg (by simp [hlacks])]
    rfl
  openFacts := by
    rw [List.filterMap_cons_some hopen]
    refine ⟨fun h => absurd h (List.cons_ne_nil _ _), fun h => ?_⟩
    rw [h step List.mem_cons_self] at hlacks
    cases hlacks
  settled := by
    rw [List.filterMap_cons_some hopen]
    exact fun h => absurd h (List.cons_ne_nil _ _)

/-- At a condition that is decided an evaluation and an exploration agree. -/
theorem decided (hopen : v.openFact? facts = none) (hleaf : v.leaf? = none) (hstep : v.step? facts = some step)
    (hlacks : step.lacksFact = false) (h : Follows facts vs rest) :
    Follows facts (v :: vs) (Evaluation.afterStep step (v.diagnostics facts) rest) where
  steps := by
    rw [determinate_decided hopen, List.filterMap_cons_some hstep, Evaluation.afterStep,
      List.takeWhile_cons_of_pos (by simp [hlacks]), h.steps]
  openFacts := by
    rw [List.filterMap_cons_none hopen, h.openFacts, Evaluation.afterStep, List.forall_mem_cons]
    exact ⟨fun hrest => ⟨hlacks, hrest⟩, And.right⟩
  settled := by
    rw [List.filterMap_cons_none hopen, List.filterMap_cons_none hleaf, List.flatMap_cons]
    intro hsettled
    obtain ⟨hleaves, hdiagnostics⟩ := h.settled hsettled
    exact ⟨hleaves, congrArg (v.diagnostics facts ++ ·) hdiagnostics⟩

end Follows

/-- An evaluation follows the nodes that a partial evaluation with the same facts explores. -/
theorem follows_explored {facts : Value} (n : Node) : ∀ {depth : Nat} {e : Evaluation},
    Evaluation.evaluateFrom facts depth n = .ok e → Follows facts (explored facts depth n) e := by
  intro depth e h
  match n with
  | .leaf l =>
    cases h
    exact .leaf facts l depth
  | .condition header c note whenTrue whenFalse =>
    obtain ⟨fact, seen, step, rest, hf, hseen, hstep, hrest, rfl⟩ := Evaluation.evaluateFrom_condition_eq_ok.1 h
    have hlacks := lacksFact_of_stepOf hstep
    cases hu : isUndecided c fact with
    | true =>
      have hway := course_of_undecided hf hu
      rw [explored_open hway]
      exact .undecided (openFact?_open hway) (hlacks.trans hu) _ _ _
    | false =>
      obtain ⟨o, ho, rfl⟩ := Evaluation.observe_eq_ok.1 hseen
      have hway := course_of_decided hf hu ho
      have hshown := decision?_eq header hf hu ho
      have hbelow : Follows facts (explored facts (depth + 1) (if o.holds then whenTrue else whenFalse)) rest := by
        cases hholds : o.holds with
        | true =>
          simp only [hholds, if_true] at hrest ⊢
          exact follows_explored whenTrue hrest
        | false =>
          simp only [hholds, Bool.false_eq_true, if_false] at hrest ⊢
          exact follows_explored whenFalse hrest
      have hvisit : Visit.step? facts ⟨.condition header c note whenTrue whenFalse, depth⟩ = some step := by
        simp [Visit.step?, hshown, hstep, Except.toOption]
      have hdiagnostics : Visit.diagnostics facts ⟨.condition header c note whenTrue whenFalse, depth⟩ =
          (c.diagnostic? (some header.id) o).toList := by
        simp [Visit.diagnostics, hshown]
      rw [explored_decided hway, ← hdiagnostics]
      exact .decided (openFact?_decided hway) rfl hvisit (hlacks.trans hu) hbelow
  | .group _ _ _ _ => cases h
  | .router _ _ => cases h
  | .anchor _ _ _ => cases h

end PartialEvaluation

open PartialEvaluation

/-! ## Determinacy -/

namespace Licence

/-- The evaluation of a licence whose kind is not known. -/
def limited : Evaluation where
  leaf := leaf "limit" .requiresAction
  trace := [
    ⟨"licensed", "licence has a value", "licence", .text "A1", true, .null, "some?", true, 0, none⟩,
    ⟨"unlimited", "kind equals \"full\"", "kind", .null, false, .text "full", "eq", false, 1, none⟩]
  diagnostics := []

theorem evaluate_known : tree.evaluate known = .ok limited := rfl

end Licence

/-- A partial evaluation that gives a result is determinate exactly if no fact is missing, exactly if one leaf is reachable, and
exactly if the full evaluation lacks no fact; then the leaf, the trace and the diagnostics are those of the full evaluation. In
any case the trace begins the full one, and some leaf is reachable. -/
theorem isDeterminate_iff {tree : Node} {facts : Value} {p : PartialEvaluation} {e : Evaluation}
    (hp : tree.evaluatePartial facts = .ok p) (he : tree.evaluate facts = .ok e) :
    (p.isDeterminate = true ↔ p.missing = []) ∧ (p.isDeterminate = true ↔ p.leaves.length = 1) ∧
      (p.isDeterminate = true ↔ ∀ step ∈ e.trace, step.lacksFact = false) ∧
      (p.isDeterminate = true → p.leaves = [e.leaf] ∧ p.trace = e.trace ∧ p.diagnostics = e.diagnostics) ∧
      p.trace <+: e.trace ∧ p.leaves ≠ [] := by
  obtain ⟨hsucceeds, rfl⟩ := outline_of_evaluatePartial hp
  have hfollows := follows_explored tree he
  have hlength := length_leaves tree hsucceeds
  generalize explored facts 0 tree = vs at hfollows hlength
  have hmissing : (outline facts vs).missing = [] ↔ vs.filterMap (Visit.openFact? facts) = [] := eraseDups_eq_nil
  have hleaves : (outline facts vs).leaves.length = 1 ↔ vs.filterMap (Visit.openFact? facts) = [] := by
    have hfound : (outline facts vs).leaves = vs.filterMap Visit.leaf? := rfl
    rw [← List.length_eq_zero_iff, hfound]
    omega
  have hdeterminate : (outline facts vs).isDeterminate = true ↔ vs.filterMap (Visit.openFact? facts) = [] := by
    rw [isDeterminate, Bool.and_eq_true, beq_iff_eq, List.isEmpty_iff, hleaves, hmissing, and_self_iff]
  have htrace : (outline facts vs).trace = e.trace.takeWhile fun s => !s.lacksFact := hfollows.steps
  refine ⟨hdeterminate.trans hmissing.symm, hdeterminate.trans hleaves.symm, hdeterminate.trans hfollows.openFacts, ?_, ?_, ?_⟩
  · intro hd
    have hopen := hdeterminate.1 hd
    obtain ⟨hleaf, hdiagnostics⟩ := hfollows.settled hopen
    refine ⟨hleaf, ?_, hdiagnostics⟩
    rw [htrace, List.takeWhile_eq_self_iff]
    exact fun s hs => by rw [hfollows.openFacts.1 hopen s hs]; rfl
  · rw [htrace]
    exact List.takeWhile_prefix _
  · intro hnil
    have hzero : (vs.filterMap Visit.leaf?).length = 0 := congrArg List.length hnil
    omega

/-- What is foreseen of a full licence is settled, and is what the full evaluation says; while its kind is not known, neither is
what comes of it. -/
theorem isDeterminate_iff_licence :
    Licence.tree.evaluatePartial Licence.full = .ok Licence.settled ∧ Licence.tree.evaluate Licence.full = .ok Licence.granted ∧
      Licence.settled.isDeterminate = true ∧ (∀ step ∈ Licence.granted.trace, step.lacksFact = false) ∧
      Licence.settled.leaves = [Licence.granted.leaf] ∧
      Licence.tree.evaluatePartial Licence.known = .ok Licence.outlook ∧ Licence.tree.evaluate Licence.known = .ok Licence.limited ∧
      Licence.outlook.isDeterminate = false ∧ ¬∀ step ∈ Licence.limited.trace, step.lacksFact = false := by
  obtain ⟨-, -, hfacts, hsettled, -⟩ := isDeterminate_iff Licence.evaluatePartial_full Licence.evaluate_full
  obtain ⟨-, -, hfacts', -⟩ := isDeterminate_iff Licence.evaluatePartial_known Licence.evaluate_known
  have hd : Licence.settled.isDeterminate = true := rfl
  have hn : Licence.outlook.isDeterminate = false := rfl
  refine ⟨Licence.evaluatePartial_full, Licence.evaluate_full, hd, hfacts.1 hd, (hsettled hd).1, Licence.evaluatePartial_known,
    Licence.evaluate_known, hn, fun h => ?_⟩
  rw [hfacts'.2 h] at hn
  cases hn

end RegulatoryTrees
