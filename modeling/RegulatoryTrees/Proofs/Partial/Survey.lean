import RegulatoryTrees.Evaluation.Partial
import RegulatoryTrees.Proofs.Outcome

/-!
# Exploring by recursion

`explore` keeps the branches still to be explored on a stack. `survey` explores a tree by recursion; exploring a stack is to
survey its top tree and then to explore the rest (`explore_cons`), so statements about partial evaluation go by recursion on
the tree.
-/

namespace RegulatoryTrees

namespace PartialEvaluation

/-- The findings after exploring a tree at a depth, below some missing facts. -/
def survey (facts : Value) (s : Findings) (depth : Nat) (missing : List String) : Node → Except Evaluation.Failure Findings
  | .leaf l => .ok (s.addLeaf l missing)
  | .condition header c _ whenTrue whenFalse => do
    let fact ← (c.factIn facts).mapError fun e => s.fail (.ofCondition [] e)
    if isUndecided c fact then
      let after ← survey facts { s with branched := true } (depth + 1) (union missing [c.fact]) whenTrue
      survey facts after (depth + 1) (union missing [c.fact]) whenFalse
    else
      let (holds, after) ← decideBranch s header c fact depth
      if holds then survey facts after (depth + 1) missing whenTrue
      else survey facts after (depth + 1) missing whenFalse
  | .group header _ _ _ => .error (s.fail ⟨.notEvaluable header.id .group, []⟩)
  | .router header _ => .error (s.fail ⟨.notEvaluable header.id .router, []⟩)
  | .anchor header _ _ => .error (s.fail ⟨.notEvaluable header.id .anchor, []⟩)

/-- Exploring a stack is to survey its top tree and then to explore the rest. Where a condition is undecided, both branches lie
on the stack: the one that holds is surveyed first, the other one from its findings. -/
theorem explore_cons (facts : Value) (n : Node) : ∀ (s : Findings) (depth : Nat) (missing : List String) (rest : List Frame),
    explore facts s (⟨n, depth, missing⟩ :: rest) = survey facts s depth missing n >>= (explore facts · rest) := by
  intro s depth missing rest
  match n with
  | .leaf l => rw [explore, survey, Except.ok_bind]
  | .condition header c note whenTrue whenFalse =>
    rw [explore, survey]
    cases hf : (c.factIn facts).mapError fun e => s.fail (.ofCondition [] e) with
    | error f => rfl
    | ok fact =>
      simp only [Except.ok_bind]
      by_cases hu : isUndecided c fact
      · simp only [hu, if_true]
        rw [explore_cons facts whenTrue, bind_assoc]
        congr 1
        funext after
        exact explore_cons facts whenFalse after (depth + 1) _ rest
      · simp only [hu, if_false, Bool.false_eq_true]
        cases hd : decideBranch s header c fact depth with
        | error f => rfl
        | ok decided =>
          obtain ⟨holds, after⟩ := decided
          cases holds
          · exact explore_cons facts whenFalse after (depth + 1) missing rest
          · exact explore_cons facts whenTrue after (depth + 1) missing rest
  | .group _ _ _ _ => rw [explore, survey]; rfl
  | .router _ _ => rw [explore, survey]; rfl
  | .anchor _ _ _ => rw [explore, survey]; rfl

/-- Partial evaluation is the outcome of a survey of the whole tree. -/
theorem evaluatePartial_eq (tree : Node) (facts : Value) :
    tree.evaluatePartial facts = Findings.outcome <$> survey facts {} 0 [] tree := by
  rw [Node.evaluatePartial, explore_cons]
  cases survey facts {} 0 [] tree with
  | error f => rfl
  | ok s => rw [Except.ok_bind, explore]

/-! ## What a survey comes to at a condition -/

/-- Deciding a condition observes it; its step is recorded as long as nothing has branched. -/
theorem decideBranch_eq_ok {s : Findings} {header : Header} {c : Condition} {fact : Value} {depth : Nat} {holds : Bool}
    {after : Findings} (h : decideBranch s header c fact depth = .ok (holds, after)) :
    ∃ seen, Evaluation.observe header c fact = .ok seen ∧ holds = seen.holds ∧ after.leaves = s.leaves ∧
      after.branched = s.branched ∧ (s.branched = true → after.trace = s.trace) ∧
      (s.branched = false → ∃ step, Evaluation.stepOf header c fact depth seen = .ok step ∧ after.trace = step :: s.trace) := by
  rw [decideBranch, Except.bind_eq_ok] at h
  obtain ⟨seen, hseen, h⟩ := h
  refine ⟨seen, Except.mapError_eq_ok.1 hseen, ?_⟩
  cases hb : s.branched with
  | true =>
    simp only [hb, if_true, pure, Except.pure, Except.ok.injEq, Prod.mk.injEq] at h
    obtain ⟨rfl, rfl⟩ := h
    simp
  | false =>
    simp only [hb, Bool.false_eq_true, if_false] at h
    obtain ⟨step, hstep, h⟩ := Except.bind_eq_ok.1 h
    simp only [pure, Except.pure, Except.ok.injEq, Prod.mk.injEq] at h
    obtain ⟨rfl, rfl⟩ := h
    simp [Except.mapError_eq_ok.1 hstep]

/-- A survey that gets past a condition found its fact, and either surveyed both branches or decided for one. -/
theorem survey_condition_eq_ok {facts : Value} {s s' : Findings} {depth : Nat} {missing : List String} {header : Header}
    {c : Condition} {note : Option String} {whenTrue whenFalse : Node}
    (h : survey facts s depth missing (.condition header c note whenTrue whenFalse) = .ok s') :
    ∃ fact, c.factIn facts = .ok fact ∧
      ((isUndecided c fact = true ∧ ∃ after,
        survey facts { s with branched := true } (depth + 1) (union missing [c.fact]) whenTrue = .ok after ∧
        survey facts after (depth + 1) (union missing [c.fact]) whenFalse = .ok s') ∨
      (isUndecided c fact = false ∧ ∃ holds after, decideBranch s header c fact depth = .ok (holds, after) ∧
        survey facts after (depth + 1) missing (if holds then whenTrue else whenFalse) = .ok s')) := by
  rw [survey, Except.bind_eq_ok] at h
  obtain ⟨fact, hf, h⟩ := h
  refine ⟨fact, Except.mapError_eq_ok.1 hf, ?_⟩
  cases hu : isUndecided c fact with
  | true =>
    left
    simpa only [hu, if_true, Except.bind_eq_ok, true_and] using h
  | false =>
    right
    simp only [hu, Bool.false_eq_true, if_false] at h
    obtain ⟨⟨holds, after⟩, hd, h⟩ := Except.bind_eq_ok.1 h
    refine ⟨rfl, holds, after, hd, ?_⟩
    cases holds <;> exact h

end PartialEvaluation

end RegulatoryTrees
