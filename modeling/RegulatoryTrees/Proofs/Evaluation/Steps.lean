import RegulatoryTrees.Evaluation
import RegulatoryTrees.Proofs.Outcome

/-!
# What an evaluation does at a condition

An evaluation fails at a condition for a reason of the condition, or records one step and goes on with one of the two
branches (`evaluateFrom_condition_cases`). Statements about evaluations go by recursion on the tree with this case analysis.
-/

namespace RegulatoryTrees

namespace Evaluation

/-- The outcome of a branch, after the step and the diagnostics of the condition above it. -/
def resume (step : Step) (diagnostics : List Diagnostic) (rest : Except Failure Evaluation) : Except Failure Evaluation :=
  (rest.map (afterStep step diagnostics)).mapError (.after diagnostics)

/-- An evaluation with a step before it succeeds if what comes after the step does. -/
theorem resume_eq_ok {step : Step} {diagnostics : List Diagnostic} {rest : Except Failure Evaluation} {e : Evaluation} :
    resume step diagnostics rest = .ok e ↔ ∃ e', rest = .ok e' ∧ afterStep step diagnostics e' = e := by
  cases rest <;> simp [resume, Except.map]

theorem resume_eq_error {step : Step} {diagnostics : List Diagnostic} {rest : Except Failure Evaluation} {f : Failure} :
    resume step diagnostics rest = .error f ↔ ∃ f', rest = .error f' ∧ f'.after diagnostics = f := by
  cases rest <;> simp [resume, Except.map]

/-- A failure keeps its cause when diagnostics come before it. -/
@[simp] theorem Failure.after_cause (diagnostics : List Diagnostic) (f : Failure) : (f.after diagnostics).cause = f.cause :=
  rfl

/-- Observing a condition is to apply it. -/
theorem observe_eq_ok {header : Header} {c : Condition} {fact : Value} {seen : Observation} :
    observe header c fact = .ok seen ↔
      ∃ o, c.apply fact = .ok o ∧ seen = ⟨o.holds, (c.diagnostic? (some header.id) o).toList⟩ := by
  simp only [observe, Except.bind_eq_ok, Except.mapError_eq_ok, pure, Except.pure, Except.ok.injEq]
  exact ⟨fun ⟨o, ho, h⟩ => ⟨o, ho, h.symm⟩, fun ⟨o, ho, h⟩ => ⟨o, ho, h.symm⟩⟩

/-- What a step tells of its condition, of the fact and of the answer. -/
theorem stepOf_fields {header : Header} {c : Condition} {fact : Value} {depth : Nat} {seen : Observation} {step : Step}
    (h : stepOf header c fact depth seen = .ok step) :
    step.fact = c.fact ∧ step.op = c.op ∧ step.present = !fact.isMissing ∧ step.holds = seen.holds := by
  obtain ⟨text, -, h⟩ := Except.bind_eq_ok.1 h
  cases h
  exact ⟨rfl, rfl, rfl, rfl⟩

/-- An evaluation fails where a condition cannot be applied to its fact. -/
theorem evaluateFrom_of_observe_error {facts : Value} {header : Header} {c : Condition} {fact : Value} {f : Failure}
    (hf : c.factIn facts = .ok fact) (hs : observe header c fact = .error f) {depth : Nat} {note : Option String}
    {whenTrue whenFalse : Node} : evaluateFrom facts depth (.condition header c note whenTrue whenFalse) = .error f := by
  rw [evaluateFrom, hf, Except.mapError_ok, Except.ok_bind, hs]
  rfl

/-- A condition whose fact is found and whose operator applies is rendered, and its branch evaluated. -/
theorem evaluateFrom_condition {facts : Value} {header : Header} {c : Condition} {fact : Value} {seen : Observation}
    (hf : c.factIn facts = .ok fact) (hs : observe header c fact = .ok seen) (depth : Nat) (note : Option String)
    (whenTrue whenFalse : Node) :
    evaluateFrom facts depth (.condition header c note whenTrue whenFalse) =
      stepOf header c fact depth seen >>= fun step =>
        resume step seen.diagnostics (evaluateFrom facts (depth + 1) (if seen.holds then whenTrue else whenFalse)) := by
  rw [evaluateFrom, hf, Except.mapError_ok, Except.ok_bind, hs, Except.ok_bind]
  cases stepOf header c fact depth seen with
  | error f => rfl
  | ok step =>
    simp only [Except.ok_bind, resume]
    cases seen.holds <;> rfl

/-- What an evaluation comes to at a condition: a failure of the condition itself, or its step and the outcome of a branch. -/
theorem evaluateFrom_condition_cases (facts : Value) (depth : Nat) (header : Header) (c : Condition) (note : Option String)
    (whenTrue whenFalse : Node) :
    (∃ cause diagnostics,
      evaluateFrom facts depth (.condition header c note whenTrue whenFalse) = .error ⟨.condition cause, diagnostics⟩) ∨
    ∃ fact seen step, c.factIn facts = .ok fact ∧ observe header c fact = .ok seen ∧
      stepOf header c fact depth seen = .ok step ∧
      evaluateFrom facts depth (.condition header c note whenTrue whenFalse) =
        resume step seen.diagnostics (evaluateFrom facts (depth + 1) (if seen.holds then whenTrue else whenFalse)) := by
  cases hf : c.factIn facts with
  | error cause => exact Or.inl ⟨cause, [], by rw [evaluateFrom, hf]; rfl⟩
  | ok fact =>
    cases ho : c.apply fact with
    | error cause => exact Or.inl ⟨cause, [], by rw [evaluateFrom, hf, Except.mapError_ok, Except.ok_bind, observe, ho]; rfl⟩
    | ok o =>
      have hs : observe header c fact = .ok ⟨o.holds, (c.diagnostic? (some header.id) o).toList⟩ :=
        observe_eq_ok.2 ⟨o, ho, rfl⟩
      rw [evaluateFrom_condition hf hs]
      cases hst : stepOf header c fact depth ⟨o.holds, (c.diagnostic? (some header.id) o).toList⟩ with
      | error f =>
        obtain ⟨cause, -, hc⟩ : ∃ cause, c.describe = .error cause ∧ f = .ofCondition _ cause := by
          cases hd : c.describe with
          | error cause => exact ⟨cause, rfl, by simpa [stepOf, hd] using hst.symm⟩
          | ok text => simp [stepOf, hd, pure, Except.pure] at hst
        exact Or.inl ⟨cause, _, by rw [hc]; rfl⟩
      | ok step => exact Or.inr ⟨fact, _, step, rfl, hs, hst, rfl⟩

/-- An evaluation gets past a condition when the condition answers and can be put in words, and the branch it chooses leads to a
leaf. -/
theorem evaluateFrom_condition_eq_ok {facts : Value} {depth : Nat} {header : Header} {c : Condition} {note : Option String}
    {whenTrue whenFalse : Node} {e : Evaluation} :
    evaluateFrom facts depth (.condition header c note whenTrue whenFalse) = .ok e ↔
      ∃ fact seen step rest, c.factIn facts = .ok fact ∧ observe header c fact = .ok seen ∧
        stepOf header c fact depth seen = .ok step ∧
        evaluateFrom facts (depth + 1) (if seen.holds then whenTrue else whenFalse) = .ok rest ∧
        e = afterStep step seen.diagnostics rest := by
  constructor
  · intro h
    rcases evaluateFrom_condition_cases facts depth header c note whenTrue whenFalse with
      ⟨cause, diagnostics, herror⟩ | ⟨fact, seen, step, hfact, hseen, hstep, heq⟩
    · rw [herror] at h
      cases h
    · rw [heq] at h
      obtain ⟨rest, hrest, he⟩ := resume_eq_ok.1 h
      exact ⟨fact, seen, step, rest, hfact, hseen, hstep, hrest, he.symm⟩
  · rintro ⟨fact, seen, step, rest, hfact, hseen, hstep, hrest, rfl⟩
    rw [evaluateFrom_condition hfact hseen, hstep, Except.ok_bind]
    exact resume_eq_ok.2 ⟨rest, hrest, rfl⟩

end Evaluation

end RegulatoryTrees
