import RegulatoryTrees.Condition
import RegulatoryTrees.Proofs.FactPath
import RegulatoryTrees.Proofs.Value.Writable

/-!
# Conditions that never fail

A condition that makes no sense does not hold, and what is wrong with it is reported. What stands in the way of any answer
are limits: of the numerals in a path, of what can be read as a pattern and of what can be written of a value. A condition
can be evaluated on every bag of facts and put in words exactly when it keeps to them (`withinLimits_iff`).
-/

namespace RegulatoryTrees

/-- A pattern is read, or refused with a complaint about it that can be reported. -/
def Pattern.isReported (pattern : String) : Bool :=
  match Pattern.read pattern with
  | .ok _ | .error (.malformed _ _) => true
  | .error _ => false

namespace Condition

variable {c : Condition} {facts fact : Value}

/-- A condition keeps to the limits of what is read and written. -/
structure WithinLimits (c : Condition) : Prop where
  /-- No position in the path has too many digits. The first segment names a key. -/
  path : ∀ segment ∈ (FactPath.segments c.fact).tail, FactPath.isTooLong segment = false
  pattern : c.operator? = some .matchesPattern → ∀ pattern, c.value = .text pattern → Pattern.isReported pattern = true
  value : c.value.isWritable = true

/-- A condition can be evaluated on some facts and put in words. -/
def Answers (facts : Value) (c : Condition) : Prop :=
  (∃ o, c.evaluate facts = .ok o) ∧ ∃ text, c.describe = .ok text

/-- A text can be matched against a pattern unless compiling the pattern fails in a way that is not reported. -/
theorem matchText_ok_iff (text pattern : String) :
    (∃ o, matchText text pattern = .ok o) ↔ Pattern.isReported pattern = true := by
  rw [matchText, Pattern.isReported]
  cases Pattern.read pattern with
  | ok p => simp
  | error e => cases e <;> simp

/-- An operator other than that of patterns gives an outcome whatever it is applied to. -/
theorem applyOperator_total {op : Operator} (h : op ≠ .matchesPattern) (fact expected : Value) :
    ∃ o, applyOperator op fact expected = .ok o := by
  cases op with
  | matchesPattern => exact absurd rfl h
  | isIn | contains =>
    dsimp only [applyOperator]
    split <;> exact ⟨_, rfl⟩
  | eq | neq | gt | lt | gte | lte | isNil | isSome => exact ⟨_, rfl⟩

/-- A pattern that can be reported on can be applied to every fact, and so can what is not a pattern. -/
theorem applyOperator_matches {expected : Value} (h : ∀ pattern, expected = .text pattern → Pattern.isReported pattern = true)
    (fact : Value) : ∃ o, applyOperator .matchesPattern fact expected = .ok o := by
  dsimp only [applyOperator]
  split
  · exact (matchText_ok_iff _ _).2 (h _ rfl)
  · exact ⟨_, rfl⟩

/-- A condition within limits can be applied to every fact. -/
theorem WithinLimits.apply (h : c.WithinLimits) (fact : Value) : ∃ o, c.apply fact = .ok o := by
  rw [Condition.apply]
  cases hop : c.operator? with
  | none => exact ⟨_, rfl⟩
  | some op =>
    by_cases hmatches : op = .matchesPattern
    · subst hmatches
      exact applyOperator_matches (h.pattern hop) fact
    · exact applyOperator_total hmatches fact c.value

theorem factIn_ok_iff : c.factIn facts = .ok fact ↔ facts.factAt c.fact = .ok fact := Except.mapError_eq_ok

/-- A condition is put in words when its value can be written. -/
theorem describe_ok_iff (c : Condition) : (∃ text, c.describe = .ok text) ↔ c.value.isWritable = true := by
  rw [← Value.relaxedText_iff, describe]
  cases c.value.relaxedText with
  | error e => simp
  | ok text =>
    rw [Except.mapError_ok, Except.ok_bind]
    cases c.operator? with
    | none => simp [pure, Except.pure]
    | some op => cases hp : op.testsPresence <;> simp [hp, pure, Except.pure]

/-- A condition that matches a text with a pattern that cannot be reported on cannot be applied to a text. -/
theorem not_apply_of_not_isReported {pattern : String} (hop : c.operator? = some .matchesPattern)
    (hvalue : c.value = .text pattern) (h : Pattern.isReported pattern = false) (text : String) :
    ¬∃ o, c.apply (.text text) = .ok o := by
  have hmatch : c.apply (.text text) = matchText text pattern := by
    rw [Condition.apply, hop, hvalue]
    rfl
  rw [hmatch, matchText_ok_iff, h]
  exact Bool.false_ne_true

/-- A condition keeps to the limits exactly when it can be evaluated on every bag of facts and put in words. -/
theorem withinLimits_iff (c : Condition) : c.WithinLimits ↔ ∀ entries, c.Answers (.mapping entries) := by
  constructor
  · intro h entries
    obtain ⟨fact, hfact⟩ := (Value.factAt_total_iff c.fact).2 h.path entries
    obtain ⟨o, ho⟩ := h.apply fact
    refine ⟨⟨o, ?_⟩, (describe_ok_iff c).2 h.value⟩
    rw [evaluate, factIn_ok_iff.2 hfact, Except.ok_bind, ho]
  · intro h
    refine ⟨(Value.factAt_total_iff c.fact).1 fun entries => ?_, fun hop pattern hvalue => ?_,
      (describe_ok_iff c).1 (h []).2⟩
    · obtain ⟨⟨o, ho⟩, -⟩ := h entries
      obtain ⟨fact, hfact, -⟩ := Except.bind_eq_ok.1 ho
      exact ⟨fact, factIn_ok_iff.1 hfact⟩
    · cases hreported : Pattern.isReported pattern with
      | true => rfl
      | false =>
        obtain ⟨entries, hfact⟩ := Value.exists_factAt_eq c.fact (.text "")
        obtain ⟨⟨o, ho⟩, -⟩ := h entries
        rw [evaluate, factIn_ok_iff.2 hfact, Except.ok_bind] at ho
        exact absurd ⟨o, ho⟩ (not_apply_of_not_isReported hop hvalue hreported "")

end Condition

end RegulatoryTrees
