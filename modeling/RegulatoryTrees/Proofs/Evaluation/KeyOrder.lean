import RegulatoryTrees.Proofs.Evaluation.Steps
import RegulatoryTrees.Proofs.FactPath
import RegulatoryTrees.Proofs.Value.KeyOrder

/-!
# Evaluation does not see the order of keys

With its facts sorted, a tree evaluates to the same leaf and the same diagnostics along the same steps; only the values that the
steps hold are sorted as well (`evaluate_sorted`). So facts that are the same up to the order of keys have outcomes that are the
same up to it.
-/

namespace RegulatoryTrees

/-- A step with the value of its fact sorted. -/
def Step.sorted (s : Step) : Step := { s with value := s.value.sorted }

/-- An evaluation with the values in its trace sorted. -/
def Evaluation.sorted (e : Evaluation) : Evaluation := { e with trace := e.trace.map Step.sorted }

/-! ## Finding facts -/

namespace FactPath

/-- One step of a path leads from a sorted value to what it leads to, sorted. -/
theorem step_sorted {v : Value} (h : v.IsPlain) (segment : String) :
    step v.sorted segment = (Option.map Value.sorted) <$> step v segment := by
  cases h with
  | scalar s => rfl
  | missing => rfl
  | recurrence shape levels => rfl
  | @sequence kind items hk hx =>
    rw [Value.sorted_sequence]
    by_cases hs : kind = .set
    · subst hs
      rfl
    · rw [step_sequence hs, step_sequence hs, itemAt, itemAt]
      split
      · rfl
      · split
        · rfl
        · rw [List.getElem?_map]
          rfl
  | mapping hk hx =>
    rw [Value.sorted_mapping, step_mapping, step_mapping, Value.lookup_sortedFields hk]
    rfl

/-- One step of a path leads from a plain value to plain values. -/
theorem isPlain_step {v w : Value} (h : v.IsPlain) {segment : String} (hs : step v segment = .ok (some w)) : w.IsPlain := by
  cases h with
  | scalar | missing | recurrence => simp at hs
  | @sequence kind items hk hx =>
    by_cases hset : kind = .set
    · subst hset
      exact nomatch hs
    · rw [step_sequence hset, itemAt] at hs
      split at hs
      · cases hs
      · split at hs
        · cases hs
        · exact hx w (List.mem_of_getElem? (Except.ok.inj hs))
  | mapping hk hx =>
    rw [step, Except.ok.injEq, Value.lookup_eq_some_iff hk] at hs
    exact hx _ hs

/-- A path leads through sorted facts as through the facts, to a value that is sorted. -/
theorem follow_sorted (segments : List String) {v : Value} (h : v.IsPlain) :
    follow segments v.sorted = (Option.map Value.sorted) <$> follow segments v := by
  induction segments generalizing v with
  | nil => rfl
  | cons segment rest ih =>
    rw [follow, follow, step_sorted h]
    cases hs : step v segment with
    | error e => rfl
    | ok found =>
      cases found with
      | none => rfl
      | some w => exact ih (isPlain_step h hs)

/-- What a path leads to in plain facts is plain. -/
theorem isPlain_follow {segments : List String} {v w : Value} (h : v.IsPlain) (hf : follow segments v = .ok (some w)) :
    w.IsPlain := by
  induction segments generalizing v with
  | nil =>
    rw [follow, Except.ok.injEq, Option.some.injEq] at hf
    exact hf ▸ h
  | cons segment rest ih =>
    rw [follow, Except.bind_eq_ok] at hf
    obtain ⟨found, hs, hf⟩ := hf
    cases found with
    | none => simp at hf
    | some u => exact ih (isPlain_step h hs) hf

end FactPath

namespace Value

/-- A fact of sorted facts is that of the facts, sorted. -/
theorem factAt_sorted {facts : Value} (h : facts.IsPlain) (path : String) :
    facts.sorted.factAt path = Value.sorted <$> facts.factAt path := by
  rw [factAt, factAt, at?, at?, FactPath.follow_sorted _ h]
  cases FactPath.follow (FactPath.segments path) facts with
  | error e => rfl
  | ok found => cases found <;> rfl

theorem isPlain_factAt {facts fact : Value} (h : facts.IsPlain) {path : String} (hf : facts.factAt path = .ok fact) :
    fact.IsPlain := by
  rw [factAt, Except.map_eq_ok] at hf
  obtain ⟨found, ha, rfl⟩ := hf
  cases found with
  | none => exact .missing
  | some v => exact FactPath.isPlain_follow h ha

end Value

/-! ## Applying conditions -/

namespace Condition

theorem factIn_sorted {facts : Value} (h : facts.IsPlain) (c : Condition) :
    c.factIn facts.sorted = Value.sorted <$> c.factIn facts := by
  rw [factIn, factIn, Value.factAt_sorted h]
  cases facts.factAt c.fact <;> rfl

theorem isPlain_factIn {facts fact : Value} (h : facts.IsPlain) {c : Condition} (hf : c.factIn facts = .ok fact) :
    fact.IsPlain :=
  Value.isPlain_factAt h (Except.mapError_eq_ok.1 hf)

theorem order_sorted (test : Ordering → Bool) (fact expected : Value) :
    order test fact.sorted expected = order test fact expected := by
  simp only [order, Value.number?_sorted, Value.isAbsent_sorted, Value.kindName_sorted]

/-- An operator does not see the order of keys in a plain fact. -/
theorem applyOperator_sorted (op : Operator) {fact : Value} (h : fact.IsPlain) (expected : Value) :
    applyOperator op fact.sorted expected = applyOperator op fact expected := by
  cases op with
  | eq => simp only [applyOperator, Value.strictEquals_sorted_left h]
  | neq => simp only [applyOperator, Value.strictEquals_sorted_left h]
  | gt => simp only [applyOperator, order_sorted]
  | lt => simp only [applyOperator, order_sorted]
  | gte => simp only [applyOperator, order_sorted]
  | lte => simp only [applyOperator, order_sorted]
  | isIn => simp only [applyOperator, Value.strictContains_sorted_right h]
  | contains =>
    cases h with
    | scalar s => rfl
    | missing => rfl
    | recurrence shape levels => rfl
    | @sequence kind items hk hx =>
      rw [Value.sorted_sequence]
      cases kind with
      | set => rfl
      | list | tuple => simp only [applyOperator, Value.strictContains_sorted_left hx]
    | mapping hk hx => rfl
  | matchesPattern => cases h <;> rfl
  | isNil => simp only [applyOperator, Value.isAbsent_sorted]
  | isSome => simp only [applyOperator, Value.isAbsent_sorted]

theorem apply_sorted (c : Condition) {fact : Value} (h : fact.IsPlain) : c.apply fact.sorted = c.apply fact := by
  rw [apply, apply]
  cases c.operator? with
  | none => rfl
  | some op => exact applyOperator_sorted op h c.value

end Condition

/-! ## Evaluating trees -/

namespace Evaluation

theorem observe_sorted (header : Header) (c : Condition) {fact : Value} (h : fact.IsPlain) :
    observe header c fact.sorted = observe header c fact := by
  rw [observe, observe, c.apply_sorted h]

theorem stepOf_sorted (header : Header) (c : Condition) (fact : Value) (depth : Nat) (o : Observation) :
    stepOf header c fact.sorted depth o = Step.sorted <$> stepOf header c fact depth o := by
  rw [stepOf, stepOf, Value.isMissing_sorted]
  cases c.describe with
  | error f => rfl
  | ok text => cases hm : fact.isMissing <;> rfl

/-- Sorting a step and the evaluation after it sorts the evaluation. -/
theorem resume_sorted (step : Step) (diagnostics : List Diagnostic) (rest : Except Failure Evaluation) :
    resume step.sorted diagnostics (Evaluation.sorted <$> rest) = Evaluation.sorted <$> resume step diagnostics rest := by
  cases rest <;> rfl

/-- Evaluating a tree on sorted facts gives the evaluation on the facts, sorted. -/
theorem evaluateFrom_sorted {facts : Value} (h : facts.IsPlain) (n : Node) : ∀ depth : Nat,
    evaluateFrom facts.sorted depth n = Evaluation.sorted <$> evaluateFrom facts depth n := by
  intro depth
  match n with
  | .leaf l => rfl
  | .condition header c note whenTrue whenFalse =>
    have hfact := c.factIn_sorted h
    cases hf : c.factIn facts with
    | error e => rw [evaluateFrom, evaluateFrom, hfact, hf]; rfl
    | ok fact =>
      have hp := Condition.isPlain_factIn h hf
      rw [hf, Except.map_ok] at hfact
      cases hs : observe header c fact with
      | error f =>
        rw [evaluateFrom_of_observe_error hf hs, evaluateFrom_of_observe_error hfact ((observe_sorted header c hp).trans hs)]
        rfl
      | ok seen =>
        rw [evaluateFrom_condition hf hs, evaluateFrom_condition hfact ((observe_sorted header c hp).trans hs), stepOf_sorted]
        cases stepOf header c fact depth seen with
        | error f => rfl
        | ok step =>
          rw [Except.map_ok, Except.ok_bind, Except.ok_bind, ← resume_sorted]
          cases seen.holds
          · exact congrArg _ (evaluateFrom_sorted h whenFalse (depth + 1))
          · exact congrArg _ (evaluateFrom_sorted h whenTrue (depth + 1))
  | .group _ _ _ _ | .router _ _ | .anchor _ _ _ => rfl

end Evaluation

/-- A tree evaluates sorted facts to the outcome for the facts, sorted. -/
theorem evaluate_sorted {facts : Value} (h : facts.IsPlain) (tree : Node) :
    tree.evaluate facts.sorted = Evaluation.sorted <$> tree.evaluate facts :=
  Evaluation.evaluateFrom_sorted h tree 0

/-- Facts that are the same up to the order of keys have outcomes that are the same up to it. -/
theorem evaluate_sorted_eq {facts facts' : Value} (h : facts.IsPlain) (h' : facts'.IsPlain) (heq : facts.sorted = facts'.sorted)
    (tree : Node) : Evaluation.sorted <$> tree.evaluate facts = Evaluation.sorted <$> tree.evaluate facts' := by
  rw [← evaluate_sorted h, ← evaluate_sorted h', heq]

end RegulatoryTrees
