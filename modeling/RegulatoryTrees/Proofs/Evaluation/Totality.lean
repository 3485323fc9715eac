import RegulatoryTrees.Proofs.Condition.Limits
import RegulatoryTrees.Proofs.Partial.Exploration

/-!
# Evaluations that end at the structure of the tree only

Whatever the facts, an evaluation gives a result or ends at a node that takes no part in evaluation, provided that every
condition can be evaluated on these facts and put in words. That holds of a tree and of all its parts on every bag of facts
exactly when all conditions keep to the limits of what is read and written (`concludes_iff`).
-/

namespace RegulatoryTrees

namespace Node

/-- An outcome is a result, or the failure at a node of the tree that takes no part in evaluation. -/
def Concludes {α : Type} (tree : Node) (outcome : Except Evaluation.Failure α) : Prop :=
  (∃ result, outcome = .ok result) ∨
    ∃ n ∈ tree.walk, n.kind ≠ .condition ∧ n.kind ≠ .leaf ∧ ∃ ds, outcome = .error ⟨.notEvaluable n.id n.kind, ds⟩

end Node

open Node

namespace Evaluation

/-- A tree concludes after a step when the branch taken concludes. -/
theorem concludes_resume {tree branch : Node} (hsub : ∀ n ∈ branch.walk, n ∈ tree.walk) {step : Step}
    {diagnostics : List Diagnostic} {rest : Except Failure Evaluation} (h : branch.Concludes rest) :
    tree.Concludes (resume step diagnostics rest) := by
  rcases h with ⟨e, rfl⟩ | ⟨n, hn, hcondition, hleaf, ds, rfl⟩
  · exact .inl ⟨_, rfl⟩
  · exact .inr ⟨n, hsub n hn, hcondition, hleaf, diagnostics ++ ds, rfl⟩

/-- An evaluation concludes when all conditions answer. -/
theorem concludes_evaluateFrom {facts : Value} (n : Node) (h : ∀ c ∈ n.conditions, c.Answers facts) :
    ∀ depth, n.Concludes (evaluateFrom facts depth n) := by
  intro depth
  match n with
  | .leaf l => exact .inl ⟨_, rfl⟩
  | .condition header c note whenTrue whenFalse =>
    obtain ⟨⟨o, ho⟩, text, htext⟩ := h c (mem_conditions_self ..)
    obtain ⟨fact, hfact, ho⟩ := Except.bind_eq_ok.1 ho
    have hseen : observe header c fact = .ok ⟨o.holds, (c.diagnostic? (some header.id) o).toList⟩ :=
      observe_eq_ok.2 ⟨o, ho, rfl⟩
    obtain ⟨step, hstep⟩ := PartialEvaluation.stepOf_eq_ok htext header fact depth
      ⟨o.holds, (c.diagnostic? (some header.id) o).toList⟩
    rw [evaluateFrom_condition hfact hseen, hstep, Except.ok_bind]
    cases o.holds with
    | true =>
      exact concludes_resume (fun _ => mem_walk_of_child List.mem_cons_self)
        (concludes_evaluateFrom whenTrue (fun d hd => h d (mem_conditions_of_child List.mem_cons_self hd)) (depth + 1))
    | false =>
      exact concludes_resume (fun _ => mem_walk_of_child (List.mem_pair.2 (.inr rfl)))
        (concludes_evaluateFrom whenFalse (fun d hd => h d (mem_conditions_of_child (List.mem_pair.2 (.inr rfl)) hd)) (depth + 1))
  | .group header members entry exit =>
    exact .inr ⟨_, mem_walk_self _, by simp [kind], by simp [kind], [], rfl⟩
  | .router header routes =>
    exact .inr ⟨_, mem_walk_self _, by simp [kind], by simp [kind], [], rfl⟩
  | .anchor _ _ _ =>
    exact .inr ⟨_, mem_walk_self _, by simp [kind], by simp [kind], [], rfl⟩

/-- A tree concludes only if the condition at its root answers. -/
theorem answers_of_concludes {facts : Value} {depth : Nat} {header : Header} {c : Condition} {note : Option String}
    {whenTrue whenFalse : Node}
    (h : (Node.condition header c note whenTrue whenFalse).Concludes
      (evaluateFrom facts depth (.condition header c note whenTrue whenFalse))) : c.Answers facts := by
  rcases evaluateFrom_condition_cases facts depth header c note whenTrue whenFalse with
    ⟨cause, ds, hfails⟩ | ⟨fact, seen, step, hfact, hseen, hstep, -⟩
  · rw [hfails] at h
    rcases h with ⟨e, he⟩ | ⟨n, -, -, -, ds', he⟩
    · cases he
    · cases he
  · obtain ⟨o, ho, -⟩ := observe_eq_ok.1 hseen
    obtain ⟨text, htext, -⟩ := Except.bind_eq_ok.1 hstep
    exact ⟨⟨o, Except.bind_eq_ok.2 ⟨fact, hfact, ho⟩⟩, text, Except.mapError_eq_ok.1 htext⟩

end Evaluation

namespace PartialEvaluation

/-- A condition that answers takes some course. -/
theorem course_total {facts : Value} {c : Condition} (h : ∃ o, c.evaluate facts = .ok o) :
    ∃ way, course facts c = .ok way := by
  obtain ⟨o, ho⟩ := h
  obtain ⟨fact, hfact, ho⟩ := Except.bind_eq_ok.1 ho
  rw [course, hfact, Except.ok_bind, ho]
  cases isUndecided c fact <;> exact ⟨_, rfl⟩

/-- An evaluation with facts still unknown concludes when all conditions answer. -/
theorem concludes_evaluatePartial {facts : Value} (tree : Node) (h : ∀ c ∈ tree.conditions, c.Answers facts) :
    tree.Concludes (tree.evaluatePartial facts) := by
  have answers : ∀ v ∈ explored facts 0 tree, ∀ c, v.node.condition? = some c → c.Answers facts := fun v hv c hc =>
    h c (mem_conditions.2 ⟨v.node, node_mem_walk_of_mem_explored tree hv, hc⟩)
  have applies : ∀ v ∈ explored facts 0 tree, v.Applies facts := fun v hv c hc => course_total (answers v hv c hc).1
  have renders : ∀ v ∈ determinate facts (explored facts 0 tree), v.Renders := fun v hv c hc =>
    (answers v (List.takeWhile_subset _ hv) c hc).2
  rw [evaluatePartial_eq, survey_eq_surveyed facts tree {} 0 [] applies (.inr renders)]
  cases hfind : (explored facts 0 tree).find? fun v => !v.isEvaluable with
  | none =>
    rw [surveyed_none hfind]
    exact .inl ⟨_, rfl⟩
  | some v =>
    rw [surveyed_some hfind]
    have hv : v.isEvaluable = false := by simpa using List.find?_some hfind
    rw [Visit.isEvaluable, Bool.or_eq_false_iff, beq_eq_false_iff_ne, beq_eq_false_iff_ne] at hv
    exact .inr ⟨v.node, node_mem_walk_of_mem_explored tree (List.mem_of_find?_eq_some hfind), hv.1, hv.2, _, rfl⟩

end PartialEvaluation

/-- Every evaluation of a tree or of a part of it, on whatever facts, known in full or not, gives a result or ends at a node
that takes no part in evaluation, exactly when all conditions keep to the limits of what is read and written. -/
theorem concludes_iff (tree : Node) :
    (∀ n ∈ tree.walk, ∀ entries : List (Scalar × Value),
      n.Concludes (n.evaluate (.mapping entries)) ∧ n.Concludes (n.evaluatePartial (.mapping entries))) ↔
      ∀ c ∈ tree.conditions, c.WithinLimits := by
  constructor
  · intro h c hc
    obtain ⟨n, hn, hc⟩ := mem_conditions.1 hc
    cases n with
    | condition header d note whenTrue whenFalse =>
      obtain rfl : d = c := Option.some.inj hc
      exact (Condition.withinLimits_iff d).2 fun entries => Evaluation.answers_of_concludes (h _ hn entries).1
    | leaf | group | router | anchor => cases hc
  · intro h n hn entries
    have answers : ∀ c ∈ n.conditions, c.Answers (.mapping entries) := fun c hc =>
      (Condition.withinLimits_iff c).1 (h c (mem_conditions_of_mem_walk hn hc)) entries
    exact ⟨Evaluation.concludes_evaluateFrom n answers 0, PartialEvaluation.concludes_evaluatePartial n answers⟩

namespace Oversized

/-- A letter repeated more often than repetitions are read. -/
def pattern : String := "a\x7b4294967295\x7d"

/-- A condition that matches a name with that pattern. -/
def condition : Condition := ⟨"name", "matches", .text pattern⟩

/-- A tree that decides by that condition alone. -/
def tree : Node :=
  .condition (Licence.header "named") condition none (.leaf (Licence.leaf "yes" .compliant))
    (.leaf (Licence.leaf "no" .blocked))

/-- The facts of a name. -/
def facts : Value := .record [("name", .text "a")]

/-- The pattern is not read, and there is no complaint about it. -/
theorem read_pattern : Pattern.read pattern = .error .repetitionTooLarge := by
  have rejected : (match Pattern.read pattern with
      | .error e => decide (e = .repetitionTooLarge)
      | .ok _ => false) = true := by decide +kernel
  cases hread : Pattern.read pattern with
  | ok p => simp [hread] at rejected
  | error e =>
    rw [hread] at rejected
    rw [of_decide_eq_true rejected]

/-- The fact is found, but the operator fails. -/
theorem observe_condition (header : Header) :
    Evaluation.observe header condition (.text "a") = .error ⟨.condition .repetitionTooLarge, []⟩ := by
  have matched : condition.apply (.text "a") = Condition.matchText "a" pattern := rfl
  rw [Evaluation.observe, matched, Condition.matchText, read_pattern]
  rfl

end Oversized

/-- A pattern that is not read for its size ends both evaluations, although every node takes part in evaluation. -/
theorem not_concludes_oversized :
    Oversized.tree.evaluate Oversized.facts = .error ⟨.condition .repetitionTooLarge, []⟩ ∧
      Oversized.tree.evaluatePartial Oversized.facts = .error ⟨.condition .repetitionTooLarge, []⟩ ∧
      ∀ n ∈ Oversized.tree.walk, n.kind = .condition ∨ n.kind = .leaf := by
  have found : Oversized.condition.factIn Oversized.facts = .ok (.text "a") := rfl
  refine ⟨?_, ?_, ?_⟩
  · exact Evaluation.evaluateFrom_of_observe_error found (Oversized.observe_condition _)
  · rw [PartialEvaluation.evaluatePartial_eq, Oversized.tree, PartialEvaluation.survey_decided found rfl,
      PartialEvaluation.decideBranch, Oversized.observe_condition]
    rfl
  · rw [walk_eq_preorder]
    simp [Oversized.tree, preorder, kind]

end RegulatoryTrees
