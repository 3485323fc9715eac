import Mathlib.Data.List.Forall2
import RegulatoryTrees.Proofs.Evaluation.Diagnostics
import RegulatoryTrees.Proofs.Evaluation.Replay

/-!
# Which steps report a problem

A condition that meets a problem does not hold, and a fact that is absent has neither a wrong type nor a bad pattern
(`Condition.failsClosed_apply`). An evaluation reports what the conditions of its steps report when they are asked again, in the
order of its trace (`Evaluation.reported_of_evaluateFrom`). So each diagnostic is told by a step of its own, which does not hold
(`diagnostics_follow_trace`).
-/

namespace RegulatoryTrees

/-! ## One condition -/

/-- A missing fact is absent. -/
theorem Value.isAbsent_of_isMissing {v : Value} (h : v.isMissing = true) : v.isAbsent = true := by
  cases v with
  | missing => rfl
  | scalar | sequence | mapping | recurrence => cases h

namespace Condition

/-- Ask a condition about some facts. If a list of diagnostics is given, what there is to report is put at its end. -/
def ask (c : Condition) (facts : Value) (nodeId : Option String) (list : Option (List Diagnostic)) :
    Except Failure (Bool × Option (List Diagnostic)) := do
  let o ← c.evaluate facts
  return (o.holds, list.map (· ++ (c.diagnostic? nodeId o).toList))

/-- A problem keeps a condition from holding, and a fact that is absent has neither a wrong type nor a bad pattern. -/
structure Outcome.FailsClosed (fact : Value) (o : Outcome) : Prop where
  fails : ∀ problem ∈ o.problem, o.holds = false
  absent : fact.isAbsent = true → ∀ problem ∈ o.problem, problem.kind ≠ .typeMismatch ∧ problem.kind ≠ .invalidPattern

/-- A failure by a problem that an absent fact does not have fails closed. -/
theorem failsClosed_failed {fact : Value} {problem : Problem}
    (h : fact.isAbsent = true → problem.kind ≠ .typeMismatch ∧ problem.kind ≠ .invalidPattern) :
    (Outcome.failed problem).FailsClosed fact where
  fails _ _ := rfl
  absent habsent _ hproblem := Option.some.inj hproblem ▸ h habsent

/-- Whatever its operator is, known or not, a condition fails closed. -/
theorem failsClosed_apply {c : Condition} {fact : Value} {o : Outcome} (h : c.apply fact = .ok o) : o.FailsClosed fact := by
  unfold apply at h
  split at h
  · cases applyOperator_ofOperator h with
    | plain holds => exact ⟨nofun, nofun⟩
    | operand => exact failsClosed_failed fun _ => ⟨nofun, nofun⟩
    | present hfact => exact failsClosed_failed fun habsent => absurd habsent (Bool.eq_false_iff.1 hfact)
  · cases h
    exact failsClosed_failed fun _ => ⟨nofun, nofun⟩

end Condition

/-! ## One step -/

namespace Step

/-- The condition that a step tells of. -/
def asks (step : Step) : Condition := ⟨step.fact, step.op, step.expected⟩

/-- What the condition of a step reports when it is asked again. -/
def reports (facts : Value) (step : Step) : List Diagnostic :=
  match step.asks.evaluate facts with
  | .ok o => (step.asks.diagnostic? (some step.nodeId) o).toList
  | .error _ => []

/-- A step tells a diagnostic: it is about the node, the fact and the operator of the step, which does not hold. Where the fact is
missing or null, the diagnostic finds no fault with its type or with a pattern for it. -/
structure Tells (step : Step) (d : Diagnostic) : Prop where
  nodeId : d.nodeId = some step.nodeId
  fact : d.fact = step.fact
  op : d.op = step.op
  fails : step.holds = false
  absent : step.present = false ∨ step.value = .null → d.problem.kind ≠ .typeMismatch ∧ d.problem.kind ≠ .invalidPattern

/-- A step comes of a condition of a tree, and tells what that comes to on some facts. -/
def ComesOf (facts : Value) (tree : Node) (step : Step) : Prop :=
  ∃ n ∈ tree.walk, ∃ j : Junction, n.id = j.header.id ∧ n.condition? = some j.condition ∧ j.Records facts step.depth step

/-- The condition of a step gives the answer of the step again, by an outcome that fails closed. -/
def Repeats (facts : Value) (step : Step) : Prop :=
  ∃ fact o, step.asks.evaluate facts = .ok o ∧ o.holds = step.holds ∧ o.FailsClosed fact ∧
    (step.present = false ∨ step.value = .null → fact.isAbsent = true)

variable {facts : Value} {step : Step}

/-- A step that comes of a tree below a node comes of the tree of the node. -/
theorem ComesOf.of_child {tree child : Node} (hc : child ∈ tree.children) (h : step.ComesOf facts child) :
    step.ComesOf facts tree := by
  obtain ⟨n, hn, hj⟩ := h
  exact ⟨n, Node.mem_walk_of_child hc hn, hj⟩

/-- A step reports what its condition reports. -/
theorem reports_eq {o : Condition.Outcome} (h : step.asks.evaluate facts = .ok o) :
    step.reports facts = (step.asks.diagnostic? (some step.nodeId) o).toList := by
  rw [reports, h]

/-- The condition that a step asks is the one that it records. -/
theorem asks_of_records {j : Junction} {depth : Nat} (h : j.Records facts depth step) : step.asks = j.condition := by
  rw [asks, h.fact, h.op, h.expected]

/-- A step that records a condition repeats its answer. -/
theorem repeats_of_records {j : Junction} {depth : Nat} (h : j.Records facts depth step) : step.Repeats facts := by
  obtain ⟨o, ho, hholds⟩ := h.holds
  obtain ⟨fact, hfact, hpresent, hvalue⟩ := h.value
  obtain ⟨fact', hfact', happly⟩ := Condition.evaluate_eq_ok.1 ho
  obtain rfl : fact = fact' := Except.ok.inj (hfact.symm.trans (Condition.factIn_eq_ok.1 hfact'))
  refine ⟨fact, o, asks_of_records h ▸ ho, hholds.symm, Condition.failsClosed_apply happly, ?_⟩
  rw [hpresent, hvalue]
  cases hmissing : fact.isMissing with
  | true => exact fun _ => Value.isAbsent_of_isMissing hmissing
  | false =>
    rintro (hpresent | hnull)
    · cases hpresent
    · rw [if_neg Bool.false_ne_true] at hnull
      rw [hnull]
      rfl

/-- A step tells what its condition reports, which is one diagnostic at most. -/
theorem reports_cases (h : step.Repeats facts) : step.reports facts = [] ∨ ∃ d, step.reports facts = [d] ∧ step.Tells d := by
  obtain ⟨fact, o, ho, hholds, hclosed, habsent⟩ := h
  rw [reports_eq ho, Condition.diagnostic?]
  cases hproblem : o.problem with
  | none => exact Or.inl rfl
  | some problem =>
    exact Or.inr ⟨_, rfl, rfl, rfl, rfl, hholds ▸ hclosed.fails problem hproblem,
      fun hnull => hclosed.absent (habsent hnull) problem hproblem⟩

end Step

/-! ## The whole trace -/

/-- If each element of a list makes nothing, or one thing that is in a relation to it, then what the list makes is made one by
one by some of its elements, in their order. -/
theorem exists_sublist_flatMap {α β : Type} {f : α → List β} {R : α → β → Prop} {xs : List α}
    (h : ∀ x ∈ xs, f x = [] ∨ ∃ y, f x = [y] ∧ R x y) :
    ∃ ys, ys.Sublist xs ∧ List.Forall₂ R ys (xs.flatMap f) := by
  induction xs with
  | nil => exact ⟨[], .slnil, .nil⟩
  | cons x xs ih =>
    obtain ⟨ys, hsub, hrel⟩ := ih fun z hz => h z (List.mem_cons_of_mem x hz)
    rw [List.flatMap_cons]
    rcases h x List.mem_cons_self with hx | ⟨y, hx, hy⟩
    · rw [hx]
      exact ⟨ys, hsub.cons x, hrel⟩
    · rw [hx]
      exact ⟨x :: ys, hsub.cons_cons x, .cons hy hrel⟩

namespace Evaluation

variable {facts : Value}

/-- The step of a condition that was observed comes of it, and reports what was observed. -/
theorem reports_of_stepOf {header : Header} {c : Condition} {fact : Value} {seen : Observation} {depth : Nat} {step : Step}
    (hfact : c.factIn facts = .ok fact) (hseen : observe header c fact = .ok seen)
    (hstep : stepOf header c fact depth seen = .ok step) :
    Junction.Records facts ⟨header, c⟩ depth step ∧ step.reports facts = seen.diagnostics := by
  obtain ⟨o, happly, rfl⟩ := observe_eq_ok.1 hseen
  have ho : c.evaluate facts = .ok o := Condition.evaluate_eq_ok.2 ⟨fact, hfact, happly⟩
  have hrecords := Junction.records_of_stepOf ho hfact hstep
  have hasks : step.asks = c := Step.asks_of_records hrecords
  refine ⟨hrecords, ?_⟩
  rw [Step.reports_eq (hasks.symm ▸ ho), hasks, hrecords.nodeId]

/-- An evaluation reports what its steps report, one after the other, and its steps come of conditions of the tree. -/
theorem reported_of_evaluateFrom (n : Node) : ∀ {depth : Nat} {e : Evaluation}, evaluateFrom facts depth n = .ok e →
    e.diagnostics = e.trace.flatMap (Step.reports facts) ∧ ∀ step ∈ e.trace, step.ComesOf facts n := by
  intro depth e h
  match n with
  | .leaf l =>
    cases h
    exact ⟨rfl, nofun⟩
  | .group _ _ _ _ | .router _ _ | .anchor _ _ _ => cases h
  | .condition header c note whenTrue whenFalse =>
    obtain ⟨fact, seen, step, rest, hfact, hseen, hstep, hrest, rfl⟩ := evaluateFrom_condition_eq_ok.1 h
    obtain ⟨hrecords, hreports⟩ := reports_of_stepOf hfact hseen hstep
    have below : rest.diagnostics = rest.trace.flatMap (Step.reports facts) ∧
        ∀ s ∈ rest.trace, s.ComesOf facts (.condition header c note whenTrue whenFalse) := by
      cases hholds : seen.holds with
      | true =>
        rw [hholds] at hrest
        obtain ⟨hdiagnostics, hsteps⟩ := reported_of_evaluateFrom whenTrue hrest
        exact ⟨hdiagnostics, fun s hs => (hsteps s hs).of_child List.mem_cons_self⟩
      | false =>
        rw [hholds] at hrest
        obtain ⟨hdiagnostics, hsteps⟩ := reported_of_evaluateFrom whenFalse hrest
        exact ⟨hdiagnostics, fun s hs => (hsteps s hs).of_child (List.mem_pair.2 (.inr rfl))⟩
    constructor
    · rw [afterStep, List.flatMap_cons, hreports, below.1]
    · intro s hs
      rcases List.mem_cons.1 hs with rfl | hs
      · exact ⟨_, Node.mem_walk_self _, ⟨header, c⟩, rfl, rfl, hrecords.depth.symm ▸ hrecords⟩
      · exact below.2 s hs

end Evaluation

/-! ## Evaluations that meet problems -/

namespace Licence

/-- A tree that asks whether a text is more than a number, then for a fact that is missing, then by an unknown operator. -/
def audit : Node :=
  .condition (header "amount") ⟨"licence", "gt", .int 3⟩ none (.leaf (leaf "high" .compliant))
    (.condition (header "owner") ⟨"owner", "matches", .text "("⟩ none (.leaf (leaf "own" .compliant))
      (.condition (header "grade") ⟨"licence", "beats", .null⟩ none (.leaf (leaf "best" .compliant))
        (.leaf (leaf "low" .requiresAction))))

/-- The evaluation of a licence of which nothing else is known. -/
def audited : Evaluation where
  leaf := leaf "low" .requiresAction
  trace := [
    ⟨"amount", "licence > 3", "licence", .text "A1", true, .int 3, "gt", false, 0, none⟩,
    ⟨"owner", "owner matches \"(\"", "owner", .null, false, .text "(", "matches", false, 1, none⟩,
    ⟨"grade", "licence beats null", "licence", .text "A1", true, .null, "beats", false, 2, none⟩]
  diagnostics := [⟨.notNumbers "str" "int", some "amount", "licence", "gt"⟩, ⟨.unknownOperator, some "grade", "licence", "beats"⟩]

end Licence

/-- The diagnostics of an evaluation follow its trace: they are told by steps of their own, in the order of the trace, none of
which holds, and they are all that the conditions of the steps report. Each of these is the condition of a node of the tree; asked
again without a list of diagnostics, or with one, it gives the answer of its step. -/
theorem diagnostics_follow_trace {tree : Node} {facts : Value} {e : Evaluation} (h : tree.evaluate facts = .ok e) :
    (∃ told : List Step, told.Sublist e.trace ∧ List.Forall₂ Step.Tells told e.diagnostics) ∧
      e.diagnostics = e.trace.flatMap (Step.reports facts) ∧
      ∀ step ∈ e.trace,
        (∃ n ∈ tree.walk, n.id = step.nodeId ∧ n.condition? = some step.asks) ∧
        step.asks.ask facts none none = .ok (step.holds, none) ∧
        (∀ ds, step.asks.ask facts (some step.nodeId) (some ds) = .ok (step.holds, some (ds ++ step.reports facts))) ∧
        ∀ d ∈ step.reports facts, step.Tells d := by
  obtain ⟨hdiagnostics, hsteps⟩ := Evaluation.reported_of_evaluateFrom tree h
  have hcases : ∀ step ∈ e.trace, step.reports facts = [] ∨ ∃ d, step.reports facts = [d] ∧ step.Tells d := by
    intro step hs
    obtain ⟨n, -, j, -, -, hrecords⟩ := hsteps step hs
    exact Step.reports_cases (Step.repeats_of_records hrecords)
  refine ⟨hdiagnostics ▸ exists_sublist_flatMap hcases, hdiagnostics, ?_⟩
  intro step hs
  obtain ⟨n, hn, j, hid, hcondition, hrecords⟩ := hsteps step hs
  obtain ⟨fact, o, ho, hholds, -⟩ := Step.repeats_of_records hrecords
  refine ⟨⟨n, hn, hid.trans hrecords.nodeId.symm, Step.asks_of_records hrecords ▸ hcondition⟩, ?_, ?_, ?_⟩
  · rw [Condition.ask, ho, ← hholds]
    rfl
  · intro ds
    rw [Condition.ask, ho, Step.reports_eq ho, ← hholds]
    rfl
  · intro d hd
    rcases hcases step hs with hnone | ⟨d', hone, htells⟩
    · rw [hnone] at hd
      cases hd
    · rw [hone, List.mem_singleton] at hd
      exact hd ▸ htells

/-- Of the three steps for a licence of which nothing else is known, the first and the last tell the two diagnostics. The one in
between asks for a match with a bad pattern, but its fact is missing. -/
theorem diagnostics_follow_trace_audit :
    Licence.audit.evaluate Licence.known = .ok Licence.audited ∧
      ∃ told : List Step, told.Sublist Licence.audited.trace ∧ List.Forall₂ Step.Tells told Licence.audited.diagnostics ∧
        told.map Step.nodeId = ["amount", "grade"] := by
  have haudited : Licence.audit.evaluate Licence.known = .ok Licence.audited := rfl
  obtain ⟨⟨told, hsub, htells⟩, -⟩ := diagnostics_follow_trace haudited
  refine ⟨haudited, told, hsub, htells, ?_⟩
  cases htells with
  | cons hfirst hrest =>
    cases hrest with
    | cons hsecond hnone =>
      cases hnone
      simp [← Option.some.inj hfirst.nodeId, ← Option.some.inj hsecond.nodeId]

end RegulatoryTrees
