import RegulatoryTrees.Proofs.Evaluation.Steps
import RegulatoryTrees.Proofs.FactPath
import RegulatoryTrees.Proofs.Partial.Survey
import RegulatoryTrees.Proofs.Tree.Walk
import RegulatoryTrees.Proofs.Value.StrictEquality

/-!
# Evaluation respects strict equality of facts

Facts that are strictly equal lead a tree to the same outcome (`evaluate_agrees`): the same leaf along the same steps, in which
only the recorded values may differ, and these are strictly equal themselves. Every path finds strictly equal values in the two,
or nothing in both, and no operator tells strictly equal values apart, except in the wording of a problem: whole numbers and
doubles, lists and tuples have different names.
-/

namespace RegulatoryTrees

/-! ## What agrees -/

/-- Two values are strictly equal, and the keys of each mapping within the first, and so within the other, are different. -/
structure Value.Agrees (v w : Value) : Prop where
  equal : v.strictEquals w = true
  distinct : v.HasDistinctKeys

/-- Two outcomes of a condition agree in whether it holds and in the kind of the problem met. -/
structure Condition.Outcome.Agrees (o o' : Condition.Outcome) : Prop where
  holds : o.holds = o'.holds
  problem : o.problem.map Problem.kind = o'.problem.map Problem.kind

/-- What a diagnostic is about, whatever its wording: the kind of the problem, the node, the fact path and the operator. -/
def Diagnostic.subject (d : Diagnostic) : ProblemKind × Option String × String × String :=
  (d.problem.kind, d.nodeId, d.fact, d.op)

/-- Two steps agree in everything but the value of the fact, and their values are strictly equal. -/
structure Step.Agrees (s t : Step) : Prop where
  same : { s with value := t.value } = t
  value : s.value.strictEquals t.value = true

/-- Two evaluations agree in leaf, steps and diagnostics. -/
structure Evaluation.Agrees (e e' : Evaluation) : Prop where
  leaf : e.leaf = e'.leaf
  trace : List.Forall₂ Step.Agrees e.trace e'.trace
  diagnostics : e.diagnostics.map Diagnostic.subject = e'.diagnostics.map Diagnostic.subject

/-- Two failures agree in cause and diagnostics. -/
structure Evaluation.Failure.Agrees (f f' : Evaluation.Failure) : Prop where
  cause : f.cause = f'.cause
  diagnostics : f.diagnostics.map Diagnostic.subject = f'.diagnostics.map Diagnostic.subject

/-- Two evaluations with facts still unknown agree in leaves, missing facts, steps and diagnostics. -/
structure PartialEvaluation.Agrees (e e' : PartialEvaluation) : Prop where
  leaves : e.leaves = e'.leaves
  missing : e.missing = e'.missing
  trace : List.Forall₂ Step.Agrees e.trace e'.trace
  diagnostics : e.diagnostics.map Diagnostic.subject = e'.diagnostics.map Diagnostic.subject

/-! ## Values that agree -/

namespace Value

/-- Being missing can be told by strict equality. -/
theorem isMissing_eq (v : Value) : v.isMissing = strictEquals v .missing := by
  cases v <;> rfl

/-- Being absent can be told by strict equality. -/
theorem isAbsent_eq (v : Value) : v.isAbsent = (strictEquals v .missing || strictEquals v .null) := by
  match v with
  | .scalar .null | .scalar (.bool _) | .scalar (.int _) | .scalar (.double _) | .scalar (.text _) | .scalar (.bytes _)
  | .scalar (.date _) | .scalar (.moment _) | .missing | .sequence _ _ | .mapping _ | .recurrence _ _ => rfl

/-- A text key is looked up as any key is. -/
theorem lookup_eq_lookupKey (entries : List (Scalar × Value)) (key : String) :
    lookup entries key = lookupKey entries (.text key) := by
  have hsame : (fun e : Scalar × Value => e.1 == Scalar.text key) = fun e => e.1.sameKey (.text key) := by
    funext e
    cases e.1 <;> rfl
  rw [lookup, lookupKey, hsame]

namespace Agrees

variable {v w : Value}

/-- Values that agree may be exchanged in every comparison. -/
theorem interchangeable (h : Agrees v w) : Interchangeable v w := interchangeable_of_strictEquals h.distinct h.equal

theorem missing : Agrees .missing .missing := ⟨rfl, .missing⟩

theorem isMissing (h : Agrees v w) : v.isMissing = w.isMissing := by
  rw [isMissing_eq, isMissing_eq, (h.interchangeable _).1]

theorem isAbsent (h : Agrees v w) : v.isAbsent = w.isAbsent := by
  rw [isAbsent_eq, isAbsent_eq, (h.interchangeable _).1, (h.interchangeable _).1]

/-- Sequences that agree are both sets, or neither is and their items agree. -/
theorem sequence_cases {a b : SequenceKind} {xs ys : List Value} (h : Agrees (.sequence a xs) (.sequence b ys)) :
    (a = .set ∧ b = .set) ∨ (a ≠ .set ∧ b ≠ .set ∧ List.Forall₂ Agrees xs ys) := by
  rcases strictEquals_sequence_iff.1 h.equal with ⟨ha, hb, -⟩ | ⟨ha, hb, hitems⟩
  · exact .inl ⟨ha, hb⟩
  · have hitems := strictEqualsItems_iff.1 hitems
    cases h.distinct with
    | sequence hd =>
      refine .inr ⟨ha, hb, List.forall₂_iff_get.2 ⟨hitems.length_eq, fun i hi hi' => ?_⟩⟩
      exact ⟨hitems.get hi hi', hd _ (List.get_mem _ _)⟩

/-- Mappings that agree hold values that agree under every key. -/
theorem found {xs ys : List (Scalar × Value)} (h : Agrees (.mapping xs) (.mapping ys)) (key : String) :
    Option.Rel Agrees (lookup xs key) (lookup ys key) := by
  rw [lookup_eq_lookupKey, lookup_eq_lookupKey]
  cases h.distinct with
  | mapping hk hd => exact lookupKey_rel (nodup_keyContents hk) h.equal (fun e he y heq => ⟨heq, hd e he⟩) _

/-- Values that agree are numbers at one place, or no numbers. -/
theorem number?_rel (h : Agrees v w) :
    Option.Rel (fun x y => x.position? = y.position?) v.number? w.number? := by
  have heq := h.equal
  cases v with
  | scalar a =>
    cases w with
    | scalar b => exact Scalar.number?_rel (Scalar.strictEquals_iff.1 heq).1
    | missing | sequence | mapping | recurrence => exact nomatch heq
  | missing | sequence | mapping | recurrence =>
    cases w with
    | scalar b => exact nomatch heq
    | missing | sequence | mapping | recurrence => exact .none

/-- What agrees with a text is the text. -/
theorem eq_text {s : String} (h : Agrees (.text s) w) : w = .text s := by
  have heq := h.equal
  cases w with
  | scalar b =>
    obtain ⟨hc, -⟩ := Scalar.strictEquals_iff.1 heq
    cases b with
    | text t => exact congrArg Value.text (Scalar.text.inj (Scalar.Content.itself.inj hc)).symm
    | _ => exact nomatch hc
  | missing | sequence | mapping | recurrence => exact nomatch heq

/-- What agrees with a value that is no text is no text. -/
theorem ne_text (h : Agrees v w) (hv : ∀ s, v ≠ .text s) (s : String) : w ≠ .text s := by
  rintro rfl
  have heq := h.equal
  cases v with
  | scalar a =>
    obtain ⟨hc, -⟩ := Scalar.strictEquals_iff.1 heq
    cases a with
    | text t => exact hv t rfl
    | _ => exact nomatch hc
  | missing | sequence | mapping | recurrence => exact nomatch heq

end Agrees

end Value

/-! ## Finding facts -/

namespace FactPath

open Value (Agrees)

/-- Lists whose items agree hold items that agree at every index that a segment names. -/
theorem itemAt_related {xs ys : List Value} (h : List.Forall₂ Agrees xs ys) (segment : String) :
    Except.Related Eq (Option.Rel Agrees) (itemAt xs segment) (itemAt ys segment) := by
  unfold itemAt
  split
  · exact .ok .none
  · split
    · exact .error rfl
    · exact .ok (Value.getElem?_rel h _)

/-- One step of a path leads from values that agree to values that agree, or nowhere. -/
theorem step_related {v w : Value} (h : Agrees v w) (segment : String) :
    Except.Related Eq (Option.Rel Agrees) (step v segment) (step w segment) := by
  have heq := h.equal
  cases v with
  | scalar | missing | recurrence =>
    cases w with
    | scalar | missing | recurrence => exact .ok .none
    | sequence | mapping => exact nomatch heq
  | sequence a xs =>
    cases w with
    | sequence b ys =>
      rcases h.sequence_cases with ⟨rfl, rfl⟩ | ⟨ha, hb, hitems⟩
      · exact .ok .none
      · rw [step_sequence ha, step_sequence hb]
        exact itemAt_related hitems segment
    | scalar | missing | mapping | recurrence => exact nomatch heq
  | mapping xs =>
    cases w with
    | mapping ys => exact .ok (h.found segment)
    | scalar | missing | sequence | recurrence => exact nomatch heq

/-- A path leads from values that agree to values that agree, or nowhere. -/
theorem follow_related (segments : List String) {v w : Value} (h : Agrees v w) :
    Except.Related Eq (Option.Rel Agrees) (follow segments v) (follow segments w) := by
  induction segments generalizing v w with
  | nil => exact .ok (.some h)
  | cons segment rest ih =>
    refine (step_related h segment).bind ?_
    rintro _ _ (hnext | _)
    · exact ih hnext
    · exact .ok .none

end FactPath

/-- A path finds values that agree, nothing counting as missing. -/
theorem Value.factAt_related {facts facts' : Value} (h : facts.Agrees facts') (path : String) :
    Except.Related Eq Value.Agrees (facts.factAt path) (facts'.factAt path) := by
  refine (FactPath.follow_related _ h).map ?_
  rintro _ _ (hfound | _)
  · exact hfound
  · exact Value.Agrees.missing

/-! ## Applying conditions -/

namespace Condition

variable {v w : Value}

/-- A condition finds facts that agree in facts that agree. -/
theorem factIn_related {facts facts' : Value} (h : facts.Agrees facts') (c : Condition) :
    Except.Related Eq Value.Agrees (c.factIn facts) (c.factIn facts') :=
  (Value.factAt_related h c.fact).mapError fun _ _ he => he ▸ rfl

theorem Outcome.Agrees.refl (o : Outcome) : o.Agrees o := ⟨rfl, rfl⟩

/-- Facts that agree compare alike with a number, and fail alike. -/
theorem order_agrees (test : Ordering → Bool) (h : v.Agrees w) (expected : Value) :
    (order test v expected).Agrees (order test w expected) := by
  have hrel := h.number?_rel
  have habsent := h.isAbsent
  unfold order
  revert hrel
  generalize v.number? = x
  generalize w.number? = y
  rintro (hxy | _)
  · cases expected.number? with
    | none =>
      simp only [habsent]
      split
      · exact .refl _
      · exact ⟨rfl, rfl⟩
    | some z =>
      simp only [Number.compare?_congr hxy]
      exact .refl _
  · simp only [habsent]
    split
    · exact .refl _
    · exact ⟨rfl, rfl⟩

/-- A fact that is no text is not matched. -/
theorem applyOperator_matches_of_ne_text (h : ∀ s, v ≠ .text s) (expected : Value) :
    applyOperator .matchesPattern v expected = .ok (if v.isAbsent then .plain false else .failed .notTexts) := by
  simp only [applyOperator]
  split
  · next s _ => exact absurd rfl (h s)
  · rfl

/-- A list or a tuple contains what is strictly equal to an item. -/
theorem applyOperator_contains_sequence {kind : SequenceKind} (hk : kind ≠ .set) (items : List Value) (expected : Value) :
    applyOperator .contains (.sequence kind items) expected = .ok (.plain (Value.strictContains items expected)) := by
  cases kind with
  | list | tuple => rfl
  | set => exact absurd rfl hk

/-- Facts that agree contain the same. -/
theorem contains_related (h : v.Agrees w) (expected : Value) :
    Except.Related Eq Outcome.Agrees (applyOperator .contains v expected) (applyOperator .contains w expected) := by
  have heq := h.equal
  cases v with
  | scalar | missing | mapping | recurrence =>
    cases w with
    | scalar | missing | mapping | recurrence => exact .ok (.refl _)
    | sequence => exact nomatch heq
  | sequence a xs =>
    cases w with
    | sequence b ys =>
      rcases h.sequence_cases with ⟨rfl, rfl⟩ | ⟨ha, hb, hitems⟩
      · exact .ok (.refl _)
      · have hcontains : Value.strictContains xs expected = Value.strictContains ys expected :=
          Value.strictContains_congr_items (hitems.imp fun _ _ hxy => hxy.interchangeable) expected
        rw [applyOperator_contains_sequence ha, applyOperator_contains_sequence hb, hcontains]
        exact .ok (.refl _)
    | scalar | missing | mapping | recurrence => exact nomatch heq

/-- No operator tells values that agree apart. -/
theorem applyOperator_related (op : Operator) (h : v.Agrees w) (expected : Value) :
    Except.Related Eq Outcome.Agrees (applyOperator op v expected) (applyOperator op w expected) := by
  have hleft : v.strictEquals expected = w.strictEquals expected := (h.interchangeable expected).1
  cases op with
  | eq | neq => exact .ok ⟨by simp [Outcome.plain, hleft], rfl⟩
  | gt | lt | gte | lte => exact .ok (order_agrees _ h expected)
  | isIn =>
    have hcontains (items : List Value) : Value.strictContains items v = Value.strictContains items w := by
      simp only [Value.strictContains, (h.interchangeable _).2]
    simp only [applyOperator, hcontains]
    exact .refl Outcome.Agrees.refl _
  | contains => exact contains_related h expected
  | matchesPattern =>
    by_cases htext : ∃ s, v = .text s
    · obtain ⟨s, rfl⟩ := htext
      rw [h.eq_text]
      exact .refl Outcome.Agrees.refl _
    · rw [not_exists] at htext
      rw [applyOperator_matches_of_ne_text htext, applyOperator_matches_of_ne_text (h.ne_text htext), h.isAbsent]
      exact .ok (.refl _)
  | isNil | isSome => exact .ok ⟨by simp [Outcome.plain, h.isAbsent], rfl⟩

theorem apply_related (c : Condition) (h : v.Agrees w) : Except.Related Eq Outcome.Agrees (c.apply v) (c.apply w) := by
  unfold apply
  cases c.operator? with
  | none => exact .ok (.refl _)
  | some op => exact applyOperator_related op h c.value

/-- Outcomes that agree have diagnostics about the same. -/
theorem diagnostic?_agrees (c : Condition) (nodeId : Option String) {o o' : Outcome} (h : o.Agrees o') :
    (c.diagnostic? nodeId o).toList.map Diagnostic.subject = (c.diagnostic? nodeId o').toList.map Diagnostic.subject := by
  have hproblem := h.problem
  unfold diagnostic?
  cases hp : o.problem with
  | none =>
    cases hp' : o'.problem with
    | none => rfl
    | some p' => simp [hp, hp'] at hproblem
  | some p =>
    cases hp' : o'.problem with
    | none => simp [hp, hp'] at hproblem
    | some p' =>
      have hkind : p.kind = p'.kind := by simpa [hp, hp'] using hproblem
      simp [Diagnostic.subject, hkind]

end Condition

/-! ## Evaluating trees -/

namespace Evaluation

/-- Two observations agree. -/
structure Observation.Agrees (o o' : Observation) : Prop where
  holds : o.holds = o'.holds
  diagnostics : o.diagnostics.map Diagnostic.subject = o'.diagnostics.map Diagnostic.subject

/-- Failures that agree agree after diagnostics about the same. -/
theorem Failure.Agrees.after {f f' : Failure} (h : f.Agrees f') {ds ds' : List Diagnostic}
    (hd : ds.map Diagnostic.subject = ds'.map Diagnostic.subject) : (f.after ds).Agrees (f'.after ds') :=
  ⟨h.cause, by simp [Failure.after, hd, h.diagnostics]⟩

/-- Failures with the same cause agree when they carry diagnostics with the same subjects. -/
theorem Failure.Agrees.ofCondition {ds ds' : List Diagnostic} (hd : ds.map Diagnostic.subject = ds'.map Diagnostic.subject)
    (failure : Condition.Failure) : (Failure.ofCondition ds failure).Agrees (.ofCondition ds' failure) := ⟨rfl, hd⟩

theorem observe_related (header : Header) (c : Condition) {fact fact' : Value} (h : fact.Agrees fact') :
    Except.Related Failure.Agrees Observation.Agrees (observe header c fact) (observe header c fact') := by
  refine ((c.apply_related h).mapError (F := Failure.Agrees) ?_).bind ?_
  · rintro e _ rfl
    exact .ofCondition rfl e
  · intro o o' ho
    exact .ok ⟨ho.holds, c.diagnostic?_agrees _ ho⟩

theorem stepOf_related (header : Header) (c : Condition) {fact fact' : Value} (h : fact.Agrees fact') (depth : Nat)
    {o o' : Observation} (ho : o.Agrees o') :
    Except.Related Failure.Agrees Step.Agrees (stepOf header c fact depth o) (stepOf header c fact' depth o') := by
  refine ((Except.Related.refl (R := Eq) (fun _ => rfl) c.describe).mapError (F := Failure.Agrees) ?_).bind ?_
  · rintro e _ rfl
    exact .ofCondition ho.diagnostics e
  · rintro text _ rfl
    refine .ok ⟨?_, ?_⟩
    · simp [h.isMissing, ho.holds]
    · simp only [h.isMissing]
      split
      · rfl
      · exact h.equal

/-- Evaluations that agree still do with steps that agree put before them. -/
theorem resume_related {step step' : Step} (hs : step.Agrees step') {ds ds' : List Diagnostic}
    (hd : ds.map Diagnostic.subject = ds'.map Diagnostic.subject) {rest rest' : Except Failure Evaluation}
    (h : Except.Related Failure.Agrees Agrees rest rest') :
    Except.Related Failure.Agrees Agrees (resume step ds rest) (resume step' ds' rest') := by
  refine (h.map (S := Agrees) ?_).mapError fun f f' hf => hf.after hd
  intro e e' he
  exact ⟨he.leaf, .cons hs he.trace, by simp [afterStep, hd, he.diagnostics]⟩

/-- Evaluations of a tree on facts that agree, agree. -/
theorem evaluateFrom_related {facts facts' : Value} (h : facts.Agrees facts') (n : Node) : ∀ depth : Nat,
    Except.Related Failure.Agrees Agrees (evaluateFrom facts depth n) (evaluateFrom facts' depth n) := by
  intro depth
  match n with
  | .leaf l => exact .ok ⟨rfl, .nil, rfl⟩
  | .condition header c _ whenTrue whenFalse =>
    rw [evaluateFrom, evaluateFrom]
    refine ((c.factIn_related h).mapError (F := Failure.Agrees) ?_).bind fun fact fact' hfact => ?_
    · rintro e _ rfl
      exact .ofCondition rfl e
    refine (observe_related header c hfact).bind fun seen seen' hseen => ?_
    refine (stepOf_related header c hfact depth hseen).bind fun step step' hstep => ?_
    refine resume_related hstep hseen.diagnostics ?_
    rw [hseen.holds]
    split
    · exact evaluateFrom_related h whenTrue (depth + 1)
    · exact evaluateFrom_related h whenFalse (depth + 1)
  | .group _ _ _ _ | .router _ _ | .anchor _ _ _ => exact .error ⟨rfl, rfl⟩

end Evaluation

/-! ## Evaluating with facts still unknown -/

namespace PartialEvaluation

open Evaluation (Failure)

/-- Two findings agree. -/
structure Findings.Agrees (s s' : Findings) : Prop where
  leaves : s.leaves = s'.leaves
  missing : s.missing = s'.missing
  trace : List.Forall₂ Step.Agrees s.trace s'.trace
  diagnostics : s.diagnostics.map Diagnostic.subject = s'.diagnostics.map Diagnostic.subject
  branched : s.branched = s'.branched

variable {s s' : Findings}

theorem Findings.Agrees.fail (h : s.Agrees s') {f f' : Failure} (hf : f.Agrees f') : (s.fail f).Agrees (s'.fail f') :=
  hf.after (by rw [List.map_reverse, List.map_reverse, h.diagnostics])

theorem decideBranch_related (h : s.Agrees s') (header : Header) (c : Condition) {fact fact' : Value}
    (hfact : fact.Agrees fact') (depth : Nat) :
    Except.Related Failure.Agrees (fun d d' => d.1 = d'.1 ∧ d.2.Agrees d'.2) (decideBranch s header c fact depth)
      (decideBranch s' header c fact' depth) := by
  refine ((Evaluation.observe_related header c hfact).mapError fun _ _ hf => h.fail hf).bind fun seen seen' hseen => ?_
  have hdiagnostics : (seen.diagnostics.reverse ++ s.diagnostics).map Diagnostic.subject =
      (seen'.diagnostics.reverse ++ s'.diagnostics).map Diagnostic.subject := by
    rw [List.map_append, List.map_append, List.map_reverse, List.map_reverse, hseen.diagnostics, h.diagnostics]
  simp only [h.branched]
  split
  · exact .ok ⟨hseen.holds, h.leaves, h.missing, h.trace, hdiagnostics, rfl⟩
  · refine ((Evaluation.stepOf_related header c hfact depth hseen).mapError fun _ _ hf => h.fail hf).bind ?_
    intro step step' hstep
    exact .ok ⟨hseen.holds, h.leaves, h.missing, .cons hstep h.trace, hdiagnostics, rfl⟩

/-- Facts that agree are surveyed from findings that agree to findings that agree. -/
theorem survey_related {facts facts' : Value} (h : facts.Agrees facts') (n : Node) :
    ∀ {s s' : Findings}, s.Agrees s' → ∀ (depth : Nat) (missing : List String),
      Except.Related Failure.Agrees Findings.Agrees (survey facts s depth missing n) (survey facts' s' depth missing n) := by
  intro s s' hs depth missing
  match n with
  | .leaf l => exact .ok ⟨by simp [Findings.addLeaf, hs.leaves], by simp [Findings.addLeaf, hs.missing], hs.trace,
      hs.diagnostics, hs.branched⟩
  | .condition header c _ whenTrue whenFalse =>
    rw [survey, survey]
    refine ((c.factIn_related h).mapError (F := Failure.Agrees) ?_).bind fun fact fact' hfact => ?_
    · rintro e _ rfl
      exact hs.fail (.ofCondition rfl e)
    have hundecided : isUndecided c fact = isUndecided c fact' := by rw [isUndecided, isUndecided, hfact.isMissing]
    rw [hundecided]
    split
    · have hbranched : Findings.Agrees { s with branched := true } { s' with branched := true } :=
        ⟨hs.leaves, hs.missing, hs.trace, hs.diagnostics, rfl⟩
      exact (survey_related h whenTrue hbranched _ _).bind fun _ _ hafter => survey_related h whenFalse hafter _ _
    · refine (decideBranch_related hs header c hfact depth).bind ?_
      rintro ⟨holds, after⟩ ⟨_, after'⟩ ⟨rfl, hafter⟩
      cases holds with
      | true => exact survey_related h whenTrue hafter _ _
      | false => exact survey_related h whenFalse hafter _ _
  | .group _ _ _ _ | .router _ _ | .anchor _ _ _ => exact .error (hs.fail ⟨rfl, rfl⟩)

end PartialEvaluation

/-! ## Strictly equal facts -/

/-- Strictly equal facts are evaluated alike: to the same leaf along the same steps, of which only the values of facts may differ
and are strictly equal, with diagnostics about the same, or to failures of the same cause; and with facts still unknown to the
same leaves and missing facts. -/
theorem evaluate_agrees {facts facts' : Value} (hd : facts.HasDistinctKeys) (h : facts.strictEquals facts' = true)
    (tree : Node) :
    Except.Related Evaluation.Failure.Agrees Evaluation.Agrees (tree.evaluate facts) (tree.evaluate facts') ∧
      Except.Related Evaluation.Failure.Agrees PartialEvaluation.Agrees (tree.evaluatePartial facts)
        (tree.evaluatePartial facts') := by
  have hfacts : facts.Agrees facts' := ⟨h, hd⟩
  refine ⟨Evaluation.evaluateFrom_related hfacts tree 0, ?_⟩
  rw [PartialEvaluation.evaluatePartial_eq, PartialEvaluation.evaluatePartial_eq]
  have hstart : PartialEvaluation.Findings.Agrees {} {} := ⟨rfl, rfl, .nil, rfl, rfl⟩
  refine (PartialEvaluation.survey_related hfacts tree hstart 0 []).map fun s s' hs => ?_
  exact ⟨by simp [PartialEvaluation.Findings.outcome, hs.leaves], hs.missing, List.rel_reverse hs.trace,
    by simp [PartialEvaluation.Findings.outcome, hs.diagnostics]⟩

namespace Offer

/-- A tree that asks for the amount of an offer and then for its investors. -/
def tree : Node :=
  .condition (Licence.header "amount") ⟨"amount", "gte", .int 1⟩ none
    (.condition (Licence.header "investors") ⟨"investors.0", "in", .list [.text "retail", .int 2]⟩ none
      (.leaf (Licence.leaf "retail" .requiresAction)) (.leaf (Licence.leaf "other" .compliant)))
    (.leaf (Licence.leaf "none" .noApplicableRules))

/-- The number one as a double. -/
def one : Double := .finite false ⟨unitsInOne, by decide +kernel⟩

/-- An offer in whole numbers, with a list. -/
def whole : Value := .record [("amount", .int 1), ("investors", .list [.text "retail", .int 1])]

/-- The same offer in doubles, with a tuple, and its keys in another order. -/
def real : Value := .record [("investors", .tuple [.text "retail", .double one]), ("amount", .double one)]

theorem hasDistinctKeys_whole : whole.HasDistinctKeys := by
  refine .mapping (by decide) fun e he => ?_
  simp only [List.map_cons, List.map_nil, List.mem_cons, List.not_mem_nil, or_false] at he
  rcases he with rfl | rfl
  · exact .scalar _
  · refine .sequence fun x hx => ?_
    simp only [List.mem_cons, List.not_mem_nil, or_false] at hx
    rcases hx with rfl | rfl <;> exact .scalar _

end Offer

/-- An offer in whole numbers and one in doubles are strictly equal, and so evaluated alike: to a leaf that asks for action. -/
theorem evaluate_agrees_offer :
    Offer.whole.HasDistinctKeys ∧ Offer.whole.strictEquals Offer.real = true ∧
      Except.Related Evaluation.Failure.Agrees Evaluation.Agrees (Offer.tree.evaluate Offer.whole)
        (Offer.tree.evaluate Offer.real) ∧
      (Offer.tree.evaluate Offer.real).toOption.map (·.leaf.id) = some "retail" := by
  have heq : Offer.whole.strictEquals Offer.real = true := by decide +kernel
  exact ⟨Offer.hasDistinctKeys_whole, heq, (evaluate_agrees Offer.hasDistinctKeys_whole heq Offer.tree).1,
    by decide +kernel⟩

end RegulatoryTrees
