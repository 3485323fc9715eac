import RegulatoryTrees.Proofs.Partial.Exploration

/-!
# What a partial evaluation with a result explored

A partial evaluation gives a result only if every condition it explored applies and every node it explored takes part in
evaluation; the result is then the outline of the explored nodes (`outline_of_evaluatePartial`), so that statements about results
are statements about what is explored. It fails at a node that takes no part in evaluation only if it explored one.
-/

namespace RegulatoryTrees

namespace PartialEvaluation

/-- A condition and a leaf that were explored without a failure. -/
def Visit.Succeeds (facts : Value) (v : Visit) : Prop := v.Applies facts ∧ v.isEvaluable = true

/-! ## Nodes and their visits -/

section Visit

variable {v : Visit} (h : v.node.condition? = none) (facts : Value)

include h

/-- Only a condition can have both branches taken. -/
theorem Visit.openFact?_of_condition?_eq_none : v.openFact? facts = none := by
  obtain ⟨n, depth⟩ := v
  cases n with
  | condition header c note whenTrue whenFalse => cases h
  | leaf | group | router | anchor => rfl

/-- Only a condition has a step. -/
theorem Visit.step?_of_condition?_eq_none : v.step? facts = none := by
  obtain ⟨n, depth⟩ := v
  cases n with
  | condition header c note whenTrue whenFalse => cases h
  | leaf | group | router | anchor => rfl

end Visit

section Course

variable {facts fact : Value} {c : Condition}

/-- An undecided condition has an open course. -/
theorem course_of_undecided (hf : c.factIn facts = .ok fact) (hu : isUndecided c fact = true) : course facts c = .ok none := by
  rw [course, hf, Except.ok_bind, if_pos hu]
  rfl

theorem course_of_decided {o : Condition.Outcome} (hf : c.factIn facts = .ok fact) (hu : isUndecided c fact = false)
    (ho : c.apply fact = .ok o) : course facts c = .ok (some o.holds) := by
  rw [course, hf, Except.ok_bind, if_neg (by simp [hu]), ho]
  rfl

/-- A condition with a course applies. -/
theorem Visit.applies_condition {header : Header} {note : Option String} {whenTrue whenFalse : Node} {way : Option Bool}
    (h : course facts c = .ok way) (depth : Nat) :
    Visit.Applies facts ⟨.condition header c note whenTrue whenFalse, depth⟩ := by
  intro d hd
  obtain rfl : c = d := Option.some.inj hd
  exact ⟨way, h⟩

end Course

section Condition

variable {facts : Value} {header : Header} {c : Condition} {note : Option String} {whenTrue whenFalse : Node} {depth : Nat}
  (hs : ∀ v ∈ explored facts depth (.condition header c note whenTrue whenFalse), v.Succeeds facts)

include hs

/-- A condition that was explored without a failure has a course. -/
theorem exists_course_of_succeeds : ∃ way, course facts c = .ok way :=
  (hs ⟨_, depth⟩ (by rw [explored]; exact List.mem_cons_self)).1 c rfl

/-- Where a course is open and everything below succeeds, both branches do. -/
theorem succeeds_of_open (hway : course facts c = .ok none) :
    (∀ v ∈ explored facts (depth + 1) whenTrue, v.Succeeds facts) ∧
      ∀ v ∈ explored facts (depth + 1) whenFalse, v.Succeeds facts := by
  rw [explored_open hway] at hs
  exact ⟨fun v hv => hs v (List.mem_cons_of_mem _ (List.mem_append_left _ hv)),
    fun v hv => hs v (List.mem_cons_of_mem _ (List.mem_append_right _ hv))⟩

theorem succeeds_of_decided {holds : Bool} (hway : course facts c = .ok (some holds)) :
    ∀ v ∈ explored facts (depth + 1) (if holds then whenTrue else whenFalse), v.Succeeds facts := by
  rw [explored_decided hway] at hs
  exact fun v hv => hs v (List.mem_cons_of_mem _ hv)

end Condition

/-! ## Results -/

/-- Nothing goes wrong at the nodes that a survey with a result explores. -/
theorem succeeds_of_survey {facts : Value} (n : Node) : ∀ {s s' : Findings} {depth : Nat} {missing : List String},
    survey facts s depth missing n = .ok s' → ∀ v ∈ explored facts depth n, v.Succeeds facts := by
  intro s s' depth missing h v hv
  match n with
  | .leaf l =>
    rw [explored_of_condition?_eq_none rfl, List.mem_singleton] at hv
    subst hv
    exact ⟨fun c hc => (nomatch hc), rfl⟩
  | .condition header c note whenTrue whenFalse =>
    obtain ⟨fact, hf, ⟨hu, after, ht, hf'⟩ | ⟨hu, holds, after, hd, hn⟩⟩ := survey_condition_eq_ok h
    · have hway := course_of_undecided hf hu
      rw [explored_open hway, List.mem_cons, List.mem_append] at hv
      rcases hv with rfl | hv | hv
      · exact ⟨Visit.applies_condition hway depth, rfl⟩
      · exact succeeds_of_survey whenTrue ht v hv
      · exact succeeds_of_survey whenFalse hf' v hv
    · obtain ⟨seen, hseen, rfl, -⟩ := decideBranch_eq_ok hd
      obtain ⟨o, ho, rfl⟩ := Evaluation.observe_eq_ok.1 hseen
      have hway := course_of_decided hf hu ho
      rw [explored_decided hway, List.mem_cons] at hv
      rcases hv with rfl | hv
      · exact ⟨Visit.applies_condition hway depth, rfl⟩
      · cases hholds : o.holds with
        | true =>
          simp only [hholds, if_true] at hn hv
          exact succeeds_of_survey whenTrue hn v hv
        | false =>
          simp only [hholds, Bool.false_eq_true, if_false] at hn hv
          exact succeeds_of_survey whenFalse hn v hv
  | .group _ _ _ _ => simp [survey] at h
  | .router _ _ => simp [survey] at h
  | .anchor _ _ _ => simp [survey] at h

/-- The result of a partial evaluation is the outline of what it explored, and nothing went wrong there. -/
theorem outline_of_evaluatePartial {tree : Node} {facts : Value} {p : PartialEvaluation}
    (h : tree.evaluatePartial facts = .ok p) :
    (∀ v ∈ explored facts 0 tree, v.Succeeds facts) ∧ p = outline facts (explored facts 0 tree) := by
  rw [evaluatePartial_eq, Except.map_eq_ok] at h
  obtain ⟨s, hs, rfl⟩ := h
  have hsucceeds := succeeds_of_survey tree hs
  have happlies : ∀ v ∈ explored facts 0 tree, v.Applies facts := fun v hv => (hsucceeds v hv).1
  refine ⟨hsucceeds, ?_⟩
  by_cases hrender : ∀ v ∈ determinate facts (explored facts 0 tree), v.Renders
  · have hfind : (explored facts 0 tree).find? (fun v => !v.isEvaluable) = none :=
      List.find?_eq_none.2 fun v hv => by simp [(hsucceeds v hv).2]
    rw [survey_eq_surveyed facts tree {} 0 [] happlies (Or.inr hrender), surveyed_none hfind, Except.ok.injEq] at hs
    subst hs
    simp [Findings.extend, Findings.outcome, outline, union_nil]
  · simp only [Classical.not_forall] at hrender
    obtain ⟨v, hv, hn⟩ := hrender
    obtain ⟨cause, ds, herror⟩ := survey_unrendered facts tree {} 0 [] rfl happlies ⟨v, hv, hn⟩
    rw [hs] at herror
    cases herror

/-! ## Failures -/

/-- A condition that cannot be decided fails for a reason of its own. -/
theorem cause_of_decideBranch {s : Findings} {header : Header} {c : Condition} {fact : Value} {depth : Nat}
    {f : Evaluation.Failure} (h : decideBranch s header c fact depth = .error f) : ∃ cause, f.cause = .condition cause := by
  rw [decideBranch, Except.bind_eq_error] at h
  rcases h with h | ⟨seen, -, h⟩
  · obtain ⟨f', hobserve, rfl⟩ := Except.mapError_eq_error.1 h
    rw [Evaluation.observe, Except.bind_eq_error] at hobserve
    rcases hobserve with happly | ⟨o, -, hpure⟩
    · obtain ⟨cause, -, rfl⟩ := Except.mapError_eq_error.1 happly
      exact ⟨cause, rfl⟩
    · cases hpure
  · cases hb : s.branched with
    | true =>
      rw [hb] at h
      cases h
    | false =>
      simp only [hb, Bool.false_eq_true, if_false] at h
      rcases Except.bind_eq_error.1 h with h | ⟨step, -, hpure⟩
      · obtain ⟨f', hstep, rfl⟩ := Except.mapError_eq_error.1 h
        rw [Evaluation.stepOf, Except.bind_eq_error] at hstep
        rcases hstep with hdescribe | ⟨text, -, hpure⟩
        · obtain ⟨cause, -, rfl⟩ := Except.mapError_eq_error.1 hdescribe
          exact ⟨cause, rfl⟩
        · cases hpure
      · cases hpure

/-- A survey fails at a node that takes no part in evaluation only if it explores one. -/
theorem exists_not_evaluable_of_survey {facts : Value} (n : Node) : ∀ {s : Findings} {depth : Nat} {missing : List String}
    {f : Evaluation.Failure} {id : String} {kind : NodeKind}, survey facts s depth missing n = .error f →
      f.cause = .notEvaluable id kind → ∃ v ∈ explored facts depth n, v.isEvaluable = false := by
  intro s depth missing f id kind h hcause
  match n with
  | .leaf l => simp [survey] at h
  | .condition header c note whenTrue whenFalse =>
    cases hf : c.factIn facts with
    | error cause =>
      rw [survey, hf, Except.mapError_error, Except.error_bind, Except.error.injEq] at h
      subst h
      cases hcause
    | ok fact =>
      cases hu : isUndecided c fact with
      | true =>
        rw [explored_open (course_of_undecided hf hu)]
        rw [survey, hf, Except.mapError_ok, Except.ok_bind, if_pos hu] at h
        rcases Except.bind_eq_error.1 h with ht | ⟨after, -, hf'⟩
        · obtain ⟨v, hv, hn⟩ := exists_not_evaluable_of_survey whenTrue ht hcause
          exact ⟨v, List.mem_cons_of_mem _ (List.mem_append_left _ hv), hn⟩
        · obtain ⟨v, hv, hn⟩ := exists_not_evaluable_of_survey whenFalse hf' hcause
          exact ⟨v, List.mem_cons_of_mem _ (List.mem_append_right _ hv), hn⟩
      | false =>
        rw [survey_decided hf hu] at h
        rcases Except.bind_eq_error.1 h with hd | ⟨⟨holds, after⟩, hd, hn⟩
        · obtain ⟨cause, hd⟩ := cause_of_decideBranch hd
          rw [hd] at hcause
          cases hcause
        · obtain ⟨seen, hseen, rfl, -⟩ := decideBranch_eq_ok hd
          obtain ⟨o, ho, rfl⟩ := Evaluation.observe_eq_ok.1 hseen
          rw [explored_decided (course_of_decided hf hu ho)]
          cases hholds : o.holds with
          | true =>
            simp only [hholds, if_true] at hn ⊢
            obtain ⟨v, hv, hn⟩ := exists_not_evaluable_of_survey whenTrue hn hcause
            exact ⟨v, List.mem_cons_of_mem _ hv, hn⟩
          | false =>
            simp only [hholds, Bool.false_eq_true, if_false] at hn ⊢
            obtain ⟨v, hv, hn⟩ := exists_not_evaluable_of_survey whenFalse hn hcause
            exact ⟨v, List.mem_cons_of_mem _ hv, hn⟩
  | .group header members entry exit =>
    exact ⟨⟨.group header members entry exit, depth⟩, by rw [explored_of_condition?_eq_none rfl]; simp, rfl⟩
  | .router header routes =>
    exact ⟨⟨.router header routes, depth⟩, by rw [explored_of_condition?_eq_none rfl]; simp, rfl⟩
  | .anchor header conflictId pairedId =>
    exact ⟨⟨.anchor header conflictId pairedId, depth⟩, by rw [explored_of_condition?_eq_none rfl]; simp, rfl⟩

end PartialEvaluation

/-- A partial evaluation fails at a node that takes no part in evaluation only if it explores one. -/
theorem exists_not_evaluable_of_evaluatePartial {tree : Node} {facts : Value} {f : Evaluation.Failure} {id : String}
    {kind : NodeKind} (h : tree.evaluatePartial facts = .error f) (hcause : f.cause = .notEvaluable id kind) :
    ∃ v ∈ PartialEvaluation.explored facts 0 tree, v.isEvaluable = false := by
  rw [PartialEvaluation.evaluatePartial_eq] at h
  cases hs : PartialEvaluation.survey facts {} 0 [] tree with
  | ok s =>
    rw [hs] at h
    cases h
  | error f' =>
    rw [hs] at h
    cases h
    exact PartialEvaluation.exists_not_evaluable_of_survey tree hs hcause

end RegulatoryTrees
