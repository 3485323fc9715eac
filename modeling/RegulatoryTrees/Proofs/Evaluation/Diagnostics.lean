import RegulatoryTrees.Proofs.Evaluation.Steps
import RegulatoryTrees.Proofs.Partial.Survey
import RegulatoryTrees.Proofs.Tree.Walk

/-!
# Where diagnostics come from

Every diagnostic of an evaluation, with all facts or with some still unknown, and whether it fails or not, tells a problem that the
condition of a node of the tree met with some fact (`Evaluation.isWithin_of_mem_diagnosticsOf`,
`PartialEvaluation.isWithin_of_mem_diagnosticsOf`). An unknown operator is met exactly by the conditions whose operator has none of
the known names (`Condition.apply_unknown_iff`), so such a diagnostic names a node with one
(`Node.exists_misnamed_of_mem_diagnosticsOn`).
-/

namespace RegulatoryTrees

/-! ## Nodes with unknown operators -/

/-- The operator of a condition has none of the known names. -/
def Condition.HasUnknownOperator (c : Condition) : Prop := c.op ∉ Operator.all.map Operator.name

instance (c : Condition) : Decidable c.HasUnknownOperator := inferInstanceAs (Decidable (¬_))

namespace Node

/-- A node is a condition with an unknown operator. -/
def isMisnamed (n : Node) : Bool := n.condition?.any fun c => decide c.HasUnknownOperator

/-- The conditions with unknown operators anywhere in a tree, each before those below it. -/
def misnamed (tree : Node) : List Node := tree.preorder.filter isMisnamed

/-- The misnamed nodes are those nodes of the walk. -/
theorem mem_misnamed {tree n : Node} : n ∈ tree.misnamed ↔ n ∈ tree.walk ∧ n.isMisnamed = true := by
  rw [misnamed, ← walk_eq_preorder, List.mem_filter]

end Node

/-- An operator is unknown if there is none of its name. -/
theorem Condition.operator?_eq_none_iff {c : Condition} : c.operator? = none ↔ c.HasUnknownOperator := by
  simp [Condition.operator?, Operator.named?, HasUnknownOperator]

/-! ## Diagnostics about a node -/

/-- A diagnostic is about a node: it tells a problem that the condition of the node met with some fact. -/
def Diagnostic.IsAbout (d : Diagnostic) (n : Node) : Prop :=
  ∃ c fact o, n.condition? = some c ∧ c.apply fact = .ok o ∧ c.diagnostic? (some n.id) o = some d

namespace Diagnostic

variable {d : Diagnostic}

/-- A diagnostic is about one of the nodes of a tree. -/
def IsWithin (d : Diagnostic) (tree : Node) : Prop := ∃ n ∈ tree.walk, d.IsAbout n

/-- What is about the root is about a node of the tree. -/
theorem IsAbout.isWithin {tree : Node} (h : d.IsAbout tree) : d.IsWithin tree := ⟨tree, tree.mem_walk_self, h⟩

/-- What is about a node below a child is about a node of the tree. -/
theorem IsWithin.of_child {tree child : Node} (hc : child ∈ tree.children) (h : d.IsWithin child) : d.IsWithin tree := by
  obtain ⟨n, hn, habout⟩ := h
  exact ⟨n, Node.mem_walk_of_child hc hn, habout⟩

end Diagnostic

namespace Condition

/-- What an operator comes to on a fact: an answer, or a failure by a problem with the operand, or with a fact that is there. -/
inductive Outcome.OfOperator (fact : Value) : Outcome → Prop where
  | plain (holds : Bool) : OfOperator fact (.plain holds)
  | operand : OfOperator fact (.failed .notList)
  | present {problem : Problem} (hfact : fact.isAbsent = false)
      (hkind : problem.kind = .typeMismatch ∨ problem.kind = .invalidPattern) : OfOperator fact (.failed problem)

/-- A comparison of numbers answers, or fails because a fact that is there is no number. -/
theorem order_ofOperator (test : Ordering → Bool) (fact expected : Value) : (order test fact expected).OfOperator fact := by
  unfold order
  split
  · exact .plain _
  · split
    · exact .plain false
    · next hfact => exact .present (Bool.eq_false_iff.2 hfact) (.inl rfl)

/-- Matching a text answers, or fails because the pattern is invalid. -/
theorem matchText_ofOperator {text pattern : String} {o : Outcome} (h : matchText text pattern = .ok o) :
    o.OfOperator (.text text) := by
  unfold matchText at h
  split at h <;> cases h
  · exact .plain _
  · exact .present rfl (.inr rfl)

/-- A known operator answers, or fails by a problem with its operand or with a fact that is there. -/
theorem applyOperator_ofOperator {op : Operator} {fact expected : Value} {o : Outcome}
    (h : applyOperator op fact expected = .ok o) : o.OfOperator fact := by
  cases op with
  | gt | lt | gte | lte =>
    cases h
    exact order_ofOperator _ fact expected
  | eq | neq | isNil | isSome =>
    cases h
    exact .plain _
  | isIn =>
    simp only [applyOperator] at h
    split at h <;> cases h
    · exact .operand
    · exact .plain _
    · exact .operand
  | contains =>
    simp only [applyOperator] at h
    split at h <;> cases h <;> exact .plain _
  | matchesPattern =>
    simp only [applyOperator] at h
    split at h
    · exact matchText_ofOperator h
    · cases h
      split
      · exact .plain false
      · next hfact => exact .present (Bool.eq_false_iff.2 hfact) (.inl rfl)

/-- A known operator is not reported as unknown. -/
theorem problem_ne_unknown {op : Operator} {fact expected : Value} {o : Outcome}
    (h : applyOperator op fact expected = .ok o) : o.problem ≠ some .unknownOperator := by
  cases applyOperator_ofOperator h with
  | plain | operand => exact nofun
  | present _ hkind =>
    rintro ⟨⟩
    rcases hkind with hkind | hkind <;> cases hkind

/-- Applying a condition meets an unknown operator exactly if its operator has none of the known names, whatever the fact. -/
theorem apply_unknown_iff (c : Condition) (fact : Value) :
    (∃ o, c.apply fact = .ok o ∧ o.problem = some .unknownOperator) ↔ c.HasUnknownOperator := by
  rw [← operator?_eq_none_iff, apply]
  cases c.operator? with
  | none => exact iff_of_true ⟨_, rfl, rfl⟩ rfl
  | some op =>
    refine iff_of_false ?_ nofun
    rintro ⟨o, ho, hproblem⟩
    exact problem_ne_unknown ho hproblem

end Condition

/-- A diagnostic about an unknown operator is about a node that has one. -/
theorem Diagnostic.IsAbout.isMisnamed {d : Diagnostic} {n : Node} (h : d.IsAbout n)
    (hkind : d.problem.kind = .unknownOperator) : n.isMisnamed = true ∧ d.nodeId = some n.id := by
  obtain ⟨c, fact, o, hc, ho, hd⟩ := h
  obtain ⟨problem, hproblem, rfl⟩ := Option.map_eq_some_iff.1 hd
  have hunknown : problem = .unknownOperator := by cases problem <;> simp_all [Problem.kind]
  rw [hunknown] at hproblem
  have hc' : c.HasUnknownOperator := (c.apply_unknown_iff fact).1 ⟨o, ho, hproblem⟩
  exact ⟨by simpa [Node.isMisnamed, hc] using hc', rfl⟩

/-! ## Evaluation -/

namespace Evaluation

variable {facts fact : Value} {header : Header} {c : Condition} {seen : Observation} {d : Diagnostic}

/-- What observing a condition reports is about its node. -/
theorem isAbout_of_observe (h : observe header c fact = .ok seen) (hd : d ∈ seen.diagnostics) (note : Option String)
    (whenTrue whenFalse : Node) : d.IsAbout (.condition header c note whenTrue whenFalse) := by
  obtain ⟨o, ho, rfl⟩ := observe_eq_ok.1 h
  exact ⟨c, fact, o, rfl, ho, Option.mem_toList.1 hd⟩

/-- A condition that cannot be observed reports nothing. -/
theorem diagnostics_of_observe_error {f : Failure} (h : observe header c fact = .error f) : f.diagnostics = [] := by
  rw [observe] at h
  rcases Except.bind_eq_error.1 h with h | ⟨o, -, h⟩
  · obtain ⟨cause, -, rfl⟩ := Except.mapError_eq_error.1 h
    rfl
  · cases h

/-- A condition that cannot be put in words has reported what it showed. -/
theorem diagnostics_of_stepOf_error {depth : Nat} {f : Failure} (h : stepOf header c fact depth seen = .error f) :
    f.diagnostics = seen.diagnostics := by
  rw [stepOf] at h
  rcases Except.bind_eq_error.1 h with h | ⟨text, -, h⟩
  · obtain ⟨cause, -, rfl⟩ := Except.mapError_eq_error.1 h
    rfl
  · cases h

/-- The diagnostics after a step are those of the step and then those of what comes after it. -/
theorem diagnosticsOf_resume (step : Step) (diagnostics : List Diagnostic) (rest : Except Failure Evaluation) :
    diagnosticsOf (resume step diagnostics rest) = diagnostics ++ diagnosticsOf rest := by
  cases rest <;> rfl

/-- Every diagnostic of an evaluation, whether it comes to a leaf or not, is about a node of the tree. -/
theorem isWithin_of_mem_diagnosticsOf {depth : Nat} (tree : Node) (hd : d ∈ diagnosticsOf (evaluateFrom facts depth tree)) :
    d.IsWithin tree := by
  match tree with
  | .leaf _ | .group _ _ _ _ | .router _ _ | .anchor _ _ _ => exact absurd hd List.not_mem_nil
  | .condition header c note whenTrue whenFalse =>
    cases hf : c.factIn facts with
    | error e =>
      rw [evaluateFrom, hf] at hd
      exact absurd hd List.not_mem_nil
    | ok fact =>
      cases hs : observe header c fact with
      | error f =>
        rw [evaluateFrom_of_observe_error hf hs, diagnosticsOf, diagnostics_of_observe_error hs] at hd
        exact absurd hd List.not_mem_nil
      | ok seen =>
        rw [evaluateFrom_condition hf hs] at hd
        cases hst : stepOf header c fact depth seen with
        | error f =>
          rw [hst, Except.error_bind, diagnosticsOf, diagnostics_of_stepOf_error hst] at hd
          exact (isAbout_of_observe hs hd note whenTrue whenFalse).isWithin
        | ok step =>
          rw [hst, Except.ok_bind, diagnosticsOf_resume, List.mem_append] at hd
          rcases hd with hd | hd
          · exact (isAbout_of_observe hs hd note whenTrue whenFalse).isWithin
          · cases hholds : seen.holds with
            | true =>
              rw [hholds, if_pos rfl] at hd
              exact .of_child List.mem_cons_self (isWithin_of_mem_diagnosticsOf whenTrue hd)
            | false =>
              rw [hholds, if_neg Bool.false_ne_true] at hd
              exact .of_child (List.mem_pair.2 (.inr rfl)) (isWithin_of_mem_diagnosticsOf whenFalse hd)

end Evaluation

/-! ## Evaluation with facts still unknown -/

namespace PartialEvaluation

variable {facts : Value} {d : Diagnostic}

/-- The diagnostics that have been found, whether the exploration failed or not. -/
def found : Except Evaluation.Failure Findings → List Diagnostic
  | .ok s => s.diagnostics
  | .error f => f.diagnostics

/-- Failing adds the diagnostics of the failure. -/
theorem mem_fail {s : Findings} {f : Evaluation.Failure} :
    d ∈ (s.fail f).diagnostics ↔ d ∈ s.diagnostics ∨ d ∈ f.diagnostics := by
  simp [Findings.fail, Evaluation.Failure.after]

/-- What has been found after two steps was there when the first one failed, or has been found by the second. -/
theorem mem_found_bind {α : Type} {x : Except Evaluation.Failure α} {next : α → Except Evaluation.Failure Findings}
    (hd : d ∈ found (x >>= next)) : (∃ f, x = .error f ∧ d ∈ f.diagnostics) ∨ ∃ a, x = .ok a ∧ d ∈ found (next a) := by
  cases x with
  | error f => exact Or.inl ⟨f, rfl, hd⟩
  | ok a => exact Or.inr ⟨a, rfl, hd⟩

section Condition

variable {s : Findings} {header : Header} {c : Condition} {fact : Value} {depth : Nat} (note : Option String)
  (whenTrue whenFalse : Node)

/-- Deciding a condition adds only diagnostics about its node. -/
theorem isAbout_of_decideBranch {holds : Bool} {after : Findings} (h : decideBranch s header c fact depth = .ok (holds, after))
    (hd : d ∈ after.diagnostics) : d ∈ s.diagnostics ∨ d.IsAbout (.condition header c note whenTrue whenFalse) := by
  rw [decideBranch] at h
  obtain ⟨seen, hs, h⟩ := Except.bind_eq_ok.1 h
  have hafter : after.diagnostics = seen.diagnostics.reverse ++ s.diagnostics := by
    split at h
    · cases h
      rfl
    · obtain ⟨step, -, h⟩ := Except.bind_eq_ok.1 h
      cases h
      rfl
  rw [hafter, List.mem_append, List.mem_reverse] at hd
  rcases hd with hd | hd
  · exact Or.inr (Evaluation.isAbout_of_observe (Except.mapError_eq_ok.1 hs) hd note whenTrue whenFalse)
  · exact Or.inl hd

/-- A condition that cannot be decided adds only diagnostics about its node. -/
theorem isAbout_of_decideBranch_error {f : Evaluation.Failure} (h : decideBranch s header c fact depth = .error f)
    (hd : d ∈ f.diagnostics) : d ∈ s.diagnostics ∨ d.IsAbout (.condition header c note whenTrue whenFalse) := by
  rw [decideBranch] at h
  rcases Except.bind_eq_error.1 h with h | ⟨seen, hs, h⟩
  · obtain ⟨f', hobserve, rfl⟩ := Except.mapError_eq_error.1 h
    rw [mem_fail, Evaluation.diagnostics_of_observe_error hobserve] at hd
    exact hd.imp_right fun hnone => absurd hnone List.not_mem_nil
  · split at h
    · cases h
    · rcases Except.bind_eq_error.1 h with h | ⟨step, -, h⟩
      · obtain ⟨f', hstep, rfl⟩ := Except.mapError_eq_error.1 h
        rw [mem_fail, Evaluation.diagnostics_of_stepOf_error hstep] at hd
        refine hd.imp_right ?_
        intro hd
        exact Evaluation.isAbout_of_observe (Except.mapError_eq_ok.1 hs) hd note whenTrue whenFalse
      · cases h

end Condition

/-- Surveying a tree adds only diagnostics about its nodes, whether it comes to its end or not. Where both branches are
explored, the second one is with what has been found in the first. -/
theorem isWithin_of_mem_found {s : Findings} {depth : Nat} {missing : List String} (tree : Node)
    (hd : d ∈ found (survey facts s depth missing tree)) : d ∈ s.diagnostics ∨ d.IsWithin tree := by
  match tree with
  | .leaf _ => exact Or.inl hd
  | .group _ _ _ _ | .router _ _ | .anchor _ _ _ =>
    rcases mem_fail.1 hd with hd | hd
    · exact Or.inl hd
    · exact absurd hd List.not_mem_nil
  | .condition header c note whenTrue whenFalse =>
    rw [survey] at hd
    rcases mem_found_bind hd with ⟨f, hf, hd⟩ | ⟨fact, -, hd⟩
    · obtain ⟨cause, -, rfl⟩ := Except.mapError_eq_error.1 hf
      rcases mem_fail.1 hd with hd | hd
      · exact Or.inl hd
      · exact absurd hd List.not_mem_nil
    · split at hd
      · have hfirst : ∀ {depth missing}, d ∈ found (survey facts { s with branched := true } depth missing whenTrue) →
            d ∈ s.diagnostics ∨ d.IsWithin (.condition header c note whenTrue whenFalse) :=
          fun hd => (isWithin_of_mem_found whenTrue hd).imp_right (.of_child List.mem_cons_self)
        rcases mem_found_bind hd with ⟨f, hupper, hd⟩ | ⟨after, hupper, hd⟩
        · exact hfirst (by rw [hupper]; exact hd)
        · rcases isWithin_of_mem_found whenFalse hd with hd | hd
          · exact hfirst (by rw [hupper]; exact hd)
          · exact Or.inr (hd.of_child (List.mem_pair.2 (.inr rfl)))
      · rcases mem_found_bind hd with ⟨f, hdecided, hd⟩ | ⟨⟨holds, after⟩, hdecided, hd⟩
        · exact (isAbout_of_decideBranch_error note whenTrue whenFalse hdecided hd).imp_right Diagnostic.IsAbout.isWithin
        · have hbelow : d ∈ after.diagnostics ∨ d.IsWithin (.condition header c note whenTrue whenFalse) := by
            cases holds with
            | true => exact (isWithin_of_mem_found whenTrue hd).imp_right (.of_child List.mem_cons_self)
            | false => exact (isWithin_of_mem_found whenFalse hd).imp_right (.of_child (List.mem_pair.2 (.inr rfl)))
          rcases hbelow with hd | hd
          · exact (isAbout_of_decideBranch note whenTrue whenFalse hdecided hd).imp_right Diagnostic.IsAbout.isWithin
          · exact Or.inr hd

/-- The diagnostics of a partial evaluation, whether it failed or not. -/
def diagnosticsOf : Except Evaluation.Failure PartialEvaluation → List Diagnostic
  | .ok e => e.diagnostics
  | .error f => f.diagnostics

/-- Every diagnostic of a partial evaluation is about a node of the tree. -/
theorem isWithin_of_mem_diagnosticsOf {tree : Node} (hd : d ∈ diagnosticsOf (tree.evaluatePartial facts)) :
    d.IsWithin tree := by
  rw [evaluatePartial_eq] at hd
  have hd' : d ∈ found (survey facts {} 0 [] tree) := by
    cases hsurvey : survey facts {} 0 [] tree with
    | error f => simpa [hsurvey, diagnosticsOf, found] using hd
    | ok s => simpa [hsurvey, diagnosticsOf, found, Findings.outcome] using hd
  rcases isWithin_of_mem_found tree hd' with h | h
  · exact absurd h List.not_mem_nil
  · exact h

end PartialEvaluation

/-! ## Both evaluations -/

namespace Node

/-- What the evaluations of a tree report, with the facts taken for all there are and with the missing ones taken for unknown. -/
def diagnosticsOn (tree : Node) (facts : Value) : List Diagnostic :=
  Evaluation.diagnosticsOf (tree.evaluate facts) ++ PartialEvaluation.diagnosticsOf (tree.evaluatePartial facts)

/-- A diagnostic about an unknown operator names a node of the tree that has one. -/
theorem exists_misnamed_of_mem_diagnosticsOn {tree : Node} {facts : Value} {d : Diagnostic} (hd : d ∈ tree.diagnosticsOn facts)
    (hkind : d.problem.kind = .unknownOperator) : ∃ n ∈ tree.misnamed, d.nodeId = some n.id := by
  have hwithin : d.IsWithin tree := by
    rcases List.mem_append.1 hd with hd | hd
    · exact Evaluation.isWithin_of_mem_diagnosticsOf tree hd
    · exact PartialEvaluation.isWithin_of_mem_diagnosticsOf hd
  obtain ⟨n, hn, habout⟩ := hwithin
  obtain ⟨hmisnamed, hid⟩ := habout.isMisnamed hkind
  exact ⟨n, mem_misnamed.2 ⟨hn, hmisnamed⟩, hid⟩

end Node

end RegulatoryTrees
