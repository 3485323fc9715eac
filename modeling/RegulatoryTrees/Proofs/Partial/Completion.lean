import RegulatoryTrees.Proofs.Evaluation.Steps
import RegulatoryTrees.Proofs.Partial.Survey
import RegulatoryTrees.Proofs.Tree.Walk

/-!
# Partial evaluation covers every completion

Facts that complete others answer as they do wherever they answer at all (`Completes`). Whatever the full facts lead to, the
evaluation with the known ones has foreseen: its leaves hold the leaf that is reached and its trace is the beginning of the
full trace (`evaluate_covered`). The invariant is one of a survey: leaves are only added, and once something has branched no
step is.
-/

namespace RegulatoryTrees

/-- The full facts agree with the known ones on every condition of a tree whose fact is known or whose operator tests
presence. -/
def Completes (tree : Node) (known full : Value) : Prop :=
  ∀ c ∈ tree.conditions, ∀ value, known.factAt c.fact = .ok value →
    (value.isMissing = false ∨ c.operator? = some .isNil ∨ c.operator? = some .isSome) → full.factAt c.fact = .ok value

namespace Completes

variable {header : Header} {c : Condition} {note : Option String} {whenTrue whenFalse : Node} {known full : Value}

/-- What completes the facts for a tree completes them for the trees below it. -/
theorem of_child {tree child : Node} (h : Completes tree known full) (hc : child ∈ tree.children) : Completes child known full :=
  fun d hd => h d (Node.mem_conditions_of_child hc hd)

/-- A condition that is decided with the known facts finds the same fact in the full ones. -/
theorem factIn (h : Completes (.condition header c note whenTrue whenFalse) known full) {fact : Value}
    (hf : c.factIn known = .ok fact) (hu : PartialEvaluation.isUndecided c fact = false) : c.factIn full = .ok fact := by
  rw [Condition.factIn, Except.mapError_eq_ok] at hf ⊢
  apply h c (Node.mem_conditions_self header c note whenTrue whenFalse) fact hf
  rw [PartialEvaluation.isUndecided, Bool.and_eq_false_iff] at hu
  rcases hu with hm | hp
  · exact Or.inl hm
  · right
    cases ho : c.operator? with
    | none => simp [ho] at hp
    | some op => cases op <;> simp [ho, Operator.testsPresence] at hp ⊢

end Completes

namespace PartialEvaluation

/-- A survey adds leaves, and no step once something has branched. -/
theorem survey_keeps {facts : Value} (n : Node) : ∀ {s s' : Findings} {depth : Nat} {missing : List String},
    survey facts s depth missing n = .ok s' →
      (∀ l ∈ s.leaves, l ∈ s'.leaves) ∧ (s.branched = true → s'.branched = true ∧ s'.trace = s.trace) := by
  intro s s' depth missing h
  match n with
  | .leaf l =>
    simp only [survey, Except.ok.injEq] at h
    subst h
    exact ⟨fun x hx => List.mem_cons_of_mem l hx, fun hb => ⟨hb, rfl⟩⟩
  | .condition header c note whenTrue whenFalse =>
    obtain ⟨fact, -, ⟨-, after, ht, hf⟩ | ⟨-, holds, after, hd, hn⟩⟩ := survey_condition_eq_ok h
    · obtain ⟨hlt, hbt⟩ := survey_keeps whenTrue ht
      obtain ⟨hlf, hbf⟩ := survey_keeps whenFalse hf
      refine ⟨fun l hl => hlf l (hlt l hl), fun _ => ?_⟩
      obtain ⟨hb, hst⟩ := hbt rfl
      obtain ⟨hb', hsf⟩ := hbf hb
      exact ⟨hb', hsf.trans hst⟩
    · obtain ⟨seen, -, -, hleaves, hbranched, htrace, -⟩ := decideBranch_eq_ok hd
      have hk : (∀ l ∈ after.leaves, l ∈ s'.leaves) ∧
          (after.branched = true → s'.branched = true ∧ s'.trace = after.trace) := by
        cases holds
        · exact survey_keeps whenFalse hn
        · exact survey_keeps whenTrue hn
      refine ⟨fun l hl => hk.1 l (hleaves ▸ hl), fun hb => ?_⟩
      obtain ⟨hb', ht⟩ := hk.2 (hbranched.trans hb)
      exact ⟨hb', ht.trans (htrace hb)⟩
  | .group _ _ _ _ => simp [survey] at h
  | .router _ _ => simp [survey] at h
  | .anchor _ _ _ => simp [survey] at h

/-- What an evaluation with the full facts comes to is covered by a survey with the known ones: it does not end at a node
that takes no part in evaluation, its leaf is among those found, and the steps found before any branching begin its trace. -/
def Covers (s s' : Findings) (outcome : Except Evaluation.Failure Evaluation) : Prop :=
  (∀ f, outcome = .error f → ∀ id kind, f.cause ≠ .notEvaluable id kind) ∧
    ∀ e, outcome = .ok e → e.leaf ∈ s'.leaves ∧
      (s.branched = false → ∃ steps, s'.trace = steps.reverse ++ s.trace ∧ steps <+: e.trace)

namespace Covers

/-- A failure of a condition is covered by any survey. -/
theorem ofCondition (s s' : Findings) (cause : Condition.Failure) (diagnostics : List Diagnostic) :
    Covers s s' (.error ⟨.condition cause, diagnostics⟩) := by
  refine ⟨fun f hf id kind => ?_, fun e he => by cases he⟩
  cases hf
  exact nofun

/-- Where the branches are surveyed from findings that have branched, what a branch comes to is covered without its steps. -/
theorem resume_branched {s s' t : Findings} {step : Step} {diagnostics : List Diagnostic}
    {rest : Except Evaluation.Failure Evaluation} (h : Covers s s' rest) (hleaves : ∀ l ∈ s'.leaves, l ∈ t.leaves)
    {r : Findings} (htrace : t.trace = r.trace) : Covers r t (Evaluation.resume step diagnostics rest) := by
  constructor
  · intro f hf
    obtain ⟨f', hf', rfl⟩ := Evaluation.resume_eq_error.1 hf
    exact h.1 f' hf'
  · intro e he
    obtain ⟨e', he', rfl⟩ := Evaluation.resume_eq_ok.1 he
    exact ⟨hleaves _ (h.2 e' he').1, fun _ => ⟨[], by simpa using htrace, List.nil_prefix⟩⟩

/-- Where a branch is surveyed after the step of its condition, the step comes before those of the branch. -/
theorem resume_decided {s s' r : Findings} {step : Step} {diagnostics : List Diagnostic}
    {rest : Except Evaluation.Failure Evaluation} (h : Covers s s' rest) (hbranched : s.branched = r.branched)
    (htrace : r.branched = false → s.trace = step :: r.trace) : Covers r s' (Evaluation.resume step diagnostics rest) := by
  constructor
  · intro f hf
    obtain ⟨f', hf', rfl⟩ := Evaluation.resume_eq_error.1 hf
    exact h.1 f' hf'
  · intro e he
    obtain ⟨e', he', rfl⟩ := Evaluation.resume_eq_ok.1 he
    obtain ⟨hl, hs⟩ := h.2 e' he'
    refine ⟨hl, fun hb => ?_⟩
    obtain ⟨steps, ht, hp⟩ := hs (hbranched.trans hb)
    refine ⟨step :: steps, ?_, List.cons_prefix_cons.2 ⟨rfl, hp⟩⟩
    rw [ht, htrace hb]
    simp

end Covers

/-- A survey with the known facts covers an evaluation with the full ones. Where a condition is undecided, whichever branch the
full facts choose has been surveyed; where it is decided, the full facts hold the same fact and take the same branch. -/
theorem covers_of_survey {known full : Value} (n : Node) : ∀ {s s' : Findings} {depth : Nat} {missing : List String},
    Completes n known full → survey known s depth missing n = .ok s' → Covers s s' (Evaluation.evaluateFrom full depth n) := by
  intro s s' depth missing hc h
  match n with
  | .leaf l =>
    simp only [survey, Except.ok.injEq] at h
    subst h
    refine ⟨fun f hf => by simp [Evaluation.evaluateFrom] at hf, fun e he => ?_⟩
    simp only [Evaluation.evaluateFrom, Except.ok.injEq] at he
    subst he
    exact ⟨List.mem_cons_self, fun _ => ⟨[], rfl, List.nil_prefix⟩⟩
  | .condition header c note whenTrue whenFalse =>
    rcases Evaluation.evaluateFrom_condition_cases full depth header c note whenTrue whenFalse with
      ⟨cause, diagnostics, he⟩ | ⟨fact, seen, step, hfact, hseen, hstep, he⟩
    · rw [he]
      exact Covers.ofCondition s s' cause diagnostics
    · rw [he]
      obtain ⟨fact', hfact', ⟨-, after, ht, hf⟩ | ⟨hu, holds, after, hd, hn⟩⟩ := survey_condition_eq_ok h
      · obtain ⟨hlt, hbt⟩ := survey_keeps whenTrue ht
        obtain ⟨hlf, hbf⟩ := survey_keeps whenFalse hf
        obtain ⟨hb, htt⟩ := hbt rfl
        have htrace : s'.trace = s.trace := (hbf hb).2.trans htt
        cases seen.holds
        · exact (covers_of_survey whenFalse (hc.of_child (List.mem_pair.2 (.inr rfl))) hf).resume_branched (fun l hl => hl) htrace
        · exact (covers_of_survey whenTrue (hc.of_child List.mem_cons_self) ht).resume_branched hlf htrace
      · have hfull := hc.factIn hfact' hu
        rw [hfact, Except.ok.injEq] at hfull
        subst hfull
        obtain ⟨seen', hseen', hholds, hleaves, hbranched, -, hstep'⟩ := decideBranch_eq_ok hd
        rw [hseen, Except.ok.injEq] at hseen'
        subst hseen'
        have htrace : s.branched = false → after.trace = step :: s.trace := by
          intro hb
          obtain ⟨step', hst, htr⟩ := hstep' hb
          rw [hstep, Except.ok.injEq] at hst
          rw [htr, hst]
        subst hholds
        cases hs : seen.holds with
        | false =>
          rw [hs] at hn
          exact (covers_of_survey whenFalse (hc.of_child (List.mem_pair.2 (.inr rfl))) hn).resume_decided hbranched htrace
        | true =>
          rw [hs] at hn
          exact (covers_of_survey whenTrue (hc.of_child List.mem_cons_self) hn).resume_decided hbranched htrace
  | .group _ _ _ _ => simp [survey] at h
  | .router _ _ => simp [survey] at h
  | .anchor _ _ _ => simp [survey] at h

end PartialEvaluation

/-! ## A licence whose kind is not known -/

namespace Licence

/-- A licence whose kind is not known. -/
def known : Value := .record [("licence", .text "A1")]

/-- A full licence. -/
def full : Value := .record [("licence", .text "A1"), ("kind", .text "full")]

/-- What is foreseen of a licence whose kind is not known. -/
def outlook : PartialEvaluation where
  leaves := [leaf "trade" .compliant, leaf "limit" .requiresAction]
  missing := ["kind"]
  trace := [⟨"licensed", "licence has a value", "licence", .text "A1", true, .null, "some?", true, 0, none⟩]
  diagnostics := []

/-- The evaluation of a full licence. -/
def granted : Evaluation where
  leaf := leaf "trade" .compliant
  trace := [
    ⟨"licensed", "licence has a value", "licence", .text "A1", true, .null, "some?", true, 0, none⟩,
    ⟨"unlimited", "kind equals \"full\"", "kind", .text "full", true, .text "full", "eq", true, 1, none⟩]
  diagnostics := []

theorem evaluate_full : tree.evaluate full = .ok granted := rfl

theorem evaluatePartial_known : tree.evaluatePartial known = .ok outlook := by
  rw [PartialEvaluation.evaluatePartial_eq]
  rfl

/-- What is foreseen of a full licence. -/
def settled : PartialEvaluation := ⟨[leaf "trade" .compliant], [], granted.trace, []⟩

theorem evaluatePartial_full : tree.evaluatePartial full = .ok settled := by
  rw [PartialEvaluation.evaluatePartial_eq]
  rfl

/-- The full facts complete the known ones. -/
theorem completes_full : Completes tree known full := by
  intro c hc value hv hn
  rw [conditions_tree, List.mem_cons, List.mem_singleton] at hc
  rcases hc with rfl | rfl
  · exact hv
  · have hm : known.factAt "kind" = .ok .missing := rfl
    rw [hm, Except.ok.injEq] at hv
    subst hv
    rcases hn with hn | hn | hn
    · exact nomatch hn
    · exact absurd hn (by decide)
    · exact absurd hn (by decide)

end Licence

/-! ## Every completion is covered -/

/-- Partial evaluation covers every completion: whatever the full facts lead to, it does not end at a node that takes no part
in evaluation, the leaf reached is one of those that were reachable, and the trace begins with the partial one. -/
theorem evaluate_covered (tree : Node) (known full : Value) (p : PartialEvaluation)
    (hp : tree.evaluatePartial known = .ok p) (hc : Completes tree known full) :
    (∀ f, tree.evaluate full = .error f → ∀ id kind, f.cause ≠ .notEvaluable id kind) ∧
      ∀ e, tree.evaluate full = .ok e → e.leaf ∈ p.leaves ∧ p.trace <+: e.trace := by
  rw [PartialEvaluation.evaluatePartial_eq, Except.map_eq_ok] at hp
  obtain ⟨s, hs, rfl⟩ := hp
  obtain ⟨herror, hok⟩ := PartialEvaluation.covers_of_survey tree hc hs
  refine ⟨herror, fun e he => ?_⟩
  obtain ⟨hl, ht⟩ := hok e he
  obtain ⟨steps, htrace, hprefix⟩ := ht rfl
  refine ⟨List.mem_reverse.2 hl, ?_⟩
  simpa [PartialEvaluation.Findings.outcome, htrace] using hprefix

/-- A full licence completes one whose kind is not known, and is covered by what is foreseen of it. -/
theorem evaluate_covered_licence :
    Licence.tree.evaluatePartial Licence.known = .ok Licence.outlook ∧ Completes Licence.tree Licence.known Licence.full ∧
      ∀ e, Licence.tree.evaluate Licence.full = .ok e →
        e.leaf ∈ Licence.outlook.leaves ∧ Licence.outlook.trace <+: e.trace := by
  refine ⟨Licence.evaluatePartial_known, Licence.completes_full, ?_⟩
  exact (evaluate_covered _ _ _ _ Licence.evaluatePartial_known Licence.completes_full).2

end RegulatoryTrees
