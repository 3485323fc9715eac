import RegulatoryTrees.Proofs.Evaluation.Steps
import RegulatoryTrees.Proofs.Partial.Completion
import RegulatoryTrees.Proofs.Tree.Walk

/-!
# An evaluation depends only on what its trace shows

The steps of a trace name the conditions met, the facts they looked at and the branches they chose. Whatever stands in the place
of the other branches (`Node.Regrafted`), and whatever the other facts are, the evaluation comes to the same leaf by the same
steps with the same diagnostics (`evaluate_eq_of_regrafted`).
-/

namespace RegulatoryTrees

/-- One tree is another in which any nodes stand in the place of the branches that some steps did not choose. -/
inductive Node.Regrafted : Node → List Step → Node → Prop where
  | leaf (l : Leaf) : Regrafted (.leaf l) [] (.leaf l)
  | whenTrue {header : Header} {c : Condition} {note : Option String} {taken taken' : Node} {step : Step} {steps : List Step}
      (holds : step.holds = true) (below : Regrafted taken steps taken') (old new : Node) :
      Regrafted (.condition header c note taken old) (step :: steps) (.condition header c note taken' new)
  | whenFalse {header : Header} {c : Condition} {note : Option String} {taken taken' : Node} {step : Step} {steps : List Step}
      (fails : step.holds = false) (below : Regrafted taken steps taken') (old new : Node) :
      Regrafted (.condition header c note old taken) (step :: steps) (.condition header c note new taken')

namespace Evaluation

/-- The evaluation of a regrafted tree is the same if its branch is, at a condition whose fact is the same. -/
theorem evaluateFrom_condition_congr {facts facts' : Value} {depth : Nat} {header : Header} {c : Condition}
    {note : Option String} {whenTrue whenFalse whenTrue' whenFalse' : Node} {e : Evaluation}
    (h : evaluateFrom facts depth (.condition header c note whenTrue whenFalse) = .ok e)
    (hfacts : ∀ step ∈ e.trace, facts'.factAt step.fact = facts.factAt step.fact)
    (hbranch : ∀ step rest, e.trace = step :: rest.trace →
      evaluateFrom facts (depth + 1) (if step.holds then whenTrue else whenFalse) = .ok rest →
        evaluateFrom facts' (depth + 1) (if step.holds then whenTrue' else whenFalse') = .ok rest) :
    evaluateFrom facts' depth (.condition header c note whenTrue' whenFalse') = .ok e := by
  obtain ⟨fact, seen, step, rest, hfact, hseen, hstep, hrest, rfl⟩ := evaluateFrom_condition_eq_ok.1 h
  obtain ⟨hpath, -, -, hholds⟩ := stepOf_fields hstep
  have hfact' : c.factIn facts' = .ok fact := by
    rw [← hfact, Condition.factIn, Condition.factIn, ← hpath, hfacts step List.mem_cons_self]
  have hrest' := hbranch step rest rfl (hholds ▸ hrest)
  exact evaluateFrom_condition_eq_ok.2 ⟨fact, seen, step, rest, hfact', hseen, hstep, hholds ▸ hrest', rfl⟩

/-- A regrafted tree evaluates as the tree, on facts that agree wherever the trace looked. -/
theorem evaluateFrom_of_regrafted {facts facts' : Value} {tree tree' : Node} {steps : List Step}
    (h : tree.Regrafted steps tree') : ∀ {depth : Nat} {e : Evaluation}, evaluateFrom facts depth tree = .ok e →
      e.trace = steps → (∀ step ∈ steps, facts'.factAt step.fact = facts.factAt step.fact) →
        evaluateFrom facts' depth tree' = .ok e := by
  induction h with
  | leaf l =>
    intro depth e he _ _
    exact he
  | whenTrue holds below old new ih =>
    intro depth e he ht hfacts
    refine evaluateFrom_condition_congr he (ht ▸ hfacts) fun step rest htrace hrest => ?_
    obtain ⟨rfl, hsteps⟩ := List.cons.inj (htrace.symm.trans ht)
    rw [if_pos holds] at hrest ⊢
    exact ih hrest hsteps fun s hs => hfacts s (List.mem_cons_of_mem _ hs)
  | whenFalse fails below old new ih =>
    intro depth e he ht hfacts
    refine evaluateFrom_condition_congr he (ht ▸ hfacts) fun step rest htrace hrest => ?_
    obtain ⟨rfl, hsteps⟩ := List.cons.inj (htrace.symm.trans ht)
    rw [if_neg (Bool.eq_false_iff.1 fails)] at hrest ⊢
    exact ih hrest hsteps fun s hs => hfacts s (List.mem_cons_of_mem _ hs)

/-- The steps of an evaluation look at facts of conditions of the tree. -/
theorem exists_condition_of_mem_trace {facts : Value} (n : Node) : ∀ {depth : Nat} {e : Evaluation},
    evaluateFrom facts depth n = .ok e → ∀ step ∈ e.trace, ∃ c ∈ n.conditions, c.fact = step.fact := by
  intro depth e h step hs
  match n with
  | .leaf l =>
    cases h
    exact absurd hs List.not_mem_nil
  | .condition header c note whenTrue whenFalse =>
    obtain ⟨fact, seen, first, rest, -, -, hfirst, hrest, rfl⟩ := evaluateFrom_condition_eq_ok.1 h
    rcases List.mem_cons.1 hs with rfl | hs
    · exact ⟨c, Node.mem_conditions_self header c note whenTrue whenFalse, (stepOf_fields hfirst).1.symm⟩
    · cases hseen : seen.holds with
      | true =>
        rw [hseen] at hrest
        obtain ⟨d, hd, hfact⟩ := exists_condition_of_mem_trace whenTrue hrest step hs
        exact ⟨d, Node.mem_conditions_of_child List.mem_cons_self hd, hfact⟩
      | false =>
        rw [hseen] at hrest
        obtain ⟨d, hd, hfact⟩ := exists_condition_of_mem_trace whenFalse hrest step hs
        exact ⟨d, Node.mem_conditions_of_child (List.mem_pair.2 (.inr rfl)) hd, hfact⟩
  | .group _ _ _ _ => cases h
  | .router _ _ => cases h
  | .anchor _ _ _ => cases h

end Evaluation

/-! ## A tree of which one path is kept -/

namespace Licence

/-- The tree with a router and a group in the place of the leaves that a full licence does not reach. -/
def rerouted : Node :=
  .condition (header "licensed") ⟨"licence", "some?", .null⟩ none
    (.condition (header "unlimited") ⟨"kind", "eq", .text "full"⟩ none
      (.leaf (leaf "trade" .compliant)) (.router (header "elsewhere") []))
    (.group (header "licensed") [tree] "licensed" none)

/-- The facts of a full licence in another order, and one more. -/
def fullAndNamed : Value := .record [("kind", .text "full"), ("name", .text "Acme"), ("licence", .text "A1")]

end Licence

/-! ## What an evaluation depends on -/

/-- An evaluation depends only on what its trace shows: the branches not taken may be replaced by any nodes, and the facts not
looked at may change. All facts looked at are among the fact paths of the tree. -/
theorem evaluate_eq_of_regrafted {tree : Node} {facts : Value} {e : Evaluation} (h : tree.evaluate facts = .ok e) :
    (∀ tree' facts', tree.Regrafted e.trace tree' →
      (∀ step ∈ e.trace, facts'.factAt step.fact = facts.factAt step.fact) → tree'.evaluate facts' = .ok e) ∧
    ∀ step ∈ e.trace, step.fact ∈ tree.factPaths :=
  ⟨fun _ _ htree hfacts => Evaluation.evaluateFrom_of_regrafted htree h rfl hfacts,
    fun step hs => Node.mem_factPaths.2 (Evaluation.exists_condition_of_mem_trace tree h step hs)⟩

/-- A full licence is granted as before by the rerouted tree, whatever its holder is named. -/
theorem evaluate_eq_of_regrafted_licence :
    Licence.tree.evaluate Licence.full = .ok Licence.granted ∧
      Licence.tree.Regrafted Licence.granted.trace Licence.rerouted ∧
      (∀ step ∈ Licence.granted.trace, Licence.fullAndNamed.factAt step.fact = Licence.full.factAt step.fact) ∧
      Licence.rerouted.evaluate Licence.fullAndNamed = .ok Licence.granted := by
  have regrafted : Licence.tree.Regrafted Licence.granted.trace Licence.rerouted :=
    .whenTrue rfl (.whenTrue rfl (.leaf _) _ _) _ _
  have facts : ∀ step ∈ Licence.granted.trace, Licence.fullAndNamed.factAt step.fact = Licence.full.factAt step.fact := by
    intro step hs
    simp only [Licence.granted, List.mem_cons, List.not_mem_nil, or_false] at hs
    rcases hs with rfl | rfl <;> rfl
  exact ⟨Licence.evaluate_full, regrafted, facts,
    (evaluate_eq_of_regrafted Licence.evaluate_full).1 _ _ regrafted facts⟩

end RegulatoryTrees
