import Mathlib.Data.List.Forall2
import RegulatoryTrees.Proofs.Partial.Exploration

/-!
# The trace as a replay of the decision

The path through a tree that some facts choose is defined without a trace, by what each condition comes to on the facts alone
(`Node.junctions`, `Node.terminus`). If the conditions on the path can be put in words, an evaluation records them one by one,
with all that there is to tell of them, and gives the leaf in which the path ends, or fails at the node in which it ends. If one
of them cannot, the evaluation fails there, wherever the path leads (`evaluate_eq_replay`).
-/

namespace RegulatoryTrees

open Evaluation PartialEvaluation

/-! ## The path that facts choose -/

/-- A condition holds of a bag of facts. -/
def Condition.holdsOn (c : Condition) (facts : Value) : Bool :=
  match c.evaluate facts with
  | .ok o => o.holds
  | .error _ => false

/-- A condition and what its node has besides. -/
structure Junction where
  header : Header
  condition : Condition

namespace Junction

/-- The condition gives an answer on some facts. -/
def Answers (facts : Value) (j : Junction) : Prop := ∃ o, j.condition.evaluate facts = .ok o

/-- The condition can be put in words. -/
def Renders (j : Junction) : Prop := ∃ text, j.condition.describe = .ok text

/-- A step of a trace tells of a condition at a depth what it comes to on some facts. -/
structure Records (facts : Value) (j : Junction) (depth : Nat) (step : Step) : Prop where
  depth : step.depth = depth
  nodeId : step.nodeId = j.header.id
  source : step.source = j.header.source
  fact : step.fact = j.condition.fact
  op : step.op = j.condition.op
  expected : step.expected = j.condition.value
  condition : j.condition.describe = .ok step.condition
  holds : ∃ o, j.condition.evaluate facts = .ok o ∧ step.holds = o.holds
  value : ∃ fact, facts.factAt j.condition.fact = .ok fact ∧ step.present = !fact.isMissing ∧
    step.value = if fact.isMissing then .null else fact

end Junction

namespace Node

/-- The conditions on the path from a node: from each it goes to the branch for a condition that holds if the condition holds of
the facts, else to the other. -/
def junctions (facts : Value) : Node → List Junction
  | .condition header c _ whenTrue whenFalse =>
    ⟨header, c⟩ :: if c.holdsOn facts then junctions facts whenTrue else junctions facts whenFalse
  | _ => []

/-- The node in which the path ends. -/
def terminus (facts : Value) : Node → Node
  | .condition _ c _ whenTrue whenFalse => if c.holdsOn facts then terminus facts whenTrue else terminus facts whenFalse
  | n => n

end Node

/-! ## One condition -/

section Condition

variable {facts : Value} {c : Condition} {o : Condition.Outcome}

/-- A condition holds on facts if that is what it comes to. -/
theorem Condition.holdsOn_eq (h : c.evaluate facts = .ok o) : c.holdsOn facts = o.holds := by
  rw [Condition.holdsOn, h]

/-- A condition answers when its fact can be looked up and its operator applied. -/
theorem Condition.evaluate_eq_ok : c.evaluate facts = .ok o ↔ ∃ fact, c.factIn facts = .ok fact ∧ c.apply fact = .ok o :=
  Except.bind_eq_ok

/-- The fact of a condition is the one at its path. -/
theorem Condition.factIn_eq_ok {fact : Value} : c.factIn facts = .ok fact ↔ facts.factAt c.fact = .ok fact :=
  Except.mapError_eq_ok

/-- The step of a condition that was observed records it. -/
theorem Junction.records_of_stepOf {header : Header} {fact : Value} {depth : Nat} {step : Step} (ho : c.evaluate facts = .ok o)
    (hfact : c.factIn facts = .ok fact) {ds : List Diagnostic} (hstep : stepOf header c fact depth ⟨o.holds, ds⟩ = .ok step) :
    Junction.Records facts ⟨header, c⟩ depth step := by
  obtain ⟨text, htext, hstep⟩ := Except.bind_eq_ok.1 hstep
  cases hstep
  exact ⟨rfl, rfl, rfl, rfl, rfl, rfl, Except.mapError_eq_ok.1 htext, ⟨o, ho, rfl⟩,
    ⟨fact, Condition.factIn_eq_ok.1 hfact, rfl, rfl⟩⟩

/-- At a condition that answers and can be put in words, an evaluation records it and goes on with the branch for its answer. -/
theorem evaluateFrom_of_renders {header : Header} (ho : c.evaluate facts = .ok o) (htext : Junction.Renders ⟨header, c⟩)
    (depth : Nat) (note : Option String) (whenTrue whenFalse : Node) :
    ∃ step ds, Junction.Records facts ⟨header, c⟩ depth step ∧
      evaluateFrom facts depth (.condition header c note whenTrue whenFalse) =
        resume step ds (evaluateFrom facts (depth + 1) (if o.holds then whenTrue else whenFalse)) := by
  obtain ⟨fact, hfact, happly⟩ := Condition.evaluate_eq_ok.1 ho
  obtain ⟨text, htext⟩ := htext
  have hseen : observe header c fact = .ok ⟨o.holds, (c.diagnostic? (some header.id) o).toList⟩ :=
    observe_eq_ok.2 ⟨o, happly, rfl⟩
  obtain ⟨step, hstep⟩ := stepOf_eq_ok htext header fact depth ⟨o.holds, (c.diagnostic? (some header.id) o).toList⟩
  refine ⟨step, (c.diagnostic? (some header.id) o).toList, Junction.records_of_stepOf ho hfact hstep, ?_⟩
  rw [evaluateFrom_condition hfact hseen, hstep, Except.ok_bind]

/-- At a condition that answers and cannot be put in words, an evaluation fails. -/
theorem evaluateFrom_of_not_renders {header : Header} (ho : c.evaluate facts = .ok o)
    (htext : ¬Junction.Renders ⟨header, c⟩) (depth : Nat) (note : Option String) (whenTrue whenFalse : Node) :
    ∃ cause ds, evaluateFrom facts depth (.condition header c note whenTrue whenFalse) =
      .error ⟨.condition (.rendering cause), ds⟩ := by
  obtain ⟨fact, hfact, happly⟩ := Condition.evaluate_eq_ok.1 ho
  have hseen : observe header c fact = .ok ⟨o.holds, (c.diagnostic? (some header.id) o).toList⟩ :=
    observe_eq_ok.2 ⟨o, happly, rfl⟩
  obtain ⟨cause, hstep⟩ := stepOf_eq_error htext header fact depth ⟨o.holds, (c.diagnostic? (some header.id) o).toList⟩
  exact ⟨cause, _, by rw [evaluateFrom_condition hfact hseen, hstep]; rfl⟩

end Condition

namespace Node

section Junctions

variable {facts : Value} {header : Header} {c : Condition} {o : Condition.Outcome} {note : Option String}
  {whenTrue whenFalse : Node}

/-- The path goes on with the branch for the answer of its first condition. -/
theorem junctions_condition (h : c.evaluate facts = .ok o) :
    (Node.condition header c note whenTrue whenFalse).junctions facts =
      ⟨header, c⟩ :: (if o.holds then whenTrue else whenFalse).junctions facts := by
  rw [junctions, Condition.holdsOn_eq h]
  cases o.holds <;> rfl

/-- A condition leads to where the branch leads that its answer chooses. -/
theorem terminus_condition (h : c.evaluate facts = .ok o) :
    (Node.condition header c note whenTrue whenFalse).terminus facts =
      (if o.holds then whenTrue else whenFalse).terminus facts := by
  rw [terminus, Condition.holdsOn_eq h]
  cases o.holds <;> rfl

end Junctions

end Node

/-! ## The whole path -/

/-- What an evaluation comes to if it records all conditions on the path from a node at a depth: the leaf in which the path ends,
with one step for each condition, or the failure at another node in which it ends. -/
structure Replays (facts : Value) (depth : Nat) (n : Node) (outcome : Except Failure Evaluation) : Prop where
  leaf : ∀ l, n.terminus facts = .leaf l → ∃ e, outcome = .ok e ∧ e.leaf = l ∧
    List.Forall₂ (fun met step => met.1.Records facts met.2 step) ((n.junctions facts).zipIdx depth) e.trace
  other : (∀ l, n.terminus facts ≠ .leaf l) →
    ∃ ds, outcome = .error ⟨.notEvaluable (n.terminus facts).id (n.terminus facts).kind, ds⟩

namespace Replays

variable {facts : Value} {depth : Nat}

/-- A node that is no condition is where the path ends. -/
theorem of_terminus {n : Node} (hjunctions : n.junctions facts = []) (hterminus : n.terminus facts = n) :
    Replays facts depth n (evaluateFrom facts depth n) := by
  cases n with
  | condition => cases hjunctions
  | leaf l => exact ⟨fun _ hl => ⟨⟨l, [], []⟩, rfl, Node.leaf.inj hl, .nil⟩, fun hne => absurd rfl (hne l)⟩
  | group | router | anchor =>
    refine ⟨fun l hl => ?_, fun _ => ⟨[], rfl⟩⟩
    rw [hterminus] at hl
    cases hl

/-- What follows a condition is recorded after it. -/
theorem resume {header : Header} {c : Condition} {o : Condition.Outcome} {note : Option String} {whenTrue whenFalse : Node}
    {step : Step} {ds : List Diagnostic} {rest : Except Failure Evaluation} (ho : c.evaluate facts = .ok o)
    (hstep : Junction.Records facts ⟨header, c⟩ depth step)
    (hrest : Replays facts (depth + 1) (if o.holds then whenTrue else whenFalse) rest) :
    Replays facts depth (.condition header c note whenTrue whenFalse) (resume step ds rest) := by
  constructor
  · intro l hl
    rw [Node.terminus_condition ho] at hl
    obtain ⟨e, rfl, hleaf, htrace⟩ := hrest.leaf l hl
    refine ⟨afterStep step ds e, rfl, hleaf, ?_⟩
    rw [Node.junctions_condition ho, List.zipIdx_cons]
    exact .cons hstep htrace
  · intro hne
    rw [Node.terminus_condition ho] at hne ⊢
    obtain ⟨ds', rfl⟩ := hrest.other hne
    exact ⟨_, rfl⟩

end Replays

/-- An evaluation records all conditions on the path if they answer and can be put in words. -/
theorem replays_evaluateFrom (facts : Value) (n : Node) : ∀ depth, (∀ j ∈ n.junctions facts, j.Answers facts) →
    (∀ j ∈ n.junctions facts, j.Renders) → Replays facts depth n (evaluateFrom facts depth n) := by
  intro depth hanswers hrenders
  match n with
  | .condition header c note whenTrue whenFalse =>
    obtain ⟨o, ho⟩ := hanswers ⟨header, c⟩ List.mem_cons_self
    obtain ⟨step, ds, hstep, heq⟩ :=
      evaluateFrom_of_renders ho (hrenders ⟨header, c⟩ List.mem_cons_self) depth note whenTrue whenFalse
    rw [Node.junctions_condition ho] at hanswers hrenders
    rw [heq]
    refine .resume ho hstep ?_
    have hanswers := fun j hj => hanswers j (List.mem_cons_of_mem _ hj)
    have hrenders := fun j hj => hrenders j (List.mem_cons_of_mem _ hj)
    cases hholds : o.holds with
    | false =>
      simp only [hholds, Bool.false_eq_true, if_false] at hanswers hrenders ⊢
      exact replays_evaluateFrom facts whenFalse (depth + 1) hanswers hrenders
    | true =>
      simp only [hholds, if_true] at hanswers hrenders ⊢
      exact replays_evaluateFrom facts whenTrue (depth + 1) hanswers hrenders
  | .leaf _ | .group _ _ _ _ | .router _ _ | .anchor _ _ _ => exact .of_terminus rfl rfl

/-- An evaluation fails at the first condition on the path that cannot be put in words, if all of them answer. -/
theorem evaluateFrom_unrendered (facts : Value) (n : Node) : ∀ depth, (∀ j ∈ n.junctions facts, j.Answers facts) →
    (∃ j ∈ n.junctions facts, ¬j.Renders) →
      ∃ cause ds, evaluateFrom facts depth n = .error ⟨.condition (.rendering cause), ds⟩ := by
  intro depth hanswers hunrendered
  match n with
  | .condition header c note whenTrue whenFalse =>
    obtain ⟨o, ho⟩ := hanswers ⟨header, c⟩ List.mem_cons_self
    by_cases htext : Junction.Renders ⟨header, c⟩
    · obtain ⟨step, ds, -, heq⟩ := evaluateFrom_of_renders ho htext depth note whenTrue whenFalse
      rw [Node.junctions_condition ho] at hanswers hunrendered
      have hanswers := fun j hj => hanswers j (List.mem_cons_of_mem _ hj)
      have hbelow : ∃ j ∈ (if o.holds then whenTrue else whenFalse).junctions facts, ¬j.Renders := by
        obtain ⟨j, hj, hnot⟩ := hunrendered
        rcases List.mem_cons.1 hj with rfl | hj
        · exact absurd htext hnot
        · exact ⟨j, hj, hnot⟩
      have hrest : ∃ cause ds, evaluateFrom facts (depth + 1) (if o.holds then whenTrue else whenFalse) =
          .error ⟨.condition (.rendering cause), ds⟩ := by
        cases hholds : o.holds with
        | false =>
          simp only [hholds, Bool.false_eq_true, if_false] at hanswers hbelow ⊢
          exact evaluateFrom_unrendered facts whenFalse (depth + 1) hanswers hbelow
        | true =>
          simp only [hholds, if_true] at hanswers hbelow ⊢
          exact evaluateFrom_unrendered facts whenTrue (depth + 1) hanswers hbelow
      obtain ⟨cause, ds', hrest⟩ := hrest
      rw [heq]
      exact ⟨cause, _, resume_eq_error.2 ⟨_, hrest, rfl⟩⟩
    · exact evaluateFrom_of_not_renders ho htext depth note whenTrue whenFalse
  | .leaf _ | .group _ _ _ _ | .router _ _ | .anchor _ _ _ =>
    obtain ⟨j, hj, -⟩ := hunrendered
    exact absurd hj List.not_mem_nil

/-- If the conditions on the path that the facts choose answer and can be put in words, an evaluation whose path ends in a leaf
gives that leaf and a trace of one step for each condition, at the depth of its place; if the path ends in another node, it fails
at exactly that node. If one of the conditions cannot be put in words, the evaluation fails for that reason. -/
theorem evaluate_eq_replay {facts : Value} {tree : Node} (h : ∀ j ∈ tree.junctions facts, j.Answers facts) :
    ((∀ j ∈ tree.junctions facts, j.Renders) →
      (∀ l, tree.terminus facts = .leaf l → ∃ e, tree.evaluate facts = .ok e ∧ e.leaf = l ∧
        List.Forall₂ (fun met step => met.1.Records facts met.2 step) (tree.junctions facts).zipIdx e.trace) ∧
      ((∀ l, tree.terminus facts ≠ .leaf l) → ∃ ds,
        tree.evaluate facts = .error ⟨.notEvaluable (tree.terminus facts).id (tree.terminus facts).kind, ds⟩)) ∧
    ((∃ j ∈ tree.junctions facts, ¬j.Renders) →
      ∃ cause ds, tree.evaluate facts = .error ⟨.condition (.rendering cause), ds⟩) := by
  refine ⟨fun hrenders => ?_, evaluateFrom_unrendered facts tree 0 h⟩
  have hreplays := replays_evaluateFrom facts tree 0 h hrenders
  exact ⟨hreplays.leaf, hreplays.other⟩

/-- A licence whose kind is not known is limited, after its two conditions are recorded, the second with a fact that is missing. -/
theorem evaluate_eq_replay_licence :
    ((∀ j ∈ Licence.tree.junctions Licence.known, j.Answers Licence.known) ∧
      ∀ j ∈ Licence.tree.junctions Licence.known, j.Renders) ∧
    (∃ l, Licence.tree.terminus Licence.known = .leaf l) ∧
    ∃ e, Licence.tree.evaluate Licence.known = .ok e ∧ e.leaf = Licence.leaf "limit" .requiresAction ∧ e.trace.length = 2 := by
  have hjunctions : Licence.tree.junctions Licence.known =
      [⟨Licence.header "licensed", ⟨"licence", "some?", .null⟩⟩,
        ⟨Licence.header "unlimited", ⟨"kind", "eq", .text "full"⟩⟩] := rfl
  have hanswers : ∀ j ∈ Licence.tree.junctions Licence.known, j.Answers Licence.known := by
    intro j hj
    rw [hjunctions, List.mem_pair] at hj
    rcases hj with rfl | rfl <;> exact ⟨_, rfl⟩
  have hrenders : ∀ j ∈ Licence.tree.junctions Licence.known, j.Renders := by
    intro j hj
    rw [hjunctions, List.mem_pair] at hj
    rcases hj with rfl | rfl <;> exact ⟨_, rfl⟩
  obtain ⟨e, he, hleaf, htrace⟩ := ((evaluate_eq_replay hanswers).1 hrenders).1 _ rfl
  refine ⟨⟨hanswers, hrenders⟩, ⟨_, rfl⟩, e, he, hleaf, ?_⟩
  rw [← htrace.length_eq, List.length_zipIdx, hjunctions]
  rfl

/-- The only condition answers and the path ends in the router for a condition that does not hold, yet the failure is not about
the router: the condition before it has a value that cannot be written. -/
theorem evaluate_dateKey :
    (∀ j ∈ Dated.tree.junctions Dated.facts, j.Answers Dated.facts) ∧
      Dated.tree.terminus Dated.facts = .router (Licence.header "out") [] ∧
      Dated.tree.evaluate Dated.facts = .error ⟨.condition (.rendering (.unwritableKey "date")), []⟩ ∧
      ∀ ds, Dated.tree.evaluate Dated.facts ≠ .error ⟨.notEvaluable "out" .router, ds⟩ := by
  have hfailure : Dated.tree.evaluate Dated.facts = .error ⟨.condition (.rendering (.unwritableKey "date")), []⟩ := rfl
  refine ⟨?_, rfl, hfailure, ?_⟩
  · intro j hj
    rw [List.mem_singleton.1 hj]
    exact ⟨_, rfl⟩
  · intro ds
    rw [hfailure]
    exact nofun

end RegulatoryTrees
