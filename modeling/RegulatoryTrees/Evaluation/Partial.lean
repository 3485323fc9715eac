import RegulatoryTrees.Evaluation
import RegulatoryTrees.Tree.Walk

/-!
# Evaluation with facts still unknown

Where a fact is missing, both branches of a condition are explored, except that a missing fact is an answer to the operators
that test presence. The outcome is every leaf that can still be reached and the facts that would narrow them down. The
branches still to be explored are kept on a stack.
-/

namespace RegulatoryTrees

/-- The outcome of an evaluation with facts still unknown. -/
structure PartialEvaluation where
  leaves : List Leaf
  /-- The missing facts that the leaves depend on, each once. -/
  missing : List String
  /-- The steps before the first condition that could not be decided. -/
  trace : List Step
  diagnostics : List Diagnostic
  deriving BEq

namespace PartialEvaluation

/-- The known facts already select a single leaf. -/
def isDeterminate (e : PartialEvaluation) : Bool := e.leaves.length == 1 && e.missing.isEmpty

/-- A node still to be explored, with its depth and the missing facts on the way to it. -/
structure Frame where
  node : Node
  depth : Nat
  missing : List String

/-- The values of the second list that the first does not hold are put after it, each once. -/
def union (xs ys : List String) : List String :=
  ys.foldl (fun done y => if done.contains y then done else done ++ [y]) xs

/-- What has been found so far; leaves, steps and diagnostics come last one first. -/
structure Findings where
  leaves : List Leaf := []
  missing : List String := []
  trace : List Step := []
  diagnostics : List Diagnostic := []
  branched : Bool := false

namespace Findings

/-- The findings as an outcome. -/
def outcome (s : Findings) : PartialEvaluation := ⟨s.leaves.reverse, s.missing, s.trace.reverse, s.diagnostics.reverse⟩

/-- A failure after the findings. -/
def fail (s : Findings) (f : Evaluation.Failure) : Evaluation.Failure := f.after s.diagnostics.reverse

/-- One more leaf. -/
def addLeaf (s : Findings) (l : Leaf) (missing : List String) : Findings :=
  { s with leaves := l :: s.leaves, missing := union s.missing missing }

end Findings

/-- A missing fact leaves a condition undecided, unless its operator tests presence. -/
def isUndecided (c : Condition) (fact : Value) : Bool := fact.isMissing && !(c.operator?.any Operator.testsPresence)

/-- Whether a condition that can be decided holds, and the findings with its diagnostics and, before any branching, its step. -/
def decideBranch (s : Findings) (header : Header) (c : Condition) (fact : Value) (depth : Nat) :
    Except Evaluation.Failure (Bool × Findings) := do
  let seen ← (Evaluation.observe header c fact).mapError s.fail
  let after := { s with diagnostics := seen.diagnostics.reverse ++ s.diagnostics }
  if s.branched then return (seen.holds, after)
  else
    let step ← (Evaluation.stepOf header c fact depth seen).mapError s.fail
    return (seen.holds, { after with trace := step :: s.trace })

/-- The number of nodes at and below the nodes of a stack. -/
def pending : List Frame → Nat
  | [] => 0
  | f :: rest => f.node.size + pending rest

/-- Explore the nodes of a stack, the top one first. -/
def explore (facts : Value) (s : Findings) (stack : List Frame) : Except Evaluation.Failure Findings :=
  match stack with
  | [] => .ok s
  | ⟨.leaf l, _, missing⟩ :: rest => explore facts (s.addLeaf l missing) rest
  | ⟨.condition header c _ whenTrue whenFalse, depth, missing⟩ :: rest => do
    let fact ← (c.factIn facts).mapError fun e => s.fail (.ofCondition [] e)
    if isUndecided c fact then
      let missing := union missing [c.fact]
      explore facts { s with branched := true } (⟨whenTrue, depth + 1, missing⟩ :: ⟨whenFalse, depth + 1, missing⟩ :: rest)
    else
      let (holds, s) ← decideBranch s header c fact depth
      if holds then explore facts s (⟨whenTrue, depth + 1, missing⟩ :: rest)
      else explore facts s (⟨whenFalse, depth + 1, missing⟩ :: rest)
  | ⟨.group header _ _ _, _, _⟩ :: _ => .error (s.fail ⟨.notEvaluable header.id .group, []⟩)
  | ⟨.router header _, _, _⟩ :: _ => .error (s.fail ⟨.notEvaluable header.id .router, []⟩)
  | ⟨.anchor header _ _, _, _⟩ :: _ => .error (s.fail ⟨.notEvaluable header.id .anchor, []⟩)
termination_by pending stack
decreasing_by all_goals simp [pending, Node.size] <;> omega

/-- The warnings of an evaluation with facts still unknown. -/
def notices : Except Evaluation.Failure PartialEvaluation → List Notice
  | .ok e => e.diagnostics.filterMap Diagnostic.notice?
  | .error f => f.diagnostics.filterMap Diagnostic.notice?

end PartialEvaluation

/-- Evaluate a tree with facts that may be incomplete. -/
def Node.evaluatePartial (tree : Node) (facts : Value) : Except Evaluation.Failure PartialEvaluation :=
  PartialEvaluation.Findings.outcome <$> PartialEvaluation.explore facts {} [⟨tree, 0, []⟩]

end RegulatoryTrees
