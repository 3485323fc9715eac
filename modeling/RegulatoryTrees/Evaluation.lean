import RegulatoryTrees.Tree

/-!
# Evaluation

A tree is evaluated by following, from its root, the branch that each condition chooses, down to a leaf. The trace holds one
step for each condition met, and the diagnostics what was wrong with some of them.
-/

namespace RegulatoryTrees

/-- One condition met on the way to a leaf. -/
structure Step where
  nodeId : String
  /-- The condition in words. -/
  condition : String
  fact : String
  /-- The value of the fact, null when it is missing. -/
  value : Value
  present : Bool
  expected : Value
  op : String
  holds : Bool
  depth : Nat
  source : Option SourceRef
  deriving BEq

/-- The outcome of an evaluation. -/
structure Evaluation where
  leaf : Leaf
  trace : List Step
  diagnostics : List Diagnostic
  deriving BEq

namespace Evaluation

/-- Why there is no outcome. -/
inductive Cause where
  /-- A node that takes no part in evaluation was reached. -/
  | notEvaluable (nodeId : String) (kind : NodeKind)
  | condition (failure : Condition.Failure)
  deriving DecidableEq

/-- A cause in words. -/
def Cause.message : Cause → String
  | .notEvaluable nodeId kind =>
    "Node '" ++ nodeId ++ "' of type '" ++ kind.name ++
      "' cannot be evaluated; only condition and leaf nodes take part in evaluation"
  | .condition failure => failure.message

/-- A failed evaluation: its cause, and the diagnostics up to it. -/
structure Failure where
  cause : Cause
  diagnostics : List Diagnostic
  deriving DecidableEq

/-- A failure of a condition, after some diagnostics. -/
def Failure.ofCondition (diagnostics : List Diagnostic) (failure : Condition.Failure) : Failure :=
  ⟨.condition failure, diagnostics⟩

/-- What applying a condition of a tree to a fact shows. -/
structure Observation where
  holds : Bool
  diagnostics : List Diagnostic

/-- Apply the condition of a node to its fact. -/
def observe (header : Header) (c : Condition) (fact : Value) : Except Failure Observation := do
  let outcome ← (c.apply fact).mapError (.ofCondition [])
  return ⟨outcome.holds, (c.diagnostic? (some header.id) outcome).toList⟩

/-- The step of a condition that was applied to its fact. -/
def stepOf (header : Header) (c : Condition) (fact : Value) (depth : Nat) (o : Observation) : Except Failure Step := do
  let text ← c.describe.mapError (.ofCondition o.diagnostics)
  return {
    nodeId := header.id
    condition := text
    fact := c.fact
    value := if fact.isMissing then .null else fact
    present := !fact.isMissing
    expected := c.value
    op := c.op
    holds := o.holds
    depth := depth
    source := header.source }

/-- An outcome that comes after one more step. -/
def afterStep (step : Step) (diagnostics : List Diagnostic) (e : Evaluation) : Evaluation :=
  ⟨e.leaf, step :: e.trace, diagnostics ++ e.diagnostics⟩

/-- A failure that comes after some more diagnostics. -/
def Failure.after (diagnostics : List Diagnostic) (f : Failure) : Failure := ⟨f.cause, diagnostics ++ f.diagnostics⟩

/-- Evaluate a node at a depth. -/
def evaluateFrom (facts : Value) (depth : Nat) : Node → Except Failure Evaluation
  | .leaf l => .ok ⟨l, [], []⟩
  | .condition header c _ whenTrue whenFalse => do
    let fact ← (c.factIn facts).mapError (.ofCondition [])
    let seen ← observe header c fact
    let step ← stepOf header c fact depth seen
    let rest := if seen.holds then evaluateFrom facts (depth + 1) whenTrue else evaluateFrom facts (depth + 1) whenFalse
    (rest.map (afterStep step seen.diagnostics)).mapError (.after seen.diagnostics)
  | .group header _ _ _ => .error ⟨.notEvaluable header.id .group, []⟩
  | .router header _ => .error ⟨.notEvaluable header.id .router, []⟩
  | .anchor header _ _ => .error ⟨.notEvaluable header.id .anchor, []⟩

/-- The identifiers of the nodes on the way to the leaf, the leaf included, each once. -/
def pathIds (e : Evaluation) : List String := (e.trace.map Step.nodeId ++ [e.leaf.id]).eraseDups

end Evaluation

/-- Evaluate a tree. -/
def Node.evaluate (tree : Node) (facts : Value) : Except Evaluation.Failure Evaluation :=
  Evaluation.evaluateFrom facts 0 tree

namespace Evaluation

/-- The diagnostics of an evaluation, whether it failed or not. -/
def diagnosticsOf : Except Failure Evaluation → List Diagnostic
  | .ok e => e.diagnostics
  | .error f => f.diagnostics

/-- The notices of an evaluation under a name: its warnings, and in the end the leaf it came to. -/
def notices (name : String) (outcome : Except Failure Evaluation) : List Notice :=
  (diagnosticsOf outcome).filterMap Diagnostic.notice? ++
    match outcome with
    | .ok e =>
      [⟨.debug, "compliance_engine.rules.evaluator",
        "Evaluated " ++ name ++ " -> " ++ e.leaf.id ++ " in " ++ Decimal.ofNat e.trace.length ++ " step(s)"⟩]
    | .error _ => []

end Evaluation

end RegulatoryTrees
