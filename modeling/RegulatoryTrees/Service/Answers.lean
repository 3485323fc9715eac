import RegulatoryTrees.Conflict.Detection
import RegulatoryTrees.Conflict.Merging
import RegulatoryTrees.Evaluation.Partial
import RegulatoryTrees.Format.Writing
import RegulatoryTrees.Graph
import RegulatoryTrees.Service.Body
import RegulatoryTrees.Service.Endpoint
import RegulatoryTrees.Service.State

/-!
# The answers of the service

What the service answers at each of its endpoints.
-/

namespace RegulatoryTrees

namespace Handling

/-- The refusal of an evaluation that failed: a tree that cannot be evaluated is told, anything else breaks the handling
down. -/
def evaluationRefusal (f : Evaluation.Failure) : Response :=
  match f.cause with
  | .notEvaluable _ _ => .refusal 422 f.cause.message
  | .condition _ => .breakdown

/-- The refusal of a rule that is not there. -/
def ruleNotFound (id : String) : Response := .refusal 404 ("Rule not found: " ++ id)

/-- The rule with an identifier. -/
def ruleOf (id : String) : Handling Rule := do
  match (← registry).get? id with
  | some r => return r
  | none => stop (ruleNotFound id)

/-- The tree that a question is about, with the identifier of its rule if it is that of a rule. -/
def treeOf (subject : Subject) : Handling (Node × Option String) := do
  match subject.ruleId, subject.tree with
  | some id, _ =>
    let r ← ruleOf id
    return (r.tree, some r.id)
  | none, some tree => return (tree, none)
  | none, none => stop (.refusal 422 "Provide either rule_id or tree")

/-- Evaluate a tree; under a key the cache may answer. -/
def evaluation (key : Option String) (tree : Node) (facts : Value) : Handling Evaluation := do
  let outcome ← match key with
    | some key => askCache fun cache => cache.evaluate key tree facts
    | none => do
      let outcome := tree.evaluate facts
      note (Evaluation.notices tree.id outcome)
      pure outcome
  orStop (outcome.mapError evaluationRefusal)

/-! ## Trees -/

/-- Evaluate a tree. -/
def evaluate (q : EvaluationQuestion) : Handling Response := do
  let (tree, ruleId) ← treeOf q.subject
  let settings := (← current).settings
  let e ← evaluation (if q.useCache && settings.cacheEnabled then ruleId else none) tree q.facts
  return .ok (.record [("rule_id", Format.optionalText ruleId), ("result", e.write)])

/-- Evaluate a tree as far as the facts are known. -/
def evaluatePartial (q : EvaluationQuestion) : Handling Response := do
  let (tree, ruleId) ← treeOf q.subject
  let outcome := tree.evaluatePartial q.facts
  note (PartialEvaluation.notices outcome)
  let e ← orStop (outcome.mapError evaluationRefusal)
  return .ok (.record [("rule_id", Format.optionalText ruleId), ("result", e.write),
    ("determinate", .bool e.isDeterminate)])

/-- Draw a tree with some of its nodes highlighted. -/
def draw (tree : Node) (highlighted : List String) : Handling Response := do
  let settings := (← current).settings
  match (Layout.ofTree settings.drawing highlighted tree).bind Layout.write with
  | .ok (.mapping entries) =>
    return .ok (.mapping (entries ++ [(.text "highlighted", Format.texts highlighted.mergeSort)]))
  | _ => return .breakdown

/-- Draw a tree with the path for the facts highlighted. -/
def layout (q : LayoutQuestion) : Handling Response := do
  let (tree, _) ← treeOf q.subject
  let highlighted ← match q.facts with
    | some facts => Evaluation.pathIds <$> evaluation none tree facts
    | none => pure []
  draw tree highlighted

/-! ## Rules -/

/-- A rule in short. -/
def ruleSummary (r : Rule) : Value := .record [
  ("rule_id", .text r.id),
  ("name", .text r.name),
  ("version", .text r.version),
  ("jurisdiction", .text r.metadata.jurisdiction),
  ("framework", .text r.metadata.framework),
  ("description", Format.optionalText r.description),
  ("tags", Format.texts r.metadata.tags)]

/-- The rules in use, or those of a jurisdiction. -/
def listRules (target : Target) : Handling Response := do
  let g ← registry
  let jurisdiction := (target.parameter? "jurisdiction").getD ""
  let rules := if jurisdiction.isEmpty then g.rules else g.ofJurisdiction jurisdiction
  return .ok (.record [("rules", .list (rules.map ruleSummary)), ("total", .int rules.length)])

/-- A rule with the facts it asks for and the numbers of its nodes. -/
def rule (id : String) : Handling Response := do
  let r ← ruleOf id
  return .ok (.record [("rule", r.write {}), ("fact_paths", Format.texts r.tree.factPaths),
    ("node_counts", r.tree.counts.write), ("node_total", .int r.tree.counts.total)])

/-- The graph of a rule as a text. -/
def ruleGraph (id : String) (target : Target) : Handling Response := do
  let format := (target.parameter? "format").getD "dot"
  if format ≠ "dot" && format ≠ "mermaid" then
    return .invalid [⟨[.key "query", .key "format"], .notLiteral ["dot", "mermaid"], .text format⟩]
  else
    let r ← ruleOf id
    match Graph.ofTree r.tree with
    | .error _ => return .breakdown
    | .ok g =>
      let source := if format = "dot" then g.dot ⟨[], []⟩ else g.mermaid
      return .ok (.record [("rule_id", .text r.id), ("format", .text format), ("source", .text source)])

/-- Load the rules anew and forget all evaluations. -/
def reload : Handling Response := do
  change fun s => { s with registry := none }
  let forgotten ← askCache EvaluationCache.clear
  let g ← registry
  return .ok (.record [("status", .text "reloaded"), ("rules_loaded", .int g.rules.length),
    ("cache_entries_cleared", .int forgotten)])

/-! ## Conflicts -/

/-- The verdict of a case. -/
def verdict (c : Case) : Handling Verdict := do
  let r ← ruleOf c.ruleId
  let settings := (← current).settings
  let e ← evaluation (if settings.cacheEnabled then some r.id else none) r.tree c.facts
  return .ofEvaluation r e

/-- The verdicts of cases. -/
def verdicts : List Case → Handling (List Verdict)
  | [] => return []
  | c :: rest => do
    let first ← verdict c
    let others ← verdicts rest
    return first :: others

/-- The notice that conflicts have been found. -/
def conflictNotice (vs : List Verdict) (found : List Conflict) : List Notice :=
  if found.isEmpty then []
  else [⟨.info, "compliance_engine.core.api.routes_conflicts",
    "Found " ++ Decimal.ofNat found.length ++ " conflict(s) across " ++ String.intercalate ", " (vs.map Verdict.jurisdiction)⟩]

/-- A verdict as a record. -/
def verdictRecord (v : Verdict) : Value := .record [
  ("rule_id", .text v.ruleId),
  ("jurisdiction", .text v.jurisdiction),
  ("leaf_id", .text v.leaf.id),
  ("decision", .text v.leaf.decision),
  ("status", .text v.leaf.status.name),
  ("obligations", Format.texts v.leaf.obligations)]

/-- Evaluate rules and hold their outcomes against each other. -/
def conflicts (q : ConflictQuestion) : Handling Response := do
  let _ ← registry
  let vs ← verdicts q.cases
  let merged ← orStop ((Verdict.mergeObligations q.resolution vs).mapError fun e => .refusal 422 e.message)
  let found ← orStop ((Verdict.conflicts q.includeDecisions vs).mapError fun _ => .breakdown)
  note (Verdict.notices vs found ++ conflictNotice vs found)
  return .ok (.record [("outcomes", .list (vs.map verdictRecord)), ("conflicts", .list (found.map Conflict.write)),
    ("merged_obligations", Format.texts merged), ("strategy", .text q.resolution.name)])

/-! ## The cache -/

/-- The state of the cache. -/
def cacheStats : Handling Response := do
  let s ← current
  return .ok (.record [("enabled", .bool s.settings.cacheEnabled), ("stats", s.cache.write)])

/-- Forget all evaluations. -/
def clearCache : Handling Response := do
  let forgotten ← askCache EvaluationCache.clear
  return .ok (.record [("status", .text "cleared"), ("entries_cleared", .int forgotten)])

/-- Forget the evaluation under a key. -/
def forget (key : String) : Handling Response := do
  if ← askCache (·.invalidate key) then
    return .ok (.record [("status", .text "invalidated"), ("key", .text key)])
  else
    return .refusal 404 ("No cached evaluation for: " ++ key)

/-! ## All endpoints -/

/-- What there is to ask for. -/
def welcome : Handling Response := do
  return .ok (.record [
    ("name", .text (← current).settings.appName),
    ("version", .text Service.version),
    ("endpoints", .record [
      ("evaluate", .text "/evaluate - Evaluate facts against a rule tree"),
      ("partial", .text "/evaluate/partial - Reachable outcomes for incomplete facts"),
      ("rules", .text "/rules - Rule inspection"),
      ("layout", .text "/layout - Canvas layout with highlighted evaluation path"),
      ("conflicts", .text "/conflicts - Cross-jurisdiction conflict detection"),
      ("cache", .text "/cache/* - Evaluation cache statistics and control")])])

/-- The answer to a request at an endpoint. -/
def answer (r : Request) : Endpoint → Handling Response
  | .welcome => welcome
  | .health => return .ok (.record [("status", .text "healthy")])
  | .evaluate => do evaluate (← orStop (r.question Format.evaluationQuestion))
  | .evaluatePartial => do evaluatePartial (← orStop (r.question Format.evaluationQuestion))
  | .listRules => listRules r.target
  | .rule id => rule id
  | .ruleGraph id => ruleGraph id r.target
  | .reload => reload
  | .layout => do layout (← orStop (r.question Format.layoutQuestion))
  | .conflicts => do conflicts (← orStop (r.question Format.conflictQuestion))
  | .cacheStats => cacheStats
  | .clearCache => clearCache
  | .forget key => forget key

end Handling

end RegulatoryTrees
