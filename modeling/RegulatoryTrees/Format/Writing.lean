import RegulatoryTrees.Conflict
import RegulatoryTrees.Evaluation.Cache
import RegulatoryTrees.Evaluation.Partial

/-!
# Writing trees, rules and outcomes

The records that trees, rules and outcomes of evaluations are written as. Every field is written, with null or an empty list
where there is nothing.
-/

namespace RegulatoryTrees

namespace Format

/-- How records are written: which spelling their keys have, and whether fields that are null are written. -/
structure Style where
  camel : Bool := true
  nulls : Bool := true

namespace Style

/-- The key of a field with two spellings. -/
def key (style : Style) (camel snake : String) : String := if style.camel then camel else snake

/-- A field that is null. -/
def isNull : Value → Bool
  | .null => true
  | _ => false

/-- A record of fields. -/
def fields (style : Style) (entries : List (String × Value)) : Value :=
  .record (if style.nulls then entries else entries.filter fun entry => !isNull entry.2)

end Style

/-- A text that may be missing. -/
def optionalText (s : Option String) : Value := s.elim .null .text

/-- A list of texts. -/
def texts (xs : List String) : Value := .list (xs.map .text)

end Format

open Format

/-- A source reference as a record. -/
def SourceRef.write (style : Style) (s : SourceRef) : Value := style.fields [
  ("document_id", .text s.documentId),
  ("article", optionalText s.article),
  ("section", optionalText s.section),
  ("paragraphs", texts s.paragraphs),
  ("pages", .list (s.pages.map .int)),
  ("url", optionalText s.url)]

/-- A scope as a record. -/
def Scope.write (style : Style) (s : Scope) : Value := style.fields [
  ("jurisdictions", texts s.jurisdictions),
  ("roles", texts s.roles)]

/-- A condition as a record. -/
def Condition.write (style : Style) (c : Condition) : Value := style.fields [
  ("fact", .text c.fact),
  ("op", .text c.op),
  ("value", c.value)]

/-- The fields that nodes of all kinds have, with the kind. -/
def Header.write (style : Style) (h : Header) (kind : NodeKind) : List (String × Value) := [
  (style.key "nodeId" "node_id", .text h.id),
  ("label", optionalText h.label),
  (style.key "sourceRef" "source_ref", h.source.elim .null (SourceRef.write style)),
  ("tags", texts h.tags),
  ("scope", h.scope.elim .null (Scope.write style)),
  ("type", .text kind.name)]

/-- A leaf as a record. -/
def Leaf.write (style : Style) (l : Leaf) : Value := style.fields (l.header.write style .leaf ++ [
  ("decision", .text l.decision),
  ("status", .text l.status.name),
  ("obligations", texts l.obligations),
  ("annotation", optionalText l.note)])

/-- A way out of a router as a record. -/
def Route.write (style : Style) (r : Route) : Value := style.fields [
  ("jurisdiction", .text r.jurisdiction),
  ("role", .text r.role.name),
  (style.key "targetNodeId" "target_node_id", .text r.target)]

namespace Node

mutual

/-- A node as a record. -/
def write (style : Style) : Node → Value
  | .condition h c note whenTrue whenFalse => style.fields (h.write style .condition ++ [
      ("condition", c.write style),
      ("children", style.fields [("true", write style whenTrue), ("false", write style whenFalse)]),
      ("annotation", optionalText note)])
  | .leaf l => l.write style
  | .group h members entry exit => style.fields (h.write style .group ++ [
      ("children", .list (writeAll style members)),
      (style.key "entryNodeId" "entry_node_id", .text entry),
      (style.key "exitNodeId" "exit_node_id", optionalText exit)])
  | .router h routes => style.fields (h.write style .router ++ [
      ("branches", .list (routes.map (Route.write style)))])
  | .anchor h conflictId pairedId => style.fields (h.write style .anchor ++ [
      (style.key "conflictId" "conflict_id", .text conflictId),
      (style.key "pairedAnchorId" "paired_anchor_id", .text pairedId)])

/-- Nodes as records. -/
def writeAll (style : Style) : List Node → List Value
  | [] => []
  | n :: rest => write style n :: writeAll style rest

end

end Node

/-- The metadata of a rule as a record, further entries last. -/
def Metadata.write (style : Style) (m : Metadata) : Value :=
  style.fields ([
    ("jurisdiction", .text m.jurisdiction),
    ("framework", .text m.framework),
    (style.key "effectiveDate" "effective_date", optionalText m.effectiveDate),
    (style.key "expiresDate" "expires_date", optionalText m.expiresDate),
    ("tags", texts m.tags)] ++ m.extra)

/-- A rule as a record. -/
def Rule.write (style : Style) (r : Rule) : Value := style.fields [
  ("id", .text r.id),
  ("version", .text r.version),
  ("name", .text r.name),
  ("description", optionalText r.description),
  ("metadata", r.metadata.write style),
  ("tree", r.tree.write style)]

/-- Why a record cannot be handed out. -/
inductive Format.WritingFailure where
  /-- A value contains itself. -/
  | circular

/-- A failure in words. -/
def Format.WritingFailure.message : Format.WritingFailure → String
  | .circular => "Circular reference detected (id repeated)"

/-- A rule as a record to be handed out. -/
def Rule.handOut (r : Rule) : Except Format.WritingFailure Value :=
  let v := r.write {}
  if v.isCyclic then .error .circular else .ok v

/-- A step as a record. -/
def Step.write (s : Step) : Value := .record [
  ("nodeId", .text s.nodeId),
  ("condition", .text s.condition),
  ("factPath", .text s.fact),
  ("factValue", s.value),
  ("factPresent", .bool s.present),
  ("expectedValue", s.expected),
  ("op", .text s.op),
  ("result", .bool s.holds),
  ("depth", .int s.depth),
  ("sourceRef", s.source.elim .null (SourceRef.write {}))]

/-- A diagnostic as a record. -/
def Diagnostic.write (d : Diagnostic) : Value := .record [
  ("kind", .text d.problem.kind.name),
  ("nodeId", optionalText d.nodeId),
  ("factPath", .text d.fact),
  ("op", .text d.op),
  ("message", .text d.message)]

/-- The outcome of an evaluation as a record. -/
def Evaluation.write (e : Evaluation) : Value := .record [
  ("leaf", e.leaf.write {}),
  ("trace", .list (e.trace.map Step.write)),
  ("diagnostics", .list (e.diagnostics.map Diagnostic.write))]

/-- The outcome of an evaluation with facts still unknown as a record. -/
def PartialEvaluation.write (e : PartialEvaluation) : Value := .record [
  ("reachableLeaves", .list (e.leaves.map (Leaf.write {}))),
  ("missingFacts", texts e.missing),
  ("partialTrace", .list (e.trace.map Step.write)),
  ("diagnostics", .list (e.diagnostics.map Diagnostic.write))]

/-- The numbers of nodes as a record. -/
def NodeCounts.write (c : NodeCounts) : Value := .record [
  ("conditions", .int c.conditions),
  ("leaves", .int c.leaves),
  ("groups", .int c.groups),
  ("routers", .int c.routers),
  ("anchors", .int c.anchors)]

/-- The state of a cache as a record. -/
def EvaluationCache.write (c : EvaluationCache) : Value := .record [
  ("size", .int c.size),
  ("keys", texts c.keys),
  ("hits", .int c.hits),
  ("misses", .int c.misses)]

/-- A conflict as a record. -/
def Conflict.write (c : Conflict) : Value := .record [
  ("id", .text c.id),
  ("type", .text c.kind.name),
  ("severity", .text c.severity.name),
  ("jurisdictions", texts [c.first, c.second]),
  ("description", .text c.description),
  ("resolution_strategy", .text c.resolution.name),
  ("resolution_note", optionalText c.note)]

end RegulatoryTrees
