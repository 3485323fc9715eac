import RegulatoryTrees.Format
import RegulatoryTrees.Tree

/-!
# Reading trees and rules

Trees and rules are read from values. Every field may be spelled in camel case or with underscores, the first spelling
winning where both are there, except those of source references, which have underscores only. Unknown fields are ignored,
except in the metadata of rules, where they are kept.
-/

namespace RegulatoryTrees

/-- A value under a key is smaller than its mapping. -/
theorem Value.sizeOf_lookup {entries : List (Scalar × Value)} {key : String} {v : Value}
    (h : Value.lookup entries key = some v) : sizeOf v < sizeOf (Value.mapping entries) := by
  obtain ⟨entry, found, rfl⟩ := Option.map_eq_some_iff.1 h
  have := List.sizeOf_lt_of_mem (List.mem_of_find?_eq_some found)
  obtain ⟨key, value⟩ := entry
  simp at this ⊢
  omega

namespace Format

/-- A field that is found is smaller than the whole. -/
theorem sizeOf_find? {names : FieldNames} {entries : List (Scalar × Value)} {name : String} {v : Value}
    (h : find? names entries = some (name, v)) : sizeOf v < sizeOf (Value.mapping entries) := by
  obtain ⟨other, _, found⟩ := List.exists_of_findSome?_eq_some h
  obtain ⟨w, hw, heq⟩ := Option.map_eq_some_iff.1 found
  obtain ⟨rfl, rfl⟩ := Prod.mk.inj heq
  exact Value.sizeOf_lookup hw

/-! ## Parts of nodes -/

/-- A source reference. -/
def sourceRef (refusal : Refusal) : Value → Checked SourceRef :=
  record refusal "SourceRef" fun entries =>
    let whole := Value.mapping entries
    Checked.and (Checked.and (Checked.and (Checked.and (Checked.and
      (SourceRef.mk <$> required ["document_id"] text whole entries)
      (optional ["article"] (nullable text) none entries))
      (optional ["section"] (nullable text) none entries))
      (optional ["paragraphs"] (list text) [] entries))
      (optional ["pages"] (list integer) [] entries))
      (optional ["url"] (nullable text) none entries)

/-- The jurisdictions and roles of a node. -/
def scope (refusal : Refusal) : Value → Checked Scope :=
  record refusal "NodeScope" fun entries =>
    Checked.and
      (Scope.mk <$> optional ["jurisdictions"] (list text) [] entries)
      (optional ["roles"] (list text) [] entries)

/-- A condition. -/
def condition (refusal : Refusal) : Value → Checked Condition :=
  record refusal "Condition" fun entries =>
    let whole := Value.mapping entries
    Checked.and (Checked.and
      (Condition.mk <$> required ["fact"] text whole entries)
      (required ["op"] text whole entries))
      (optional ["value"] anything .null entries)

/-- The part that nodes of all kinds have. -/
def header (refusal : Refusal) (entries : List (Scalar × Value)) : Checked Header :=
  let whole := Value.mapping entries
  Checked.and (Checked.and (Checked.and (Checked.and
    (Header.mk <$> required ["nodeId", "node_id"] text whole entries)
    (optional ["label"] (nullable text) none entries))
    (optional ["sourceRef", "source_ref"] (nullable (sourceRef refusal)) none entries))
    (optional ["tags"] (list text) [] entries))
    (optional ["scope"] (nullable (scope refusal)) none entries)

/-- A way out of a router. -/
def route (refusal : Refusal) : Value → Checked Route :=
  record refusal "RouterBranch" fun entries =>
    let whole := Value.mapping entries
    Checked.and (Checked.and
      (Route.mk <$> required ["jurisdiction"] text whole entries)
      (required ["role"] (oneOf Role.all Role.name) whole entries))
      (required ["targetNodeId", "target_node_id"] text whole entries)

/-- A leaf, from the fields of its node. -/
def leafFields (refusal : Refusal) (entries : List (Scalar × Value)) : Checked Leaf :=
  let whole := Value.mapping entries
  Checked.and (Checked.and (Checked.and (Checked.and
    (Leaf.mk <$> header refusal entries)
    (required ["decision"] text whole entries))
    (required ["status"] (oneOf Status.all Status.name) whole entries))
    (optional ["obligations"] (list text) [] entries))
    (optional ["annotation"] (nullable text) none entries)

/-- A router, from the fields of its node. -/
def routerFields (refusal : Refusal) (entries : List (Scalar × Value)) : Checked Node :=
  Checked.and
    (Node.router <$> header refusal entries)
    (optional ["branches"] (list (route refusal)) [] entries)

/-- A conflict anchor, from the fields of its node. -/
def anchorFields (refusal : Refusal) (entries : List (Scalar × Value)) : Checked Node :=
  let whole := Value.mapping entries
  Checked.and (Checked.and
    (Node.anchor <$> header refusal entries)
    (required ["conflictId", "conflict_id"] text whole entries))
    (required ["pairedAnchorId", "paired_anchor_id"] text whole entries)

/-! ## Nodes -/

/-- A value that cannot have fields; dates and the mark of a missing fact can, but have none of a node's. -/
def hasNoFields : Value → Bool
  | .scalar (.date _) | .scalar (.moment _) | .missing => false
  | _ => true

/-- The kind that a node says it is of. -/
def nodeKind (whole : Value) (entries : List (Scalar × Value)) : Checked NodeKind :=
  match Value.lookup entries "type" with
  | none => .fault .tagMissing whole
  | some tag =>
    let unknown : Checked NodeKind := .fault (.tagUnknown tag.plain (NodeKind.all.map NodeKind.name)) whole
    match tag with
    | .text name =>
      match NodeKind.all.find? (·.name == name) with
      | some kind => .ok kind
      | none => unknown
    | _ => unknown

/-- A node that lies inside itself, or something else that it lies in. Going out from a node, its siblings' collection and its
parent come by turns; `around` has the kinds of the nodes it lies in, the nearest one first. -/
def recurringNode (around : List NodeKind) (shape : Shape) (levels : Nat) : Checked Node :=
  let v := Value.recurrence shape levels
  match shape, if levels % 2 = 1 then around[levels / 2]? else none with
  | .mapping, some kind => Checked.under (.key kind.name) (.fault .recursion v)
  | .mapping, none => .fault .tagMissing v
  | .sequence _, _ => .fault .notObject v

mutual

/-- A node with all that lies below it, given the kinds of the nodes around it. -/
def node (refusal : Refusal) (around : List NodeKind) (v : Value) : Checked Node :=
  match v with
  | .mapping entries =>
    match nodeKind v entries with
    | .error faults => .error faults
    | .ok kind => Checked.under (.key kind.name) (nodeOfKind refusal around kind entries)
  | .recurrence shape levels => recurringNode around shape levels
  | _ => if hasNoFields v then .fault .notObject v else .fault .tagMissing v
termination_by (sizeOf v, 1)

/-- A node of a given kind, from its fields. -/
def nodeOfKind (refusal : Refusal) (around : List NodeKind) (kind : NodeKind) (entries : List (Scalar × Value)) :
    Checked Node :=
  let whole := Value.mapping entries
  match kind with
  | .leaf => Node.leaf <$> leafFields refusal entries
  | .router => routerFields refusal entries
  | .anchor => anchorFields refusal entries
  | .condition =>
    let below : Checked (Node × Node) := match _found : find? ["children"] entries with
      | some (name, v) => Checked.under (.key name) (branches refusal (kind :: around) v)
      | none => Checked.under (.key "children") (.fault .missing whole)
    Checked.and (Checked.and (Checked.and
      ((fun header condition below note => Node.condition header condition note below.1 below.2) <$>
        header refusal entries)
      (required ["condition"] (condition refusal) whole entries))
      below)
      (optional ["annotation"] (nullable text) none entries)
  | .group =>
    let below : Checked (List Node) := match _found : find? ["children"] entries with
      | some (name, v) => Checked.under (.key name) (members refusal (kind :: around) v)
      | none => .ok []
    Checked.and (Checked.and (Checked.and
      (Node.group <$> header refusal entries)
      below)
      (required ["entryNodeId", "entry_node_id"] text whole entries))
      (optional ["exitNodeId", "exit_node_id"] (nullable text) none entries)
termination_by (sizeOf (Value.mapping entries), 0)
decreasing_by all_goals exact Prod.Lex.left _ _ (sizeOf_find? _found)

/-- The two branches of a condition. -/
def branches (refusal : Refusal) (around : List NodeKind) (v : Value) : Checked (Node × Node) :=
  match v with
  | .mapping entries =>
    let branch (name : String) : Checked Node := match _found : find? [name] entries with
      | some (name, v) => Checked.under (.key name) (node refusal around v)
      | none => Checked.under (.key name) (.fault .missing (.mapping entries))
    Checked.and (Prod.mk <$> branch "true") (branch "false")
  | .recurrence .mapping _ =>
    let branch (name : String) : Checked Node := Checked.under (.key name) (.fault .missing v)
    Checked.and (Prod.mk <$> branch "true") (branch "false")
  | _ => .fault (refusal.problem "BranchChildren") v
termination_by (sizeOf v, 0)
decreasing_by exact Prod.Lex.left _ _ (sizeOf_find? _found)

/-- The members of a group. -/
def members (refusal : Refusal) (around : List NodeKind) (v : Value) : Checked (List Node) :=
  match v with
  | .sequence _ items => membersFrom refusal around 0 items
  | .recurrence (.sequence _) _ => .ok []
  | _ => .fault .notList v
termination_by (sizeOf v, 0)

/-- The members of a group from a position on. -/
def membersFrom (refusal : Refusal) (around : List NodeKind) (n : Nat) (items : List Value) : Checked (List Node) :=
  match items with
  | [] => .ok []
  | v :: rest =>
    Checked.and (List.cons <$> Checked.under (.index n) (node refusal around v)) (membersFrom refusal around (n + 1) rest)
termination_by (sizeOf items, 0)

end

/-! ## Rules -/

/-- The names of the fields of metadata. -/
def metadataFields : List FieldNames :=
  [["jurisdiction"], ["framework"], ["effectiveDate", "effective_date"], ["expiresDate", "expires_date"], ["tags"]]

/-- The path part of a key that is not a text. Integers that are no words are known by their texts. -/
def keyPart : Scalar → PathPart
  | .int n => if isWord n then .index n else .key (Decimal.ofInt n)
  | .bool b => .index (if b then 1 else 0)
  | s => .key s.spelled

/-- The entries that are not read as fields, under their texts. -/
def extraEntries (used : List String) : List (Scalar × Value) → Checked (List (String × Value))
  | [] => .ok []
  | (.text name, v) :: rest =>
    if used.contains name then extraEntries used rest else ((name, v) :: ·) <$> extraEntries used rest
  | (key, _) :: rest =>
    Checked.and ((fun _ others => others) <$> Checked.under (keyPart key) (.fault (α := Unit) .keyNotText (.scalar key)))
      (extraEntries used rest)

/-- The metadata of a rule. -/
def metadata (refusal : Refusal) : Value → Checked Metadata :=
  record refusal "RuleMetadata" fun entries =>
    let whole := Value.mapping entries
    let used := metadataFields.filterMap fun names => (find? names entries).map Prod.fst
    Checked.and (Checked.and (Checked.and (Checked.and (Checked.and
      (Metadata.mk <$> required ["jurisdiction"] text whole entries)
      (required ["framework"] text whole entries))
      (optional ["effectiveDate", "effective_date"] (nullable text) none entries))
      (optional ["expiresDate", "expires_date"] (nullable text) none entries))
      (optional ["tags"] (list text) [] entries))
      (extraEntries used entries)

/-- A rule. -/
def rule (refusal : Refusal) : Value → Checked Rule :=
  record refusal "RuleDefinition" fun entries =>
    let whole := Value.mapping entries
    Checked.and (Checked.and (Checked.and (Checked.and (Checked.and
      (Rule.mk <$> required ["id"] text whole entries)
      (optional ["version"] text "1.0" entries))
      (required ["name"] text whole entries))
      (optional ["description"] (nullable text) none entries))
      (required ["metadata"] (metadata refusal) whole entries))
      (required ["tree"] (node refusal []) whole entries)

end Format

/-- The tree that a value is. -/
def Node.ofValue (v : Value) : Format.Checked Node := Format.node .named [] v

/-- The condition that a value is. -/
def Condition.ofValue (v : Value) : Format.Checked Condition := Format.condition .named v

/-- The rule that a value is. -/
def Rule.ofValue (v : Value) : Format.Checked Rule := Format.rule .named v

end RegulatoryTrees
