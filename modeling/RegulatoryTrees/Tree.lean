import RegulatoryTrees.Condition

/-!
# Decision trees

A tree decides what a regulation asks for. Conditions lead to leaves, which hold decisions; groups, routers and conflict
anchors arrange trees for people and take no part in evaluation.
-/

namespace RegulatoryTrees

/-- The outcome category of a leaf. -/
inductive Status where
  | compliant
  | requiresAction
  | blocked
  | noApplicableRules
  deriving DecidableEq

namespace Status

/-- All statuses, in the order in which they are listed. -/
def all : List Status := [.compliant, .requiresAction, .blocked, .noApplicableRules]

/-- The name of a status. -/
def name : Status → String
  | .compliant => "compliant"
  | .requiresAction => "requires_action"
  | .blocked => "blocked"
  | .noApplicableRules => "no_applicable_rules"

end Status

/-- The part that a jurisdiction plays for an issuer. -/
inductive Role where
  | issuerHome
  | target
  | passporting
  deriving DecidableEq

namespace Role

/-- All roles, in the order in which they are listed. -/
def all : List Role := [.issuerHome, .target, .passporting]

/-- The name of a role. -/
def name : Role → String
  | .issuerHome => "issuer_home"
  | .target => "target"
  | .passporting => "passporting"

end Role

/-- Where a node comes from in the law. -/
structure SourceRef where
  documentId : String
  article : Option String
  «section» : Option String
  paragraphs : List String
  pages : List Int
  url : Option String
  deriving DecidableEq

/-- The jurisdictions and roles that a node applies to. -/
structure Scope where
  jurisdictions : List String
  roles : List String
  deriving DecidableEq

/-- What nodes of all kinds have. -/
structure Header where
  id : String
  label : Option String
  source : Option SourceRef
  tags : List String
  scope : Option Scope
  deriving DecidableEq

/-- A decision at the end of a path. -/
structure Leaf where
  header : Header
  decision : String
  status : Status
  obligations : List String
  note : Option String
  deriving DecidableEq

/-- A way out of a router to a node, possibly of another tree. -/
structure Route where
  jurisdiction : String
  role : Role
  target : String
  deriving DecidableEq

/-- A node of a tree together with what lies below it. -/
inductive Node where
  | condition (header : Header) (condition : Condition) (note : Option String) (whenTrue whenFalse : Node)
  | leaf (leaf : Leaf)
  | group (header : Header) (members : List Node) (entry : String) (exit : Option String)
  | router (header : Header) (routes : List Route)
  | anchor (header : Header) (conflictId pairedId : String)
  deriving BEq

/-- The kinds of nodes. -/
inductive NodeKind where
  | condition
  | leaf
  | group
  | router
  | anchor
  deriving DecidableEq

namespace NodeKind

/-- All kinds, in the order in which they are listed. -/
def all : List NodeKind := [.condition, .leaf, .group, .router, .anchor]

/-- The name of a kind. -/
def name : NodeKind → String
  | .condition => "condition"
  | .leaf => "leaf"
  | .group => "group"
  | .router => "router"
  | .anchor => "conflict_anchor"

end NodeKind

namespace Leaf

/-- The identifier of a leaf. -/
def id (l : Leaf) : String := l.header.id

end Leaf

namespace Node

/-- The part that nodes of all kinds have. -/
def header : Node → Header
  | .condition h _ _ _ _ => h
  | .leaf l => l.header
  | .group h _ _ _ => h
  | .router h _ => h
  | .anchor h _ _ => h

/-- The identifier of a node. -/
def id (n : Node) : String := n.header.id

/-- The kind of a node. -/
def kind : Node → NodeKind
  | .condition _ _ _ _ _ => .condition
  | .leaf _ => .leaf
  | .group _ _ _ _ => .group
  | .router _ _ => .router
  | .anchor _ _ _ => .anchor

/-- The nodes directly below a node, the one for a condition that holds first. -/
def children : Node → List Node
  | .condition _ _ _ whenTrue whenFalse => [whenTrue, whenFalse]
  | .group _ members _ _ => members
  | .leaf _ | .router _ _ | .anchor _ _ _ => []

end Node

/-- A rule's place in the law; further entries are kept as they are. -/
structure Metadata where
  jurisdiction : String
  framework : String
  effectiveDate : Option String
  expiresDate : Option String
  tags : List String
  extra : List (String × Value)
  deriving BEq

/-- A rule: its description and its tree. -/
structure Rule where
  id : String
  version : String
  name : String
  description : Option String
  metadata : Metadata
  tree : Node
  deriving BEq

end RegulatoryTrees
