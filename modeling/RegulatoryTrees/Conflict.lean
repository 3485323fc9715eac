import RegulatoryTrees.Evaluation

/-!
# Conflicts between jurisdictions

What is found when the verdicts of several jurisdictions on the same matter are held against each other, and how a conflict
is to be resolved.
-/

namespace RegulatoryTrees

/-- The kinds of conflicts. -/
inductive ConflictKind where
  | classification
  | obligation
  | timeline
  | decision
  deriving DecidableEq

namespace ConflictKind

/-- All kinds, in the order in which they are listed. -/
def all : List ConflictKind := [.classification, .obligation, .timeline, .decision]

/-- The name of a kind. -/
def name : ConflictKind → String
  | .classification => "classification_divergence"
  | .obligation => "obligation_conflict"
  | .timeline => "timeline_conflict"
  | .decision => "decision_conflict"

end ConflictKind

/-- How severe a conflict is. -/
inductive Severity where
  | blocking
  | warning
  | info
  deriving DecidableEq

namespace Severity

/-- All severities, in the order in which they are listed. -/
def all : List Severity := [.blocking, .warning, .info]

/-- The name of a severity. -/
def name : Severity → String
  | .blocking => "blocking"
  | .warning => "warning"
  | .info => "info"

end Severity

/-- How a conflict is to be resolved. -/
inductive Resolution where
  | cumulative
  | stricter
  | homeJurisdiction
  | satisfyBoth
  | earliest
  deriving DecidableEq

namespace Resolution

/-- All resolutions, in the order in which they are listed. -/
def all : List Resolution := [.cumulative, .stricter, .homeJurisdiction, .satisfyBoth, .earliest]

/-- The name of a resolution. -/
def name : Resolution → String
  | .cumulative => "cumulative"
  | .stricter => "stricter"
  | .homeJurisdiction => "home_jurisdiction"
  | .satisfyBoth => "satisfy_both"
  | .earliest => "earliest"

end Resolution

/-- What a rule of a jurisdiction comes to. -/
structure Verdict where
  jurisdiction : String
  ruleId : String
  leaf : Leaf
  deriving DecidableEq

/-- The verdict of a rule that has been evaluated. -/
def Verdict.ofEvaluation (r : Rule) (e : Evaluation) : Verdict := ⟨r.metadata.jurisdiction, r.id, e.leaf⟩

/-- A conflict between two jurisdictions. -/
structure Conflict where
  id : String
  kind : ConflictKind
  severity : Severity
  first : String
  second : String
  description : String
  resolution : Resolution
  note : Option String
  deriving DecidableEq

end RegulatoryTrees
