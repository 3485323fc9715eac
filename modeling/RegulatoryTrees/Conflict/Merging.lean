import RegulatoryTrees.Conflict
import RegulatoryTrees.Value.Display

/-!
# Merging obligations

The obligations of several jurisdictions in one list.
-/

namespace RegulatoryTrees

namespace Resolution

/-- Why obligations cannot be merged. -/
inductive Failure where
  /-- The value names no resolution. -/
  | unknown (name : Value)
  /-- The resolution is no way to merge. -/
  | unsupported (resolution : Resolution)
  deriving BEq

/-- A failure in words. -/
def Failure.message : Failure → String
  | .unknown name => name.spelled ++ " is not a valid ResolutionStrategy"
  | .unsupported resolution => "Unsupported merge strategy: " ++ resolution.name

/-- The resolution that a value names. -/
def named (name : Value) : Except Failure Resolution :=
  match all.find? fun resolution => name == .text resolution.name with
  | some resolution => .ok resolution
  | none => .error (.unknown name)

/-- The resolutions by which obligations can be merged. -/
def merges (resolution : Resolution) : Bool := resolution == .cumulative || resolution == .stricter

end Resolution

namespace Verdict

/-- The obligations of some verdicts, each at its first place. -/
def allObligations (verdicts : List Verdict) : List String :=
  (verdicts.flatMap fun v => v.leaf.obligations).eraseDups

/-- Merge the obligations of some verdicts. Both ways to merge come to the same, since obligations have no degrees of
strictness. -/
def mergeObligations (resolution : Resolution) (verdicts : List Verdict) : Except Resolution.Failure (List String) :=
  if resolution.merges then .ok (allObligations verdicts) else .error (.unsupported resolution)

end Verdict

end RegulatoryTrees
