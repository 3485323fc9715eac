/-!
# Notices

What the library has to say about its work besides its answers. A notice has a level of importance and names the part of the
library that gives it.
-/

namespace RegulatoryTrees

/-- How important a notice is. -/
inductive Level where
  | debug
  | info
  | warning
  | error
  deriving DecidableEq

namespace Level

/-- The name of a level. -/
def name : Level → String
  | .debug => "DEBUG"
  | .info => "INFO"
  | .warning => "WARNING"
  | .error => "ERROR"

/-- The rank of a level among all thresholds. -/
def rank : Level → Nat
  | .debug => 10
  | .info => 20
  | .warning => 30
  | .error => 40

end Level

/-- A notice. -/
structure Notice where
  level : Level
  source : String
  message : String
  deriving DecidableEq

end RegulatoryTrees
