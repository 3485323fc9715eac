import RegulatoryTrees.FactPath
import RegulatoryTrees.Notice
import RegulatoryTrees.Pattern.Matching
import RegulatoryTrees.Pattern.Reading
import RegulatoryTrees.Value.StrictEquality

/-!
# Conditions

A condition compares the value at a fact path with an expected value. Applying an operator never fails because of what is
compared: a comparison that makes no sense does not hold, and the problem is reported beside the answer.
-/

namespace RegulatoryTrees

/-- A condition as written; the operator may be unknown. -/
structure Condition where
  fact : String
  op : String
  value : Value
  deriving BEq

/-- The known operators. -/
inductive Operator where
  | eq
  | neq
  | gt
  | lt
  | gte
  | lte
  | isIn
  | contains
  | matchesPattern
  | isNil
  | isSome
  deriving DecidableEq

namespace Operator

/-- All operators, in the order in which they are listed. -/
def all : List Operator := [.eq, .neq, .gt, .lt, .gte, .lte, .isIn, .contains, .matchesPattern, .isNil, .isSome]

/-- The name of an operator. -/
def name : Operator → String
  | .eq => "eq"
  | .neq => "neq"
  | .gt => "gt"
  | .lt => "lt"
  | .gte => "gte"
  | .lte => "lte"
  | .isIn => "in"
  | .contains => "contains"
  | .matchesPattern => "matches"
  | .isNil => "nil?"
  | .isSome => "some?"

/-- The operator of a name. -/
def named? (name : String) : Option Operator := all.find? (·.name == name)

/-- An operator that asks for presence, to which a missing fact is an answer. -/
def testsPresence : Operator → Bool
  | .isNil | .isSome => true
  | _ => false

/-- The orders of a fact and an expected number for which an ordering operator holds. -/
def holdsFor? : Operator → Option (Ordering → Bool)
  | .gt => some (· == .gt)
  | .lt => some (· == .lt)
  | .gte => some (· != .lt)
  | .lte => some (· != .gt)
  | _ => none

end Operator

/-- The kinds of problems that are reported. -/
inductive ProblemKind where
  | unknownOperator
  | invalidPattern
  | typeMismatch
  | invalidOperand
  deriving DecidableEq

namespace ProblemKind

/-- All kinds, in the order in which they are listed. -/
def all : List ProblemKind := [.unknownOperator, .invalidPattern, .typeMismatch, .invalidOperand]

/-- The name of a kind. -/
def name : ProblemKind → String
  | .unknownOperator => "unknown_operator"
  | .invalidPattern => "invalid_pattern"
  | .typeMismatch => "type_mismatch"
  | .invalidOperand => "invalid_operand"

end ProblemKind

/-- Why a condition cannot be applied as it was meant. -/
inductive Problem where
  | unknownOperator
  | invalidPattern (pattern : String) (complaint : Pattern.Complaint) (position : Option Nat)
  /-- An ordering was asked of values that are not both numbers; their kinds are named. -/
  | notNumbers (fact expected : String)
  | notTexts
  | notList
  deriving DecidableEq

namespace Problem

/-- The kind of a problem. -/
def kind : Problem → ProblemKind
  | .unknownOperator => .unknownOperator
  | .invalidPattern _ _ _ => .invalidPattern
  | .notNumbers _ _ | .notTexts => .typeMismatch
  | .notList => .invalidOperand

/-- A problem in words, given the operator as written. -/
def message (op : String) : Problem → String
  | .unknownOperator => "unknown operator " ++ Text.quoted op
  | .invalidPattern pattern complaint position =>
    "invalid pattern " ++ Text.quoted pattern ++ ": " ++ complaint.message pattern position
  | .notNumbers fact expected => "'" ++ op ++ "' needs numbers, got " ++ fact ++ " and " ++ expected
  | .notTexts => "'matches' needs string operands"
  | .notList => "'in' needs a list value"

end Problem

/-- A problem met while applying the condition of a node. -/
structure Diagnostic where
  problem : Problem
  nodeId : Option String
  fact : String
  op : String
  deriving DecidableEq

namespace Diagnostic

/-- The diagnostic in words. -/
def message (d : Diagnostic) : String := d.problem.message d.op

/-- The warning that goes with a diagnostic: patterns and operators that cannot be read are warned about. -/
def notice? (d : Diagnostic) : Option Notice :=
  let place := " on fact " ++ d.fact ++ " (node " ++ d.nodeId.getD "None" ++ ")"
  match d.problem with
  | .unknownOperator =>
    some ⟨.warning, "compliance_engine.rules.conditions",
      "Unknown operator " ++ Text.quoted d.op ++ place ++ "; evaluating as false"⟩
  | .invalidPattern pattern complaint position =>
    some ⟨.warning, "compliance_engine.rules.conditions",
      "Invalid pattern " ++ Text.quoted pattern ++ place ++ ": " ++ complaint.message pattern position⟩
  | _ => none

end Diagnostic

namespace Condition

/-- What stands in the way of any answer: limits on the size of what is read or written. -/
inductive Failure where
  | repetitionTooLarge
  | numeralTooLong (digits : Nat)
  | conflictingScripts
  | lookbehindTooWide
  | rendering (cause : Rendering.Failure)
  deriving DecidableEq

/-- A failure in words. -/
def Failure.message : Failure → String
  | .numeralTooLong digits => (Decimal.NumeralTooLong.mk digits).message
  | .repetitionTooLarge => "the repetition number is too large"
  | .conflictingScripts => "ASCII and UNICODE flags are incompatible"
  | .lookbehindTooWide => "invalid SRE code"
  | .rendering cause => cause.message

/-- Whether a condition holds, and the problem met in applying it, if any. -/
structure Outcome where
  holds : Bool
  problem : Option Problem
  deriving DecidableEq

/-- An outcome without a problem. -/
def Outcome.plain (holds : Bool) : Outcome := ⟨holds, none⟩

/-- An outcome that does not hold because of a problem. -/
def Outcome.failed (problem : Problem) : Outcome := ⟨false, some problem⟩

/-- The operator that a condition names. -/
def operator? (c : Condition) : Option Operator := Operator.named? c.op

/-- Compare numbers. Values that are not both numbers are a problem unless the fact is absent. -/
def order (test : Ordering → Bool) (fact expected : Value) : Outcome :=
  match fact.number?, expected.number? with
  | some x, some y => .plain ((x.compare? y).any test)
  | _, _ => if fact.isAbsent then .plain false else .failed (.notNumbers fact.kindName expected.kindName)

/-- Match a text with a pattern. -/
def matchText (text pattern : String) : Except Failure Outcome :=
  match Pattern.read pattern with
  | .ok p => .ok (.plain (p.occursIn text))
  | .error (.malformed complaint position) => .ok (.failed (.invalidPattern pattern complaint position))
  | .error .repetitionTooLarge => .error .repetitionTooLarge
  | .error (.numeralTooLong digits) => .error (.numeralTooLong digits)
  | .error .conflictingScripts => .error .conflictingScripts
  | .error .lookbehindTooWide => .error .lookbehindTooWide

/-- Apply an operator to a fact and an expected value. -/
def applyOperator (op : Operator) (fact expected : Value) : Except Failure Outcome :=
  match op with
  | .eq => .ok (.plain (fact.strictEquals expected))
  | .neq => .ok (.plain !(fact.strictEquals expected))
  | .gt => .ok (order (· == .gt) fact expected)
  | .lt => .ok (order (· == .lt) fact expected)
  | .gte => .ok (order (· != .lt) fact expected)
  | .lte => .ok (order (· != .gt) fact expected)
  | .isIn =>
    match expected with
    | .sequence .set _ => .ok (.failed .notList)
    | .sequence _ items => .ok (.plain (Value.strictContains items fact))
    | _ => .ok (.failed .notList)
  | .contains =>
    match fact with
    | .sequence .set _ => .ok (.plain false)
    | .sequence _ items => .ok (.plain (Value.strictContains items expected))
    | _ => .ok (.plain false)
  | .matchesPattern =>
    match fact, expected with
    | .text text, .text pattern => matchText text pattern
    | _, _ => .ok (if fact.isAbsent then .plain false else .failed .notTexts)
  | .isNil => .ok (.plain fact.isAbsent)
  | .isSome => .ok (.plain !fact.isAbsent)

/-- Apply a condition to a fact. -/
def apply (c : Condition) (fact : Value) : Except Failure Outcome :=
  match c.operator? with
  | some op => applyOperator op fact c.value
  | none => .ok (.failed .unknownOperator)

/-- The fact that a condition looks at. -/
def factIn (c : Condition) (facts : Value) : Except Failure Value :=
  (facts.factAt c.fact).mapError fun e => .numeralTooLong e.digits

/-- Apply a condition to a bag of facts. -/
def evaluate (c : Condition) (facts : Value) : Except Failure Outcome := do
  c.apply (← c.factIn facts)

/-- The diagnostic of an outcome, if it has a problem. -/
def diagnostic? (c : Condition) (nodeId : Option String) (o : Outcome) : Option Diagnostic :=
  o.problem.map fun problem => ⟨problem, nodeId, c.fact, c.op⟩

/-- The words between a fact and the expected value. -/
def phrase : Operator → String
  | .eq => "equals"
  | .neq => "does not equal"
  | .gt => ">"
  | .lt => "<"
  | .gte => ">="
  | .lte => "<="
  | .isIn => "is in"
  | .contains => "contains"
  | .matchesPattern => "matches"
  | .isNil => "is nil"
  | .isSome => "has a value"

/-- A condition in words. An unknown operator stands for itself. -/
def describe (c : Condition) : Except Failure String := do
  let value ← c.value.relaxedText.mapError .rendering
  match c.operator? with
  | some op =>
    if op.testsPresence then return c.fact ++ " " ++ phrase op
    else return c.fact ++ " " ++ phrase op ++ " " ++ value
  | none => return c.fact ++ " " ++ c.op ++ " " ++ value

end Condition

end RegulatoryTrees
