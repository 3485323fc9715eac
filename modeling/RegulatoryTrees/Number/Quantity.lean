import RegulatoryTrees.Number.Decimal

/-!
# Quantities

Numbers as they are written in settings and computed with: truth values count as zero and one, sums and products of whole
numbers stay whole, and whatever meets a double, or is halved, becomes a double.
-/

namespace RegulatoryTrees

/-- A number of a drawing, kept in the form in which it is written. -/
inductive Quantity where
  | flag (b : Bool)
  | whole (n : Int)
  | real (d : Double)
  deriving DecidableEq

/-- Why a quantity cannot be computed. -/
inductive Overflow where
  /-- A whole number is too large for a double. -/
  | conversion
  /-- Half of a whole number is too large for a double. -/
  | division
  deriving DecidableEq

namespace Overflow

/-- An overflow in words. -/
def message : Overflow → String
  | .conversion => "int too large to convert to float"
  | .division => "integer division result too large for a float"

/-- What was computed, or the reason why there is nothing. -/
def orFail {α : Type} (reason : Overflow) : Option α → Except Overflow α
  | some x => .ok x
  | none => .error reason

end Overflow

namespace Quantity

/-- The whole number that a quantity counts as. -/
def whole? : Quantity → Option Int
  | .flag b => some (if b then 1 else 0)
  | .whole n => some n
  | .real _ => none

/-- The number that a quantity is. -/
def number : Quantity → Number
  | .flag b => .whole (if b then 1 else 0)
  | .whole n => .whole n
  | .real d => .real d

/-- A quantity as a double. -/
def toDouble (q : Quantity) : Except Overflow Double :=
  match q with
  | .real d => .ok d
  | q => Overflow.conversion.orFail (Double.ofInt? (q.whole?.getD 0))

/-- Compute with whole numbers if both quantities are, and with doubles otherwise. -/
def combine (onWhole : Int → Int → Int) (onReal : Double → Double → Double) (a b : Quantity) : Except Overflow Quantity :=
  match a.whole?, b.whole? with
  | some x, some y => .ok (.whole (onWhole x y))
  | _, _ => do return .real (onReal (← a.toDouble) (← b.toDouble))

/-- The sum. -/
def add : Quantity → Quantity → Except Overflow Quantity := combine (· + ·) Double.add

/-- The difference. -/
def sub : Quantity → Quantity → Except Overflow Quantity := combine (· - ·) Double.sub

/-- The product. -/
def mul : Quantity → Quantity → Except Overflow Quantity := combine (· * ·) Double.mul

/-- Half of a quantity, always a double. -/
def half (q : Quantity) : Except Overflow Quantity :=
  match q.whole? with
  | some n => Quantity.real <$> Overflow.division.orFail (Double.ofRatio? n 2)
  | none => do return .real (← q.toDouble).half

/-- The second quantity if it is greater, else the first. -/
def larger (a b : Quantity) : Quantity := if b.number.compare? a.number == some .gt then b else a

/-- The text of a quantity. -/
def text : Quantity → String
  | .flag b => if b then "True" else "False"
  | .whole n => Decimal.ofInt n
  | .real d => Decimal.ofDouble d

end Quantity

end RegulatoryTrees
