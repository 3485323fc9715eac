/-!
# Doubles

The numbers of the 64-bit binary floating-point format, computed exactly. Every finite one is a whole multiple of the
smallest positive one, 2⁻¹⁰⁷⁴, so a magnitude is a natural number of such units, and each operation rounds an exact ratio
once, to the nearest magnitude, a half going to the one with an even last bit.
-/

namespace RegulatoryTrees

/-- A number of units that a finite double can have: at most 53 significant bits, and below 2¹⁰²⁴. -/
def Representable (units : Nat) : Prop :=
  units % Nat.pow 2 (units.log2 - 52) = 0 ∧ units.log2 < 2098

instance (units : Nat) : Decidable (Representable units) :=
  inferInstanceAs (Decidable (_ ∧ _))

/-- The size of a finite double, in units of 2⁻¹⁰⁷⁴. -/
structure Magnitude where
  units : Nat
  representable : Representable units
  deriving DecidableEq

/-- A double. There is one NaN, and zero has a sign. -/
inductive Double where
  | nan
  | infinite (negative : Bool)
  | finite (negative : Bool) (magnitude : Magnitude)
  deriving DecidableEq

/-- The natural number nearest to a ratio, a half going to the even one. -/
def roundRatio (num den : Nat) : Nat :=
  let whole := num / den
  let rest := num % den
  if 2 * rest < den then whole
  else if den < 2 * rest then whole + 1
  else whole + whole % 2

/-- A ratio rounded to 53 significant bits, or to a whole number where that is coarser. -/
def roundSignificant (num den : Nat) : Nat :=
  let excess := (num / den).log2 - 52
  roundRatio num (den * Nat.pow 2 excess) * Nat.pow 2 excess

/-- The number of units in one. -/
def unitsInOne : Nat := Nat.pow 2 1074

namespace Double

/-- The nearest double to a ratio of units, infinite when that is too large. -/
def ofUnits (negative : Bool) (num den : Nat) : Double :=
  let units := roundSignificant num den
  if h : Representable units then .finite negative ⟨units, h⟩ else .infinite negative

/-- Zero, of either sign. -/
def zero (negative : Bool) : Double := .finite negative ⟨0, by decide⟩

/-- A double that is not infinite. -/
def bounded? : Double → Option Double
  | .infinite _ => none
  | d => some d

/-- The nearest double to a ratio of an integer and a positive number, if it is not too large. -/
def ofRatio? (num : Int) (den : Nat) : Option Double :=
  (ofUnits (num < 0) (num.natAbs * unitsInOne) den).bounded?

/-- The nearest double to an integer, if there is one that is not too large. -/
def ofInt? (n : Int) : Option Double := ofRatio? n 1

/-- The nearest double to a number of units with a sign; an exact zero is positive. -/
def ofSignedUnits (units : Int) : Double := ofUnits (units < 0) units.natAbs 1

/-- The units of a finite double, with its sign. -/
def signedUnits (negative : Bool) (m : Magnitude) : Int := if negative then -(m.units : Int) else m.units

/-- The same double with the other sign. -/
def neg : Double → Double
  | .nan => .nan
  | .infinite s => .infinite !s
  | .finite s m => .finite (!s) m

/-- The rounded sum. Two zeros of one sign keep it; any other exact zero is positive. -/
def add : Double → Double → Double
  | .nan, _ => .nan
  | _, .nan => .nan
  | .infinite s, .infinite t => if s = t then .infinite s else .nan
  | .infinite s, .finite _ _ => .infinite s
  | .finite _ _, .infinite t => .infinite t
  | .finite s m, .finite t n =>
    if m.units = 0 ∧ n.units = 0 then zero (s && t) else ofSignedUnits (signedUnits s m + signedUnits t n)

/-- The rounded difference. -/
def sub (a b : Double) : Double := add a (neg b)

/-- The rounded product. -/
def mul : Double → Double → Double
  | .nan, _ => .nan
  | _, .nan => .nan
  | .infinite s, .infinite t => .infinite (s != t)
  | .infinite s, .finite t n => if n.units = 0 then .nan else .infinite (s != t)
  | .finite s m, .infinite t => if m.units = 0 then .nan else .infinite (s != t)
  | .finite s m, .finite t n => ofUnits (s != t) (m.units * n.units) unitsInOne

/-- The rounded half. -/
def half : Double → Double
  | .nan => .nan
  | .infinite s => .infinite s
  | .finite s m => ofUnits s m.units 2

/-- The integer that a double is, if it is one. -/
def toInt? : Double → Option Int
  | .finite s m => if m.units % unitsInOne = 0 then some (signedUnits s m / unitsInOne) else none
  | _ => none

/-- The position of a double on the number line, as a level (below, among or above the finite ones) and units; NaN has none. -/
def position? : Double → Option (Int × Int)
  | .nan => none
  | .infinite true => some (-1, 0)
  | .infinite false => some (1, 0)
  | .finite s m => some (0, signedUnits s m)

end Double

/-- A number as written: an integer of any size or a double. -/
inductive Number where
  | whole (n : Int)
  | real (d : Double)
  deriving DecidableEq

namespace Number

/-- The position on the number line that integers and doubles share. -/
def position? : Number → Option (Int × Int)
  | .whole n => some (0, n * unitsInOne)
  | .real d => d.position?

/-- The order of two positions: by level, then by units. -/
def comparePositions (a b : Int × Int) : Ordering := (compare a.1 b.1).then (compare a.2 b.2)

/-- The exact order of two numbers, absent if either is a NaN. -/
def compare? (a b : Number) : Option Ordering :=
  match a.position?, b.position? with
  | some p, some q => some (comparePositions p q)
  | _, _ => none

/-- Two numbers have one value. -/
def sameValue (a b : Number) : Bool := compare? a b == some .eq

end Number

end RegulatoryTrees
