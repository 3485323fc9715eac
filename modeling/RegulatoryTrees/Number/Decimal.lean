import RegulatoryTrees.Number.Double
import RegulatoryTrees.Text.Letters

/-!
# Decimal texts of numbers

Reading decimal texts and writing doubles in the fewest digits that read back as the same double.
-/

namespace RegulatoryTrees

namespace Decimal

/-- Integers of more digits than this are neither read nor written. -/
def digitLimit : Nat := 4300

/-- A numeral of more digits than are read. -/
structure NumeralTooLong where
  digits : Nat
  deriving DecidableEq

/-- The value of a list of ASCII digits, the first one highest. -/
def natOfDigits (ds : List Char) : Nat := ds.foldl (fun n c => 10 * n + (c.toNat - 48)) 0

/-- The decimal digits of a number, without leading zeros. -/
def digitsOf (n : Nat) : List Char := Nat.toDigits 10 n

/-- The decimal text of a natural number. -/
def ofNat (n : Nat) : String := String.ofList (digitsOf n)

/-- The decimal text of an integer. -/
def ofInt (n : Int) : String :=
  if n < 0 then String.ofList ('-' :: digitsOf n.natAbs) else String.ofList (digitsOf n.natAbs)

/-- The message for a numeral that is too long. -/
def NumeralTooLong.message (e : NumeralTooLong) : String :=
  "Exceeds the limit (4300 digits) for integer string conversion: value has " ++ ofNat e.digits ++
    " digits; use sys.set_int_max_str_digits() to increase the limit"

/-- The number that digits of any script stand for. -/
def read (ds : List Char) : Except NumeralTooLong Nat :=
  if ds.length > digitLimit then .error ⟨ds.length⟩
  else .ok (ds.foldl (fun n c => 10 * n + (Text.digitValue? c).getD 0) 0)

/-- A number with at least `width` digits. -/
def padded (width n : Nat) : String :=
  let digits := digitsOf n
  String.ofList (List.replicate (width - digits.length) '0' ++ digits)

/-- The double nearest to `digits · 10 ^ exponent`. Sizes beyond four hundred places from the point are zero or infinite. -/
def toDouble (negative : Bool) (digits : Nat) (exponent : Int) : Double :=
  let places : Int := (digitsOf digits).length
  if digits = 0 then .zero negative
  else if places + exponent > 400 then .infinite negative
  else if places + exponent < -400 then .zero negative
  else if 0 ≤ exponent then .ofUnits negative (digits * Nat.pow 10 exponent.toNat * unitsInOne) 1
  else .ofUnits negative (digits * unitsInOne) (Nat.pow 10 (-exponent).toNat)

/-- `units · 2⁻¹⁰⁷⁴` as a ratio scaled by a power of ten. -/
def scaled (units : Nat) (power : Int) : Nat × Nat :=
  if 0 ≤ power then (units * Nat.pow 10 power.toNat, unitsInOne) else (units, unitsInOne * Nat.pow 10 (-power).toNat)

/-- The exponent of the leading decimal digit of a magnitude, starting from an estimate and at most `fuel` steps away. -/
def leadingExponent (units : Nat) : Nat → Int → Int
  | 0, e => e
  | fuel + 1, e =>
    let (num, den) := scaled units (-e)
    if num < den then leadingExponent units fuel (e - 1)
    else if 10 * den ≤ num then leadingExponent units fuel (e + 1)
    else e

/-- The leading decimal exponent of a positive magnitude. -/
def exponentOf (units : Nat) : Int :=
  leadingExponent units 8 ((((units.log2 : Int) - 1074) * 30103) / 100000)

/-- Whether `digits · 10 ^ exponent` reads back as the magnitude. -/
def readsBack (units digits : Nat) (exponent : Int) : Bool :=
  match toDouble false digits exponent with
  | .finite _ m => m.units == units
  | _ => false

/-- The decimal on the grid of `10 ^ exponent` that reads back as the magnitude and lies nearest to it. -/
def onGrid? (units : Nat) (exponent : Int) : Option Nat :=
  let (num, den) := scaled units (-exponent)
  let below := num / den
  let nearest := roundRatio num den
  let other := if nearest = below then below + 1 else below
  if readsBack units nearest exponent then some nearest
  else if readsBack units other exponent then some other
  else none

/-- The first grid, from `count` digits on, on which a decimal reads back; beyond them the exact value, which always does. -/
def shortestFrom (units : Nat) (leading : Int) : (remaining : Nat) → (count : Nat) → Nat × Int
  | 0, _ => (units * Nat.pow 5 1074, -1074)
  | remaining + 1, count =>
    let exponent := leading - count + 1
    match onGrid? units exponent with
    | some digits => (digits, exponent)
    | none => shortestFrom units leading remaining (count + 1)

/-- The shortest decimal that reads back as a positive magnitude, the nearest one of that length, as digits and exponent. -/
def shortest (units : Nat) : Nat × Int := shortestFrom units (exponentOf units) 17 1

/-- The form in which doubles are written. -/
structure Form where
  /-- Leading exponents below this are written with an exponent. -/
  positionalFrom : Int
  /-- Leading exponents from this on are written with an exponent. -/
  positionalBelow : Int
  /-- Exponents have at least this many digits. -/
  exponentDigits : Nat
  nan : String
  infinity : String

/-- Sixteen places before the point and four after it are written out; exponents have a sign and two digits. -/
def standardForm : Form := ⟨-4, 16, 2, "nan", "inf"⟩

/-- Digits around a point: `point` of them stand before it, zeros filling the gap, and at least one on either side. -/
def positional (digits : List Char) (point : Int) : List Char :=
  if point ≤ 0 then '0' :: '.' :: (List.replicate (-point).toNat '0' ++ digits)
  else
    let n := point.toNat
    let padded := digits ++ List.replicate (n - digits.length) '0'
    let after := padded.drop n
    padded.take n ++ '.' :: (if after.isEmpty then ['0'] else after)

/-- One digit, the other digits after a point, and the exponent. -/
def scientific (form : Form) (digits : List Char) (exponent : Int) : List Char :=
  let mantissa := match digits with
    | [] => []
    | [d] => [d]
    | d :: rest => d :: '.' :: rest
  let size := digitsOf exponent.natAbs
  mantissa ++ 'e' :: (if exponent < 0 then '-' else '+') ::
    (List.replicate (form.exponentDigits - size.length) '0' ++ size)

/-- The text of a positive magnitude. -/
def magnitudeText (form : Form) (units : Nat) : List Char :=
  let (n, exponent) := shortest units
  let all := digitsOf n
  let leading := exponent + (all.length : Int) - 1
  let kept := (all.reverse.dropWhile (· == '0')).reverse
  if form.positionalFrom ≤ leading && leading < form.positionalBelow then positional kept (leading + 1)
  else scientific form kept leading

/-- The text of a double in a form. -/
def ofDoubleIn (form : Form) : Double → String
  | .nan => form.nan
  | .infinite s => if s then "-" ++ form.infinity else form.infinity
  | .finite s m =>
    let text := if m.units = 0 then ['0', '.', '0'] else magnitudeText form m.units
    String.ofList (if s then '-' :: text else text)

/-- The text of a double. -/
def ofDouble (d : Double) : String := ofDoubleIn standardForm d

/-- A digit of any script as an ASCII digit. -/
def asciiDigit (c : Char) : Char :=
  match Text.digitValue? c with
  | some n => Char.ofNat (48 + n)
  | none => c

/-- The exponent at the end of a numeral. -/
def exponent? : List Char → Option Int
  | [] => some 0
  | e :: rest =>
    let (negative, digits) := match rest with
      | '-' :: ds => (true, ds)
      | '+' :: ds => (false, ds)
      | ds => (false, ds)
    if (e == 'e' || e == 'E') && !digits.isEmpty && digits.all Text.isAsciiDigit then
      some (if negative then -(natOfDigits digits : Int) else natOfDigits digits)
    else none

/-- The names of doubles that are not finite, in lowercase. -/
def nonFiniteNames : List (String × Double) :=
  [("inf", .infinite false), ("infinity", .infinite false), ("nan", .nan)]

/-- The double that a numeral stands for: digits with a point and an exponent, or the name of a double that is not finite,
after an optional sign. -/
def doubleOf? (cs : List Char) : Option Double :=
  let (negative, body) := match cs with
    | '-' :: rest => (true, rest)
    | '+' :: rest => (false, rest)
    | rest => (false, rest)
  match nonFiniteNames.lookup (String.ofList (body.map Char.toLower)) with
  | some d => some (if negative then d.neg else d)
  | none =>
    let (whole, rest) := body.span Text.isAsciiDigit
    let (fraction, rest) := match rest with
      | '.' :: more => more.span Text.isAsciiDigit
      | rest => ([], rest)
    if whole.isEmpty && fraction.isEmpty then none
    else (exponent? rest).map fun e => toDouble negative (natOfDigits (whole ++ fraction)) (e - fraction.length)

end Decimal

end RegulatoryTrees
