import RegulatoryTrees.Value
import RegulatoryTrees.Number.Decimal
import RegulatoryTrees.Text.Split

/-!
# Fact paths

A fact is addressed by a dotted path. A segment names a key of a mapping or, as a decimal numeral without leading zeros, a
position of a list; sets have no positions. A path that leads nowhere is no error: the fact is absent.
-/

namespace RegulatoryTrees

namespace FactPath

/-- The segments of a path. -/
def segments (path : String) : List String := (Text.splitAt '.' path.toList).map String.ofList

/-- A numeral that a position may be written as: ASCII digits, and no zero before another digit. -/
def isIndex (cs : List Char) : Bool :=
  !cs.isEmpty && cs.all Text.isAsciiDigit && !(1 < cs.length && cs.head? == some '0')

/-- One step of a path. -/
def step (current : Value) (segment : String) : Except Decimal.NumeralTooLong (Option Value) :=
  match current with
  | .mapping entries => .ok (Value.lookup entries segment)
  | .sequence .set _ => .ok none
  | .sequence _ items =>
    let cs := segment.toList
    if !isIndex cs then .ok none
    else if cs.length > Decimal.digitLimit then .error ⟨cs.length⟩
    else .ok items[Decimal.natOfDigits cs]?
  | _ => .ok none

/-- Follow segments from a value. -/
def follow : List String → Value → Except Decimal.NumeralTooLong (Option Value)
  | [], current => .ok (some current)
  | segment :: rest, current => do
    match ← step current segment with
    | some next => follow rest next
    | none => .ok none

end FactPath

namespace Value

/-- The value at a dotted path, if the path leads somewhere. -/
def at? (facts : Value) (path : String) : Except Decimal.NumeralTooLong (Option Value) :=
  FactPath.follow (FactPath.segments path) facts

/-- The value at a dotted path, `missing` if it leads nowhere. -/
def factAt (facts : Value) (path : String) : Except Decimal.NumeralTooLong Value :=
  (·.getD .missing) <$> facts.at? path

end Value

end RegulatoryTrees
