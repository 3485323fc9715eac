import RegulatoryTrees.Number.Quantity
import RegulatoryTrees.Text.Case
import RegulatoryTrees.Value
import RegulatoryTrees.Yaml.Failure
import RegulatoryTrees.Yaml.Tag

/-!
# The values of YAML scalars

The value that a text stands for under a tag. A text can be given a tag that its form does not suit, and is then refused.
-/

namespace RegulatoryTrees

namespace Yaml

namespace ScalarValue

/-- A text without the sign it begins with, and whether that is a minus. A text must not be empty. -/
def sign (cs : List Char) : Except Failure (Bool × List Char) :=
  match cs with
  | [] => .error .emptyNumber
  | '-' :: rest => .ok (true, rest)
  | '+' :: rest => .ok (false, rest)
  | cs => .ok (false, cs)

/-! ## Integers -/

/-- Letters that may stand after a zero before the digits to a base. -/
def baseLetters : Nat → List Char
  | 2 => ['b', 'B']
  | 8 => ['o', 'O']
  | 16 => ['x', 'X']
  | _ => []

/-- The value of a digit to a base. -/
def digit? (base : Nat) (c : Char) : Option Nat :=
  let value := (Text.digitValue? c).or <|
    if 'a' ≤ c && c ≤ 'z' then some (c.toNat - 87)
    else if 'A' ≤ c && c ≤ 'Z' then some (c.toNat - 55)
    else none
  value.filter (· < base)

/-- The integer that digits to a base stand for; blanks around them do not count. Only decimal numerals can be too long. -/
def integerIn (base : Nat) (cs : List Char) : Except Failure Int := do
  let trimmed := ((cs.dropWhile Text.isBlank).reverse.dropWhile Text.isBlank).reverse
  let bad := Failure.badInteger base (String.ofList cs)
  let (negative, body) ← (sign trimmed).mapError fun _ => bad
  let digits := match body with
    | '0' :: letter :: rest => if (baseLetters base).contains letter then rest else body
    | _ => body
  match digits.mapM (digit? base) with
  | none | some [] => throw bad
  | some values =>
    if base = 10 && values.length > Decimal.digitLimit then throw (.numeralTooLong values.length)
    let n : Nat := values.foldl (fun n d => base * n + d) 0
    return if negative then -(n : Int) else n

/-- The value of digits to base sixty, the highest one first. -/
def inSixties (digits : List Int) : Int := digits.foldl (fun n d => 60 * n + d) 0

/-- An integer: to the base its beginning tells, or to base sixty with colons between the digits. Underscores do not count. -/
def integer (text : List Char) : Except Failure Int := do
  let (negative, cs) ← sign (text.filter (· != '_'))
  let n ← match cs with
    | [] => throw .emptyNumber
    | ['0'] => pure 0
    | '0' :: 'b' :: digits => integerIn 2 digits
    | '0' :: 'x' :: digits => integerIn 16 digits
    | '0' :: _ => integerIn 8 cs
    | _ =>
      if cs.contains ':' then inSixties <$> (Text.splitAt ':' cs).mapM (integerIn 10)
      else integerIn 10 cs
  return if negative then -n else n

/-! ## Doubles -/

/-- The double that a decimal numeral stands for; blanks around it do not count. -/
def decimal (cs : List Char) : Except Failure Double :=
  let trimmed := ((cs.dropWhile Text.isBlank).reverse.dropWhile Text.isBlank).reverse
  match Decimal.doubleOf? (trimmed.map Decimal.asciiDigit) with
  | some d => .ok d
  | none => .error (.badDouble (String.ofList cs))

/-- The sum of doubles each multiplied by a power of sixty, from the lowest one on. -/
def sumOfSixties (sum : Quantity) (power : Int) : List Double → Except Overflow Quantity
  | [] => .ok sum
  | d :: rest => do
    let part ← (Quantity.real d).mul (.whole power)
    sumOfSixties (← sum.add part) (60 * power) rest

/-- A double: a decimal numeral, numerals to base sixty, or a name. -/
def double (text : String) : Except Failure Double := do
  let (negative, cs) ← sign ((Text.lowercase (String.ofList (text.toList.filter (· != '_')))).toList)
  let d ← match String.ofList cs with
    | ".inf" => pure (Double.infinite false)
    | ".nan" => return .nan
    | _ =>
      if cs.contains ':' then
        let digits ← (Text.splitAt ':' cs).mapM decimal
        let sum ← (sumOfSixties (.real (.zero false)) 1 digits.reverse).mapError fun _ => .tooLarge
        match sum.toDouble with
        | .ok d => pure d
        | .error _ => throw .tooLarge
      else decimal cs
  return if negative then d.neg else d

/-! ## Truth values, bytes, dates -/

/-- The word that a truth value is written as, in any case. -/
def truth (text : String) : Except Failure Bool :=
  match Text.lowercase text with
  | "yes" | "true" | "on" => .ok true
  | "no" | "false" | "off" => .ok false
  | word => .error (.badTruthWord word)

/-- The value of a character that stands for six bits. -/
def sixBits? (c : Char) : Option Nat :=
  if 'A' ≤ c && c ≤ 'Z' then some (c.toNat - 65)
  else if 'a' ≤ c && c ≤ 'z' then some (c.toNat - 71)
  else if '0' ≤ c && c ≤ '9' then some (c.toNat + 4)
  else if c == '+' then some 62
  else if c == '/' then some 63
  else none

/-- The bytes of characters of six bits each. `held` is what the last characters have left over, of which there are `count` in
a group of four; enough equals signs end the text, and other characters do not count. -/
def bytesFrom (held count padding : Nat) : List Char → Option (List UInt8)
  | [] => if count = 0 then some [] else none
  | c :: rest =>
    if c = '=' then
      if count < 2 then bytesFrom held count padding rest
      else if 4 ≤ count + padding + 1 then some []
      else bytesFrom held count (padding + 1) rest
    else
      match sixBits? c with
      | none => bytesFrom held count padding rest
      | some v =>
        match count with
        | 0 => bytesFrom v 1 0 rest
        | 1 => (UInt8.ofNat (4 * held + v / 16) :: ·) <$> bytesFrom (v % 16) 2 0 rest
        | 2 => (UInt8.ofNat (16 * held + v / 4) :: ·) <$> bytesFrom (v % 4) 3 0 rest
        | _ => (UInt8.ofNat (64 * held + v) :: ·) <$> bytesFrom 0 0 0 rest

/-- Bytes, four characters for three of them. -/
def bytes (text : String) : Except Failure (List UInt8) :=
  if text.toList.any fun c => 128 ≤ c.toNat then .error .malformed
  else
    match bytesFrom 0 0 0 text.toList with
    | some bs => .ok bs
    | none => .error .malformed

/-- A day of the calendar. -/
def date (year month day : Nat) : Except CalendarFault Date :=
  if year < 1 then .error (.year year)
  else if month < 1 || 12 < month then .error .month
  else if day < 1 || Date.daysIn year month < day then .error .day
  else .ok ⟨year, month, day⟩

/-- The distance from universal time in seconds. -/
def offset (sign : Char) (hours minutes : List Char) : Except CalendarFault Int :=
  let seconds : Int := 3600 * Decimal.natOfDigits hours + 60 * Decimal.natOfDigits minutes
  let signed := if sign = '-' then -seconds else seconds
  if seconds < 86400 then .ok signed else .error (.offset signed)

/-- A date, or a date and time. -/
def moment (t : Form.Timestamp) : Except CalendarFault Scalar := do
  let day := date (Decimal.natOfDigits t.year) (Decimal.natOfDigits t.month) (Decimal.natOfDigits t.day)
  match t.time with
  | none => return .date (← day)
  | some (hour, minute, second, fraction) =>
    let zone ← t.zone.mapM fun (sign, hours, minutes) => offset sign hours minutes
    let day ← day
    let (hour, minute, second) := (Decimal.natOfDigits hour, Decimal.natOfDigits minute, Decimal.natOfDigits second)
    if 23 < hour then throw .hour
    if 59 < minute then throw .minute
    if 59 < second then throw .second
    let microsecond := Decimal.natOfDigits ((fraction ++ List.replicate 6 '0').take 6)
    return .moment ⟨day, hour, minute, second, microsecond, zone⟩

/-- The value of a text under a tag. -/
def ofText (tag : Tag) (text : String) : Except Failure Scalar :=
  match tag with
  | .null => .ok .null
  | .bool => return .bool (← truth text)
  | .int => return .int (← integer text.toList)
  | .double => return .double (← double text)
  | .binary => return .bytes (← bytes text)
  | .timestamp =>
    match Form.timestamp? (Form.withoutFinalBreak text.toList) with
    | some t => (moment t).mapError .calendar
    | none => .error .badMoment
  | .text => .ok (.text text)
  | .list | .map | .set | .orderedMap | .pairs | .merge | .equals | .unknown => .error .malformed

end ScalarValue

end Yaml

end RegulatoryTrees
