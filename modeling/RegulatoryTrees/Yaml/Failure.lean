import RegulatoryTrees.Number.Decimal
import RegulatoryTrees.Text.Quoted

/-!
# What goes wrong with YAML

A text that is not YAML, or that asks for more than plain data, is malformed; nothing more is said about it. A scalar whose
form is that of a number, date or the like but that stands for none is refused with a cause of its own.
-/

namespace RegulatoryTrees

/-- Why numbers for years, months and so on are no date or time. -/
inductive CalendarFault where
  | year (n : Nat)
  | month
  | day
  | hour
  | minute
  | second
  /-- The distance from universal time, in seconds, is a day or more. -/
  | offset (seconds : Int)
  deriving DecidableEq

namespace CalendarFault

/-- A time span in days and seconds, the seconds never negative. -/
def span (seconds : Int) : String :=
  let days := seconds.fdiv 86400
  let rest := seconds.fmod 86400
  "datetime.timedelta(days=" ++ Decimal.ofInt days ++
    (if rest = 0 then "" else ", seconds=" ++ Decimal.ofInt rest) ++ ")"

/-- A fault in words. -/
def message : CalendarFault → String
  | .year n => "year " ++ Decimal.ofNat n ++ " is out of range"
  | .month => "month must be in 1..12"
  | .day => "day is out of range for month"
  | .hour => "hour must be in 0..23"
  | .minute => "minute must be in 0..59"
  | .second => "second must be in 0..59"
  | .offset seconds =>
    "offset must be a timedelta strictly between -timedelta(hours=24) and timedelta(hours=24), not " ++ span seconds ++ "."

end CalendarFault

namespace Yaml

/-- Why a text has no content. -/
inductive Failure where
  /-- The text is not YAML, or has parts that are no plain data. -/
  | malformed
  | badInteger (base : Nat) (text : String)
  | numeralTooLong (digits : Nat)
  | badDouble (text : String)
  /-- A part of a number is too large for a double. -/
  | tooLarge
  /-- A number without any character. -/
  | emptyNumber
  | badTruthWord (word : String)
  | badMoment
  | calendar (fault : CalendarFault)
  /-- A date or time is given by a mapping. -/
  | momentWithParts
  /-- A scalar is given by a mapping that leads back to itself. -/
  | endlessScalar
  /-- An escape names a character that there is not. -/
  | noCharacter (code : Nat)
  deriving DecidableEq

/-- The greatest length of a numeral, with its quotes, in a message; the rest is left out. -/
def shownLength : Nat := 200

/-- A failure in words; nothing is said about a text that is malformed. -/
def Failure.message : Failure → String
  | .malformed => ""
  | .badInteger base text =>
    "invalid literal for int() with base " ++ Decimal.ofNat base ++ ": " ++
      String.ofList ((Text.quoted text).toList.take shownLength)
  | .numeralTooLong digits => (Decimal.NumeralTooLong.mk digits).message
  | .badDouble text => "could not convert string to float: " ++ Text.quoted text
  | .tooLarge => "int too large to convert to float"
  | .emptyNumber => "string index out of range"
  | .badTruthWord word => Text.quoted word
  | .badMoment => "'NoneType' object has no attribute 'groupdict'"
  | .calendar fault => fault.message
  | .momentWithParts => "expected string or bytes-like object, got 'list'"
  | .endlessScalar => "maximum recursion depth exceeded"
  | .noCharacter code =>
    if code < 0x80000000 then "chr() arg not in range(0x110000)" else "Python int too large to convert to C int"

end Yaml

end RegulatoryTrees
