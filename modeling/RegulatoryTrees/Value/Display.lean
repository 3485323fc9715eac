import RegulatoryTrees.Value
import RegulatoryTrees.Number.Decimal
import RegulatoryTrees.Text.Quoted

/-!
# Values as shown in messages

A value is shown in one of two ways: plain, where a text is itself and a date is in ISO form, or spelled out, where a text
stands between quotes. The parts of a sequence or mapping are always spelled out, except that points stand for a value inside
itself.
-/

namespace RegulatoryTrees

namespace Date

/-- Year, month and day between hyphens. -/
def iso (d : Date) : String := Decimal.padded 4 d.year ++ "-" ++ Decimal.padded 2 d.month ++ "-" ++ Decimal.padded 2 d.day

end Date

namespace Moment

/-- A distance from universal time: sign, hours and minutes, and seconds if there are any. -/
def offsetText (seconds : Int) : String :=
  let n := seconds.natAbs
  let tail := if n % 60 = 0 then "" else ":" ++ Decimal.padded 2 (n % 60)
  (if seconds < 0 then "-" else "+") ++ Decimal.padded 2 (n / 3600) ++ ":" ++ Decimal.padded 2 (n / 60 % 60) ++ tail

/-- Date and time, with a fraction of a second and a distance from universal time if they are there. -/
def iso (separator : String) (m : Moment) : String :=
  m.date.iso ++ separator ++ Decimal.padded 2 m.hour ++ ":" ++ Decimal.padded 2 m.minute ++ ":" ++ Decimal.padded 2 m.second ++
    (if m.microsecond = 0 then "" else "." ++ Decimal.padded 6 m.microsecond) ++ (m.offset.elim "" offsetText)

/-- The span of time that a distance from universal time is, spelled out. -/
def spanSpelled (seconds : Int) : String :=
  let days := seconds / 86400
  let rest := seconds % 86400
  let parts := (if days = 0 then [] else ["days=" ++ Decimal.ofInt days]) ++
    (if rest = 0 then [] else ["seconds=" ++ Decimal.ofInt rest])
  "datetime.timedelta(" ++ String.intercalate ", " parts ++ ")"

/-- A distance from universal time, spelled out. -/
def zoneSpelled (seconds : Int) : String :=
  if seconds = 0 then "datetime.timezone.utc" else "datetime.timezone(" ++ spanSpelled seconds ++ ")"

end Moment

namespace Scalar

/-- A scalar spelled out. -/
def spelled : Scalar → String
  | .null => "None"
  | .bool b => if b then "True" else "False"
  | .int n => Decimal.ofInt n
  | .double d => Decimal.ofDouble d
  | .text s => Text.quoted s
  | .bytes bs => Text.quotedBytes bs
  | .date d =>
    "datetime.date(" ++ String.intercalate ", " ([d.year, d.month, d.day].map Decimal.ofNat) ++ ")"
  | .moment m =>
    let required := [m.date.year, m.date.month, m.date.day, m.hour, m.minute]
    let optional := if m.microsecond ≠ 0 then [m.second, m.microsecond] else if m.second ≠ 0 then [m.second] else []
    let zone := m.offset.elim [] fun seconds => ["tzinfo=" ++ Moment.zoneSpelled seconds]
    "datetime.datetime(" ++ String.intercalate ", " ((required ++ optional).map Decimal.ofNat ++ zone) ++ ")"

/-- A scalar shown plain. -/
def plain : Scalar → String
  | .text s => s
  | .date d => d.iso
  | .moment m => m.iso " "
  | s => s.spelled

end Scalar

namespace Value

mutual

/-- A value spelled out. -/
def spelled : Value → String
  | .scalar s => s.spelled
  | .missing => "MISSING"
  | .sequence .list items => "[" ++ String.intercalate ", " (spelledItems items) ++ "]"
  | .sequence .tuple [item] => "(" ++ spelled item ++ ",)"
  | .sequence .tuple items => "(" ++ String.intercalate ", " (spelledItems items) ++ ")"
  | .sequence .set [] => "set()"
  | .sequence .set items => "\x7b" ++ String.intercalate ", " (spelledItems items) ++ "\x7d"
  | .mapping entries => "\x7b" ++ String.intercalate ", " (spelledEntries entries) ++ "\x7d"
  | .recurrence (.sequence .list) _ => "[...]"
  | .recurrence (.sequence .tuple) _ => "(...)"
  | .recurrence (.sequence .set) _ => "set(...)"
  | .recurrence .mapping _ => "\x7b...\x7d"

/-- The items of a sequence, spelled out. -/
def spelledItems : List Value → List String
  | [] => []
  | item :: rest => spelled item :: spelledItems rest

/-- The entries of a mapping, spelled out. -/
def spelledEntries : List (Scalar × Value) → List String
  | [] => []
  | (key, value) :: rest => (key.spelled ++ ": " ++ spelled value) :: spelledEntries rest

end

/-- A value shown plain. -/
def plain : Value → String
  | .scalar s => s.plain
  | v => v.spelled

end Value

end RegulatoryTrees
