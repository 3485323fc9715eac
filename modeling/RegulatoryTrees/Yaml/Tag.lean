import RegulatoryTrees.Text.Letters
import RegulatoryTrees.Text.Split

/-!
# YAML tags

A tag says what kind of data a node is. A plain scalar without a tag is given one by its form.
-/

namespace RegulatoryTrees

namespace Yaml

/-- What kind of data a node is. -/
inductive Tag where
  | null
  | bool
  | int
  | double
  | binary
  | timestamp
  | orderedMap
  | pairs
  | set
  | text
  | list
  | map
  /-- As a key, the entries of its value are entries of the mapping it is in. -/
  | merge
  /-- As a key, an ordinary key. -/
  | equals
  | unknown
  deriving DecidableEq

namespace Tag

/-- What the names of all common tags begin with. -/
def common : String := "tag:yaml.org,2002:"

/-- The common tags by their names. -/
def named : List (String × Tag) :=
  [("null", null), ("bool", bool), ("int", int), ("float", double), ("binary", binary), ("timestamp", timestamp),
    ("omap", orderedMap), ("pairs", pairs), ("set", set), ("str", text), ("seq", list), ("map", map), ("merge", merge),
    ("value", equals)]

/-- The tag with a name. -/
def ofName (name : String) : Tag :=
  match named.find? fun entry => common ++ entry.1 == name with
  | some (_, tag) => tag
  | none => unknown

end Tag

/-! ## The forms of plain scalars -/

namespace Form

/-- A digit or an underscore. -/
def isDigitOrGap (c : Char) : Bool := Text.isAsciiDigit c || c == '_'

/-- A text without the sign it may begin with. -/
def unsigned : List Char → List Char
  | '+' :: rest => rest
  | '-' :: rest => rest
  | cs => cs

/-- The rest after a digit and any further digits and underscores. -/
def afterDigits? : List Char → Option (List Char)
  | c :: rest => if Text.isAsciiDigit c then some (rest.dropWhile isDigitOrGap) else none
  | [] => none

/-- A number below sixty. -/
def isSixtieth : List Char → Bool
  | [a] => Text.isAsciiDigit a
  | [a, b] => '0' ≤ a && a ≤ '5' && Text.isAsciiDigit b
  | _ => false

/-- Digits and, after colons, one or more numbers below sixty. -/
def hasSixtieths (cs : List Char) : Bool :=
  match Text.splitAt ':' cs with
  | first :: second :: more => afterDigits? first == some [] && (second :: more).all isSixtieth
  | _ => false

/-- Nothing, or an exponent with its sign. -/
def isExponent : List Char → Bool
  | [] => true
  | e :: sign :: digits =>
    (e == 'e' || e == 'E') && (sign == '+' || sign == '-') && !digits.isEmpty && digits.all Text.isAsciiDigit
  | _ => false

/-- The form of an integer: binary, octal, decimal, hexadecimal, or with digits to base sixty. -/
def isInteger (text : List Char) : Bool :=
  match unsigned text with
  | '0' :: rest =>
    match rest with
    | [] => true
    | 'b' :: digits => !digits.isEmpty && digits.all fun c => c == '0' || c == '1' || c == '_'
    | 'x' :: digits =>
      !digits.isEmpty && digits.all fun c =>
        isDigitOrGap c || ('a' ≤ c && c ≤ 'f') || ('A' ≤ c && c ≤ 'F')
    | digits => digits.all fun c => ('0' ≤ c && c ≤ '7') || c == '_'
  | cs => afterDigits? cs == some [] || hasSixtieths cs

/-- The form of a number with a point, or the name of a number that is not finite. -/
def isDouble (text : List Char) : Bool :=
  let cs := unsigned text
  let (whole, rest) := cs.span (· != '.')
  let (decimal, sixties) := match rest with
    | '.' :: more =>
      let ending := more.dropWhile isDigitOrGap
      (afterDigits? whole == some [] && isExponent ending, hasSixtieths whole && ending.isEmpty)
    | _ => (false, false)
  let fraction := match text with
    | '.' :: rest => (afterDigits? rest).any isExponent
    | _ => false
  decimal || fraction || sixties || [".inf", ".Inf", ".INF"].contains (String.ofList cs) ||
    [".nan", ".NaN", ".NAN"].contains (String.ofList text)

/-- The parts of a date with or without a time; parts that are there are digits. -/
structure Timestamp where
  year : List Char
  month : List Char
  day : List Char
  /-- Hour, minute, second and the digits after the point. -/
  time : Option (List Char × List Char × List Char × List Char)
  /-- The distance from universal time: its sign, hours and minutes. -/
  zone : Option (Char × List Char × List Char)

/-- A number of digits, at least and at most so many, and the rest. -/
def digits? (least most : Nat) (cs : List Char) : Option (List Char × List Char) :=
  let found := (cs.take most).takeWhile Text.isAsciiDigit
  if found.length < least then none else some (found, cs.drop found.length)

/-- The rest after a character. -/
def after? (c : Char) : List Char → Option (List Char)
  | d :: rest => if c = d then some rest else none
  | [] => none

/-- The distance from universal time at the end of a text. -/
def zone? (cs : List Char) : Option (Option (Char × List Char × List Char)) :=
  if cs.isEmpty then some none
  else
    match cs.dropWhile fun c => c == ' ' || c == '\t' with
    | ['Z'] => some (some ('+', [], []))
    | sign :: rest =>
      if sign = '+' || sign = '-' then do
        let (hours, rest) ← digits? 1 2 rest
        if rest.isEmpty then return some (sign, hours, [])
        let (minutes, rest) ← digits? 2 2 (← after? ':' rest)
        if rest.isEmpty then return some (sign, hours, minutes) else none
      else none
    | [] => none

/-- The parts of a date and time. -/
def timestamp? (cs : List Char) : Option Timestamp := do
  let (year, rest) ← digits? 4 4 cs
  let (month, rest) ← digits? 1 2 (← after? '-' rest)
  let (day, rest) ← digits? 1 2 (← after? '-' rest)
  if rest.isEmpty then return ⟨year, month, day, none, none⟩
  let rest ← match rest with
    | c :: rest =>
      if c = 'T' || c = 't' then some rest
      else if c = ' ' || c = '\t' then some (rest.dropWhile fun c => c == ' ' || c == '\t')
      else none
    | [] => none
  let (hour, rest) ← digits? 1 2 rest
  let (minute, rest) ← digits? 2 2 (← after? ':' rest)
  let (second, rest) ← digits? 2 2 (← after? ':' rest)
  let (fraction, rest) := match rest with
    | '.' :: more => more.span Text.isAsciiDigit
    | rest => ([], rest)
  return ⟨year, month, day, some (hour, minute, second, fraction), ← zone? rest⟩

/-- The form of a date or of a date and time. A date alone has two digits for month and day. -/
def isTimestamp (cs : List Char) : Bool :=
  match timestamp? cs with
  | some t => t.time.isSome || (t.month.length == 2 && t.day.length == 2)
  | none => false

/-- The words for truth values, which are also read with a capital or all in capitals. -/
def truthWords : List String := ["yes", "no", "true", "false", "on", "off"]

/-- A word, with a capital, or all in capitals. -/
def isSpelling (word text : String) : Bool :=
  text == word || text == word.capitalize || text == word.toUpper

/-- The text without a line end at its end. -/
def withoutFinalBreak (cs : List Char) : List Char := if cs.getLast? = some '\n' then cs.dropLast else cs

/-- The tag of a plain scalar. -/
def tagOf (text : String) : Tag :=
  let cs := withoutFinalBreak text.toList
  let s := String.ofList cs
  if truthWords.any (isSpelling · s) then .bool
  else if isDouble cs then .double
  else if isInteger cs then .int
  else if s == "<<" then .merge
  else if s == "~" || isSpelling "null" s || text.isEmpty then .null
  else if isTimestamp cs then .timestamp
  else if s == "=" then .equals
  else .text

end Form

end Yaml

end RegulatoryTrees
