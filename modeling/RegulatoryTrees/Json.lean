import RegulatoryTrees.Value
import RegulatoryTrees.Number.Decimal

/-!
# Reading JSON

The reader accepts standard JSON and the three names of non-finite doubles. A number with a point or an exponent is a double,
any other an integer. Of several entries with one key the last one counts. What is wrong with a text is reported with the
place where it was noticed.
-/

namespace RegulatoryTrees

namespace Json

/-- What a reader complains of. -/
inductive Complaint where
  | expectingValue
  | expectingKey
  | expectingColon
  | expectingComma
  | unterminatedString
  | controlCharacter
  | badEscape
  | badUnicodeEscape
  | extraData
  | byteOrderMark
  /-- An integer with more digits than are read. -/
  | integerTooLong (digits : Nat)
  deriving DecidableEq

/-- The wording of a complaint, without its place. -/
def Complaint.wording : Complaint → String
  | .expectingValue => "Expecting value"
  | .expectingKey => "Expecting property name enclosed in double quotes"
  | .expectingColon => "Expecting ':' delimiter"
  | .expectingComma => "Expecting ',' delimiter"
  | .unterminatedString => "Unterminated string starting at"
  | .controlCharacter => "Invalid control character at"
  | .badEscape => "Invalid \\escape"
  | .badUnicodeEscape => "Invalid \\uXXXX escape"
  | .extraData => "Extra data"
  | .byteOrderMark => "Unexpected UTF-8 BOM (decode using utf-8-sig)"
  | .integerTooLong digits => (Decimal.NumeralTooLong.mk digits).message

/-- A complaint with the number of characters that were left when it was made. -/
structure Fault where
  complaint : Complaint
  remaining : Nat
  deriving DecidableEq

/-- The fault at the beginning of the given rest of a text. -/
def faultAt (complaint : Complaint) (rest : List Char) : Fault := ⟨complaint, rest.length⟩

/-- The place of a fault in its text: characters before it, and its line and column counted from one. -/
structure Place where
  offset : Nat
  line : Nat
  column : Nat
  deriving DecidableEq

/-- The place after the first `offset` characters of a text. -/
def placeOf (text : List Char) (offset : Nat) : Place :=
  let before := text.take offset
  let lastLine := (before.reverse.takeWhile (· != '\n')).length
  ⟨offset, before.count '\n' + 1, lastLine + 1⟩

/-- Where a fault was noticed. -/
def Fault.place (text : List Char) (f : Fault) : Place := placeOf text (text.length - f.remaining)

/-- The message of a fault: its wording and, for a fault of form, its place. -/
def Fault.message (text : List Char) (f : Fault) : String :=
  match f.complaint with
  | .integerTooLong _ => f.complaint.wording
  | _ =>
    let p := f.place text
    f.complaint.wording ++ ": line " ++ Decimal.ofNat p.line ++ " column " ++ Decimal.ofNat p.column ++
      " (char " ++ Decimal.ofNat p.offset ++ ")"

/-- Blanks between tokens. -/
def isSpace (c : Char) : Bool := c == ' ' || c == '\t' || c == '\n' || c == '\r'

/-- The rest of a text after blanks. -/
def skipSpace (cs : List Char) : List Char := cs.dropWhile isSpace

/-- The value of a hexadecimal digit. -/
def hexValue? (c : Char) : Option Nat :=
  if '0' ≤ c && c ≤ '9' then some (c.toNat - 48)
  else if 'a' ≤ c && c ≤ 'f' then some (c.toNat - 87)
  else if 'A' ≤ c && c ≤ 'F' then some (c.toNat - 55)
  else none

/-- The value of a list of hexadecimal digits. -/
def hexNumber? (cs : List Char) : Option Nat :=
  cs.foldl (fun n c => do some (16 * (← n) + (← hexValue? c))) (some 0)

/-- The character that stands for an unpaired half of a pair. -/
def replacement : Char := '\ufffd'

/-- The character of a backslash escape of one letter. -/
def shortEscape? : Char → Option Char
  | '"' => some '"'
  | '\\' => some '\\'
  | '/' => some '/'
  | 'b' => some '\x08'
  | 'f' => some '\x0c'
  | 'n' => some '\n'
  | 'r' => some '\r'
  | 't' => some '\t'
  | _ => none

/-- Characters read so far, the last one first, and the first half of a pair of which the second is awaited. -/
structure Collected where
  chars : List Char := []
  half : Option Nat := none

namespace Collected

/-- Add a character; an awaited half did not come. -/
def push (c : Char) (done : Collected) : Collected :=
  ⟨c :: (if done.half.isSome then replacement :: done.chars else done.chars), none⟩

/-- Add a unit of sixteen bits, joining the halves of a pair. -/
def pushUnit (n : Nat) (done : Collected) : Collected :=
  if 0xDC00 ≤ n && n < 0xE000 then
    match done.half with
    | some first => ⟨Char.ofNat (0x10000 + (first - 0xD800) * 0x400 + (n - 0xDC00)) :: done.chars, none⟩
    | none => done.push replacement
  else if 0xD800 ≤ n && n < 0xDC00 then
    ⟨if done.half.isSome then replacement :: done.chars else done.chars, some n⟩
  else done.push (Char.ofNat n)

/-- The text collected. -/
def text (done : Collected) : String :=
  String.ofList (if done.half.isSome then replacement :: done.chars else done.chars).reverse

end Collected

/-- The rest of a string after its opening quote; `opening` is what was left at the quote. -/
def stringBody (opening : Nat) (done : Collected) : List Char → Except Fault (String × List Char)
  | [] => .error ⟨.unterminatedString, opening⟩
  | '"' :: rest => .ok (done.text, rest)
  | '\\' :: [] => .error ⟨.unterminatedString, opening⟩
  | '\\' :: 'u' :: a :: b :: c :: d :: e :: rest =>
    match hexNumber? [a, b, c, d] with
    | some n => stringBody opening (done.pushUnit n) (e :: rest)
    | none => .error ⟨.badUnicodeEscape, rest.length + 6⟩
  | '\\' :: 'u' :: rest => .error ⟨.badUnicodeEscape, rest.length + 1⟩
  | '\\' :: c :: rest =>
    match shortEscape? c with
    | some e => stringBody opening (done.push e) rest
    | none => .error ⟨.badEscape, rest.length + 2⟩
  | c :: rest =>
    if c.toNat < 32 then .error ⟨.controlCharacter, rest.length + 1⟩ else stringBody opening (done.push c) rest

/-- ASCII digits at the beginning of a text, and the rest. -/
def digits (cs : List Char) : List Char × List Char := cs.span Text.isAsciiDigit

/-- The digits before the point: a single zero, or digits that begin with no zero. -/
def integerDigits : List Char → List Char × List Char
  | '0' :: rest => (['0'], rest)
  | cs => digits cs

/-- The digits after a point, if there are any. -/
def fractionDigits : List Char → List Char × List Char
  | '.' :: rest =>
    match digits rest with
    | ([], _) => ([], '.' :: rest)
    | found => found
  | cs => ([], cs)

/-- The sign and digits of an exponent, if there is one. -/
def exponentOf : List Char → Option Int × List Char
  | e :: rest =>
    if e == 'e' || e == 'E' then
      let (negative, after) := match rest with
        | '-' :: r => (true, r)
        | '+' :: r => (false, r)
        | r => (false, r)
      match digits after with
      | ([], _) => (none, e :: rest)
      | (ds, r) => (some (if negative then -(Decimal.natOfDigits ds : Int) else Decimal.natOfDigits ds), r)
    else (none, e :: rest)
  | [] => (none, [])

/-- A number; `limit` is the greatest number of digits of an integer, if there is a greatest one. -/
def number (limit : Option Nat) (cs : List Char) : Except Fault (Value × List Char) :=
  let (negative, unsigned) := match cs with
    | '-' :: r => (true, r)
    | r => (false, r)
  match integerDigits unsigned with
  | ([], _) => .error (faultAt .expectingValue cs)
  | (whole, rest) =>
    let (fraction, rest) := fractionDigits rest
    let (exponent, rest) := exponentOf rest
    if fraction.isEmpty && exponent.isNone then
      let n := Decimal.natOfDigits whole
      if limit.any (whole.length > ·) then .error (faultAt (.integerTooLong whole.length) cs)
      else .ok (.int (if negative then -(n : Int) else n), rest)
    else
      let shift := exponent.getD 0 - fraction.length
      .ok (.double (Decimal.toDouble negative (Decimal.natOfDigits (whole ++ fraction)) shift), rest)

/-- The rest of a text after a word at its beginning. -/
def afterWord? (word : String) (cs : List Char) : Option (List Char) :=
  let w := word.toList
  if w.isPrefixOf cs then some (cs.drop w.length) else none

/-- The words that are values. -/
def words : List (String × Value) :=
  [("null", .null), ("true", .bool true), ("false", .bool false), ("NaN", .double .nan),
    ("Infinity", .double (.infinite false)), ("-Infinity", .double (.infinite true))]

/-- A word or a number. -/
def atom (limit : Option Nat) (cs : List Char) : Except Fault (Value × List Char) :=
  match words.findSome? fun (word, value) => (afterWord? word cs).map (value, ·) with
  | some found => .ok found
  | none => number limit cs

mutual

/-- A value at the beginning of a text. Every call takes at least one character from the text or is followed by one that
does, so `fuel` above the length of the text is never used up. -/
def value (limit : Option Nat) : Nat → List Char → Except Fault (Value × List Char)
  | 0, cs => .error (faultAt .expectingValue cs)
  | fuel + 1, cs =>
    match cs with
    | '"' :: rest => do
      let (s, rest) ← stringBody cs.length {} rest
      .ok (.text s, rest)
    | '[' :: rest =>
      match skipSpace rest with
      | ']' :: rest => .ok (.list [], rest)
      | rest => do
        let (xs, rest) ← items limit fuel rest
        .ok (.list xs, rest)
    | '{' :: rest =>
      match skipSpace rest with
      | '}' :: rest => .ok (.mapping [], rest)
      | rest => do
        let (xs, rest) ← entries limit fuel rest
        .ok (.mapping (Value.ofEntries xs), rest)
    | _ => atom limit cs

/-- The items of an array up to its closing bracket. -/
def items (limit : Option Nat) : Nat → List Char → Except Fault (List Value × List Char)
  | 0, cs => .error (faultAt .expectingValue cs)
  | fuel + 1, cs => do
    let (x, rest) ← value limit fuel cs
    match skipSpace rest with
    | ']' :: rest => .ok ([x], rest)
    | ',' :: rest => do
      let (xs, rest) ← items limit fuel (skipSpace rest)
      .ok (x :: xs, rest)
    | rest => .error (faultAt .expectingComma rest)

/-- The entries of an object up to its closing brace. -/
def entries (limit : Option Nat) : Nat → List Char → Except Fault (List (Scalar × Value) × List Char)
  | 0, cs => .error (faultAt .expectingKey cs)
  | fuel + 1, cs =>
    match cs with
    | '"' :: rest => do
      let (key, rest) ← stringBody cs.length {} rest
      match skipSpace rest with
      | ':' :: rest => do
        let (x, rest) ← value limit fuel (skipSpace rest)
        match skipSpace rest with
        | '}' :: rest => .ok ([(.text key, x)], rest)
        | ',' :: rest => do
          let (xs, rest) ← entries limit fuel (skipSpace rest)
          .ok ((.text key, x) :: xs, rest)
        | rest => .error (faultAt .expectingComma rest)
      | rest => .error (faultAt .expectingColon rest)
    | _ => .error (faultAt .expectingKey cs)

end

/-- The value of a text that holds one value and blanks around it. -/
def parseChars (limit : Option Nat) (cs : List Char) : Except Fault Value := do
  let (v, rest) ← value limit (cs.length + 1) (skipSpace cs)
  match skipSpace rest with
  | [] => .ok v
  | rest => .error (faultAt .extraData rest)

/-- The value of a text, which may not begin with a byte order mark. -/
def parse (limit : Option Nat) (text : String) : Except Fault Value :=
  match text.toList with
  | '\ufeff' :: rest => .error ⟨.byteOrderMark, rest.length + 1⟩
  | cs => parseChars limit cs

end Json

end RegulatoryTrees
