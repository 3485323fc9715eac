import RegulatoryTrees.Value.Display

/-!
# Values as JSON text

The JSON text of a value in ASCII. Two forms are in use: `relaxed`, for people, with spaces after separators, keys in their
order, and a text in place of what JSON cannot hold; and `canonical`, for hashing, without spaces, keys sorted at every
level, and nothing but what JSON can hold.
-/

namespace RegulatoryTrees

namespace Rendering

/-- What stands in the way of writing a value. -/
inductive Failure where
  /-- An integer has too many digits. -/
  | integerTooLong
  /-- A key is of a kind that JSON keys cannot be written from. -/
  | unwritableKey (kind : String)
  /-- A value is of a kind that JSON cannot hold. -/
  | unwritableValue (kind : String)
  /-- A value contains itself. -/
  | circular
  deriving DecidableEq

/-- The message of a failure. -/
def Failure.message : Failure → String
  | .integerTooLong =>
    "Exceeds the limit (4300 digits) for integer string conversion; " ++
      "use sys.set_int_max_str_digits() to increase the limit"
  | .unwritableKey kind => "keys must be str, int, float, bool or None, not " ++ kind
  | .unwritableValue kind => "Object of type " ++ kind ++ " is not JSON serializable"
  | .circular => "Circular reference detected"

/-- A form of JSON text. -/
structure Form where
  itemSeparator : List Char
  keySeparator : List Char
  sorted : Bool
  /-- Whether a value that JSON cannot hold is written as the text that shows it. -/
  lenient : Bool

/-- For people: spaces after separators, keys as they come, unknown values shown plain. -/
def relaxed : Form := ⟨[',', ' '], [':', ' '], false, true⟩

/-- For hashing: no spaces, keys sorted, unknown values refused. -/
def canonical : Form := ⟨[','], [':'], true, false⟩

/-- The escape of one unit of sixteen bits. -/
def escapeUnit (n : Nat) : List Char := '\\' :: 'u' :: Text.hexDigits 4 n

/-- One character between JSON quotes, in ASCII; a character above U+FFFF becomes a pair of escapes. -/
def escapeChar (c : Char) : List Char :=
  if c == '"' then ['\\', '"']
  else if c == '\\' then ['\\', '\\']
  else if c == '\n' then ['\\', 'n']
  else if c == '\r' then ['\\', 'r']
  else if c == '\t' then ['\\', 't']
  else if c == '\x0c' then ['\\', 'f']
  else if c == '\x08' then ['\\', 'b']
  else if 32 ≤ c.toNat && c.toNat < 127 then [c]
  else if c.toNat < 0x10000 then escapeUnit c.toNat
  else
    let rest := c.toNat - 0x10000
    escapeUnit (0xD800 + rest / 0x400) ++ escapeUnit (0xDC00 + rest % 0x400)

/-- A text between JSON quotes. -/
def quote (s : String) : List Char := '"' :: s.toList.flatMap escapeChar ++ ['"']

/-- The form of doubles in JSON texts. -/
def doubleForm : Decimal.Form := { Decimal.standardForm with nan := "NaN", infinity := "Infinity" }

/-- The text of a double. -/
def double (d : Double) : String := Decimal.ofDoubleIn doubleForm d

/-- The text of an integer, unless it has too many digits. -/
def integer (n : Int) : Except Failure String :=
  if (Decimal.digitsOf n.natAbs).length > Decimal.digitLimit then .error .integerTooLong else .ok (Decimal.ofInt n)

/-- The text of a key, before quoting. -/
def key : Scalar → Except Failure String
  | .text s => .ok s
  | .null => .ok "null"
  | .bool b => .ok (if b then "true" else "false")
  | .int n => integer n
  | .double d => .ok (double d)
  | s => .error (.unwritableKey (Value.scalar s).kindName)

/-- An integer has no more digits than are written. -/
def fits : Scalar → Bool
  | .int n => (Decimal.digitsOf n.natAbs).length ≤ Decimal.digitLimit
  | _ => true

mutual

/-- No integer in a value has more digits than are written. -/
def integersFit : Value → Bool
  | .scalar s => fits s
  | .missing | .recurrence _ _ => true
  | .sequence _ items => allIntegersFit items
  | .mapping entries => entryIntegersFit entries

/-- No integer in some values has more digits than are written. -/
def allIntegersFit : List Value → Bool
  | [] => true
  | x :: rest => integersFit x && allIntegersFit rest

/-- No integer in some entries has more digits than are written. -/
def entryIntegersFit : List (Scalar × Value) → Bool
  | [] => true
  | (k, x) :: rest => fits k && integersFit x && entryIntegersFit rest

end

/-- What is written for a value that JSON cannot hold: the text that shows it, if its integers can be written. -/
def other (form : Form) (v : Value) : Except Failure (List Char) :=
  if !form.lenient then .error (.unwritableValue v.kindName)
  else if integersFit v then .ok (quote v.plain)
  else .error .integerTooLong

/-- The text of a scalar. -/
def scalar (form : Form) : Scalar → Except Failure (List Char)
  | .null => .ok "null".toList
  | .bool b => .ok (if b then "true" else "false").toList
  | .int n => String.toList <$> integer n
  | .double d => .ok (double d).toList
  | .text s => .ok (quote s)
  | s => other form (.scalar s)

/-- Texts with a separator between them. -/
def joined (separator : List Char) : List (List Char) → List Char
  | [] => []
  | [x] => x
  | x :: rest => x ++ separator ++ joined separator rest

/-- What is written for an entry of a mapping, with the plain text of its key. -/
abbrev Entry := String × Except Failure (List Char)

/-- Entries in the order in which they are written. -/
def arranged (form : Form) (entries : List Entry) : List Entry :=
  if form.sorted then entries.mergeSort fun a b => decide (a.1 ≤ b.1) else entries

mutual

/-- The text of a value. -/
def value (form : Form) : Value → Except Failure (List Char)
  | .scalar s => scalar form s
  | .missing => other form .missing
  | .sequence .set xs => other form (.sequence .set xs)
  | .recurrence _ _ => .error .circular
  | .sequence _ xs => do
    let written ← items form xs
    .ok ('[' :: joined form.itemSeparator written ++ [']'])
  | .mapping xs => do
    let texts ← (arranged form (entries form xs)).mapM Prod.snd
    .ok ('{' :: joined form.itemSeparator texts ++ ['}'])

/-- The texts of the items of a sequence. -/
def items (form : Form) : List Value → Except Failure (List (List Char))
  | [] => .ok []
  | x :: rest => do
    let first ← value form x
    let others ← items form rest
    .ok (first :: others)

/-- The entries of a mapping. What stands in the way of one counts when its turn comes. -/
def entries (form : Form) : List (Scalar × Value) → List Entry
  | [] => []
  | (k, x) :: rest =>
    let written := do
      let name ← key k
      let text ← value form x
      .ok (quote name ++ form.keySeparator ++ text)
    (k.plain, written) :: entries form rest

end

end Rendering

/-- The text of a value for people. -/
def Value.relaxedText (v : Value) : Except Rendering.Failure String :=
  String.ofList <$> Rendering.value Rendering.relaxed v

/-- The text of a value for hashing: the same for two values that differ in the order of keys only. -/
def Value.canonicalText (v : Value) : Except Rendering.Failure String :=
  String.ofList <$> Rendering.value Rendering.canonical v

end RegulatoryTrees
