import RegulatoryTrees.Value.Display
import RegulatoryTrees.Number.Decimal
import RegulatoryTrees.Json

/-!
# Reading values as documents

A document is read field by field. All faults of a document are collected, each with the path to the value at fault, the
value itself and what is wrong with it.
-/

namespace RegulatoryTrees

namespace Format

/-- A part of the path to a value: a key of a mapping or a position of a list. -/
inductive PathPart where
  | key (name : String)
  | index (n : Int)
  deriving DecidableEq

namespace PathPart

/-- The path part as a value. -/
def toValue : PathPart → Value
  | .key name => .text name
  | .index n => .int n

end PathPart

/-- What is wrong with a value. -/
inductive Problem where
  | missing
  | notText
  | notUnicode
  | notList
  | tooShort (least actual : Nat)
  | notDictionary
  /-- The value is no record; the name is that of the record expected. -/
  | notRecord (name : String)
  /-- The value is no record, where any object with fields would do. -/
  | notObject
  | tagMissing
  | tagUnknown (tag : String) (expected : List String)
  | notOneOf (expected : List String)
  /-- Like `notOneOf`, for a choice that is fixed by the reader and not by a vocabulary. -/
  | notLiteral (expected : List String)
  | notInteger
  | notIntegerText
  | integerTextTooLong
  | fraction
  | notFinite
  | notTruthValue
  | notTruthText
  | notNumberText
  | keyNotText
  | unexpected
  /-- The value lies inside itself. -/
  | recursion
  /-- The text of a document is no JSON; the complaint is about a character. -/
  | notJson (complaint : String)
  deriving DecidableEq

/-- Alternatives between quotes, with "or" before the last one. -/
def alternatives : List String → String
  | [] => ""
  | [x] => "'" ++ x ++ "'"
  | [x, y] => "'" ++ x ++ "' or '" ++ y ++ "'"
  | x :: rest => "'" ++ x ++ "', " ++ alternatives rest

/-- Names between quotes. -/
def quotedNames (names : List String) : String := String.intercalate ", " (names.map fun name => "'" ++ name ++ "'")

namespace Problem

/-- The word for a kind of problem. -/
def kind : Problem → String
  | .missing => "missing"
  | .notText => "string_type"
  | .notUnicode => "string_unicode"
  | .notList => "list_type"
  | .tooShort _ _ => "too_short"
  | .notDictionary => "dict_type"
  | .notRecord _ => "model_type"
  | .notObject => "model_attributes_type"
  | .tagMissing => "union_tag_not_found"
  | .tagUnknown _ _ => "union_tag_invalid"
  | .notOneOf _ => "enum"
  | .notLiteral _ => "literal_error"
  | .notInteger => "int_type"
  | .notIntegerText => "int_parsing"
  | .integerTextTooLong => "int_parsing_size"
  | .fraction => "int_from_float"
  | .notFinite => "finite_number"
  | .notTruthValue => "bool_type"
  | .notTruthText => "bool_parsing"
  | .notNumberText => "float_parsing"
  | .keyNotText => "invalid_key"
  | .unexpected => "extra_forbidden"
  | .recursion => "recursion_loop"
  | .notJson _ => "json_invalid"

/-- A problem in words. -/
def message : Problem → String
  | .missing => "Field required"
  | .notText => "Input should be a valid string"
  | .notUnicode => "Input should be a valid string, unable to parse raw data as a unicode string"
  | .notList => "Input should be a valid list"
  | .tooShort least actual =>
    "List should have at least " ++ Decimal.ofNat least ++ (if least = 1 then " item" else " items") ++
      " after validation, not " ++ Decimal.ofNat actual
  | .notDictionary => "Input should be a valid dictionary"
  | .notRecord name => "Input should be a valid dictionary or instance of " ++ name
  | .notObject => "Input should be a valid dictionary or object to extract fields from"
  | .tagMissing => "Unable to extract tag using discriminator 'type'"
  | .tagUnknown tag expected =>
    "Input tag '" ++ tag ++ "' found using 'type' does not match any of the expected tags: " ++ quotedNames expected
  | .notOneOf expected | .notLiteral expected => "Input should be " ++ alternatives expected
  | .notInteger => "Input should be a valid integer"
  | .notIntegerText => "Input should be a valid integer, unable to parse string as an integer"
  | .integerTextTooLong => "Unable to parse input string as an integer, exceeded maximum size"
  | .fraction => "Input should be a valid integer, got a number with a fractional part"
  | .notFinite => "Input should be a finite number"
  | .notTruthValue => "Input should be a valid boolean"
  | .notTruthText => "Input should be a valid boolean, unable to interpret input"
  | .notNumberText => "Input should be a valid number, unable to parse string as a number"
  | .keyNotText => "Keys should be strings"
  | .unexpected => "Extra inputs are not permitted"
  | .recursion => "Recursion error - cyclic reference detected"
  | .notJson _ => "JSON decode error"

/-- Further facts about a problem. -/
def context : Problem → List (String × Value)
  | .tooShort least actual =>
    [("field_type", .text "List"), ("min_length", .int least), ("actual_length", .int actual)]
  | .tagMissing => [("discriminator", .text "'type'")]
  | .tagUnknown tag expected =>
    [("discriminator", .text "'type'"), ("tag", .text tag), ("expected_tags", .text (quotedNames expected))]
  | .notOneOf expected | .notLiteral expected => [("expected", .text (alternatives expected))]
  | .notRecord name => [("class_name", .text name)]
  | .notJson complaint => [("error", .text complaint)]
  | _ => []

end Problem

/-- A fault of a document. -/
structure Fault where
  path : List PathPart
  problem : Problem
  input : Value

namespace Fault

/-- A fault seen from further out. -/
def within (part : PathPart) (f : Fault) : Fault := { f with path := part :: f.path }

/-- Kind, path and message of a fault. -/
def summary (f : Fault) : List (String × Value) :=
  [("type", .text f.problem.kind), ("loc", .list (f.path.map PathPart.toValue)), ("msg", .text f.problem.message)]

/-- A fault as a record. -/
def record (f : Fault) : Value := .record f.summary

/-- A fault as a record with the value at fault and further facts about the problem. -/
def fullRecord (f : Fault) : Value :=
  .record (f.summary ++ [("input", f.input)] ++
    match f.problem.context with
    | [] => []
    | facts => [("ctx", .record facts)])

end Fault

/-- A value that was read, or the faults found. -/
abbrev Checked (α : Type) := Except (List Fault) α

namespace Checked

/-- A single fault. -/
def fault {α : Type} (problem : Problem) (input : Value) : Checked α := .error [⟨[], problem, input⟩]

/-- The faults of what lies under a path part, seen from further out. -/
def under {α : Type} (part : PathPart) (c : Checked α) : Checked α := c.mapError (·.map (·.within part))

/-- Apply a function to what is read, collecting the faults of both. -/
def and {α β : Type} (f : Checked (α → β)) (c : Checked α) : Checked β :=
  match f, c with
  | .ok f, .ok x => .ok (f x)
  | .ok _, .error e => .error e
  | .error e, .ok _ => .error e
  | .error e, .error e' => .error (e ++ e')

end Checked

/-! ## Single values -/

/-- A text; bytes that are a text in UTF-8 are one too. -/
def text (v : Value) : Checked String :=
  match v with
  | .text s => .ok s
  | .scalar (.bytes bs) =>
    match String.fromUTF8? (ByteArray.mk bs.toArray) with
    | some s => .ok s
    | none => .fault .notUnicode v
  | _ => .fault .notText v

/-- Any value. -/
def anything (v : Value) : Checked Value := .ok v

/-- A value or null. -/
def nullable {α : Type} (read : Value → Checked α) (v : Value) : Checked (Option α) :=
  match v with
  | .null => .ok none
  | v => some <$> read v

/-- Items from a position on, collecting the faults of all. -/
def itemsFrom {α : Type} (read : Value → Checked α) (n : Nat) : List Value → Checked (List α)
  | [] => .ok []
  | v :: rest => Checked.and (List.cons <$> Checked.under (.index n) (read v)) (itemsFrom read (n + 1) rest)

/-- A sequence of values. -/
def list {α : Type} (read : Value → Checked α) (v : Value) : Checked (List α) :=
  match v with
  | .sequence _ items => itemsFrom read 0 items
  | .recurrence (.sequence _) _ => .ok []
  | _ => .fault .notList v

/-- One of the values of a vocabulary, by its name. -/
def oneOf {α : Type} (all : List α) (name : α → String) (v : Value) : Checked α :=
  let found := match text v with
    | .ok s => all.find? (name · == s)
    | .error _ => none
  match found with
  | some x => .ok x
  | none => .fault (.notOneOf (all.map name)) v

/-! ### Integers -/

/-- A blank beside a numeral; the separators below the space are none. -/
def isOuterBlank (c : Char) : Bool := Text.isBlank c && !(28 ≤ c.toNat && c.toNat ≤ 31)

/-- Blanks around a text do not count. -/
def trim (cs : List Char) : List Char :=
  ((cs.dropWhile isOuterBlank).reverse.dropWhile isOuterBlank).reverse

/-- The rest of a numeral after zeros and underscores, the last of which is given: from the first other digit or a minus sign
on, or from the last zero on where a point or nothing follows. -/
def afterZeros? (last : Char) : List Char → Option (List Char)
  | [] => some [last]
  | c :: rest =>
    if c = '0' || c = '_' then afterZeros? c rest
    else if Text.isAsciiDigit c || c = '-' then some (c :: rest)
    else if c = '.' then some (last :: c :: rest)
    else none

/-- A numeral without zeros at its beginning. A minus sign may stand behind such zeros. -/
def withoutLeadingZeros? : List Char → Option (List Char)
  | [] => none
  | c :: rest =>
    if c = '0' then afterZeros? '0' rest
    else if Text.isAsciiDigit c || c = '-' then some (c :: rest)
    else none

/-- The part of a numeral before a point after which there are zeros and nothing else. -/
def withoutZeroFraction (cs : List Char) : List Char :=
  match cs.span (· != '.') with
  | (whole, '.' :: zeros) => if !zeros.isEmpty && zeros.all (· == '0') then whole else cs
  | _ => cs

/-- Single underscores between other characters are left out. -/
def withoutUnderscores? : List Char → Option (List Char)
  | [] => some []
  | ['_'] => none
  | '_' :: _ => none
  | c :: '_' :: d :: rest => if d = '_' then none else (c :: ·) <$> withoutUnderscores? (d :: rest)
  | c :: rest => (c :: ·) <$> withoutUnderscores? rest

/-- The sign of a numeral, true for a minus, and what follows it. After a plus sign there is no other. -/
def signed? : List Char → Option (Bool × List Char)
  | '-' :: rest => some (true, rest)
  | '+' :: '-' :: _ => none
  | '+' :: rest => some (false, rest)
  | cs => some (false, cs)

/-- Digits without needless zeros, after an optional minus sign. Too many digits are refused for their number, whatever
follows them. -/
def exactInteger (cs : List Char) : Except Problem Int :=
  let (negative, ds) := match cs with
    | '-' :: rest => (true, rest)
    | rest => (false, rest)
  if (ds.takeWhile Text.isAsciiDigit).length > Decimal.digitLimit then .error .integerTextTooLong
  else if ds.isEmpty || !ds.all Text.isAsciiDigit || (1 < ds.length && ds.head? == some '0') then .error .notIntegerText
  else .ok (if negative then -(Decimal.natOfDigits ds : Int) else Decimal.natOfDigits ds)

/-- The digits of a numeral that has none in a wrong place, with a minus sign if it has one. -/
def cleanNumeral? (cs : List Char) : Option (List Char) := do
  let (negative, body) ← signed? (trim cs)
  let whole := withoutZeroFraction (← withoutLeadingZeros? body)
  let digits := (withoutUnderscores? whole).getD whole
  some (if negative then '-' :: digits else digits)

/-- The integer that a text is. -/
def integerOfText (s : String) : Except Problem Int :=
  match cleanNumeral? s.toList with
  | some cs => exactInteger cs
  | none => .error .notIntegerText

/-- The least integer that is too large for a word of 64 bits. -/
def wordLimit : Int := 9223372036854775808

/-- Integers that a word of 64 bits holds. -/
def isWord (n : Int) : Bool := -wordLimit ≤ n && n < wordLimit

/-- The integer that a double is. Where doubles are read as integers, they lie strictly between the bounds of words. -/
def integerOfDouble (d : Double) : Except Problem Int :=
  match d with
  | .finite _ _ =>
    match d.toInt? with
    | some n => if isWord n && n ≠ -wordLimit then .ok n else .error .integerTextTooLong
    | none => .error .fraction
  | _ => .error .notFinite

/-- An integer; whole doubles, truth values and numerals are integers too. -/
def integer (v : Value) : Checked Int :=
  let read : Except Problem Int := match v with
    | .int n => .ok n
    | .bool b => .ok (if b then 1 else 0)
    | .double d => integerOfDouble d
    | .text s => integerOfText s
    | .scalar (.bytes bs) =>
      match String.fromUTF8? (ByteArray.mk bs.toArray) with
      | some s => integerOfText s
      | none => .error .notIntegerText
    | _ => .error .notInteger
  match read with
  | .ok n => .ok n
  | .error problem => .fault problem v

/-! ### Truth values -/

/-- The texts that stand for true and for false, in lowercase. -/
def truthWords : List (String × Bool) :=
  [("0", false), ("off", false), ("f", false), ("false", false), ("n", false), ("no", false),
    ("1", true), ("on", true), ("t", true), ("true", true), ("y", true), ("yes", true)]

/-- The truth value that a text stands for. -/
def truthOfText? (s : String) : Option Bool := truthWords.lookup (String.ofList (s.toList.map Char.toLower))

/-- A truth value; zero and one and some words stand for truth values too. -/
def truthValue (v : Value) : Checked Bool :=
  let ofNumber (n : Int) : Checked Bool :=
    if n = 0 then .ok false else if n = 1 then .ok true else .fault .notTruthText v
  match v with
  | .bool b => .ok b
  | .text s =>
    match truthOfText? s with
    | some b => .ok b
    | none => .fault .notTruthText v
  | .int n => if isWord n then ofNumber n else .fault .notTruthValue v
  | .double d =>
    match integerOfDouble d with
    | .ok n => ofNumber n
    | .error _ => .fault .notTruthValue v
  | _ => .fault .notTruthValue v

/-! ## Fields -/

/-- The names of a field in the order in which they are looked for; faults name the first one when none is there. -/
abbrev FieldNames := List String

/-- A field that is there, with the name it is there under. -/
def find? (names : FieldNames) (entries : List (Scalar × Value)) : Option (String × Value) :=
  names.findSome? fun name => (Value.lookup entries name).map (name, ·)

/-- A field that must be there. -/
def required {α : Type} (names : FieldNames) (read : Value → Checked α) (whole : Value)
    (entries : List (Scalar × Value)) : Checked α :=
  match find? names entries with
  | some (name, v) => Checked.under (.key name) (read v)
  | none => Checked.under (.key (names.headD "")) (.fault .missing whole)

/-- A field with a value for when it is not there. -/
def optional {α : Type} (names : FieldNames) (read : Value → Checked α) (default : α)
    (entries : List (Scalar × Value)) : Checked α :=
  match find? names entries with
  | some (name, v) => Checked.under (.key name) (read v)
  | none => .ok default

/-- How a value that is no record is refused: by the name of the record, or as no object at all. -/
inductive Refusal where
  | named
  | anyObject
  deriving DecidableEq

/-- The problem of a value that is not the record expected. -/
def Refusal.problem (refusal : Refusal) (name : String) : Problem :=
  match refusal with
  | .named => .notRecord name
  | .anyObject => .notObject

/-- A record, read from the entries of a mapping. A mapping that this one lies in is a record of another kind and has no entry
for it. -/
def record {α : Type} (refusal : Refusal) (name : String) (read : List (Scalar × Value) → Checked α) (v : Value) :
    Checked α :=
  match v with
  | .mapping entries => read entries
  | .recurrence .mapping _ => read []
  | _ => .fault (refusal.problem name) v

end Format

end RegulatoryTrees
