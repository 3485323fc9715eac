import RegulatoryTrees.Number.Double

/-!
# Values

The values that facts, conditions and rule files hold. A scalar is a value without parts and may also be the key of a
mapping; keys are in the order in which they were first written. `missing` stands for a fact that is not there, which is
different from an explicit null.
-/

namespace RegulatoryTrees

/-- A day of the calendar. -/
structure Date where
  year : Nat
  month : Nat
  day : Nat
  deriving DecidableEq

/-- A time on a day, with the distance from universal time in seconds where one is given. -/
structure Moment where
  date : Date
  hour : Nat
  minute : Nat
  second : Nat
  microsecond : Nat
  offset : Option Int
  deriving DecidableEq

/-- A value without parts. -/
inductive Scalar where
  | null
  | bool (b : Bool)
  | int (n : Int)
  | double (d : Double)
  | text (s : String)
  | bytes (bs : List UInt8)
  | date (d : Date)
  | moment (m : Moment)
  deriving DecidableEq

/-- Lists grow and tuples do not; in comparisons the two are alike. Sets are told from both. -/
inductive SequenceKind where
  | list
  | tuple
  | set
  deriving DecidableEq

namespace SequenceKind

/-- The word for a kind of sequence. -/
def name : SequenceKind → String
  | .list => "list"
  | .tuple => "tuple"
  | .set => "set"

/-- Two kinds of sequences are alike when both or neither are sets. -/
def isAlike (a b : SequenceKind) : Bool := (a == .set) == (b == .set)

end SequenceKind

/-- What a value with parts is. -/
inductive Shape where
  | sequence (kind : SequenceKind)
  | mapping
  deriving DecidableEq

/-- The word for what a value with parts is. -/
def Shape.name : Shape → String
  | .sequence kind => kind.name
  | .mapping => "dict"

/-- A value. -/
inductive Value where
  | scalar (s : Scalar)
  | missing
  | sequence (kind : SequenceKind) (items : List Value)
  | mapping (entries : List (Scalar × Value))
  /-- One of the values that this place lies in, so many levels out from the nearest one: a value may contain itself. -/
  | recurrence (shape : Shape) (levels : Nat)
  deriving BEq

namespace Value

/-- The explicit null. -/
@[match_pattern] abbrev null : Value := .scalar .null

/-- A truth value. -/
@[match_pattern] abbrev bool (b : Bool) : Value := .scalar (.bool b)

/-- An integer of any size. -/
@[match_pattern] abbrev int (n : Int) : Value := .scalar (.int n)

/-- A double. -/
@[match_pattern] abbrev double (d : Double) : Value := .scalar (.double d)

/-- A text. -/
@[match_pattern] abbrev text (s : String) : Value := .scalar (.text s)

/-- A list of values. -/
@[match_pattern] abbrev list (items : List Value) : Value := .sequence .list items

/-- A tuple of values. -/
@[match_pattern] abbrev tuple (items : List Value) : Value := .sequence .tuple items

/-- A mapping with text keys. -/
def record (fields : List (String × Value)) : Value :=
  .mapping (fields.map fun (key, value) => (.text key, value))

instance : Inhabited Value := ⟨.missing⟩

end Value

namespace Date

/-- A leap year has a day more in February. -/
def isLeap (year : Nat) : Bool := year % 4 == 0 && (year % 100 != 0 || year % 400 == 0)

/-- The number of days of a month. -/
def daysIn (year month : Nat) : Nat :=
  match month with
  | 2 => if isLeap year then 29 else 28
  | 4 | 6 | 9 | 11 => 30
  | _ => 31

/-- The number of days before a year, counted from the year 1. -/
def daysBeforeYear (year : Nat) : Nat :=
  let past := year - 1
  past * 365 + past / 4 - past / 100 + past / 400

/-- The number of a day, counted from the first day of the year 1. -/
def ordinal (d : Date) : Nat :=
  (List.range (d.month - 1)).foldl (fun days m => days + daysIn d.year (m + 1)) (daysBeforeYear d.year) + d.day

end Date

namespace Moment

/-- The microseconds since the first day of the year 1 that the clock on the spot shows. -/
def clock (m : Moment) : Int :=
  ((((m.date.ordinal * 24 + m.hour) * 60 + m.minute) * 60 + m.second) * 1000000 + m.microsecond : Nat)

/-- Two moments are the same when both or neither name their distance from universal time and the times agree. -/
def same (a b : Moment) : Bool :=
  match a.offset, b.offset with
  | none, none => a.clock == b.clock
  | some x, some y => a.clock - x * 1000000 == b.clock - y * 1000000
  | _, _ => false

end Moment

namespace Scalar

/-- The number that an integer or a double is; truth values are no numbers. -/
def number? : Scalar → Option Number
  | .int n => some (.whole n)
  | .double d => some (.real d)
  | _ => none

/-- The number that a key counts as: among keys, false and true are 0 and 1. -/
def keyNumber? : Scalar → Option Number
  | .bool b => some (.whole (if b then 1 else 0))
  | s => s.number?

/-- Two scalars are one key of a mapping; among keys, NaN is the same as itself. -/
def sameKey (a b : Scalar) : Bool :=
  match a.keyNumber?, b.keyNumber? with
  | some x, some y => x == y || x.sameValue y
  | none, none =>
    match a, b with
    | .moment x, .moment y => x.same y
    | _, _ => a == b
  | _, _ => false

end Scalar

/-! ## Mappings -/

namespace Value

/-- The value under a key. -/
def lookupKey (entries : List (Scalar × Value)) (key : Scalar) : Option Value :=
  (entries.find? fun entry => entry.1.sameKey key).map Prod.snd

/-- The value under a text key. -/
def lookup (entries : List (Scalar × Value)) (key : String) : Option Value :=
  (entries.find? fun entry => entry.1 == .text key).map Prod.snd

/-- A key that is there keeps its place and spelling and takes the new value; a new one goes to the end. -/
def insertKey (key : Scalar) (value : Value) : List (Scalar × Value) → List (Scalar × Value)
  | [] => [(key, value)]
  | entry :: rest =>
    if entry.1.sameKey key then (entry.1, value) :: rest else entry :: insertKey key value rest

/-- The mapping of a list of entries, of which a later one replaces an earlier one with the same key. -/
def ofEntries (entries : List (Scalar × Value)) : List (Scalar × Value) :=
  entries.foldl (fun done entry => insertKey entry.1 entry.2 done) []

/-- The number that a value is. -/
def number? : Value → Option Number
  | .scalar s => s.number?
  | _ => none

/-- An integer or a double; truth values are no numbers. -/
def isNumber (v : Value) : Bool := v.number?.isSome

/-- A missing fact or an explicit null. -/
def isAbsent : Value → Bool
  | .missing => true
  | .null => true
  | _ => false

/-- A missing fact. -/
def isMissing : Value → Bool
  | .missing => true
  | _ => false

/-- A field of a mapping with text keys. -/
def field? (v : Value) (key : String) : Option Value :=
  match v with
  | .mapping entries => lookup entries key
  | _ => none

/-- The word for the kind of a value. -/
def kindName : Value → String
  | .null => "NoneType"
  | .bool _ => "bool"
  | .int _ => "int"
  | .double _ => "float"
  | .text _ => "str"
  | .scalar (.bytes _) => "bytes"
  | .scalar (.date _) => "date"
  | .scalar (.moment _) => "datetime"
  | .missing => "_Missing"
  | .sequence kind _ => kind.name
  | .mapping _ => Shape.mapping.name
  | .recurrence shape _ => shape.name

mutual

/-- A value contains itself somewhere. -/
def isCyclic : Value → Bool
  | .scalar _ | .missing => false
  | .sequence _ items => areCyclic items
  | .mapping entries => entriesAreCyclic entries
  | .recurrence _ _ => true

/-- One of some values contains itself. -/
def areCyclic : List Value → Bool
  | [] => false
  | v :: rest => isCyclic v || areCyclic rest

/-- The value of one of some entries contains itself. -/
def entriesAreCyclic : List (Scalar × Value) → Bool
  | [] => false
  | (_, v) :: rest => isCyclic v || entriesAreCyclic rest

end

end Value

end RegulatoryTrees
