/-!
# Sets and shifts of code points

Tables of character properties: a set of code points as the places where membership changes, and a map that moves runs of
code points by a fixed distance.
-/

namespace RegulatoryTrees.Text

/-- The numbers of a text that holds decimal numerals, each with an optional minus sign, between blanks. -/
def numbersOf (text : String) : List Int :=
  let close : List Int → Option (Bool × Nat) → List Int
    | done, none => done
    | done, some (negative, n) => (if negative then -(n : Int) else n) :: done
  let step : List Int × Option (Bool × Nat) → Char → List Int × Option (Bool × Nat)
    | (done, current), c =>
      if c == ' ' || c == '\n' then (close done current, none)
      else if c == '-' then (done, some (true, 0))
      else
        let (negative, n) := current.getD (false, 0)
        (done, some (negative, 10 * n + (c.toNat - 48)))
  let (done, current) := text.toList.foldl step ([], none)
  (close done current).reverse

/-- A set of code points: in ascending order, the code points at which membership changes, the first one entering the set. -/
structure RangeSet where
  edges : Array Nat

namespace RangeSet

/-- The set whose edges lie at the given distances from one another. -/
def ofGaps (text : String) : RangeSet :=
  ⟨((numbersOf text).foldl (fun (edges, last) gap => (edges.push (last + gap.toNat), last + gap.toNat)) (#[], 0)).1⟩

/-- The number of edges at or below a code point, searched between two indices of which the first has only such edges
before it and the second none from it on. -/
def countUpTo (edges : Array Nat) (c lo hi : Nat) : Nat :=
  if lo < hi then
    let mid := (lo + hi) / 2
    if edges.getD mid 0 ≤ c then countUpTo edges c (mid + 1) hi else countUpTo edges c lo mid
  else lo
termination_by hi - lo

/-- A code point is in the set when an odd number of edges lies at or below it. -/
def contains (s : RangeSet) (c : Nat) : Bool :=
  countUpTo s.edges c 0 s.edges.size % 2 == 1

/-- A code point from `first` to `last` is in the set. -/
def meets (s : RangeSet) (first last : Nat) : Bool :=
  s.contains first || countUpTo s.edges first 0 s.edges.size < countUpTo s.edges last 0 s.edges.size

/-- The first code point of the run that holds the given one, if it is in the set. -/
def startOf? (s : RangeSet) (c : Nat) : Option Nat :=
  let n := countUpTo s.edges c 0 s.edges.size
  if n % 2 == 1 then s.edges[n - 1]? else none

end RangeSet

/-- One run of a shift: the code points from `first` to `last` in steps of `step` move by `distance`. -/
structure Shift where
  first : Nat
  last : Nat
  step : Nat
  distance : Int

/-- A map on code points given by runs in ascending order; a code point in no run stays where it is. -/
structure ShiftTable where
  shifts : Array Shift

namespace ShiftTable

/-- Four numbers a run: first, last, step and distance. -/
def runsOf : List Int → List Shift
  | first :: last :: step :: distance :: rest => ⟨first.toNat, last.toNat, step.toNat, distance⟩ :: runsOf rest
  | _ => []

/-- The table written as four numbers a run. -/
def ofNumbers (text : String) : ShiftTable := ⟨(runsOf (numbersOf text)).toArray⟩

/-- The number of runs that begin at or below a code point. -/
def countUpTo (shifts : Array Shift) (c lo hi : Nat) : Nat :=
  if lo < hi then
    let mid := (lo + hi) / 2
    if (shifts[mid]?.map Shift.first).getD 0 ≤ c then countUpTo shifts c (mid + 1) hi else countUpTo shifts c lo mid
  else lo
termination_by hi - lo

/-- Where a code point moves, if it moves at all. -/
def image? (t : ShiftTable) (c : Nat) : Option Nat :=
  let n := countUpTo t.shifts c 0 t.shifts.size
  if n = 0 then none
  else t.shifts[n - 1]?.bind fun run =>
    if c ≤ run.last && (c - run.first) % run.step == 0 then some ((c : Int) + run.distance).toNat else none

/-- The code points that move to the given one. -/
def sources (t : ShiftTable) (target : Nat) : List Nat :=
  t.shifts.toList.filterMap fun run =>
    let source := ((target : Int) - run.distance).toNat
    if run.first ≤ source && source ≤ run.last && (source - run.first) % run.step == 0 then some source else none

end ShiftTable

end RegulatoryTrees.Text
