import RegulatoryTrees.Json
import RegulatoryTrees.Yaml.Cursor

/-!
# The texts of scalars

A scalar is written plain, between quotes, or as an indented block. Line breaks inside are folded: one break counts as a
space, and of several all but the first count.
-/

namespace RegulatoryTrees

namespace Yaml

/-! ## Between quotes -/

/-- What a character after a backslash stands for. -/
def escapedChar? : Char → Option Char
  | '0' => some '\x00'
  | 'a' => some '\x07'
  | 'b' => some '\x08'
  | 't' => some '\t'
  | '\t' => some '\t'
  | 'n' => some '\n'
  | 'v' => some '\x0b'
  | 'f' => some '\x0c'
  | 'r' => some '\r'
  | 'e' => some '\x1b'
  | ' ' => some ' '
  | '"' => some '"'
  | '\\' => some '\\'
  | '/' => some '/'
  | 'N' => some '\x85'
  | '_' => some '\xa0'
  | 'L' => some '\u2028'
  | 'P' => some '\u2029'
  | _ => none

/-- The number of hexadecimal digits after a letter that announces a code. -/
def codeWidth? : Char → Option Nat
  | 'x' => some 2
  | 'u' => some 4
  | 'U' => some 8
  | _ => none

/-- The breaks of empty lines from the beginning of a line on. No line may separate documents. -/
def emptyLines : (fuel : Nat) → Cursor → Except Failure (List Char × Cursor)
  | 0, _ => .error .malformed
  | fuel + 1, c =>
    if c.atSeparator then .error .malformed
    else
      let c := c.skipWhile isBlank
      match c.lineBreak with
      | ([], _) => .ok ([], c)
      | (end_, c) => do
        let (more, c) ← emptyLines fuel c
        return (end_ ++ more, c)

/-- Line ends folded into what they count as. -/
def folded (first breaks : List Char) : List Char :=
  if first ≠ ['\n'] then first ++ breaks else if breaks.isEmpty then [' '] else breaks

/-- An escape whose backslash has been read. -/
def escape (c : Cursor) : Except Failure (List Char × Cursor) :=
  match c.rest with
  | [] => .error .malformed
  | ch :: rest =>
    match escapedChar? ch, codeWidth? ch with
    | some d, _ => .ok ([d], c.next)
    | none, some width =>
      match Json.hexNumber? (rest.take width) with
      | none => .error .malformed
      | some code =>
        if (rest.take width).length < width then .error .malformed
        else if 0x110000 ≤ code then .error (.noCharacter code)
        else .ok ([Char.ofNat code], c.skip (width + 1))
    | none, none =>
      if isBreak ch then emptyLines (rest.length + 2) c.next
      else .error .malformed

/-- The text between quotes from a place on, up to the closing quote. -/
def quotedFrom (double : Bool) : (fuel : Nat) → Cursor → Except Failure (List Char × Cursor)
  | 0, _ => .error .malformed
  | fuel + 1, c =>
    let onward (part : List Char) (c : Cursor) : Except Failure (List Char × Cursor) := do
      let (more, c) ← quotedFrom double fuel c
      return (part ++ more, c)
    match c.rest with
    | [] => .error .malformed
    | ch :: rest =>
      if isGap ch then
        let (blanks, c) := c.spanWhile isBlank
        if c.rest.isEmpty then .error .malformed
        else
          match c.lineBreak with
          | ([], c) => onward blanks c
          | (first, c) => do
            let (breaks, c) ← emptyLines (rest.length + 2) c
            onward (folded first breaks) c
      else if double then
        if ch = '"' then .ok ([], c.next)
        else if ch = '\\' then do
          let (part, c) ← escape c.next
          onward part c
        else onward [ch] c.next
      else if ch = '\'' then
        if rest.head? = some '\'' then onward ['\''] (c.skip 2) else .ok ([], c.next)
      else onward [ch] c.next

/-- The text between quotes, the opening one of which stands here. -/
def quotedText (double : Bool) (c : Cursor) : Except Failure (List Char × Cursor) :=
  quotedFrom double (c.rest.length + 1) c.next

/-! ## Plain -/

/-- The characters that end a plain scalar inside brackets. -/
def isFlowSign (c : Char) : Bool := c == ',' || c == '[' || c == ']' || c == '{' || c == '}'

/-- The characters up to a gap or a sign that ends a plain scalar. -/
def plainWord (inFlow : Bool) : List Char → List Char
  | [] => []
  | c :: rest =>
    let endsHere := isGap c ||
      (c == ':' && rest.head?.all fun d => isGap d || (inFlow && isFlowSign d)) ||
      (inFlow && (isFlowSign c || c == '?'))
    if endsHere then [] else c :: plainWord inFlow rest

/-- The breaks of empty lines after the first line end in a plain scalar, unless a line separates documents. -/
def plainBreaks : (fuel : Nat) → Cursor → Option (List Char) × Cursor
  | 0, c => (none, c)
  | fuel + 1, c =>
    let c := c.skipSpaces
    match c.lineBreak with
    | ([], _) => (some [], c)
    | (end_, c) =>
      if c.atSeparator then (none, c)
      else
        let (more, c) := plainBreaks fuel c
        (more.map (end_ ++ ·), c)

/-- A gap in a plain scalar: what it counts as, whether it holds a line end, and the place after it. -/
def plainGap (c : Cursor) : List Char × Bool × Cursor :=
  let (spaces, c) := c.spanWhile (· == ' ')
  match c.lineBreak with
  | ([], c) => (spaces, false, c)
  | (first, c) =>
    if c.atSeparator then ([], true, c)
    else
      let (breaks, c) := plainBreaks (c.rest.length + 1) c
      ((breaks.map (folded first)).getD [], true, c)

/-- A plain scalar from a place on: its text, whether it ends after a line end, and the place after it. Outside brackets the
lines after the first are indented by at least `indent` columns. -/
def plainFrom (inFlow : Bool) (indent : Int) : (fuel : Nat) → (gap : List Char) → (crossed : Bool) → Cursor →
    List Char × Bool × Cursor
  | 0, _, crossed, c => ([], crossed, c)
  | fuel + 1, gap, crossed, c =>
    if c.sees (· == '#') then ([], crossed, c)
    else
      match plainWord inFlow c.rest with
      | [] => ([], crossed, c)
      | word =>
        let (spaces, crossed, d) := plainGap (c.skip word.length)
        let (more, crossed, d) :=
          if spaces.isEmpty || d.sees (· == '#') || (!inFlow && (d.column : Int) < indent) then ([], crossed, d)
          else plainFrom inFlow indent fuel spaces crossed d
        (gap ++ word ++ more, crossed, d)

/-- A plain scalar. -/
def plainText (inFlow : Bool) (indent : Int) (c : Cursor) : List Char × Bool × Cursor :=
  plainFrom inFlow indent (c.rest.length + 1) [] false c

/-! ## Blocks -/

/-- What becomes of the line ends after the last line of a block. -/
inductive Chomping where
  | strip
  | clip
  | keep
  deriving DecidableEq

/-- The sign of a way of chomping. -/
def chomping? (c : Cursor) : Option Chomping :=
  match c.rest with
  | '+' :: _ => some .keep
  | '-' :: _ => some .strip
  | _ => none

/-- An indentation given by a digit. -/
def increment? (c : Cursor) : Option Nat :=
  match c.rest with
  | d :: _ => if Text.isAsciiDigit d then some (d.toNat - 48) else none
  | [] => none

/-- The signs after the one that opens a block, in either order. -/
def blockSigns (c : Cursor) : Chomping × Option Nat × Cursor :=
  match chomping? c with
  | some chomping =>
    match increment? c.next with
    | some n => (chomping, some n, c.next.next)
    | none => (chomping, none, c.next)
  | none =>
    match increment? c with
    | some n =>
      match chomping? c.next with
      | some chomping => (chomping, some n, c.next.next)
      | none => (.clip, some n, c.next)
    | none => (.clip, none, c)

/-- The rest of a line that may only hold a comment. -/
def ignoredLine (c : Cursor) : Except Failure Cursor :=
  let c := c.skipSpaces.skipComment
  if c.atLineEnd then .ok c.lineBreak.2 else .error .malformed

/-- Skip spaces up to a column. -/
def indentTo (column : Nat) (c : Cursor) : Cursor :=
  c.skip ((c.rest.takeWhile (· == ' ')).length.min (column - c.column))

/-- The breaks of empty lines in a block of which the indentation is known. -/
def blockBreaks (indent : Nat) : (fuel : Nat) → Cursor → List Char × Cursor
  | 0, c => ([], c)
  | fuel + 1, c =>
    let c := indentTo indent c
    match c.lineBreak with
    | ([], _) => ([], c)
    | (end_, c) =>
      let (more, c) := blockBreaks indent fuel c
      (end_ ++ more, c)

/-- The breaks of the empty lines that a block begins with, and the greatest column among them and the first line. -/
def blockIndentation : (fuel : Nat) → (greatest : Nat) → Cursor → List Char × Nat × Cursor
  | 0, greatest, c => ([], greatest, c)
  | fuel + 1, greatest, c =>
    let d := c.skipSpaces
    let greatest := if c.sees (· == ' ') then max greatest d.column else greatest
    match d.lineBreak with
    | ([], _) => ([], greatest, d)
    | (end_, d) =>
      let (more, greatest, d) := blockIndentation fuel greatest d
      (end_ ++ more, greatest, d)

/-- The lines of a block from a place on, after some empty lines. -/
def blockLines (foldLines : Bool) (chomping : Chomping) (indent : Nat) : (fuel : Nat) → (breaks : List Char) → Cursor →
    List Char × Cursor
  | 0, _, c => ([], c)
  | fuel + 1, breaks, c =>
    let startsBlank := c.sees isBlank
    let (line, c) := c.spanWhile (!isBreak ·)
    let (end_, c) := c.lineBreak
    let (further, c) := blockBreaks indent (c.rest.length + 1) c
    let begun := breaks ++ line
    if c.column = indent && !c.rest.isEmpty then
      let joint :=
        if foldLines && end_ == ['\n'] && !startsBlank && !c.sees isBlank then if further.isEmpty then [' '] else []
        else end_
      let (more, c) := blockLines foldLines chomping indent fuel further c
      (begun ++ joint ++ more, c)
    else
      let tail := match chomping with
        | .strip => []
        | .clip => end_
        | .keep => end_ ++ further
      (begun ++ tail, c)

/-- The text of a block, the sign of which stands here; `outer` is the indentation around it. -/
def blockText (foldLines : Bool) (outer : Int) (c : Cursor) : Except Failure (List Char × Cursor) := do
  let (chomping, increment, c) := blockSigns c.next
  if increment = some 0 || !c.atWordEnd then throw .malformed
  let c ← ignoredLine c
  let least := (max (outer + 1) 1).toNat
  let fuel := c.rest.length + 1
  let (breaks, indent, c) := match increment with
    | none =>
      let (breaks, greatest, c) := blockIndentation fuel 0 c
      (breaks, max least greatest, c)
    | some n =>
      let indent := least + n - 1
      let (breaks, c) := blockBreaks indent fuel c
      (breaks, indent, c)
  if c.column = indent && !c.rest.isEmpty then return blockLines foldLines chomping indent fuel breaks c
  else return (if chomping = .keep then breaks else [], c)

end Yaml

end RegulatoryTrees
