import RegulatoryTrees.Yaml.Failure

/-!
# Places in a YAML text

A cursor is a place in a text. It knows the line and the column, since indentation carries meaning.
-/

namespace RegulatoryTrees

namespace Yaml

/-- A character that ends a line. -/
def isBreak (c : Char) : Bool := c == '\n' || c == '\x85' || c == '\u2028' || c == '\u2029'

/-- A space or a tab. -/
def isBlank (c : Char) : Bool := c == ' ' || c == '\t'

/-- A space, a tab or the end of a line. -/
def isGap (c : Char) : Bool := isBlank c || isBreak c

/-- The mark that may stand at the beginning of a text. -/
def byteOrderMark : Char := '\ufeff'

/-- A place in a text: what follows, the number of characters before it, and its line and column. -/
structure Cursor where
  rest : List Char
  index : Nat := 0
  line : Nat := 0
  column : Nat := 0

namespace Cursor

/-- The character a number of characters further on. -/
def peek? (c : Cursor) (ahead : Nat) : Option Char := c.rest[ahead]?

/-- The next character passes a test. -/
def sees (c : Cursor) (test : Char → Bool) : Bool := c.rest.head?.any test

/-- What stands a number of characters further on is a gap or the end of the text. -/
def gapAt (c : Cursor) (ahead : Nat) : Bool := (c.peek? ahead).all isGap

/-- The end of the line or of the text. -/
def atLineEnd (c : Cursor) : Bool := c.rest.head?.all isBreak

/-- The end of the text, a space or the end of the line. -/
def atWordEnd (c : Cursor) : Bool := c.rest.head?.all fun ch => ch == ' ' || isBreak ch

/-- The place after the next character. -/
def next (c : Cursor) : Cursor :=
  match c.rest with
  | [] => c
  | ch :: rest =>
    if isBreak ch then ⟨rest, c.index + 1, c.line + 1, 0⟩
    else ⟨rest, c.index + 1, c.line, if ch = byteOrderMark then c.column else c.column + 1⟩

/-- The place a number of characters further on. -/
def skip : Nat → Cursor → Cursor
  | 0, c => c
  | n + 1, c => skip n c.next

/-- The characters from here on that pass a test, and the place after them. -/
def spanWhile (test : Char → Bool) (c : Cursor) : List Char × Cursor :=
  let taken := c.rest.takeWhile test
  (taken, c.skip taken.length)

/-- The place after the characters that pass a test. -/
def skipWhile (test : Char → Bool) (c : Cursor) : Cursor := (c.spanWhile test).2

/-- The place after spaces. -/
def skipSpaces (c : Cursor) : Cursor := c.skipWhile (· == ' ')

/-- The place after a comment, if one stands here. -/
def skipComment (c : Cursor) : Cursor := if c.sees (· == '#') then c.skipWhile (!isBreak ·) else c

/-- The end of a line that stands here, as it counts in scalars, and the place after it. -/
def lineBreak (c : Cursor) : List Char × Cursor :=
  match c.rest with
  | ch :: _ => if isBreak ch then ([if ch = '\x85' then '\n' else ch], c.next) else ([], c)
  | [] => ([], c)

/-- A line that separates documents: three hyphens or three points, and a gap. -/
def atSeparator (c : Cursor) : Bool :=
  (['-', '-', '-'].isPrefixOf c.rest || ['.', '.', '.'].isPrefixOf c.rest) && c.gapAt 3

end Cursor

end Yaml

end RegulatoryTrees
