import RegulatoryTrees.Text.CaseTables

/-!
# Lowercase

The lowercase of a text. All characters but two are mapped one by one; a capital sigma that ends a word becomes a final
sigma, and a capital I with a dot becomes two characters.
-/

namespace RegulatoryTrees.Text

/-- The one-character lowercase of a character, itself if it has none. -/
def lowerChar (c : Char) : Char :=
  if c.toNat < 128 then if 'A' ≤ c && c ≤ 'Z' then Char.ofNat (c.toNat + 32) else c
  else ((lowerTable.image? c.toNat).map Char.ofNat).getD c

/-- The first character of the uppercase of a character, itself if it has none. -/
def upperChar (c : Char) : Char :=
  if c.toNat < 128 then if 'a' ≤ c && c ≤ 'z' then Char.ofNat (c.toNat - 32) else c
  else ((upperTable.image? c.toNat).map Char.ofNat).getD c

/-- A character that differs from its lowercase or its uppercase. -/
def isCased (c : Char) : Bool :=
  if c.toNat < 128 then ('a' ≤ c && c ≤ 'z') || ('A' ≤ c && c ≤ 'Z') else casedTable.contains c.toNat

/-- A character that is passed over when looking for a letter beside a sigma. -/
def isCaseIgnorable (c : Char) : Bool := caseIgnorableTable.contains c.toNat

/-- A letter with case that is not passed over. -/
def isLetterWithCase (c : Char) : Bool := letterWithCaseTable.contains c.toNat

/-- Whether the next character that is not passed over is a letter with case. -/
def meetsLetter : List Char → Bool
  | [] => false
  | c :: rest => if isCaseIgnorable c then meetsLetter rest else isLetterWithCase c

/-- The lowercase of one character in its place: `after` says that the last character before it that is not passed over is a
letter with case, `rest` is what follows. -/
def lowerInPlace (after : Bool) (c : Char) (rest : List Char) : List Char :=
  if c == 'Σ' then if after && !meetsLetter rest then ['ς'] else ['σ']
  else if c == 'İ' then ['i', '\u0307']
  else [lowerChar c]

/-- The lowercase of the rest of a text; `after` is as for `lowerInPlace`. -/
def lowerFrom (after : Bool) : List Char → List Char
  | [] => []
  | c :: rest =>
    lowerInPlace after c rest ++ lowerFrom (if isCaseIgnorable c then after else isLetterWithCase c) rest

/-- The lowercase of a text. -/
def lowercase (s : String) : String := String.ofList (lowerFrom false s.toList)

end RegulatoryTrees.Text
