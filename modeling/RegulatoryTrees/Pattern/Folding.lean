import RegulatoryTrees.Pattern

/-!
# Matching without regard to case

Characters are compared by their lowercase, and a few lowercase letters count as alike because they share an uppercase.
-/

namespace RegulatoryTrees

namespace CaseFold

/-- The lowercase of a character under a way of comparing. -/
def lower : CaseFold → Char → Char
  | .exact, c => c
  | .ascii, c => if 'A' ≤ c && c ≤ 'Z' then Char.ofNat (c.toNat + 32) else c
  | .unicode, c => Text.lowerChar c

/-- The lowercase of a code point; one that is no character stays as it is. -/
def lowerCode (fold : CaseFold) (code : Nat) : Nat :=
  if code.isValidChar then (fold.lower (Char.ofNat code)).toNat else code

/-- A character that case matters for. -/
def isCased (fold : CaseFold) (code : Nat) : Bool :=
  match fold with
  | .exact => false
  | .ascii => (65 ≤ code && code ≤ 90) || (97 ≤ code && code ≤ 122)
  | .unicode => if code.isValidChar then Text.isCased (Char.ofNat code) else false

/-- Case matters for a character of the range. -/
def meetsCased (fold : CaseFold) (first last : Nat) : Bool :=
  match fold with
  | .exact => false
  | .ascii => (first ≤ 90 && 65 ≤ last) || (first ≤ 122 && 97 ≤ last)
  | .unicode => Text.casedTable.meets first last

/-- Lowercase letters with one uppercase, in groups. -/
def alikeGroups : List (List Nat) :=
  [[0x69, 0x131], [0x73, 0x17f], [0xb5, 0x3bc], [0x345, 0x3b9, 0x1fbe], [0x390, 0x1fd3], [0x3b0, 0x1fe3],
    [0x3b2, 0x3d0], [0x3b5, 0x3f5], [0x3b8, 0x3d1], [0x3ba, 0x3f0], [0x3c0, 0x3d6], [0x3c1, 0x3f1], [0x3c2, 0x3c3],
    [0x3c6, 0x3d5], [0x432, 0x1c80], [0x434, 0x1c81], [0x43e, 0x1c82], [0x441, 0x1c83], [0x442, 0x1c84, 0x1c85],
    [0x44a, 0x1c86], [0x463, 0x1c87], [0x1c88, 0xa64b], [0x1e61, 0x1e9b], [0xfb05, 0xfb06]]

/-- The lowercase letters that count as alike to one, itself included. -/
def alike (fold : CaseFold) (code : Nat) : List Nat :=
  match fold with
  | .unicode => ((alikeGroups.find? (·.contains code)).getD [code])
  | _ => [code]

/-- The code points of which the given one is the lowercase. -/
def unlowered (fold : CaseFold) (code : Nat) : List Nat :=
  match fold with
  | .exact => [code]
  | .ascii => if 97 ≤ code && code ≤ 122 then [code, code - 32] else if 65 ≤ code && code ≤ 90 then [] else [code]
  | .unicode =>
    let others := Text.lowerTable.sources code
    if fold.lowerCode code = code then code :: others else others

/-- A code point is the lowercase of a character of the range, or alike to one. -/
def isLowerOfRange (fold : CaseFold) (first last code : Nat) : Bool :=
  (fold.alike code).any fun lowered => (fold.unlowered lowered).any fun source => first ≤ source && source ≤ last

end CaseFold

namespace CharTest

/-- The greatest code point that a case-insensitive set looks up by its lowercase. -/
def lastFolded : Nat := 0xFFFF

/-- The character itself, or with `negated` any other. -/
def literal (fold : CaseFold) (negated : Bool) (code : Nat) : CharTest :=
  if fold.isCased code then .oneOf fold negated ((fold.alike (fold.lowerCode code)).map .point)
  else .oneOf .exact negated [.point code]

/-- Case matters for a part of a set. -/
def itemIsCased (fold : CaseFold) : SetItem → Bool
  | .point code => fold.isCased code || (fold != .exact && lastFolded < fold.lowerCode code)
  | .range first last => fold.meetsCased first last || (fold != .exact && lastFolded < last)
  | _ => false

/-- A part of a set as it is looked up by lowercase: single characters become their lowercase, unless they lie above the
folded ones, and ranges the lowercase of their characters. -/
def foldItem (fold : CaseFold) : SetItem → List SetItem
  | .point code =>
    let lowered := fold.lowerCode code
    if lastFolded < lowered then [.point code] else (fold.alike lowered).map .point
  | .range first last =>
    if last ≤ lastFolded then [.lowerOfRange first last fold]
    else [.lowerOfRange first lastFolded fold, .rangeOrUpper first last]
  | item => [item]

/-- A character of the set, or with `negated` one outside it. -/
def ofSet (fold : CaseFold) (negated : Bool) (items : List SetItem) : CharTest :=
  if items.any (itemIsCased fold) then .oneOf fold negated (items.flatMap (foldItem fold))
  else .oneOf .exact negated items

end CharTest

end RegulatoryTrees
