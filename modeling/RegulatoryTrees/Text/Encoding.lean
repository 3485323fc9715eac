/-!
# Encodings of texts

The bytes of a text in which every character is a unit of two or four bytes, or a pair of units. A text that begins with two
characters of ASCII shows its encoding by the places of its zero bytes.
-/

namespace RegulatoryTrees

/-- How texts are written as bytes. -/
inductive Encoding where
  | utf8
  | utf16 (highFirst : Bool)
  | utf32 (highFirst : Bool)
  deriving DecidableEq

namespace Encoding

/-- The encoding of bytes that begin with characters of ASCII. Three bytes, or one, show nothing. -/
def ofStart : List UInt8 → Encoding
  | a :: b :: c :: d :: _ =>
    if a = 0 then if b = 0 then .utf32 true else .utf16 true
    else if b = 0 then if c = 0 && d = 0 then .utf32 false else .utf16 false
    else .utf8
  | [a, b] => if a = 0 then .utf16 true else if b = 0 then .utf16 false else .utf8
  | _ => .utf8

/-- The number that the bytes of a unit stand for. -/
def unit (highFirst : Bool) (bytes : List UInt8) : Nat :=
  (if highFirst then bytes else bytes.reverse).foldl (fun n b => 256 * n + b.toNat) 0

/-- The units of two bytes; bytes must not be left over. -/
def pairs? (highFirst : Bool) : List UInt8 → Option (List Nat)
  | [] => some []
  | a :: b :: rest => (unit highFirst [a, b] :: ·) <$> pairs? highFirst rest
  | _ => none

/-- The units of four bytes; bytes must not be left over. -/
def quadruples? (highFirst : Bool) : List UInt8 → Option (List Nat)
  | [] => some []
  | a :: b :: c :: d :: rest => (unit highFirst [a, b, c, d] :: ·) <$> quadruples? highFirst rest
  | _ => none

/-- The character of a number. -/
def character? (n : Nat) : Option Char := if n.isValidChar then some (Char.ofNat n) else none

/-- The characters of units of two bytes: two halves make up a character above U+FFFF. -/
def joined? : List Nat → Option (List Char)
  | [] => some []
  | high :: rest =>
    if 0xD800 ≤ high && high < 0xDC00 then
      match rest with
      | low :: rest =>
        if 0xDC00 ≤ low && low < 0xE000 then
          (Char.ofNat (0x10000 + 0x400 * (high - 0xD800) + (low - 0xDC00)) :: ·) <$> joined? rest
        else none
      | [] => none
    else do
      let c ← character? high
      (c :: ·) <$> joined? rest

/-- The text of bytes. -/
def decode? (e : Encoding) (bytes : List UInt8) : Option (List Char) :=
  match e with
  | .utf8 => (String.fromUTF8? (ByteArray.mk bytes.toArray)).map String.toList
  | .utf16 highFirst => (pairs? highFirst bytes).bind joined?
  | .utf32 highFirst => (quadruples? highFirst bytes).bind (·.mapM character?)

end Encoding

end RegulatoryTrees
