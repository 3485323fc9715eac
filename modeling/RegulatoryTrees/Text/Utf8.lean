/-!
# Reading UTF-8 with replacement

Bytes as a text. A sequence that is no character, as far as it could have become one, turns into the replacement character.
-/

namespace RegulatoryTrees

namespace Text

/-- The character that stands for bytes that are none. -/
def replacementCharacter : Char := '\ufffd'

/-- The beginning of a character of several bytes: the value so far, how many bytes are still to come, and the bounds of the
next one. -/
structure PartialCharacter where
  value : Nat
  left : Nat
  low : Nat
  high : Nat

/-- What the first byte of a character begins; `none` if a character cannot begin with it. -/
def PartialCharacter.begin? (b : Nat) : Option PartialCharacter :=
  if b < 0x80 then some ⟨b, 0, 0x80, 0xBF⟩
  else if b < 0xC2 then none
  else if b < 0xE0 then some ⟨b - 0xC0, 1, 0x80, 0xBF⟩
  else if b < 0xF0 then some ⟨b - 0xE0, 2, if b = 0xE0 then 0xA0 else 0x80, if b = 0xED then 0x9F else 0xBF⟩
  else if b < 0xF5 then some ⟨b - 0xF0, 3, if b = 0xF0 then 0x90 else 0x80, if b = 0xF4 then 0x8F else 0xBF⟩
  else none

/-- The text that a first byte completes, and what it begins. -/
def startCharacter (b : Nat) : List Char × Option PartialCharacter :=
  match PartialCharacter.begin? b with
  | none => ([replacementCharacter], none)
  | some p => if p.left = 0 then ([Char.ofNat p.value], none) else ([], some p)

/-- The text of bytes after the beginning of a character. -/
def decodeFrom : Option PartialCharacter → List UInt8 → List Char
  | none, [] => []
  | some _, [] => [replacementCharacter]
  | none, b :: rest =>
    let (done, next) := startCharacter b.toNat
    done ++ decodeFrom next rest
  | some p, b :: rest =>
    let n := b.toNat
    if p.low ≤ n ∧ n ≤ p.high then
      let value := 64 * p.value + (n - 0x80)
      if p.left = 1 then Char.ofNat value :: decodeFrom none rest
      else decodeFrom (some ⟨value, p.left - 1, 0x80, 0xBF⟩) rest
    else
      let (done, next) := startCharacter n
      replacementCharacter :: done ++ decodeFrom next rest

/-- The text of bytes. -/
def decodeUtf8 (bytes : List UInt8) : List Char := decodeFrom none bytes

end Text

end RegulatoryTrees
