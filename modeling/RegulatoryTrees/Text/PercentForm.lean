import RegulatoryTrees.Json
import RegulatoryTrees.Text.Utf8

/-!
# Percent form

A byte may be written as a percent sign with two hexadecimal digits; a character is written as the bytes it is in UTF-8.
-/

namespace RegulatoryTrees

namespace Text

/-- The bytes that a text begins with in percent form, and what follows them. -/
def percentBytes : List Char → List UInt8 × List Char
  | '%' :: a :: b :: rest =>
    match Json.hexNumber? [a, b] with
    | some n =>
      let (bytes, rest) := percentBytes rest
      (UInt8.ofNat n :: bytes, rest)
    | none => ([], '%' :: a :: b :: rest)
  | cs => ([], cs)

/-- A text of at most `fuel` characters with the characters of bytes in percent form in their places. -/
def percentDecodedWithin : (fuel : Nat) → List Char → List Char
  | 0, cs => cs
  | _ + 1, [] => []
  | fuel + 1, c :: rest =>
    match percentBytes (c :: rest) with
    | ([], _) => c :: percentDecodedWithin fuel rest
    | (bytes, rest) => decodeUtf8 bytes ++ percentDecodedWithin fuel rest

/-- A text with the characters of bytes in percent form in their places. -/
def percentDecoded (cs : List Char) : List Char := percentDecodedWithin cs.length cs

end Text

end RegulatoryTrees
