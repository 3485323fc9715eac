import RegulatoryTrees.Text.Quoted

/-!
# The SHA-256 digest

The digest of a byte sequence by the Secure Hash Standard: the padded message is cut into blocks of sixteen words, and each
block is mixed into eight words of state over sixty-four rounds.
-/

namespace RegulatoryTrees

namespace Digest

/-- One word for each round. -/
def roundWords : Array UInt32 := #[
    0x428a2f98, 0x71374491, 0xb5c0fbcf, 0xe9b5dba5, 0x3956c25b, 0x59f111f1, 0x923f82a4, 0xab1c5ed5,
    0xd807aa98, 0x12835b01, 0x243185be, 0x550c7dc3, 0x72be5d74, 0x80deb1fe, 0x9bdc06a7, 0xc19bf174,
    0xe49b69c1, 0xefbe4786, 0x0fc19dc6, 0x240ca1cc, 0x2de92c6f, 0x4a7484aa, 0x5cb0a9dc, 0x76f988da,
    0x983e5152, 0xa831c66d, 0xb00327c8, 0xbf597fc7, 0xc6e00bf3, 0xd5a79147, 0x06ca6351, 0x14292967,
    0x27b70a85, 0x2e1b2138, 0x4d2c6dfc, 0x53380d13, 0x650a7354, 0x766a0abb, 0x81c2c92e, 0x92722c85,
    0xa2bfe8a1, 0xa81a664b, 0xc24b8b70, 0xc76c51a3, 0xd192e819, 0xd6990624, 0xf40e3585, 0x106aa070,
    0x19a4c116, 0x1e376c08, 0x2748774c, 0x34b0bcb5, 0x391c0cb3, 0x4ed8aa4a, 0x5b9cca4f, 0x682e6ff3,
    0x748f82ee, 0x78a5636f, 0x84c87814, 0x8cc70208, 0x90befffa, 0xa4506ceb, 0xbef9a3f7, 0xc67178f2]

/-- The eight words before the first block. -/
def initial : Array UInt32 := #[
    0x6a09e667, 0xbb67ae85, 0x3c6ef372, 0xa54ff53a, 0x510e527f, 0x9b05688c, 0x1f83d9ab, 0x5be0cd19]

/-- A word turned to the right. -/
def turn (x : UInt32) (n : UInt32) : UInt32 := (x >>> n) ||| (x <<< (32 - n))

/-- The big-endian bytes of a 64-bit count. -/
def countBytes (n : Nat) : List UInt8 :=
  (List.range 8).map fun i => UInt8.ofNat (n / Nat.pow 256 (7 - i))

/-- The message with a one bit, zeros and its length in bits after it, a whole number of blocks. -/
def pad (message : List UInt8) : List UInt8 :=
  message ++ 0x80 :: List.replicate ((119 - message.length % 64) % 64) 0 ++ countBytes (8 * message.length)

/-- The big-endian words of a byte sequence. -/
def words : List UInt8 → List UInt32
  | a :: b :: c :: d :: rest =>
    ((a.toUInt32 <<< 24) ||| (b.toUInt32 <<< 16) ||| (c.toUInt32 <<< 8) ||| d.toUInt32) :: words rest
  | _ => []

/-- The sixteen words of a block stretched to the sixty-four of the rounds. -/
def stretch (block : Array UInt32) : Array UInt32 :=
  (List.range 48).foldl (fun w i =>
    let x := w.getD (i + 1) 0
    let y := w.getD (i + 14) 0
    let s0 := turn x 7 ^^^ turn x 18 ^^^ (x >>> 3)
    let s1 := turn y 17 ^^^ turn y 19 ^^^ (y >>> 10)
    w.push (w.getD i 0 + s0 + w.getD (i + 9) 0 + s1)) block

/-- One round: two sums are formed and the words move up by one place. -/
def round (s : Array UInt32) (k w : UInt32) : Array UInt32 :=
  let at' (i : Nat) : UInt32 := s.getD i 0
  let (a, b, c, e, f, g) := (at' 0, at' 1, at' 2, at' 4, at' 5, at' 6)
  let big1 := turn e 6 ^^^ turn e 11 ^^^ turn e 25
  let choice := (e &&& f) ^^^ ((~~~e) &&& g)
  let first := at' 7 + big1 + choice + k + w
  let big0 := turn a 2 ^^^ turn a 13 ^^^ turn a 22
  let majority := (a &&& b) ^^^ (a &&& c) ^^^ (b &&& c)
  #[first + big0 + majority, a, b, c, at' 3 + first, e, f, g]

/-- Mix a block into the state. -/
def mix (state : Array UInt32) (block : Array UInt32) : Array UInt32 :=
  let rounds := roundWords.zip (stretch block)
  let mixed := rounds.foldl (fun s (k, w) => round s k w) state
  (state.zip mixed).map fun (x, y) => x + y

/-- Mix the blocks of a list of words into the state, sixteen words at a time. -/
def mixAll (state : Array UInt32) : (blocks : Nat) → List UInt32 → Array UInt32
  | 0, _ => state
  | n + 1, ws => mixAll (mix state (ws.take 16).toArray) n (ws.drop 16)

/-- The lowercase hexadecimal digest of a byte sequence. -/
def sha256 (message : List UInt8) : String :=
  let ws := words (pad message)
  let final := mixAll initial (ws.length / 16) ws
  String.ofList (final.toList.flatMap fun w => Text.hexDigits 8 w.toNat)

/-- The digest of a text in UTF-8. -/
def ofText (s : String) : String := sha256 s.toUTF8.toList

end Digest

end RegulatoryTrees
