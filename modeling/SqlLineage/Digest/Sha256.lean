/-
Module: SqlLineage.Digest.Sha256
Purpose: The 256-bit secure hash of a sequence of bytes, and its hexadecimal text.
Main exports: sha256, hexText
-/

namespace SqlLineage.Digest

/-- The eight words of the hash of no block: the first 32 bits of the fractional parts of the square
roots of the first eight primes. -/
def initialState : List UInt32 := [
  0x6a09e667, 0xbb67ae85, 0x3c6ef372, 0xa54ff53a, 0x510e527f, 0x9b05688c, 0x1f83d9ab, 0x5be0cd19]

/-- One constant per round: the first 32 bits of the fractional parts of the cube roots of the first
64 primes. -/
def roundConstants : List UInt32 := [
  0x428a2f98, 0x71374491, 0xb5c0fbcf, 0xe9b5dba5, 0x3956c25b, 0x59f111f1, 0x923f82a4, 0xab1c5ed5,
  0xd807aa98, 0x12835b01, 0x243185be, 0x550c7dc3, 0x72be5d74, 0x80deb1fe, 0x9bdc06a7, 0xc19bf174,
  0xe49b69c1, 0xefbe4786, 0x0fc19dc6, 0x240ca1cc, 0x2de92c6f, 0x4a7484aa, 0x5cb0a9dc, 0x76f988da,
  0x983e5152, 0xa831c66d, 0xb00327c8, 0xbf597fc7, 0xc6e00bf3, 0xd5a79147, 0x06ca6351, 0x14292967,
  0x27b70a85, 0x2e1b2138, 0x4d2c6dfc, 0x53380d13, 0x650a7354, 0x766a0abb, 0x81c2c92e, 0x92722c85,
  0xa2bfe8a1, 0xa81a664b, 0xc24b8b70, 0xc76c51a3, 0xd192e819, 0xd6990624, 0xf40e3585, 0x106aa070,
  0x19a4c116, 0x1e376c08, 0x2748774c, 0x34b0bcb5, 0x391c0cb3, 0x4ed8aa4a, 0x5b9cca4f, 0x682e6ff3,
  0x748f82ee, 0x78a5636f, 0x84c87814, 0x8cc70208, 0x90befffa, 0xa4506ceb, 0xbef9a3f7, 0xc67178f2]

def rotateRight (x : UInt32) (n : UInt32) : UInt32 := (x >>> n) ||| (x <<< (32 - n))

/-- The message, a one bit, zeros up to eight bytes before a multiple of 64, and the length in bits. -/
def padded (message : List UInt8) : List UInt8 :=
  let length := message.length
  let zeros := (64 - (length + 9) % 64) % 64
  let bits := length * 8
  let size := (List.range 8).map fun i => UInt8.ofNat (bits / Nat.pow 256 (7 - i))
  message ++ 0x80 :: List.replicate zeros 0 ++ size

/-- Four bytes at a time as one word, the first byte the highest. -/
def words : List UInt8 → List UInt32
  | a :: b :: c :: d :: rest =>
    ((a.toUInt32 <<< 24) ||| (b.toUInt32 <<< 16) ||| (c.toUInt32 <<< 8) ||| d.toUInt32) :: words rest
  | _ => []

/-- The next word of the message schedule from the sixteen before it, newest first. -/
def nextWord (recent : List UInt32) : UInt32 :=
  let w := fun (back : Nat) => recent.getD (back - 1) 0
  let s0 := rotateRight (w 15) 7 ^^^ rotateRight (w 15) 18 ^^^ (w 15 >>> 3)
  let s1 := rotateRight (w 2) 17 ^^^ rotateRight (w 2) 19 ^^^ (w 2 >>> 10)
  w 16 + s0 + w 7 + s1

/-- The message schedule: the words of the block followed by `count` words made from them. All words
so far stand newest first. -/
def schedule (recent : List UInt32) : Nat → List UInt32
  | 0 => recent.reverse
  | count + 1 => schedule (nextWord recent :: recent) count

/-- One round on the eight working words. -/
def round (state : List UInt32) (step : UInt32 × UInt32) : List UInt32 :=
  match state with
  | [a, b, c, d, e, f, g, h] =>
    let s1 := rotateRight e 6 ^^^ rotateRight e 11 ^^^ rotateRight e 25
    let choice := (e &&& f) ^^^ ((e ^^^ 0xffffffff) &&& g)
    let first := h + s1 + choice + step.1 + step.2
    let s0 := rotateRight a 2 ^^^ rotateRight a 13 ^^^ rotateRight a 22
    let majority := (a &&& b) ^^^ (a &&& c) ^^^ (b &&& c)
    [first + s0 + majority, a, b, c, d + first, e, f, g]
  | other => other

/-- The state after one block of sixteen words. -/
def compress (state block : List UInt32) : List UInt32 :=
  let rounds := roundConstants.zip (schedule block.reverse 48)
  List.zipWith (· + ·) state (rounds.foldl round state)

/-- The state after all blocks of sixteen words. The last argument counts them. -/
def compressAll (state : List UInt32) (message : List UInt32) : Nat → List UInt32
  | 0 => state
  | blocks + 1 => compressAll (compress state (message.take 16)) (message.drop 16) blocks

/-- The eight words of the hash of a message. -/
def sha256 (message : List UInt8) : List UInt32 :=
  let all := words (padded message)
  compressAll initialState all (all.length / 16)

/-- A word as eight hexadecimal digits. -/
def hexWord (word : UInt32) : List Char :=
  (List.range 8).map fun i => Nat.digitChar (word.toNat / Nat.pow 16 (7 - i) % 16)

/-- Words as hexadecimal digits in lower case. -/
def hexText (digest : List UInt32) : String := String.ofList (digest.flatMap hexWord)

end SqlLineage.Digest
