/-! # SHA-256

The digest of a run. Words are 32 bits wide and all arithmetic wraps around.
-/

namespace WireScript.Digest

/-- The eight words carried from block to block. -/
structure State where
  a : UInt32
  b : UInt32
  c : UInt32
  d : UInt32
  e : UInt32
  f : UInt32
  g : UInt32
  h : UInt32

/-- The state before the first block. -/
def State.initial : State :=
  ⟨0x6a09e667, 0xbb67ae85, 0x3c6ef372, 0xa54ff53a, 0x510e527f, 0x9b05688c, 0x1f83d9ab,
    0x5be0cd19⟩

/-- The constants of the 64 rounds. -/
def roundConstants : List UInt32 :=
  [0x428a2f98, 0x71374491, 0xb5c0fbcf, 0xe9b5dba5, 0x3956c25b, 0x59f111f1, 0x923f82a4,
    0xab1c5ed5, 0xd807aa98, 0x12835b01, 0x243185be, 0x550c7dc3, 0x72be5d74, 0x80deb1fe,
    0x9bdc06a7, 0xc19bf174, 0xe49b69c1, 0xefbe4786, 0x0fc19dc6, 0x240ca1cc, 0x2de92c6f,
    0x4a7484aa, 0x5cb0a9dc, 0x76f988da, 0x983e5152, 0xa831c66d, 0xb00327c8, 0xbf597fc7,
    0xc6e00bf3, 0xd5a79147, 0x06ca6351, 0x14292967, 0x27b70a85, 0x2e1b2138, 0x4d2c6dfc,
    0x53380d13, 0x650a7354, 0x766a0abb, 0x81c2c92e, 0x92722c85, 0xa2bfe8a1, 0xa81a664b,
    0xc24b8b70, 0xc76c51a3, 0xd192e819, 0xd6990624, 0xf40e3585, 0x106aa070, 0x19a4c116,
    0x1e376c08, 0x2748774c, 0x34b0bcb5, 0x391c0cb3, 0x4ed8aa4a, 0x5b9cca4f, 0x682e6ff3,
    0x748f82ee, 0x78a5636f, 0x84c87814, 0x8cc70208, 0x90befffa, 0xa4506ceb, 0xbef9a3f7,
    0xc67178f2]

/-- Rotate a word to the right. -/
def rotate (word : UInt32) (count : UInt32) : UInt32 :=
  (word >>> count) ||| (word <<< (32 - count))

/-- The word of four bytes, the highest first. -/
def word (a b c d : UInt8) : UInt32 :=
  (a.toUInt32 <<< 24) ||| (b.toUInt32 <<< 16) ||| (c.toUInt32 <<< 8) ||| d.toUInt32

/-- The words of a run of bytes. A rest of fewer than four bytes is dropped. -/
def words : List UInt8 → List UInt32
  | a :: b :: c :: d :: rest => word a b c d :: words rest
  | _ => []

/-- The bytes of a number, the highest first, in a given width. -/
def bytesOfWidth : Nat → Nat → List UInt8
  | 0, _ => []
  | width + 1, n => bytesOfWidth width (n / 256) ++ [UInt8.ofNat n]

/-- The message followed by a one bit, zeros, and its length in bits, which makes
it a whole number of blocks. -/
def pad (bytes : List UInt8) : List UInt8 :=
  let size := bytes.length
  let zeros := (119 - size % 64) % 64
  bytes ++ 0x80 :: List.replicate zeros 0 ++ bytesOfWidth 8 (size * 8)

/-- The words of a schedule after its first sixteen, each made from the sixteen
before it. The window is never shorter than that. -/
def extendSchedule : Nat → List UInt32 → List UInt32
  | 0, _ => []
  | count + 1, window =>
      match window with
      | w0 :: w1 :: w2 :: w3 :: w4 :: w5 :: w6 :: w7 :: w8 :: w9 :: w10 :: w11 :: w12 :: w13 ::
          w14 :: w15 :: _ =>
          let s0 := rotate w1 7 ^^^ rotate w1 18 ^^^ (w1 >>> 3)
          let s1 := rotate w14 17 ^^^ rotate w14 19 ^^^ (w14 >>> 10)
          let next := w0 + s0 + w9 + s1
          next :: extendSchedule count
            [w1, w2, w3, w4, w5, w6, w7, w8, w9, w10, w11, w12, w13, w14, w15, next]
      | _ => []

/-- One round, given its constant and its word of the schedule. -/
def round (state : State) (constant scheduled : UInt32) : State :=
  let ⟨a, b, c, d, e, f, g, h⟩ := state
  let s1 := rotate e 6 ^^^ rotate e 11 ^^^ rotate e 25
  let choice := (e &&& f) ^^^ ((~~~ e) &&& g)
  let first := h + s1 + choice + constant + scheduled
  let s0 := rotate a 2 ^^^ rotate a 13 ^^^ rotate a 22
  let majority := (a &&& b) ^^^ (a &&& c) ^^^ (b &&& c)
  ⟨first + s0 + majority, a, b, c, d + first, e, f, g⟩

/-- The rounds of one block. -/
def rounds (state : State) : List UInt32 → List UInt32 → State
  | constant :: constants, scheduled :: schedule =>
      rounds (round state constant scheduled) constants schedule
  | _, _ => state

/-- The state after a block of 64 bytes. -/
def compress (state : State) (block : List UInt8) : State :=
  let scheduled := words block
  let after := rounds state roundConstants (scheduled ++ extendSchedule 48 scheduled)
  ⟨state.a + after.a, state.b + after.b, state.c + after.c, state.d + after.d,
    state.e + after.e, state.f + after.f, state.g + after.g, state.h + after.h⟩

/-- The state after some blocks of 64 bytes. -/
def blocks : Nat → State → List UInt8 → State
  | 0, state, _ => state
  | count + 1, state, input => blocks count (compress state (input.take 64)) (input.drop 64)

/-- The eight hexadecimal digits of a word. -/
def hexadecimal (word : UInt32) : String :=
  let digits := Nat.toDigits 16 word.toNat
  String.ofList (List.replicate (8 - digits.length) '0' ++ digits)

/-- The SHA-256 digest of some bytes, in hexadecimal digits. -/
def sha256 (bytes : List UInt8) : String :=
  let padded := pad bytes
  let ⟨a, b, c, d, e, f, g, h⟩ := blocks (padded.length / 64) .initial padded
  String.join ([a, b, c, d, e, f, g, h].map hexadecimal)

end WireScript.Digest
