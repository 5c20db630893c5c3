import SalonBooking.Text.CodePoint

/-!
# SHA-256

The secure hash of 256 bits over a sequence of bytes, written as 64 small
hexadecimal digits.  The message is padded with a one bit, zeros and its length
in bits to whole blocks of 64 bytes, and each block is mixed into a state of
eight words.
-/

namespace SalonBooking.Sha256

/-- The first 32 bits of the fractional parts of the square roots of the first eight primes. -/
def initialState : Array UInt32 :=
  #[0x6a09e667, 0xbb67ae85, 0x3c6ef372, 0xa54ff53a, 0x510e527f, 0x9b05688c, 0x1f83d9ab, 0x5be0cd19]

/-- The first 32 bits of the fractional parts of the cube roots of the first 64 primes. -/
def roundConstants : Array UInt32 :=
  #[0x428a2f98, 0x71374491, 0xb5c0fbcf, 0xe9b5dba5, 0x3956c25b, 0x59f111f1, 0x923f82a4, 0xab1c5ed5,
    0xd807aa98, 0x12835b01, 0x243185be, 0x550c7dc3, 0x72be5d74, 0x80deb1fe, 0x9bdc06a7, 0xc19bf174,
    0xe49b69c1, 0xefbe4786, 0x0fc19dc6, 0x240ca1cc, 0x2de92c6f, 0x4a7484aa, 0x5cb0a9dc, 0x76f988da,
    0x983e5152, 0xa831c66d, 0xb00327c8, 0xbf597fc7, 0xc6e00bf3, 0xd5a79147, 0x06ca6351, 0x14292967,
    0x27b70a85, 0x2e1b2138, 0x4d2c6dfc, 0x53380d13, 0x650a7354, 0x766a0abb, 0x81c2c92e, 0x92722c85,
    0xa2bfe8a1, 0xa81a664b, 0xc24b8b70, 0xc76c51a3, 0xd192e819, 0xd6990624, 0xf40e3585, 0x106aa070,
    0x19a4c116, 0x1e376c08, 0x2748774c, 0x34b0bcb5, 0x391c0cb3, 0x4ed8aa4a, 0x5b9cca4f, 0x682e6ff3,
    0x748f82ee, 0x78a5636f, 0x84c87814, 0x8cc70208, 0x90befffa, 0xa4506ceb, 0xbef9a3f7, 0xc67178f2]

/-- A word turned to the right. -/
def rotateRight (x n : UInt32) : UInt32 :=
  (x >>> n) ||| (x <<< (32 - n))

/-- The message padded to whole blocks. -/
def pad (message : ByteArray) : ByteArray :=
  let zeros := (119 - message.size % 64) % 64
  let bits := 8 * message.size
  let withOne := message.push 0x80
  let withZeros := (List.range zeros).foldl (fun bytes _ => bytes.push 0) withOne
  (List.range 8).foldl (fun bytes i => bytes.push (UInt8.ofNat (bits >>> (8 * (7 - i))))) withZeros

/-- The byte at a place, zero past the end. -/
def byteAt (bytes : ByteArray) (i : Nat) : UInt8 :=
  if h : i < bytes.size then bytes[i] else 0

/-- The word of four bytes at a place, the most significant byte first. -/
def wordAt (bytes : ByteArray) (i : Nat) : UInt32 :=
  ((byteAt bytes i).toUInt32 <<< 24) ||| ((byteAt bytes (i + 1)).toUInt32 <<< 16) |||
    ((byteAt bytes (i + 2)).toUInt32 <<< 8) ||| (byteAt bytes (i + 3)).toUInt32

/-- The 64 words that a block is expanded to. -/
def schedule (bytes : ByteArray) (start : Nat) : Array UInt32 :=
  let first := (List.range 16).foldl (fun w i => w.push (wordAt bytes (start + 4 * i)))
    (Array.emptyWithCapacity 64)
  (List.range 48).foldl (fun w i =>
    let a := w.getD (i + 1) 0
    let b := w.getD (i + 14) 0
    let s := rotateRight a 7 ^^^ rotateRight a 18 ^^^ (a >>> 3)
    let t := rotateRight b 17 ^^^ rotateRight b 19 ^^^ (b >>> 10)
    w.push (w.getD i 0 + s + w.getD (i + 9) 0 + t)) first

/-- The eight working words. -/
structure Working where
  a : UInt32
  b : UInt32
  c : UInt32
  d : UInt32
  e : UInt32
  f : UInt32
  g : UInt32
  h : UInt32

/-- One of the 64 rounds of a block. -/
def Working.round (v : Working) (word constant : UInt32) : Working :=
  let s := rotateRight v.e 6 ^^^ rotateRight v.e 11 ^^^ rotateRight v.e 25
  let choice := (v.e &&& v.f) ^^^ (~~~v.e &&& v.g)
  let t := v.h + s + choice + constant + word
  let r := rotateRight v.a 2 ^^^ rotateRight v.a 13 ^^^ rotateRight v.a 22
  let majority := (v.a &&& v.b) ^^^ (v.a &&& v.c) ^^^ (v.b &&& v.c)
  ⟨t + r + majority, v.a, v.b, v.c, v.d + t, v.e, v.f, v.g⟩

/-- The state after one block. -/
def mix (state : Array UInt32) (bytes : ByteArray) (start : Nat) : Array UInt32 :=
  let w := schedule bytes start
  let at_ (i : Nat) := state.getD i 0
  let v := (List.range 64).foldl
    (fun (v : Working) i => v.round (w.getD i 0) (roundConstants.getD i 0))
    ⟨at_ 0, at_ 1, at_ 2, at_ 3, at_ 4, at_ 5, at_ 6, at_ 7⟩
  #[at_ 0 + v.a, at_ 1 + v.b, at_ 2 + v.c, at_ 3 + v.d, at_ 4 + v.e, at_ 5 + v.f, at_ 6 + v.g,
    at_ 7 + v.h]

/-- A word as eight hexadecimal digits. -/
def wordHex (word : UInt32) : List Char :=
  (List.range 8).map fun i =>
    let digit := (word >>> UInt32.ofNat (4 * (7 - i))).toNat % 16
    Char.ofNat (if digit < 10 then '0'.toNat + digit else 'a'.toNat + (digit - 10))

/-- The hash of a sequence of bytes. -/
def hash (message : ByteArray) : String :=
  let padded := pad message
  let state := (List.range (padded.size / 64)).foldl (fun s i => mix s padded (64 * i)) initialState
  String.ofList (state.toList.flatMap wordHex)

/-- No two of some sequences of bytes have the same hash unless they are the same. -/
def NoCollision (messages : List ByteArray) : Prop :=
  ∀ first ∈ messages, ∀ second ∈ messages, hash first = hash second → first = second

/-- It takes one comparison if there are two different ones. -/
theorem noCollision_of_ne {one other : ByteArray} (h : hash one ≠ hash other)
    {messages : List ByteArray} (htwo : ∀ message ∈ messages, message = one ∨ message = other) :
    NoCollision messages := by
  intro first hfirst second hsecond hsame
  rcases htwo first hfirst with rfl | rfl <;> rcases htwo second hsecond with rfl | rfl
  · rfl
  · exact absurd hsame h
  · exact absurd hsame.symm h
  · rfl

end SalonBooking.Sha256

namespace SalonBooking

/-- The hash of a text, by which a changed page is told from an unchanged one. -/
def contentHash (text : String) : String :=
  Sha256.hash (Text.utf8 text)

end SalonBooking
