import SalonBooking.Text.CodePoint

/-!
# Reading UTF-8

The first byte of a character tells how many bytes follow and between which
bounds the first of those lies; the others lie between `80` and `BF`.  Bytes
that break this rule are no character, as far as they got.

Two readings differ in what they do with such bytes: `Utf8.decode?` refuses
them, but takes the three bytes that would write a surrogate, and
`Utf8.decodeLossy` puts one replacement character in their place.
-/

namespace SalonBooking.Text.Utf8

/-- What the first byte of a character tells. -/
structure Lead where
  /-- The bits that it contributes. -/
  bits : Nat
  /-- The number of bytes that follow. -/
  count : Nat
  /-- The least and the greatest that the byte after it may be. -/
  least : Nat
  greatest : Nat

/-- What a byte tells as the first of a character, if it can be that.  Bounds on the byte after it
keep longer forms than needed, surrogates unless asked for, and numbers past the last code
point out. -/
def lead? (surrogates : Bool) (b : UInt8) : Option Lead :=
  let n := b.toNat
  if n < 0x80 then some ⟨n, 0, 0x80, 0xBF⟩
  else if n < 0xC2 then none
  else if n < 0xE0 then some ⟨n - 0xC0, 1, 0x80, 0xBF⟩
  else if n == 0xE0 then some ⟨0, 2, 0xA0, 0xBF⟩
  else if n == 0xED && !surrogates then some ⟨0xD, 2, 0x80, 0x9F⟩
  else if n < 0xF0 then some ⟨n - 0xE0, 2, 0x80, 0xBF⟩
  else if n == 0xF0 then some ⟨0, 3, 0x90, 0xBF⟩
  else if n < 0xF4 then some ⟨n - 0xF0, 3, 0x80, 0xBF⟩
  else if n == 0xF4 then some ⟨4, 3, 0x80, 0x8F⟩
  else none

/-- The number that some bits and `count` more bytes write, none if a byte is missing or out of
bounds, and the bytes after those that were taken. -/
def follow (bits : Nat) : (count least greatest : Nat) → List UInt8 → Option Nat × List UInt8
  | 0, _, _, rest => (some bits, rest)
  | _ + 1, _, _, [] => (none, [])
  | count + 1, least, greatest, b :: rest =>
    if least ≤ b.toNat && b.toNat ≤ greatest then
      follow (bits * 64 + b.toNat % 64) count 0x80 0xBF rest
    else (none, b :: rest)

/-- The code point in front of some bytes, none if there is no character, and what follows. -/
def split (surrogates : Bool) (b : UInt8) (rest : List UInt8) : Option Nat × List UInt8 :=
  match lead? surrogates b with
  | some lead => follow lead.bits lead.count lead.least lead.greatest rest
  | none => (none, rest)

theorem length_follow_le (bits count least greatest : Nat) (bytes : List UInt8) :
    (follow bits count least greatest bytes).2.length ≤ bytes.length := by
  induction count generalizing bits least greatest bytes with
  | zero => simp [follow]
  | succ count ih =>
    cases bytes with
    | nil => simp [follow]
    | cons b rest =>
      rw [follow]
      split
      · exact Nat.le_succ_of_le (ih ..)
      · exact Nat.le_refl _

/-- Reading a character takes at least its first byte. -/
theorem length_split_lt (surrogates : Bool) (b : UInt8) (rest : List UInt8) :
    (split surrogates b rest).2.length < (b :: rest).length := by
  rw [split]
  split
  · exact Nat.lt_succ_of_le (length_follow_le ..)
  · exact Nat.lt_succ_self _

/-- The code points that some bytes write, surrogates among them. -/
def decode? : List UInt8 → Option (List Nat)
  | [] => some []
  | b :: rest =>
    match (split true b rest).1 with
    | some n => (decode? (split true b rest).2).map (n :: ·)
    | none => none
termination_by bytes => bytes.length
decreasing_by exact length_split_lt true b rest

/-- The character in place of bytes that write none. -/
def replacement : Nat := 0xFFFD

/-- The code points that some bytes write, a replacement wherever they write none. -/
def decodeLossy : List UInt8 → List Nat
  | [] => []
  | b :: rest =>
    (split false b rest).1.getD replacement :: decodeLossy (split false b rest).2
termination_by bytes => bytes.length
decreasing_by exact length_split_lt false b rest

end SalonBooking.Text.Utf8
