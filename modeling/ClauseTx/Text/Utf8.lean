import ClauseTx.Bytes

/-!
# Reading UTF-8

`next` reads one character at the head of a byte string.  Where no character
can be read it drops the longest beginning that a character could have had,
at least one byte, so each such fault is reported once.

`decode?` refuses a string with a fault.  `decodeLossy` puts the replacement
character in the place of each fault.
-/

namespace ClauseTx.Text.Utf8

/-- What a first byte announces: the bits it contributes, how many bytes
follow, and the range of the first of these. -/
structure Lead where
  bits : Nat
  count : Nat
  low : UInt8
  high : UInt8
deriving DecidableEq

/-- The first bytes of the well-formed sequences.  The ranges leave out
overlong forms, surrogates and everything beyond the last code point. -/
def lead? (b : UInt8) : Option Lead :=
  if b < 0x80 then some ⟨b.toNat, 0, 0x80, 0xBF⟩
  else if b < 0xC2 then none
  else if b < 0xE0 then some ⟨b.toNat - 0xC0, 1, 0x80, 0xBF⟩
  else if b == 0xE0 then some ⟨0, 2, 0xA0, 0xBF⟩
  else if b == 0xED then some ⟨0xD, 2, 0x80, 0x9F⟩
  else if b < 0xF0 then some ⟨b.toNat - 0xE0, 2, 0x80, 0xBF⟩
  else if b == 0xF0 then some ⟨0, 3, 0x90, 0xBF⟩
  else if b < 0xF4 then some ⟨b.toNat - 0xF0, 3, 0x80, 0xBF⟩
  else if b == 0xF4 then some ⟨4, 3, 0x80, 0x8F⟩
  else none

/-- Reads the bytes that follow a first byte.  The result is the code point,
or nothing at the first byte out of range, and what is left. -/
def following (code : Nat) (low high : UInt8) : (count : Nat) → Bytes → Option Nat × Bytes
  | 0, bs => (some code, bs)
  | _ + 1, [] => (none, [])
  | count + 1, b :: bs =>
    if low ≤ b && b ≤ high then
      following (code * 64 + (b.toNat - 0x80)) 0x80 0xBF count bs
    else (none, b :: bs)

/-- Reads one character, or drops one fault. -/
def next (b : UInt8) (bs : Bytes) : Option Char × Bytes :=
  match lead? b with
  | none => (none, bs)
  | some l =>
    let (code, rest) := following l.bits l.low l.high l.count bs
    (code.map Char.ofNat, rest)

theorem length_following_le (code : Nat) (low high : UInt8) (count : Nat) (bs : Bytes) :
    (following code low high count bs).2.length ≤ bs.length := by
  induction count generalizing code low high bs with
  | zero => simp [following]
  | succ count ih =>
    cases bs with
    | nil => simp [following]
    | cons b bs =>
      rw [following]
      split
      · exact Nat.le_trans (ih ..) (Nat.le_succ _)
      · exact Nat.le_refl _

theorem length_next_le (b : UInt8) (bs : Bytes) : (next b bs).2.length ≤ bs.length := by
  unfold next
  split
  · exact Nat.le_refl _
  · exact length_following_le ..

/-- The characters and faults of a byte string in order. -/
def pieces : Bytes → List (Option Char)
  | [] => []
  | b :: bs => (next b bs).1 :: pieces (next b bs).2
termination_by bs => bs.length
decreasing_by exact Nat.lt_succ_of_le (length_next_le b bs)

/-- The text of a byte string without faults. -/
def decode? (bs : Bytes) : Option (List Char) :=
  (pieces bs).mapM id

/-- The text of a byte string, with the replacement character for each
fault. -/
def decodeLossy (bs : Bytes) : String :=
  String.ofList ((pieces bs).map fun piece => piece.getD '\uFFFD')

end ClauseTx.Text.Utf8
