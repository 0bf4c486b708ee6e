import ClauseTx.Bytes

/-!
# Hexadecimal text

Bytes are written as two lower case digits each.  Digits of either case are
read back.  `decode_digits` says that reading undoes writing.
-/

namespace ClauseTx.Hex

/-- Why a text does not spell bytes. -/
inductive DecodeError where
  /-- The text has an odd number of bytes. -/
  | oddLength
  /-- The first byte that is no digit, and where it stands. -/
  | invalidDigit (byte : UInt8) (position : Nat)
deriving DecidableEq

/-- The lower case digit of a number below sixteen. -/
def digit (n : Nat) : Char :=
  Nat.digitChar n

/-- The value of a digit, given as the byte that stands for it in ASCII. -/
def digitValue? (b : UInt8) : Option Nat :=
  if 48 ≤ b && b ≤ 57 then some (b.toNat - 48)
  else if 97 ≤ b && b ≤ 102 then some (b.toNat - 87)
  else if 65 ≤ b && b ≤ 70 then some (b.toNat - 55)
  else none

/-- The digits of a byte string. -/
def digits (bs : Bytes) : List Char :=
  bs.flatMap fun b => [digit (b.toNat / 16), digit (b.toNat % 16)]

/-- The text of a byte string. -/
def encode (bs : Bytes) : String :=
  String.ofList (digits bs)

/-- Reads pairs of digits from a position on. -/
def decodePairs (position : Nat) : Bytes → Except DecodeError Bytes
  | high :: low :: rest =>
    match digitValue? high, digitValue? low with
    | none, _ => .error (.invalidDigit high position)
    | _, none => .error (.invalidDigit low (position + 1))
    | some h, some l =>
      match decodePairs (position + 2) rest with
      | .ok bs => .ok (UInt8.ofNat (h * 16 + l) :: bs)
      | .error e => .error e
  | _ => .ok []

/-- The bytes that a text spells.  Lengths and positions count the bytes of
the text in UTF-8. -/
def decode (text : List Char) : Except DecodeError Bytes :=
  let bytes := text.flatMap String.utf8EncodeChar
  if bytes.length % 2 = 1 then .error .oddLength else decodePairs 0 bytes

/-! ## Reading what was written -/

/-- A digit is one byte in UTF-8, and that byte has the digit's value. -/
theorem digitValue?_digit : ∀ n : Fin 16,
    String.utf8EncodeChar (digit n) = [(digit n).toUInt8] ∧
      digitValue? (digit n).toUInt8 = some n.val := by decide

theorem length_utf8_digits (bs : Bytes) :
    ((digits bs).flatMap String.utf8EncodeChar).length = 2 * bs.length := by
  induction bs with
  | nil => rfl
  | cons b bs ih =>
    have hb := b.toNat_lt
    have high := (digitValue?_digit ⟨b.toNat / 16, by omega⟩).1
    have low := (digitValue?_digit ⟨b.toNat % 16, by omega⟩).1
    simp only [digits, List.flatMap_cons, List.flatMap_append, List.length_append, List.flatMap_nil,
      List.append_nil, List.length_cons] at ih ⊢
    rw [high, low, ih]
    simp
    omega

theorem decodePairs_digits (bs : Bytes) (position : Nat) :
    decodePairs position ((digits bs).flatMap String.utf8EncodeChar) = .ok bs := by
  induction bs generalizing position with
  | nil => rfl
  | cons b bs ih =>
    have hb := b.toNat_lt
    have high := digitValue?_digit ⟨b.toNat / 16, by omega⟩
    have low := digitValue?_digit ⟨b.toNat % 16, by omega⟩
    have hdigits : (digits (b :: bs)).flatMap String.utf8EncodeChar =
        (digit (b.toNat / 16)).toUInt8 :: (digit (b.toNat % 16)).toUInt8 ::
          (digits bs).flatMap String.utf8EncodeChar := by
      simp only [digits, List.flatMap_cons, List.flatMap_append, List.flatMap_nil, List.append_nil]
      rw [high.1, low.1]
      rfl
    have hvalue : UInt8.ofNat (b.toNat / 16 * 16 + b.toNat % 16) = b := by
      rw [Nat.mul_comm, Nat.div_add_mod]
      exact UInt8.ofNat_toNat
    rw [hdigits, decodePairs, high.2, low.2, ih]
    simp only [hvalue]

/-- Reading undoes writing. -/
theorem decode_digits (bs : Bytes) : decode (digits bs) = .ok bs := by
  have hodd : ¬ 2 * bs.length % 2 = 1 := by omega
  simp only [decode, length_utf8_digits, if_neg hodd, decodePairs_digits]

end ClauseTx.Hex
