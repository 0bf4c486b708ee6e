/-!
# Byte strings

Byte strings are lists of bytes.  This module reads them as big-endian
numbers and writes numbers back, in a fixed width (`Bytes.ofNat`) or with
the leading zeros dropped (`Bytes.stripZeros`).

`Blob n` is a byte string whose length is part of its type.  Digests, keys,
addresses, signatures and block references are blobs.
-/

namespace ClauseTx

/-- A string of bytes. -/
abbrev Bytes := List UInt8

namespace Bytes

/-- The number that a byte string spells, most significant byte first.  The
empty string spells zero. -/
def toNat (bs : Bytes) : Nat :=
  bs.foldl (fun n b => n * 256 + b.toNat) 0

/-- The low `width` bytes of a number, most significant byte first. -/
def ofNat : (width : Nat) → Nat → Bytes
  | 0, _ => []
  | width + 1, n => ofNat width (n / 256) ++ [UInt8.ofNat n]

/-- The low `width` bytes of a number, least significant byte first. -/
def ofNatLittle : (width : Nat) → Nat → Bytes
  | 0, _ => []
  | width + 1, n => UInt8.ofNat n :: ofNatLittle width (n / 256)

/-- The number that a byte string spells, least significant byte first. -/
def toNatLittle : Bytes → Nat
  | [] => 0
  | b :: bs => b.toNat + 256 * toNatLittle bs

/-- A byte string without its leading zero bytes. -/
def stripZeros (bs : Bytes) : Bytes :=
  bs.dropWhile (· == 0)

/-- A byte string with zero bytes put in front until it has `width` bytes. -/
def padLeft (width : Nat) (bs : Bytes) : Bytes :=
  List.replicate (width - bs.length) 0 ++ bs

/-- The bytes of a text in UTF-8. -/
def ofText (text : String) : Bytes :=
  text.toList.flatMap String.utf8EncodeChar

@[simp]
theorem length_ofNat (width n : Nat) : (ofNat width n).length = width := by
  induction width generalizing n with
  | zero => rfl
  | succ width ih => simp [ofNat, ih]

@[simp]
theorem length_ofNatLittle (width n : Nat) :
    (ofNatLittle width n).length = width := by
  induction width generalizing n with
  | zero => rfl
  | succ width ih => simp [ofNatLittle, ih]

end Bytes

/-! ## Byte strings of a known length -/

/-- A byte string of exactly `n` bytes. -/
@[ext]
structure Blob (n : Nat) where
  bytes : Bytes
  length_eq : bytes.length = n
deriving DecidableEq

namespace Blob

/-- A byte string as a blob, if it has the right length. -/
def ofBytes? {n : Nat} (bs : Bytes) : Option (Blob n) :=
  if h : bs.length = n then some ⟨bs, h⟩ else none

/-- The blob that spells a number in `n` bytes. -/
def ofNat (n value : Nat) : Blob n :=
  ⟨Bytes.ofNat n value, Bytes.length_ofNat n value⟩

/-- The blob of zero bytes. -/
def zero (n : Nat) : Blob n :=
  ⟨List.replicate n 0, List.length_replicate⟩

instance {n : Nat} : Inhabited (Blob n) := ⟨zero n⟩

/-- The number that a blob spells. -/
def toNat {n : Nat} (b : Blob n) : Nat :=
  b.bytes.toNat

/-- One blob after another. -/
def append {m n : Nat} (a : Blob m) (b : Blob n) : Blob (m + n) :=
  ⟨a.bytes ++ b.bytes, by rw [List.length_append, a.length_eq, b.length_eq]⟩

/-- The last `k` bytes of a blob. -/
def last {n : Nat} (k : Nat) (b : Blob n) (h : k ≤ n) : Blob k :=
  ⟨b.bytes.drop (n - k), by rw [List.length_drop, b.length_eq]; omega⟩

/-- The first `k` bytes of a blob. -/
def first {n : Nat} (k : Nat) (b : Blob n) (h : k ≤ n) : Blob k :=
  ⟨b.bytes.take k, by rw [List.length_take, b.length_eq]; omega⟩

theorem ofBytes?_eq_some_iff {n : Nat} {bs : Bytes} {b : Blob n} :
    ofBytes? bs = some b ↔ bs = b.bytes := by
  unfold ofBytes?
  constructor
  · intro h
    split at h
    · exact (Option.some.inj h) ▸ rfl
    · exact nomatch h
  · rintro rfl
    rw [dif_pos b.length_eq]

end Blob

end ClauseTx
