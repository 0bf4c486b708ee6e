import ClauseTx.Rlp.Error
import ClauseTx.UInt256

/-!
# Scalar fields

Three kinds of values are held in byte strings.

* An integer has its bytes without leading zeros, so zero is empty.
* A compact value of fixed width has its leading zero bytes dropped.
* An optional value of fixed width is kept whole, and empty when absent.

The readers accept exactly what the writers write, so each value has one
spelling.
-/

namespace ClauseTx.Rlp

/-! ## Integers -/

/-- The item of an amount. -/
def encodeUInt (value : UInt256) : Item :=
  .bytes (Bytes.stripZeros (Bytes.ofNat 32 value.toNat))

/-- The shortest bytes of a 64-bit number. -/
def minimalBytes (value : UInt64) : Bytes :=
  Bytes.stripZeros (Bytes.ofNat 8 value.toNat)

/-- The item of a 64-bit number. -/
def encodeUInt64 (value : UInt64) : Item :=
  .bytes (minimalBytes value)

/-- Reads an integer of at most `width` bytes. -/
def decodeNat (field : String) (width : Nat) (item : Item) : Except Error Nat :=
  match item.asBytes field with
  | .error e => .error e
  | .ok content =>
    if content.length > width then
      .error (.invalidField field (.tooWide content.length width))
    else if content.head? = some 0 then .error (.invalidField field .leadingZero)
    else .ok content.toNat

/-- Reads an amount of at most `width` bytes. -/
def decodeUInt (field : String) (width : Nat) (item : Item) : Except Error UInt256 :=
  (decodeNat field width item).map UInt256.ofNatClamped

/-- Reads a 64-bit number of at most `width` bytes, and of at most eight. -/
def decodeUInt64 (field : String) (width : Nat) (item : Item) : Except Error UInt64 :=
  (decodeNat field (min width 8) item).map UInt64.ofNat

/-! ## Compact values of fixed width -/

/-- The item of a value without its leading zero bytes. -/
def encodeCompact (bytes : Bytes) : Item :=
  .bytes (Bytes.stripZeros bytes)

/-- Reads a value of `n` bytes and puts its leading zero bytes back. -/
def decodeCompact (n : Nat) (field : String) (item : Item) : Except Error (Blob n) :=
  match item.asBytes field with
  | .error e => .error e
  | .ok content =>
    if h : content.length > n then
      .error (.invalidField field (.tooLong n content.length))
    else if content.head? = some 0 then .error (.invalidField field .paddedCompact)
    else .ok ⟨content.padLeft n, by
      rw [Bytes.padLeft, List.length_append, List.length_replicate]; omega⟩

/-! ## Optional values of fixed width -/

/-- The item of a value that may be absent. -/
def encodeOptional (bytes : Option Bytes) : Item :=
  match bytes with
  | some content => .bytes content
  | none => .empty

/-- Reads a value of `n` bytes, or its absence. -/
def decodeOptional (n : Nat) (field : String) (item : Item) : Except Error (Option (Blob n)) :=
  match item.asBytes field with
  | .error e => .error e
  | .ok content =>
    if content.isEmpty then .ok none
    else
      match Blob.ofBytes? content with
      | some blob => .ok (some blob)
      | none => .error (.invalidField field (.wrongLength n content.length))

end ClauseTx.Rlp
