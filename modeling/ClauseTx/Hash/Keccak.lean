import ClauseTx.Bytes

/-!
# Keccak-256

The sponge over the permutation Keccak-f[1600] with a rate of 136 bytes and
a digest of 32 bytes.  The padding starts with the byte `01`, as before the
function was standardised.

`keccak256` is the only hash of the protocol: transaction ids, signing
digests and addresses all come from it.
-/

namespace ClauseTx.Hash

/-- A digest of 32 bytes. -/
abbrev Digest := Blob 32

namespace Keccak

/-- Five lanes, one in each column. -/
structure Row where
  a : UInt64
  b : UInt64
  c : UInt64
  d : UInt64
  e : UInt64

/-- The state of the sponge: five rows of five lanes. -/
structure State where
  a : Row
  b : Row
  c : Row
  d : Row
  e : Row

/-- The bytes absorbed or squeezed between two permutations. -/
def rate : Nat := 136

/-- Rotation to the left, by fewer than 64 places. -/
def rotate (x : UInt64) (n : UInt64) : UInt64 :=
  (x <<< n) ||| (x >>> (64 - n))

/-- What each round adds to the first lane. -/
def roundConstants : List UInt64 := [
  0x0000000000000001, 0x0000000000008082, 0x800000000000808A, 0x8000000080008000,
  0x000000000000808B, 0x0000000080000001, 0x8000000080008081, 0x8000000000008009,
  0x000000000000008A, 0x0000000000000088, 0x0000000080008009, 0x000000008000000A,
  0x000000008000808B, 0x800000000000008B, 0x8000000000008089, 0x8000000000008003,
  0x8000000000008002, 0x8000000000000080, 0x000000000000800A, 0x800000008000000A,
  0x8000000080008081, 0x8000000000008080, 0x0000000080000001, 0x8000000080008008]

/-- The exclusive or of two rows. -/
def Row.xor (r s : Row) : Row :=
  ⟨r.a ^^^ s.a, r.b ^^^ s.b, r.c ^^^ s.c, r.d ^^^ s.d, r.e ^^^ s.e⟩

/-- The exclusive or of two states. -/
def State.xor (s t : State) : State :=
  ⟨s.a.xor t.a, s.b.xor t.b, s.c.xor t.c, s.d.xor t.d, s.e.xor t.e⟩

/-- Adds to each lane the parities of the two neighbouring columns. -/
def theta (s : State) : State :=
  let sums := (((s.a.xor s.b).xor s.c).xor s.d).xor s.e
  let d : Row := ⟨sums.e ^^^ rotate sums.b 1, sums.a ^^^ rotate sums.c 1,
    sums.b ^^^ rotate sums.d 1, sums.c ^^^ rotate sums.e 1, sums.d ^^^ rotate sums.a 1⟩
  ⟨s.a.xor d, s.b.xor d, s.c.xor d, s.d.xor d, s.e.xor d⟩

/-- Rotates each lane and moves it to its new place.  The lanes of a column
come from one row. -/
def rhoPi (s : State) : State where
  a := ⟨s.a.a, rotate s.b.b 44, rotate s.c.c 43, rotate s.d.d 21, rotate s.e.e 14⟩
  b := ⟨rotate s.a.d 28, rotate s.b.e 20, rotate s.c.a 3, rotate s.d.b 45, rotate s.e.c 61⟩
  c := ⟨rotate s.a.b 1, rotate s.b.c 6, rotate s.c.d 25, rotate s.d.e 8, rotate s.e.a 18⟩
  d := ⟨rotate s.a.e 27, rotate s.b.a 36, rotate s.c.b 10, rotate s.d.c 15, rotate s.e.d 56⟩
  e := ⟨rotate s.a.c 62, rotate s.b.d 55, rotate s.c.e 39, rotate s.d.a 41, rotate s.e.b 2⟩

/-- Combines each lane with the next two of its row. -/
def chi (r : Row) : Row :=
  ⟨r.a ^^^ (~~~ r.b &&& r.c), r.b ^^^ (~~~ r.c &&& r.d), r.c ^^^ (~~~ r.d &&& r.e),
    r.d ^^^ (~~~ r.e &&& r.a), r.e ^^^ (~~~ r.a &&& r.b)⟩

/-- One round. -/
def round (s : State) (constant : UInt64) : State :=
  let t := rhoPi (theta s)
  let first := chi t.a
  ⟨{ first with a := first.a ^^^ constant }, chi t.b, chi t.c, chi t.d, chi t.e⟩

/-- The permutation: 24 rounds. -/
def permute (s : State) : State :=
  roundConstants.foldl round s

/-- The lanes of a byte string, eight bytes each, low byte first. -/
def lanes (count : Nat) (bs : Bytes) : List UInt64 :=
  match count with
  | 0 => []
  | count + 1 => UInt64.ofNat (Bytes.toNatLittle (bs.take 8)) :: lanes count (bs.drop 8)

/-- The row of the first five lanes, zero where there is none. -/
def Row.ofLanes (lanes : List UInt64) : Row :=
  ⟨lanes.getD 0 0, lanes.getD 1 0, lanes.getD 2 0, lanes.getD 3 0, lanes.getD 4 0⟩

/-- The state of its lanes, row by row. -/
def State.ofLanes (lanes : List UInt64) : State :=
  ⟨.ofLanes lanes, .ofLanes (lanes.drop 5), .ofLanes (lanes.drop 10), .ofLanes (lanes.drop 15),
    .ofLanes (lanes.drop 20)⟩

/-- Absorbs one block. -/
def absorbBlock (s : State) (block : Bytes) : State :=
  permute (s.xor (.ofLanes (lanes (rate / 8) block)))

/-- Absorbs a byte string, the last block with its padding. -/
def absorb (s : State) (bs : Bytes) : State :=
  if bs.length < rate then
    let gap := rate - bs.length
    absorbBlock s <| bs ++
      if gap = 1 then [0x81] else 0x01 :: List.replicate (gap - 2) 0 ++ [0x80]
  else absorb (absorbBlock s (bs.take rate)) (bs.drop rate)
termination_by bs.length
decreasing_by
  rw [List.length_drop]
  have : 0 < rate := by decide
  omega

/-- The first 32 bytes of the state. -/
def squeeze (s : State) : Digest :=
  let lane (x : UInt64) := Bytes.ofNatLittle 8 x.toNat
  ⟨lane s.a.a ++ lane s.a.b ++ lane s.a.c ++ lane s.a.d, by simp [lane]⟩

end Keccak

/-- The Keccak-256 digest of a byte string. -/
def keccak256 (bs : Bytes) : Digest :=
  Keccak.squeeze (Keccak.absorb (.ofLanes []) bs)

end ClauseTx.Hash
