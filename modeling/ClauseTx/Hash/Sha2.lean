import ClauseTx.Bytes

/-!
# SHA-256 and SHA-512

Both functions are one construction over words of 32 or 64 bits.  A `Variant`
holds what differs: the width, the constants and the rotations.

Key derivation from mnemonics uses SHA-512, and deterministic signing nonces
use SHA-256.
-/

namespace ClauseTx.Hash

namespace Sha2

/-- The eight words that a block changes. -/
structure State (W : Type) where
  a : W
  b : W
  c : W
  d : W
  e : W
  f : W
  g : W
  h : W

/-- A word size with its constants and mixing functions. -/
class Variant (W : Type) extends Add W, XorOp W, AndOp W, Complement W where
  /-- The bytes of a word. -/
  width : Nat
  ofNat : Nat → W
  toNat : W → Nat
  initial : State W
  constants : List W
  /-- Mixes the word `a` of the state. -/
  bigSigma₀ : W → W
  /-- Mixes the word `e` of the state. -/
  bigSigma₁ : W → W
  /-- Mixes the word fifteen places back in the schedule. -/
  smallSigma₀ : W → W
  /-- Mixes the word two places back in the schedule. -/
  smallSigma₁ : W → W

variable {W : Type} [Variant W]

/-- Takes the word for the next round from the schedule, and the state. -/
@[specialize]
def round (s : State W) (constant word : W) : State W :=
  let choice := (s.e &&& s.f) ^^^ (~~~ s.e &&& s.g)
  let majority := (s.a &&& s.b) ^^^ (s.a &&& s.c) ^^^ (s.b &&& s.c)
  let t₁ := s.h + Variant.bigSigma₁ s.e + choice + constant + word
  let t₂ := Variant.bigSigma₀ s.a + majority
  ⟨t₁ + t₂, s.a, s.b, s.c, s.d + t₁, s.e, s.f, s.g⟩

/-- Extends a schedule of at least sixteen words, the last word first, by a
number of words. -/
@[specialize]
def extend (words : List W) : (count : Nat) → List W
  | 0 => words
  | count + 1 =>
    let back (i : Nat) : W := words.getD (i - 1) (Variant.ofNat 0)
    let word := Variant.smallSigma₁ (back 2) + back 7 + Variant.smallSigma₀ (back 15) + back 16
    extend (word :: words) count

/-- The words of a byte string, high byte first. -/
@[specialize]
def words : (count : Nat) → Bytes → List W
  | 0, _ => []
  | count + 1, bs =>
    Variant.ofNat (Bytes.toNat (bs.take (Variant.width W))) ::
      words count (bs.drop (Variant.width W))

/-- Runs all rounds with the words of a schedule. -/
@[specialize]
def rounds : List W → List W → State W → State W
  | constant :: constants, word :: schedule, s => rounds constants schedule (round s constant word)
  | _, _, s => s

/-- Takes in one block. -/
@[specialize]
def compress (s : State W) (block : Bytes) : State W :=
  let constants := Variant.constants (W := W)
  let schedule := (extend (words 16 block).reverse (constants.length - 16)).reverse
  let t := rounds constants schedule s
  ⟨s.a + t.a, s.b + t.b, s.c + t.c, s.d + t.d, s.e + t.e, s.f + t.f, s.g + t.g, s.h + t.h⟩

/-- The padding of a message: a one bit, zeros, and the length in bits in two
words, up to a whole number of blocks. -/
def padding (width length : Nat) : Bytes :=
  let block := 16 * width
  let zeros := (block - (length + 1 + 2 * width) % block) % block
  0x80 :: List.replicate zeros 0 ++ Bytes.ofNat (2 * width) (8 * length)

/-- Takes in a number of blocks. -/
@[specialize]
def absorb (s : State W) : (blocks : Nat) → Bytes → State W
  | 0, _ => s
  | blocks + 1, bs =>
    absorb (compress s (bs.take (16 * Variant.width W))) blocks (bs.drop (16 * Variant.width W))

/-- The bytes of a state. -/
@[specialize]
def State.bytes (s : State W) : Bytes :=
  let word (x : W) := Bytes.ofNat (Variant.width W) (Variant.toNat x)
  word s.a ++ word s.b ++ word s.c ++ word s.d ++ word s.e ++ word s.f ++ word s.g ++ word s.h

@[simp]
theorem State.length_bytes (s : State W) : s.bytes.length = 8 * Variant.width W := by
  simp [State.bytes]
  omega

/-- The digest of a message. -/
@[specialize]
def hash (message : Bytes) : Blob (8 * Variant.width W) :=
  let padded := message ++ padding (Variant.width W) message.length
  let s := absorb Variant.initial (padded.length / (16 * Variant.width W)) padded
  ⟨State.bytes (W := W) s, State.length_bytes s⟩

/-! ## The two variants -/

/-- Rotation of 32 bits to the right. -/
@[inline]
def rotate32 (x n : UInt32) : UInt32 :=
  (x >>> n) ||| (x <<< (32 - n))

/-- Rotation of 64 bits to the right. -/
@[inline]
def rotate64 (x n : UInt64) : UInt64 :=
  (x >>> n) ||| (x <<< (64 - n))

/-- The first 32 bits of the fractional parts of the cube roots of the first
64 primes. -/
def constants32 : List UInt32 := [
  0x428A2F98, 0x71374491, 0xB5C0FBCF, 0xE9B5DBA5, 0x3956C25B, 0x59F111F1, 0x923F82A4, 0xAB1C5ED5,
  0xD807AA98, 0x12835B01, 0x243185BE, 0x550C7DC3, 0x72BE5D74, 0x80DEB1FE, 0x9BDC06A7, 0xC19BF174,
  0xE49B69C1, 0xEFBE4786, 0x0FC19DC6, 0x240CA1CC, 0x2DE92C6F, 0x4A7484AA, 0x5CB0A9DC, 0x76F988DA,
  0x983E5152, 0xA831C66D, 0xB00327C8, 0xBF597FC7, 0xC6E00BF3, 0xD5A79147, 0x06CA6351, 0x14292967,
  0x27B70A85, 0x2E1B2138, 0x4D2C6DFC, 0x53380D13, 0x650A7354, 0x766A0ABB, 0x81C2C92E, 0x92722C85,
  0xA2BFE8A1, 0xA81A664B, 0xC24B8B70, 0xC76C51A3, 0xD192E819, 0xD6990624, 0xF40E3585, 0x106AA070,
  0x19A4C116, 0x1E376C08, 0x2748774C, 0x34B0BCB5, 0x391C0CB3, 0x4ED8AA4A, 0x5B9CCA4F, 0x682E6FF3,
  0x748F82EE, 0x78A5636F, 0x84C87814, 0x8CC70208, 0x90BEFFFA, 0xA4506CEB, 0xBEF9A3F7, 0xC67178F2]

/-- The first 64 bits of the fractional parts of the cube roots of the first
80 primes. -/
def constants64 : List UInt64 := [
  0x428A2F98D728AE22, 0x7137449123EF65CD, 0xB5C0FBCFEC4D3B2F, 0xE9B5DBA58189DBBC,
  0x3956C25BF348B538, 0x59F111F1B605D019, 0x923F82A4AF194F9B, 0xAB1C5ED5DA6D8118,
  0xD807AA98A3030242, 0x12835B0145706FBE, 0x243185BE4EE4B28C, 0x550C7DC3D5FFB4E2,
  0x72BE5D74F27B896F, 0x80DEB1FE3B1696B1, 0x9BDC06A725C71235, 0xC19BF174CF692694,
  0xE49B69C19EF14AD2, 0xEFBE4786384F25E3, 0x0FC19DC68B8CD5B5, 0x240CA1CC77AC9C65,
  0x2DE92C6F592B0275, 0x4A7484AA6EA6E483, 0x5CB0A9DCBD41FBD4, 0x76F988DA831153B5,
  0x983E5152EE66DFAB, 0xA831C66D2DB43210, 0xB00327C898FB213F, 0xBF597FC7BEEF0EE4,
  0xC6E00BF33DA88FC2, 0xD5A79147930AA725, 0x06CA6351E003826F, 0x142929670A0E6E70,
  0x27B70A8546D22FFC, 0x2E1B21385C26C926, 0x4D2C6DFC5AC42AED, 0x53380D139D95B3DF,
  0x650A73548BAF63DE, 0x766A0ABB3C77B2A8, 0x81C2C92E47EDAEE6, 0x92722C851482353B,
  0xA2BFE8A14CF10364, 0xA81A664BBC423001, 0xC24B8B70D0F89791, 0xC76C51A30654BE30,
  0xD192E819D6EF5218, 0xD69906245565A910, 0xF40E35855771202A, 0x106AA07032BBD1B8,
  0x19A4C116B8D2D0C8, 0x1E376C085141AB53, 0x2748774CDF8EEB99, 0x34B0BCB5E19B48A8,
  0x391C0CB3C5C95A63, 0x4ED8AA4AE3418ACB, 0x5B9CCA4F7763E373, 0x682E6FF3D6B2B8A3,
  0x748F82EE5DEFB2FC, 0x78A5636F43172F60, 0x84C87814A1F0AB72, 0x8CC702081A6439EC,
  0x90BEFFFA23631E28, 0xA4506CEBDE82BDE9, 0xBEF9A3F7B2C67915, 0xC67178F2E372532B,
  0xCA273ECEEA26619C, 0xD186B8C721C0C207, 0xEADA7DD6CDE0EB1E, 0xF57D4F7FEE6ED178,
  0x06F067AA72176FBA, 0x0A637DC5A2C898A6, 0x113F9804BEF90DAE, 0x1B710B35131C471B,
  0x28DB77F523047D84, 0x32CAAB7B40C72493, 0x3C9EBE0A15C9BEBC, 0x431D67C49C100D4C,
  0x4CC5D4BECB3E42B6, 0x597F299CFC657E2A, 0x5FCB6FAB3AD6FAEC, 0x6C44198C4A475817]

instance : Variant UInt32 where
  width := 4
  ofNat := UInt32.ofNat
  toNat := UInt32.toNat
  initial := ⟨0x6A09E667, 0xBB67AE85, 0x3C6EF372, 0xA54FF53A, 0x510E527F, 0x9B05688C, 0x1F83D9AB,
    0x5BE0CD19⟩
  constants := constants32
  bigSigma₀ x := rotate32 x 2 ^^^ rotate32 x 13 ^^^ rotate32 x 22
  bigSigma₁ x := rotate32 x 6 ^^^ rotate32 x 11 ^^^ rotate32 x 25
  smallSigma₀ x := rotate32 x 7 ^^^ rotate32 x 18 ^^^ (x >>> 3)
  smallSigma₁ x := rotate32 x 17 ^^^ rotate32 x 19 ^^^ (x >>> 10)

instance : Variant UInt64 where
  width := 8
  ofNat := UInt64.ofNat
  toNat := UInt64.toNat
  initial := ⟨0x6A09E667F3BCC908, 0xBB67AE8584CAA73B, 0x3C6EF372FE94F82B, 0xA54FF53A5F1D36F1,
    0x510E527FADE682D1, 0x9B05688C2B3E6C1F, 0x1F83D9ABFB41BD6B, 0x5BE0CD19137E2179⟩
  constants := constants64
  bigSigma₀ x := rotate64 x 28 ^^^ rotate64 x 34 ^^^ rotate64 x 39
  bigSigma₁ x := rotate64 x 14 ^^^ rotate64 x 18 ^^^ rotate64 x 41
  smallSigma₀ x := rotate64 x 1 ^^^ rotate64 x 8 ^^^ (x >>> 7)
  smallSigma₁ x := rotate64 x 19 ^^^ rotate64 x 61 ^^^ (x >>> 6)

end Sha2

/-- The SHA-256 digest of a byte string. -/
def sha256 (bs : Bytes) : Blob 32 :=
  Sha2.hash (W := UInt32) bs

/-- The SHA-512 digest of a byte string. -/
def sha512 (bs : Bytes) : Blob 64 :=
  Sha2.hash (W := UInt64) bs

end ClauseTx.Hash
