import ClauseTx.Hash.Hmac

/-!
# Deterministic nonces

The nonce of a signature is drawn from the private key and the digest by a
generator built on HMAC-SHA256 (RFC 6979), so that signing twice gives the
same signature.  The digest enters as it is, also where it is not below the
order.
-/

namespace ClauseTx.Ecdsa.Nonce

/-- The state of the generator. -/
structure Generator where
  key : Bytes
  value : Bytes

/-- Mixes data into the state. -/
def Generator.mix (g : Generator) (data : Bytes) : Generator :=
  let key := (Hash.hmacSha256 g.key (g.value ++ data)).bytes
  ⟨key, (Hash.hmacSha256 key g.value).bytes⟩

/-- The generator for a private key and a digest. -/
def Generator.ofSeed (privateKey digest : Bytes) : Generator :=
  let start : Generator := ⟨List.replicate 32 0, List.replicate 32 1⟩
  (start.mix (0 :: (privateKey ++ digest))).mix (1 :: (privateKey ++ digest))

/-- Draws until a number from 1 up to the order comes out, at most `draws`
times.  A draw gives as many bits as the order has. -/
def draw? (order : Nat) : (draws : Nat) → Generator → Option Nat
  | 0, _ => none
  | draws + 1, g =>
    let value := (Hash.hmacSha256 g.key g.value).bytes
    let k := Bytes.toNat value >>> (256 - (order.log2 + 1))
    if 0 < k && k < order then some k
    else draw? order draws (Generator.mix ⟨g.key, value⟩ [0])

/-- The nonce for a private key and a digest.  A draw fails once in `2 ^ 127`
times on a curve of 256 bits, and in half of the times at worst. -/
def nonce? (order : Nat) (privateKey digest : Bytes) : Option Nat :=
  draw? order 256 (Generator.ofSeed privateKey digest)

end ClauseTx.Ecdsa.Nonce
