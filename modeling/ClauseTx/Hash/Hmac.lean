import ClauseTx.Hash.Sha2

/-!
# Keyed hashes and key stretching

HMAC over the two hash functions, and PBKDF2 over HMAC-SHA512.
-/

namespace ClauseTx.Hash

/-- A key as one block: hashed first if it is too long, then padded with
zeros. -/
def hmacBlock (hash : Bytes → Bytes) (block : Nat) (key : Bytes) : Bytes :=
  let short := if key.length > block then hash key else key
  short ++ List.replicate (block - short.length) 0

/-- HMAC-SHA256. -/
def hmacSha256 (key message : Bytes) : Blob 32 :=
  let block := hmacBlock (fun bs => (sha256 bs).bytes) 64 key
  sha256 (block.map (· ^^^ 0x5C) ++ (sha256 (block.map (· ^^^ 0x36) ++ message)).bytes)

/-- HMAC-SHA512. -/
def hmacSha512 (key message : Bytes) : Blob 64 :=
  let block := hmacBlock (fun bs => (sha512 bs).bytes) 128 key
  sha512 (block.map (· ^^^ 0x5C) ++ (sha512 (block.map (· ^^^ 0x36) ++ message)).bytes)

/-- The exclusive or of two byte strings of one length. -/
def xorBlob {n : Nat} (a b : Blob n) : Blob n :=
  ⟨List.zipWith (· ^^^ ·) a.bytes b.bytes, by
    rw [List.length_zipWith, a.length_eq, b.length_eq, Nat.min_self]⟩

/-- The sum of the next rounds of PBKDF2, each the keyed hash of the one
before. -/
def stretchRounds (password : Bytes) : (rounds : Nat) → (last sum : Blob 64) → Blob 64
  | 0, _, sum => sum
  | rounds + 1, last, sum =>
    let next := hmacSha512 password last.bytes
    stretchRounds password rounds next (xorBlob sum next)

/-- The first 64 bytes of PBKDF2-HMAC-SHA512 with at least one round. -/
def stretch (password salt : Bytes) (rounds : Nat) : Blob 64 :=
  let first := hmacSha512 password (salt ++ [0, 0, 0, 1])
  stretchRounds password (rounds - 1) first first

end ClauseTx.Hash
