import ClauseTx.Hash.Keccak
import ClauseTx.Hex

/-!
# Addresses

An account is named by 20 bytes, the end of the hash of its public key.  The
text of an address has mixed case: a letter is upper case where the digest of
the lower case digits has a nibble of 8 or more (ERC-55), so that most
mistakes of a single letter show.
-/

namespace ClauseTx

/-- The name of an account. -/
@[ext]
structure Address where
  blob : Blob 20
deriving DecidableEq, Inhabited

namespace Address

/-- The length of an address. -/
def length : Nat := 20

/-- The bytes of an address. -/
def bytes (a : Address) : Bytes := a.blob.bytes

/-- The address of zero bytes. -/
def zero : Address := ⟨Blob.zero 20⟩

/-- The address that a digest of a public key ends with. -/
def ofDigest (digest : Hash.Digest) : Address :=
  ⟨digest.last 20 (by decide)⟩

/-- The address of a public key written with both coordinates.  The first
byte, which tells the format, does not count. -/
def ofUncompressed (publicKey : Bytes) : Address :=
  ofDigest (Hash.keccak256 publicKey.tail)

/-- The nibbles of a byte string in order. -/
def nibbles (bs : Bytes) : List Nat :=
  bs.flatMap fun b => [b.toNat / 16, b.toNat % 16]

/-- The lower case digits of an address. -/
def digits (a : Address) : List Char :=
  Hex.digits a.bytes

/-- The digits of an address in mixed case. -/
def mixedDigits (a : Address) : List Char :=
  let digest := Hash.keccak256 (a.digits.flatMap String.utf8EncodeChar)
  List.zipWith (fun c n => if 8 ≤ n then c.toUpper else c) a.digits (nibbles digest.bytes)

/-- The text of an address with its checksum. -/
def checksummed (a : Address) : String :=
  String.ofList ('0' :: 'x' :: a.mixedDigits)

/-- The text of an address in diagnostics. -/
def debug (a : Address) : String :=
  "Address(" ++ a.checksummed ++ ")"

/-- The order of addresses by their bytes. -/
def precedes (a b : Address) : Bool :=
  decide (a.bytes < b.bytes)

end Address

end ClauseTx
