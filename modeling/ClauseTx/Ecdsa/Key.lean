import ClauseTx.Curve.Point
import ClauseTx.Bytes
import ClauseTx.Ecdsa.Error
import ClauseTx.Hex
import ClauseTx.Text.Split

/-!
# Keys

A private key is a number from 1 up to the order of the curve.  Its public
key is that multiple of the generator.

A public key is written with both coordinates, or with the first one and the
parity of the second.  `decodePoint` reads both forms, so that either can be
turned into the other.
-/

namespace ClauseTx.Ecdsa

/-- The length of a digest that is signed. -/
def digestLength : Nat := 32

/-- The length of a private key. -/
def privateKeyLength : Nat := 32

/-- The length of a public key with one coordinate and a parity. -/
def compressedLength : Nat := 33

/-- The length of a public key with both coordinates. -/
def uncompressedLength : Nat := 65

/-! ## Private keys -/

/-- A number from 1 up to the order of a curve, the order excluded. -/
structure PrivateKey (C : Curve) where
  scalar : Nat
  pos : 0 < scalar
  lt : scalar < C.order

namespace PrivateKey

variable {C : Curve}

/-- The private key of a number. -/
def ofNat? (C : Curve) (n : Nat) : Option (PrivateKey C) :=
  if h : 0 < n ∧ n < C.order then some ⟨n, h.1, h.2⟩ else none

/-- Reads 32 bytes. -/
def ofBytes (C : Curve) (bs : Bytes) : Except Error (PrivateKey C) :=
  if bs.length ≠ privateKeyLength then .error .invalidPrivateKey
  else
    match ofNat? C bs.toNat with
    | some key => .ok key
    | none => .error .invalidPrivateKey

/-- Reads 32 bytes in hexadecimal digits, after an optional `0x`. -/
def ofHex (C : Curve) (text : String) : Except Error (PrivateKey C) :=
  match Hex.decode (Text.stripHexMark text.toList) with
  | .ok bs => ofBytes C bs
  | .error _ => .error .invalidPrivateKey

/-- The 32 bytes of a private key. -/
def bytes (key : PrivateKey C) : Blob 32 :=
  Blob.ofNat 32 key.scalar

/-- The public key. -/
def publicKey (key : PrivateKey C) : Point :=
  C.mulGenerator key.scalar

/-- What is shown of a private key. -/
def redacted : String := "PrivateKey(<redacted>)"

/-- The first of a number of random draws of 32 bytes that is a private
key. -/
def ofDraws? (C : Curve) (draws : List Bytes) : Option (PrivateKey C) :=
  draws.findSome? fun bs => (ofBytes C bs).toOption

end PrivateKey

/-! ## Written public keys -/

/-- A point with both coordinates. -/
def uncompressed : Point → Bytes
  | .infinity => [0]
  | .affine x y => 4 :: (Bytes.ofNat 32 x ++ Bytes.ofNat 32 y)

/-- A point with its first coordinate and the parity of the second. -/
def compressed : Point → Bytes
  | .infinity => [0]
  | .affine x y => (if y % 2 = 1 then 3 else 2) :: Bytes.ofNat 32 x

/-- Reads a written public key. -/
def decodePoint (C : Curve) (bs : Bytes) : Except Error Point :=
  let isCompressed := bs.length = compressedLength && (bs.head? = some 2 || bs.head? = some 3)
  let isUncompressed := bs.length = uncompressedLength && bs.head? = some 4
  if isCompressed then
    match C.lift (Bytes.toNat bs.tail) (bs.head? = some 3) with
    | some P => .ok P
    | none => .error (.invalidPublicKey .notOnCurve)
  else if isUncompressed then
    let P := Point.affine (Bytes.toNat (bs.tail.take 32)) (Bytes.toNat (bs.tail.drop 32))
    if C.onCurve P then .ok P else .error (.invalidPublicKey .notOnCurve)
  else .error (.invalidPublicKey (.unknownFormat bs.length))

/-- Writes a public key of either form with one coordinate. -/
def compress (C : Curve) (publicKey : Bytes) : Except Error Bytes :=
  (decodePoint C publicKey).map compressed

/-- Writes a public key of either form with both coordinates. -/
def inflate (C : Curve) (publicKey : Bytes) : Except Error Bytes :=
  (decodePoint C publicKey).map uncompressed

/-- The public key of a private key, given as bytes. -/
def derivePublicKey (C : Curve) (privateKey : Bytes) (isCompressed : Bool) :
    Except Error Bytes :=
  (PrivateKey.ofBytes C privateKey).map fun key =>
    if isCompressed then compressed key.publicKey else uncompressed key.publicKey

/-- Whether a byte string is a private key. -/
def isPrivateKey (C : Curve) (bs : Bytes) : Bool :=
  (PrivateKey.ofBytes C bs).isOk

/-- Whether a byte string has the length of a digest that can be signed. -/
def isDigest (bs : Bytes) : Bool :=
  bs.length = digestLength

end ClauseTx.Ecdsa
