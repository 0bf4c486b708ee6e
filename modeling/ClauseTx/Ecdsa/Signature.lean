import ClauseTx.Ecdsa.Key
import ClauseTx.Ecdsa.Nonce

/-!
# Recoverable signatures

A signature is the two numbers `r` and `s` of 32 bytes and a last byte, the
parity of the nonce point, from which the signer's public key can be
recovered.

Signing puts `s` into the lower half of its range and flips the parity with
it.  Recovery and verification refuse the upper half, so a signature has no
second form.
-/

namespace ClauseTx.Ecdsa

/-- The length of a signature without its last byte. -/
def compactLength : Nat := 64

/-- The length of a signature. -/
def signatureLength : Nat := 65

/-- A signature of 65 bytes. -/
abbrev Signature := Blob 65

/-- The two numbers of a signature. -/
structure Numbers where
  r : Nat
  s : Nat
deriving DecidableEq

/-- Whether both numbers lie between 1 and the order. -/
def Numbers.inRange (C : Curve) (σ : Numbers) : Bool :=
  0 < σ.r && σ.r < C.order && 0 < σ.s && σ.s < C.order

/-- Whether `s` lies in the upper half of its range. -/
def Numbers.isHigh (C : Curve) (σ : Numbers) : Bool :=
  σ.s > C.order / 2

/-- Reads the two numbers from 64 bytes. -/
def Numbers.ofBytes (C : Curve) (bs : Bytes) : Except Error Numbers :=
  let σ : Numbers := ⟨Bytes.toNat (bs.take 32), Bytes.toNat (bs.drop 32)⟩
  if σ.inRange C then .ok σ else .error (.invalidSignature .unusable)

/-! ## The equations -/

/-- Signs a number with a private key and a nonce.  The result is the two
numbers, whether the second coordinate of the nonce point is odd, and whether
its first coordinate is beyond the order. -/
def signNumber (C : Curve) (key nonce z : Nat) : Option (Numbers × Bool × Bool) :=
  match C.mulGenerator nonce with
  | .infinity => none
  | .affine x y =>
    let n := C.order
    let r := x % n
    let s := Curve.inverse n nonce * ((z % n + r * key) % n) % n
    if r = 0 || s = 0 then none
    else if s > n / 2 then some (⟨r, n - s⟩, y % 2 ≠ 1, x ≥ n)
    else some (⟨r, s⟩, y % 2 = 1, x ≥ n)

/-- Whether a signature satisfies the equation of verification for a public
key. -/
def checkNumbers (C : Curve) (z : Nat) (σ : Numbers) (publicKey : Point) : Bool :=
  if σ.isHigh C then false
  else
    let n := C.order
    let inverse := Curve.inverse n σ.s
    let u₁ := inverse * (z % n) % n
    let u₂ := inverse * σ.r % n
    match C.add (C.mulGenerator u₁) (C.mul u₂ publicKey) with
    | .infinity => false
    | .affine x _ => x % n = σ.r

/-- The only public key for which a nonce point of a given parity can lead to
a signature. -/
def candidate (C : Curve) (z : Nat) (σ : Numbers) (isOdd : Bool) : Option Point :=
  match C.lift σ.r isOdd with
  | none => none
  | some R =>
    let n := C.order
    let inverse := Curve.inverse n σ.r
    let u₁ := (n - inverse * (z % n) % n) % n
    let u₂ := inverse * σ.s % n
    match C.add (C.mulGenerator u₁) (C.mul u₂ R) with
    | .infinity => none
    | Q => some Q

/-- The public key that made a signature.  The signature is verified with
it. -/
def recoverPoint (C : Curve) (z : Nat) (σ : Numbers) (isOdd : Bool) : Option Point :=
  match candidate C z σ isOdd with
  | some Q => if checkNumbers C z σ Q then some Q else none
  | none => none

/-! ## Signing -/

/-- Refuses what does not have the length of a digest. -/
def checkDigest (digest : Bytes) : Except Error Unit :=
  if isDigest digest then .ok () else .error (.invalidMessageHash digest.length)

/-- The last byte of a signature. -/
def parityByte (isOdd isBeyond : Bool) : UInt8 :=
  (if isOdd then 1 else 0) + (if isBeyond then 2 else 0)

/-- Signs a digest. -/
def PrivateKey.sign {C : Curve} (key : PrivateKey C) (digest : Bytes) :
    Except Error Signature := do
  checkDigest digest
  let signed := do
    let k ← Nonce.nonce? C.order key.bytes.bytes digest
    signNumber C key.scalar k digest.toNat
  match signed with
  | none => .error (.invalidSignature .unusable)
  | some (σ, isOdd, isBeyond) =>
    .ok ⟨Bytes.ofNat 32 σ.r ++ Bytes.ofNat 32 σ.s ++ [parityByte isOdd isBeyond], by simp⟩

/-- Signs a digest with a private key given as bytes. -/
def sign (C : Curve) (digest privateKey : Bytes) : Except Error Signature := do
  checkDigest digest
  let key ← PrivateKey.ofBytes C privateKey
  key.sign digest

/-! ## Recovery and verification -/

/-- Splits a signature into its numbers and its parity. -/
def splitSignature (C : Curve) (signature : Bytes) : Except Error (Numbers × Bool) :=
  if signature.length ≠ signatureLength then
    .error (.invalidSignature (.wrongLength signatureLength signature.length))
  else
    let v := (signature.getD compactLength 0).toNat
    if v > 1 then .error (.invalidSignature (.recoveryByte v))
    else do
      let σ ← Numbers.ofBytes C (signature.take compactLength)
      return (σ, v = 1)

/-- The public key that made a signature, with both coordinates. -/
def recover (C : Curve) (digest signature : Bytes) : Except Error Bytes := do
  checkDigest digest
  let (σ, isOdd) ← splitSignature C signature
  match recoverPoint C digest.toNat σ isOdd with
  | some Q => .ok (uncompressed Q)
  | none => .error (.invalidSignature .unusable)

/-- Whether a signature of a digest was made by a public key.  The last byte
is part of the signature. -/
def verify (C : Curve) (digest signature publicKey : Bytes) : Except Error Bool := do
  checkDigest digest
  let expected ← decodePoint C publicKey
  let (σ, isOdd) ← splitSignature C signature
  return checkNumbers C digest.toNat σ expected &&
    recoverPoint C digest.toNat σ isOdd = some expected

/-- The parity that completes the two numbers of a signature to one that was
made by a public key. -/
def recoveryId (C : Curve) (digest compact publicKey : Bytes) : Except Error Nat := do
  checkDigest digest
  if compact.length ≠ compactLength then
    .error (.invalidSignature (.wrongLength compactLength compact.length))
  else
    let expected ← decodePoint C publicKey
    let σ ← Numbers.ofBytes C compact
    if recoverPoint C digest.toNat σ false = some expected then .ok 0
    else if recoverPoint C digest.toNat σ true = some expected then .ok 1
    else .error (.invalidSignature .noParity)

end ClauseTx.Ecdsa
