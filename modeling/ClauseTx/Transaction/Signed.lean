import ClauseTx.Address.Text
import ClauseTx.Transaction.Wire

/-!
# Signed transactions

A signed transaction is a body and its signature: that of the sender, and
after it that of the gas payer if the body asks for one.

Nobody's address is kept.  `SignedTransaction.origin` and
`SignedTransaction.gasPayer` recover them, and `SignedTransaction.verify`
compares them with what is expected.
-/

namespace ClauseTx

/-- The length of the signature of a transaction with a gas payer. -/
def delegatedSignatureLength : Nat := 2 * Ecdsa.signatureLength

/-- The length of the signature that a body asks for. -/
def Body.signatureLength (b : Body) : Nat :=
  if b.isDelegated then delegatedSignatureLength else Ecdsa.signatureLength

/-- A body and its signature. -/
structure SignedTransaction where
  body : Body
  signature : Bytes
deriving DecidableEq

namespace SignedTransaction

/-- A body with a signature of the length that it asks for. -/
def ofParts (body : Body) (signature : Bytes) : Except Error SignedTransaction :=
  if signature.length = body.signatureLength then .ok ⟨body, signature⟩
  else
    .error (.invalidSignature (.transactionLength body.signatureLength signature.length))

/-- A transaction without the remarks of its clauses. -/
def plain (t : SignedTransaction) : SignedTransaction :=
  { t with body := t.body.plain }

/-- Whether a gas payer is asked for. -/
def isDelegated (t : SignedTransaction) : Bool :=
  t.body.isDelegated

/-! ## Encoding -/

/-- The encoding, as it is sent to a node. -/
def encode (t : SignedTransaction) : Bytes :=
  Layout.encode ⟨t.body, some t.signature⟩

/-- The id, a digest of the encoding. -/
def id (t : SignedTransaction) : Hash.Digest :=
  Hash.keccak256 t.encode

/-- Reads a transaction. -/
def decode (bs : Bytes) : Except Error SignedTransaction := do
  let layout ← Layout.decodeValid bs
  match layout.signature with
  | some signature => ofParts layout.body signature
  | none => .error .unsigned

/-! ## Signers -/

/-- The signature of the sender. -/
def senderSignature (t : SignedTransaction) : Bytes :=
  t.signature.take Ecdsa.signatureLength

/-- The signature of the gas payer. -/
def gasPayerSignature (t : SignedTransaction) : Option Bytes :=
  if t.isDelegated then some (t.signature.drop Ecdsa.signatureLength) else none

/-- The address of the key that signed a digest. -/
def signer (digest : Hash.Digest) (signature : Bytes) : Except Error Address := do
  let publicKey ← (Ecdsa.recover secp256k1 digest.bytes signature).mapError .ofEcdsa
  Address.ofPublicKey publicKey

/-- The sender. -/
def origin (t : SignedTransaction) : Except Error Address :=
  signer t.body.signingHash t.senderSignature

/-- The gas payer. -/
def gasPayer (t : SignedTransaction) : Except Error Address :=
  match t.gasPayerSignature with
  | none => .error .notDelegated
  | some signature => do
    let origin ← t.origin
    signer (t.body.delegationHash origin) signature

/-- Refuses a transaction unless the sender and the gas payer are those
expected. -/
def verify (t : SignedTransaction) (expectedOrigin : Address)
    (expectedGasPayer : Option Address) : Except Error Unit := do
  let origin ← t.origin
  if origin ≠ expectedOrigin then
    .error (.invalidSignature (.sender origin expectedOrigin))
  else
    match t.isDelegated, expectedGasPayer with
    | false, none => .ok ()
    | false, some _ => .error .notDelegated
    | true, none => .error (.illegalArgument .noExpectedGasPayer)
    | true, some expected => do
      let gasPayer ← t.gasPayer
      if gasPayer ≠ expected then
        .error (.invalidSignature (.gasPayer gasPayer expected))
      else .ok ()

end SignedTransaction

end ClauseTx
