import ClauseTx.Transaction.Signed

/-!
# Signing transactions

A body that asks for no gas payer is signed by its sender in one step.  One
that asks for a gas payer is first signed by the sender, and the result waits
for the second signature.
-/

namespace ClauseTx

namespace PrivateKey

/-- Signs a digest. -/
def signDigest (key : PrivateKey) (digest : Hash.Digest) : Except Error Ecdsa.Signature :=
  (Ecdsa.PrivateKey.sign key digest.bytes).mapError .ofEcdsa

end PrivateKey

/-- A body that its sender has signed and a gas payer has not. -/
structure SenderSigned where
  body : Body
  sender : Address
  senderSignature : Ecdsa.Signature
deriving DecidableEq

namespace SenderSigned

/-- The digest that the gas payer signs. -/
def delegationHash (s : SenderSigned) : Hash.Digest :=
  s.body.delegationHash s.sender

/-- The transaction with the signature of a gas payer. -/
def complete (s : SenderSigned) (signature : Ecdsa.Signature) : Except Error SignedTransaction :=
  SignedTransaction.ofParts s.body (s.senderSignature.bytes ++ signature.bytes)

/-- The transaction that a gas payer signs with a private key. -/
def signAsGasPayer (s : SenderSigned) (gasPayer : PrivateKey) :
    Except Error SignedTransaction := do
  s.complete (← PrivateKey.signDigest gasPayer s.delegationHash)

end SenderSigned

namespace Body

/-- The transaction of a body that asks for no gas payer. -/
def sign (b : Body) (sender : PrivateKey) : Except Error SignedTransaction := do
  if b.isDelegated then .error (.illegalArgument .needsGasPayer)
  else
    let signature ← PrivateKey.signDigest sender b.signingHash
    SignedTransaction.ofParts b signature.bytes

/-- The first signature of a body that asks for a gas payer. -/
def signAsSender (b : Body) (sender : PrivateKey) : Except Error SenderSigned := do
  if !b.isDelegated then .error .notDelegated
  else
    let signature ← PrivateKey.signDigest sender b.signingHash
    return ⟨b, .ofPrivateKey sender, signature⟩

/-- Both signatures of a body that asks for a gas payer. -/
def signWithGasPayer (b : Body) (sender gasPayer : PrivateKey) :
    Except Error SignedTransaction := do
  (← b.signAsSender sender).signAsGasPayer gasPayer

end Body

end ClauseTx
