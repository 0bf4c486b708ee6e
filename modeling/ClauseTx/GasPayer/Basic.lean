import ClauseTx.Http.Exchange
import ClauseTx.Transaction.Signing

/-!
# Gas payers

A gas payer signs for the gas of somebody else's transaction.  It may hold a
private key, or ask a service that does.  In either case it gets the encoding
of the body and the sender, and gives back a signature.

The signature is put into the transaction as it is.
-/

namespace ClauseTx

/-- Somebody who signs for the gas of a transaction. -/
structure GasPayer where
  sign : (encoding : Bytes) → (sender : Address) → Http.Exchange Ecdsa.Signature

/-! ## With a private key -/

/-- A gas payer with a private key. -/
structure LocalGasPayer where
  key : PrivateKey

namespace LocalGasPayer

/-- The account that pays. -/
def address (p : LocalGasPayer) : Address :=
  .ofPrivateKey p.key

/-- Signs for a sender. -/
def sign (p : LocalGasPayer) (encoding : Bytes) (sender : Address) :
    Except Error Ecdsa.Signature :=
  PrivateKey.signDigest p.key (delegationHash (Hash.keccak256 encoding) sender)

/-- As a gas payer. -/
def gasPayer (p : LocalGasPayer) : GasPayer :=
  ⟨fun encoding sender => .done (p.sign encoding sender)⟩

/-- What is shown of a gas payer. -/
def shown : String :=
  "LocalGasPayer \x7b key: " ++ Ecdsa.PrivateKey.redacted ++ " \x7d"

end LocalGasPayer

/-! ## Signing with any gas payer -/

/-- The transaction that a gas payer signs. -/
def SenderSigned.request (s : SenderSigned) (p : GasPayer) :
    Http.Exchange SignedTransaction := do
  let signature ← p.sign s.body.encode s.sender
  s.complete signature

/-- Both signatures of a body, the second from any gas payer. -/
def Body.signWithRequest (b : Body) (sender : PrivateKey) (p : GasPayer) :
    Http.Exchange SignedTransaction := do
  let signed ← b.signAsSender sender
  signed.request p

end ClauseTx
