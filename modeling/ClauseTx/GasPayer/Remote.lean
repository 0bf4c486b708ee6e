import ClauseTx.GasPayer.Basic
import ClauseTx.Json.Record

/-!
# Gas payers behind a service

The service gets the sender and the encoding of the body in JSON, and answers
with a signature in hexadecimal digits.  Only the form of the answer is
checked.  Whether the signature is any good shows when the transaction runs.
-/

namespace ClauseTx

open Http Json

/-- A gas payer behind a service. -/
structure RemoteGasPayer where
  url : String
  /-- For how long to wait for the answer. -/
  limit : Duration
deriving DecidableEq

namespace RemoteGasPayer

/-- What is shown of a gas payer. -/
def shown (p : RemoteGasPayer) : String :=
  "RemoteGasPayer \x7b url: " ++ Text.Quoted.text p.url ++ ", timeout: " ++ p.limit.text ++ " \x7d"

/-- What is sent to the service. -/
def requestBody (encoding : Bytes) (sender : Address) : Json :=
  .object [("origin", sender.toJson), ("raw", .string ("0x" ++ Hex.encode encoding))]

/-- The fields of an answer. -/
def shape : List Field := [⟨"signature", false⟩]

/-- The text of the signature, which may be missing. -/
def signatureText? (body : Bytes) : Option (Option String) := do
  match ← (← Syntax.parse? body).fields? shape with
  | [field] => Syntax.optional? Syntax.string? field
  | _ => none

/-- The signature of an answer. -/
def signature (response : Response) : Except PayerFault Ecdsa.Signature :=
  if !response.isSuccess then .error (.status response.status.toNat)
  else
    match signatureText? response.body with
    | none => .error .notJson
    | some none => .error .noSignature
    | some (some text) =>
      match Hex.decode (Text.stripHexMark text.toList) with
      | .error fault => .error (.notHex fault)
      | .ok bytes =>
        match Blob.ofBytes? bytes with
        | some signature => .ok signature
        | none => .error (.signatureLength bytes.length)

/-- Asks the service to sign for a sender. -/
def sign (p : RemoteGasPayer) (encoding : Bytes) (sender : Address) :
    Exchange Ecdsa.Signature := do
  let body := (requestBody encoding sender).render
  let response ← Exchange.send (.post p.url body) p.limit (.payerSilent p.url p.limit)
  (signature response).mapError fun fault => Error.remoteGasSigner fault response.text

/-- As a gas payer. -/
def gasPayer (p : RemoteGasPayer) : GasPayer :=
  ⟨p.sign⟩

end RemoteGasPayer

end ClauseTx
