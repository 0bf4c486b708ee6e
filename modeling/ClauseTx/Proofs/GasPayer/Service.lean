import ClauseTx.Proofs.GasPayer.Answers

/-!
# Services that sign for gas

The other side of a gas payer behind a service.  A service reads an encoding
and a sender from a request (`request?`) and gives back a signature in an
answer (`IsAnswer`).  `Sponsors` says that a server does this with a private
key, in time and with some status of success, whatever it was asked before.
It is free in how it spells its answer and in what it does with other requests.

What is asked is what such a service reads (`request?_requestBody`), and what
it answers is what is read back (`Sponsors.run_sign`).
-/

namespace ClauseTx.RemoteGasPayer

open Http Json

/-! ## What a service reads -/

/-- The encoding and the sender of a request. -/
def request? (body : Bytes) : Option (Bytes × Address) := do
  let members ← (Syntax.parse? body).bind Syntax.texts?
  let sender ← (Address.parse (← members.lookup "origin")).toOption
  let digits ← Text.stripPrefix? ['0', 'x'] (← members.lookup "raw").toList
  let encoding ← (Hex.decode digits).toOption
  return (encoding, sender)

/-- A service reads what was asked. -/
theorem request?_requestBody (encoding : Bytes) (sender : Address) :
    request? (Bytes.ofText (requestBody encoding sender).render) = some (encoding, sender) := by
  have hbody : requestBody encoding sender =
      ofTexts [("origin", sender.checksummed), ("raw", "0x" ++ Hex.encode encoding)] := rfl
  have horigin : [("origin", sender.checksummed), ("raw", "0x" ++ Hex.encode encoding)].lookup
      "origin" = some sender.checksummed := rfl
  have hraw : [("origin", sender.checksummed), ("raw", "0x" ++ Hex.encode encoding)].lookup
      "raw" = some ("0x" ++ Hex.encode encoding) := rfl
  have hdigits : Text.stripPrefix? ['0', 'x'] ("0x" ++ Hex.encode encoding).toList =
      some (Hex.digits encoding) := by
    rw [toList_mark_encode]
    rfl
  rw [request?, hbody, texts?_render]
  simp only [Option.bind_eq_bind, Option.bind_some, horigin, hraw, hdigits,
    Address.parse_checksummed, Hex.decode_digits, Except.toOption]
  rfl

/-! ## A service with a private key -/

/-- A server answers the requests of a gas payer with the signatures of a
private key, whenever that signs. -/
structure Sponsors (server : Server) (p : RemoteGasPayer) (payer : LocalGasPayer) : Prop where
  exists_answer : ∀ (log : List Request) {body : String} {encoding : Bytes} {sender : Address}
    {signature : Ecdsa.Signature}, request? (Bytes.ofText body) = some (encoding, sender) →
      payer.sign encoding sender = .ok signature →
        ∃ delay response, server log (.post p.url body) = ⟨delay, .ok response⟩ ∧
          delay.millis ≤ p.limit.millis ∧ response.isSuccess = true ∧
            IsAnswer response.body signature

/-- Asking a service is signing with its key, and takes one request. -/
theorem Sponsors.run_sign {server : Server} {p : RemoteGasPayer} {payer : LocalGasPayer}
    (h : Sponsors server p payer) {encoding : Bytes} {sender : Address}
    {signature : Ecdsa.Signature} (hsign : payer.sign encoding sender = .ok signature)
    (log : List Request) :
    (p.sign encoding sender).run server log =
      (.ok signature, log ++ [.post p.url (requestBody encoding sender).render]) := by
  obtain ⟨delay, response, hreply, hdelay, hsuccess, hanswer⟩ :=
    h.exists_answer log (request?_requestBody encoding sender) hsign
  have hbrings : (server log (p.request encoding sender)).Brings p.limit response := by
    unfold request
    rw [hreply]
    exact ⟨hdelay, rfl⟩
  rw [p.run_sign encoding sender server log,
    read_eq_ok_iff.mpr ⟨response, hbrings, hanswer.carries (Response.isSuccess_iff.mp hsuccess)⟩]
  rfl

/-- The reply with a signature, or without one if the key does not sign. -/
def reply (status : UInt16) : Except Error Ecdsa.Signature → Reply
  | .ok signature => ⟨⟨0⟩, .ok ⟨status, Bytes.ofText (answer signature).render⟩⟩
  | .error _ => ⟨⟨0⟩, .ok ⟨500, []⟩⟩

/-- A server that signs whatever it is asked to sign. -/
def sponsor (payer : LocalGasPayer) (status : UInt16) : Server
  | _, .get _ _ => ⟨⟨0⟩, .ok ⟨404, []⟩⟩
  | _, .post _ body =>
    (request? (Bytes.ofText body)).elim ⟨⟨0⟩, .ok ⟨400, []⟩⟩
      fun request => reply status (payer.sign request.1 request.2)

theorem sponsors_sponsor {status : UInt16} (hstatus : 200 ≤ status ∧ status < 300)
    (p : RemoteGasPayer) (payer : LocalGasPayer) : Sponsors (sponsor payer status) p payer := by
  constructor
  intro log body encoding sender signature hrequest hsign
  have hreply : sponsor payer status log (.post p.url body) = reply status (.ok signature) := by
    rw [sponsor, hrequest, Option.elim_some, hsign]
  have hanswer := isAnswer_answer signature
  rw [reply] at hreply
  -- The text of the answer is kept from being computed.
  generalize Bytes.ofText (answer signature).render = bytes at hanswer hreply
  exact ⟨⟨0⟩, ⟨status, bytes⟩, hreply, Nat.zero_le _, Response.isSuccess_iff.mpr hstatus, hanswer⟩

end ClauseTx.RemoteGasPayer
