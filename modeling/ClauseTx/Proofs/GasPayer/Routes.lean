import ClauseTx.Proofs.GasPayer.Service
import ClauseTx.Proofs.Transaction.Signers

/-!
# Ways to the gas payer

A gas payer signs a digest.  With the key at hand the digest is made from the
body; a gas payer who is asked makes it from the encoding of the body and the
sender, which is the same (`LocalGasPayer.sign_encode`).  So all ways to the
signature of a key end in one transaction, or in one error
(`gas_payer_routes_agree`).
-/

namespace ClauseTx

open Http

/-- A gas payer who is asked signs what he would sign with the body at hand. -/
theorem LocalGasPayer.sign_encode (p : LocalGasPayer) (s : SenderSigned) :
    p.sign s.body.encode s.sender = PrivateKey.signDigest p.key s.delegationHash := rfl

/-- Asking a private key for the second signature is signing with it. -/
theorem SenderSigned.run_request_local (s : SenderSigned) (p : LocalGasPayer) (server : Server)
    (log : List Request) :
    (s.request p.gasPayer).run server log = (s.signAsGasPayer p.key, log) := by
  have hrequest : s.request p.gasPayer =
      (liftM (p.sign s.body.encode s.sender) : Exchange _) >>= fun signature =>
        liftM (s.complete signature) := rfl
  rw [signAsGasPayer, ← p.sign_encode, hrequest]
  exact Exchange.run_lift_bind fun signature => Exchange.run_lift _

theorem Body.run_signWithRequest_local (b : Body) (sender payer : PrivateKey) (server : Server)
    (log : List Request) :
    (b.signWithRequest sender (LocalGasPayer.gasPayer ⟨payer⟩)).run server log =
      (b.signWithGasPayer sender payer, log) :=
  Exchange.run_lift_bind fun s => s.run_request_local ⟨payer⟩ server log

/-- Asking a service that has a private key is signing with that key. -/
theorem Body.run_signWithRequest_remote {b : Body} {sender payer : PrivateKey}
    {t : SignedTransaction} {server : Server} {p : RemoteGasPayer}
    (hsponsors : p.Sponsors server ⟨payer⟩) (hsign : b.signWithGasPayer sender payer = .ok t)
    (log : List Request) :
    (b.signWithRequest sender p.gasPayer).run server log = (.ok t, log ++
      [.post p.url (RemoteGasPayer.requestBody b.encode (.ofPrivateKey sender)).render]) := by
  obtain ⟨s, hsender, hpayer⟩ := signWithGasPayer_eq_ok_iff.mp hsign
  obtain ⟨hdelegated, first, -, hs⟩ := signAsSender_eq_ok_iff.mp hsender
  subst hs
  obtain ⟨signature, hsignature, ht⟩ :=
    (SenderSigned.signAsGasPayer_eq_ok_iff hdelegated).mp hpayer
  rw [← LocalGasPayer.sign_encode ⟨payer⟩] at hsignature
  refine run_signWithRequest_eq_ok_iff.mpr ⟨_, hsender, ?_⟩
  exact (SenderSigned.run_request_eq_ok_iff hdelegated).mpr
    ⟨signature, hsponsors.run_sign hsignature log, ht⟩

/-- The second signature is the same in whatever way it is asked for: from the
body at once or after the first signature, or from the encoding that a private
key or a service gets.  A service gets the encoding of the body and the sender
in one request, and the encoding is read back as the body as long as its
length can be written. -/
theorem gas_payer_routes_agree (b : Body) (sender payer : PrivateKey) :
    (b.signAsSender sender >>= fun s => s.signAsGasPayer payer) =
        b.signWithGasPayer sender payer ∧
      (∀ (server : Server) (log : List Request),
        (b.signWithRequest sender (LocalGasPayer.gasPayer ⟨payer⟩)).run server log =
          (b.signWithGasPayer sender payer, log)) ∧
      (∀ (p : RemoteGasPayer) (server : Server) (log : List Request) (t : SignedTransaction),
        p.Sponsors server ⟨payer⟩ → b.signWithGasPayer sender payer = .ok t →
          ∃ request, (b.signWithRequest sender p.gasPayer).run server log =
              (.ok t, log ++ [.post p.url request]) ∧
            RemoteGasPayer.request? (Bytes.ofText request) =
              some (b.encode, .ofPrivateKey sender)) ∧
      (b.Reachable → b.encode.length < UInt32.size → Body.decode b.encode = .ok b.plain) := by
  refine ⟨rfl, b.run_signWithRequest_local sender payer, ?_, ?_⟩
  · intro p server log t hsponsors hsign
    exact ⟨_, Body.run_signWithRequest_remote hsponsors hsign log,
      RemoteGasPayer.request?_requestBody _ _⟩
  · intro hreachable hlen
    exact Body.decode_encode hreachable.valid hlen

/-- A service that answers with status 201. -/
theorem gas_payer_routes_agree_delegated :
    RemoteGasPayer.Sponsors (RemoteGasPayer.sponsor ⟨twoKey⟩ 201) ⟨"sponsor", ⟨0⟩⟩ ⟨twoKey⟩ ∧
      delegatedBody.Reachable ∧ delegatedBody.encode.length < UInt32.size ∧
      ∃ t request, delegatedBody.signWithGasPayer oneKey twoKey = .ok t ∧
        (delegatedBody.signWithRequest oneKey (RemoteGasPayer.gasPayer ⟨"sponsor", ⟨0⟩⟩)).run
          (RemoteGasPayer.sponsor ⟨twoKey⟩ 201) [] = (.ok t, [.post "sponsor" request]) ∧
        RemoteGasPayer.request? (Bytes.ofText request) =
          some (delegatedBody.encode, .ofPrivateKey oneKey) ∧
        Body.decode delegatedBody.encode = .ok delegatedBody.plain := by
  have hlen : delegatedBody.encode.length < UInt32.size := by decide
  have hstatus : 200 ≤ (201 : UInt16) ∧ (201 : UInt16) < 300 := by decide
  have hsponsors := RemoteGasPayer.sponsors_sponsor hstatus ⟨"sponsor", ⟨0⟩⟩ ⟨twoKey⟩
  obtain ⟨t, hsign, -⟩ := exists_signed_delegatedBody
  obtain ⟨-, -, hremote, hdecode⟩ := gas_payer_routes_agree delegatedBody oneKey twoKey
  obtain ⟨request, hrun, hrequest⟩ := hremote _ _ [] t hsponsors hsign
  exact ⟨hsponsors, delegatedBody_reachable, hlen, t, request, hsign, hrun, hrequest,
    hdecode delegatedBody_reachable hlen⟩

end ClauseTx
