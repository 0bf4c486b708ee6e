import ClauseTx.Proofs.Transaction.Draft
import ClauseTx.Proofs.Transaction.Signing

/-!
# Bodies and transactions that can arise

A body arises from a draft, which starts empty or from another such body, or
it is read from a byte string.  A signed transaction arises from signing such
a body in one of four ways, or it is read.  There is no other way to get one.

All of them are valid: `Body.Reachable.valid` by induction on how the body
arose, and `SignedTransaction.Reachable.valid` from it.
-/

namespace ClauseTx

/-- The bodies that can arise. -/
inductive Body.Reachable : Body → Prop where
  | built {settings : List Setting} {d : Draft} {b : Body}
      (hset : Draft.empty.setAll settings = .ok d) (hbuild : d.build = .ok b) : Reachable b
  | rebuilt {origin : Body} {settings : List Setting} {d : Draft} {b : Body}
      (horigin : Reachable origin) (hset : (Draft.ofBody origin).setAll settings = .ok d)
      (hbuild : d.build = .ok b) : Reachable b
  | decoded {bs : Bytes} {b : Body} (hdecode : Body.decode bs = .ok b) : Reachable b
  | received {bs : Bytes} {t : SignedTransaction}
      (hdecode : SignedTransaction.decode bs = .ok t) : Reachable t.body

theorem Draft.reserved_ofBody (b : Body) : (ofBody b).reserved = b.reserved :=
  reserved_setFee _ b.fee

theorem Body.Reachable.valid {b : Body} (h : b.Reachable) : b.Valid := by
  induction h with
  | built hset hbuild =>
    exact Draft.valid_of_build hbuild (Draft.isTrimmed_setAll hset rfl)
  | rebuilt _ hset hbuild ih =>
    refine Draft.valid_of_build hbuild (Draft.isTrimmed_setAll hset ?_)
    rw [Draft.reserved_ofBody]
    exact ih.reserved_isTrimmed
  | decoded hdecode => exact Body.valid_of_decode hdecode
  | received hdecode => exact (SignedTransaction.valid_of_decode hdecode).body_valid

/-- The signed transactions that can arise.  A gas payer who is asked is any
program that talks to any server. -/
inductive SignedTransaction.Reachable : SignedTransaction → Prop where
  | signed {b : Body} {key : PrivateKey} {t : SignedTransaction} (hbody : b.Reachable)
      (hsign : b.sign key = .ok t) : Reachable t
  | signedTwice {b : Body} {sender payer : PrivateKey} {t : SignedTransaction}
      (hbody : b.Reachable) (hsign : b.signWithGasPayer sender payer = .ok t) : Reachable t
  | completed {b : Body} {sender payer : PrivateKey} {s : SenderSigned} {t : SignedTransaction}
      (hbody : b.Reachable) (hsender : b.signAsSender sender = .ok s)
      (hpayer : s.signAsGasPayer payer = .ok t) : Reachable t
  | requested {b : Body} {sender : PrivateKey} {s : SenderSigned} {p : GasPayer}
      {server : Http.Server} {log log' : List Http.Request} {t : SignedTransaction}
      (hbody : b.Reachable) (hsender : b.signAsSender sender = .ok s)
      (hpayer : (s.request p).run server log = (.ok t, log')) : Reachable t
  | signedWithRequest {b : Body} {sender : PrivateKey} {p : GasPayer}
      {server : Http.Server} {log log' : List Http.Request} {t : SignedTransaction}
      (hbody : b.Reachable)
      (hsign : (b.signWithRequest sender p).run server log = (.ok t, log')) : Reachable t
  | decoded {bs : Bytes} {t : SignedTransaction}
      (hdecode : SignedTransaction.decode bs = .ok t) : Reachable t

namespace SignedTransaction

/-- A body and its signatures are a valid transaction. -/
theorem valid_of_sign {b : Body} {key : PrivateKey} {t : SignedTransaction}
    (hbody : b.Valid) (h : b.sign key = .ok t) : t.Valid := by
  obtain ⟨hdelegated, signature, -, rfl⟩ := Body.sign_eq_ok_iff.mp h
  refine ⟨hbody, ?_⟩
  rw [signature.length_eq, Body.signatureLength_of_not_delegated hdelegated]
  rfl

theorem valid_of_complete {s : SenderSigned} {signature : Ecdsa.Signature}
    {t : SignedTransaction} (hbody : s.body.Valid) (h : s.complete signature = .ok t) :
    t.Valid := by
  obtain ⟨rfl, hlength⟩ := ofParts_eq_ok_iff.mp h
  exact ⟨hbody, hlength⟩

theorem valid_of_signAsGasPayer {s : SenderSigned} {key : PrivateKey} {t : SignedTransaction}
    (hbody : s.body.Valid) (h : s.signAsGasPayer key = .ok t) : t.Valid := by
  obtain ⟨signature, -, h⟩ := bind_eq_ok_iff.mp h
  exact valid_of_complete hbody h

theorem valid_of_request {s : SenderSigned} {p : GasPayer} {server : Http.Server}
    {log log' : List Http.Request} {t : SignedTransaction} (hbody : s.body.Valid)
    (h : (s.request p).run server log = (.ok t, log')) : t.Valid := by
  obtain ⟨signature, log₁, -, h⟩ := Http.Exchange.run_bind_eq_ok_iff.mp h
  exact valid_of_complete hbody (congrArg Prod.fst h)

/-- The first signature keeps the body. -/
theorem body_valid_of_signAsSender {b : Body} {key : PrivateKey} {s : SenderSigned}
    (hbody : b.Valid) (h : b.signAsSender key = .ok s) : s.body.Valid := by
  obtain ⟨-, signature, -, rfl⟩ := Body.signAsSender_eq_ok_iff.mp h
  exact hbody

theorem Reachable.valid {t : SignedTransaction} (h : t.Reachable) : t.Valid := by
  cases h with
  | signed hbody hsign => exact valid_of_sign hbody.valid hsign
  | signedTwice hbody hsign =>
    obtain ⟨s, hsender, hpayer⟩ := Body.signWithGasPayer_eq_ok_iff.mp hsign
    exact valid_of_signAsGasPayer (body_valid_of_signAsSender hbody.valid hsender) hpayer
  | completed hbody hsender hpayer =>
    exact valid_of_signAsGasPayer (body_valid_of_signAsSender hbody.valid hsender) hpayer
  | requested hbody hsender hpayer =>
    exact valid_of_request (body_valid_of_signAsSender hbody.valid hsender) hpayer
  | signedWithRequest hbody hsign =>
    obtain ⟨s, hsender, hpayer⟩ := Body.run_signWithRequest_eq_ok_iff.mp hsign
    exact valid_of_request (body_valid_of_signAsSender hbody.valid hsender) hpayer
  | decoded hdecode => exact valid_of_decode hdecode

end SignedTransaction

end ClauseTx
