import ClauseTx.GasPayer.Basic
import ClauseTx.Proofs.Http.Exchange
import ClauseTx.Proofs.Transaction.Wire

/-!
# Signing

Each way of signing a body succeeds exactly if the body asks for it and the
keys sign their digests, and its result is then the body with the signatures
one after another.  Signatures have 65 bytes by their type, so putting them
together cannot fail (`SenderSigned.complete_eq_ok`).

A gas payer who is asked over an exchange may answer with any 65 bytes.
-/

namespace ClauseTx

/-! ## The length of a signature -/

theorem Body.signatureLength_of_not_delegated {b : Body} (h : b.isDelegated = false) :
    b.signatureLength = Ecdsa.signatureLength := by
  rw [signatureLength, h]
  rfl

theorem Body.signatureLength_of_delegated {b : Body} (h : b.isDelegated = true) :
    b.signatureLength = Ecdsa.signatureLength + Ecdsa.signatureLength := by
  rw [signatureLength, h]
  rfl

/-! ## One signature -/

/-- A body that asks for no gas payer is signed if its digest is. -/
theorem Body.sign_eq_ok_iff {b : Body} {key : PrivateKey} {t : SignedTransaction} :
    b.sign key = .ok t ↔
      b.isDelegated = false ∧
        ∃ signature, PrivateKey.signDigest key b.signingHash = .ok signature ∧
          t = ⟨b, signature.bytes⟩ := by
  rw [sign]
  cases hdelegated : b.isDelegated with
  | true => simp
  | false =>
    have hlength := signatureLength_of_not_delegated hdelegated
    simp only [Bool.false_eq_true, if_false, bind_eq_ok_iff, true_and,
      SignedTransaction.ofParts_eq_ok_iff]
    constructor
    · intro h
      obtain ⟨signature, hsign, ht, -⟩ := h
      exact ⟨signature, hsign, ht⟩
    · intro h
      obtain ⟨signature, hsign, ht⟩ := h
      exact ⟨signature, hsign, ht, by rw [signature.length_eq, hlength]; rfl⟩

/-! ## Two signatures -/

/-- A body that asks for a gas payer gets its first signature. -/
theorem Body.signAsSender_eq_ok_iff {b : Body} {key : PrivateKey} {s : SenderSigned} :
    b.signAsSender key = .ok s ↔
      b.isDelegated = true ∧
        ∃ signature, PrivateKey.signDigest key b.signingHash = .ok signature ∧
          s = ⟨b, .ofPrivateKey key, signature⟩ := by
  rw [signAsSender]
  cases hdelegated : b.isDelegated with
  | false => simp
  | true =>
    simp only [Bool.not_true, Bool.false_eq_true, if_false, bind_eq_ok_iff, pure_eq_ok_iff,
      true_and]
    simp only [eq_comm]

namespace SenderSigned

/-- With a signature of the gas payer nothing is missing. -/
theorem complete_eq_ok {s : SenderSigned} (h : s.body.isDelegated = true)
    (signature : Ecdsa.Signature) :
    s.complete signature = .ok ⟨s.body, s.senderSignature.bytes ++ signature.bytes⟩ := by
  refine SignedTransaction.ofParts_eq_ok_iff.mpr ⟨rfl, ?_⟩
  rw [List.length_append, s.senderSignature.length_eq, signature.length_eq,
    Body.signatureLength_of_delegated h]
  rfl

theorem complete_eq_ok_iff {s : SenderSigned} {signature : Ecdsa.Signature}
    {t : SignedTransaction} (h : s.body.isDelegated = true) :
    s.complete signature = .ok t ↔
      t = ⟨s.body, s.senderSignature.bytes ++ signature.bytes⟩ := by
  rw [complete_eq_ok h]
  simp [eq_comm]

theorem signAsGasPayer_eq_ok_iff {s : SenderSigned} {key : PrivateKey} {t : SignedTransaction}
    (h : s.body.isDelegated = true) :
    s.signAsGasPayer key = .ok t ↔
      ∃ signature, PrivateKey.signDigest key s.delegationHash = .ok signature ∧
        t = ⟨s.body, s.senderSignature.bytes ++ signature.bytes⟩ := by
  simp only [signAsGasPayer, bind_eq_ok_iff, complete_eq_ok_iff h]

/-- A gas payer who answers with a signature completes the transaction. -/
theorem run_request_eq_ok_iff {s : SenderSigned} {p : GasPayer} {server : Http.Server}
    {log log' : List Http.Request} {t : SignedTransaction} (h : s.body.isDelegated = true) :
    (s.request p).run server log = (.ok t, log') ↔
      ∃ signature, (p.sign s.body.encode s.sender).run server log = (.ok signature, log') ∧
        t = ⟨s.body, s.senderSignature.bytes ++ signature.bytes⟩ := by
  rw [request, Http.Exchange.run_bind_eq_ok_iff]
  constructor
  · intro hrun
    obtain ⟨signature, log₁, hsign, hcomplete⟩ := hrun
    have ht : s.complete signature = .ok t := congrArg Prod.fst hcomplete
    have hlog : log₁ = log' := congrArg Prod.snd hcomplete
    exact ⟨signature, by rw [hsign, hlog], (complete_eq_ok_iff h).mp ht⟩
  · intro hrun
    obtain ⟨signature, hsign, ht⟩ := hrun
    exact ⟨signature, log', hsign, Prod.ext ((complete_eq_ok_iff h).mpr ht) rfl⟩

end SenderSigned

/-- Both signatures at once are one after the other. -/
theorem Body.signWithGasPayer_eq_ok_iff {b : Body} {sender payer : PrivateKey}
    {t : SignedTransaction} :
    b.signWithGasPayer sender payer = .ok t ↔
      ∃ s, b.signAsSender sender = .ok s ∧ s.signAsGasPayer payer = .ok t := by
  rw [signWithGasPayer, bind_eq_ok_iff]

theorem Body.run_signWithRequest_eq_ok_iff {b : Body} {sender : PrivateKey} {p : GasPayer}
    {server : Http.Server} {log log' : List Http.Request} {t : SignedTransaction} :
    (b.signWithRequest sender p).run server log = (.ok t, log') ↔
      ∃ s, b.signAsSender sender = .ok s ∧ (s.request p).run server log = (.ok t, log') := by
  rw [signWithRequest]
  exact Http.Exchange.run_lift_bind_eq_ok_iff

end ClauseTx
