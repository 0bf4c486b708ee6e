import ClauseTx.Http.Script
import ClauseTx.Proofs.Transaction.Signers

/-!
# The parts of a signature

The signature of a transaction is cut at a fixed place without a look at its
length.  That is safe because every transaction that can arise has the
signature that its lowest feature flag asks for: `Splits` is what the length
gives, and `Valid.splits` is the only step that looks at it.

A sender's signature that waits for a gas payer is completed by any 65 bytes
(`SenderSigned.exists_completes`), wherever they come from.
-/

namespace ClauseTx

/-- A gas payer is asked for by the lowest flag. -/
theorem Reserved.isDelegated_eq_testBit (r : Reserved) :
    r.isDelegated = r.features.toNat.testBit 0 := by
  rw [isDelegated, Nat.testBit_zero, decide_eq_decide, ← UInt32.toNat_inj, UInt32.toNat_and]
  exact Eq.congr_left (Nat.and_one_is_mod r.features.toNat)

namespace SignedTransaction

/-- The signature falls into that of the sender and, if one is asked for, that
of the gas payer. -/
structure Splits (t : SignedTransaction) : Prop where
  length_eq : t.signature.length = if t.body.reserved.features.toNat.testBit 0 then 130 else 65
  /-- The place of the cut lies within the signature. -/
  cut_le : Ecdsa.signatureLength ≤ t.signature.length
  length_sender : t.senderSignature.length = 65
  isSome_gasPayer : t.gasPayerSignature.isSome = true ↔ t.isDelegated = true
  length_gasPayer : ∀ signature, t.gasPayerSignature = some signature → signature.length = 65
  append_eq : t.senderSignature ++ t.gasPayerSignature.getD [] = t.signature

/-- The length that the body asks for is all that it takes. -/
theorem Valid.splits {t : SignedTransaction} (h : t.Valid) : t.Splits := by
  have hflag : t.isDelegated = t.body.reserved.features.toNat.testBit 0 :=
    t.body.reserved.isDelegated_eq_testBit
  have hlength := h.length_signature
  cases hdelegated : t.isDelegated with
  | false =>
    rw [Body.signatureLength_of_not_delegated hdelegated] at hlength
    have hnone : t.gasPayerSignature = none := if_neg (by simp [hdelegated])
    have hall : t.senderSignature = t.signature := List.take_of_length_le hlength.le
    rw [hdelegated] at hflag
    exact {
      length_eq := by rw [← hflag, hlength]; rfl
      cut_le := hlength.ge
      length_sender := by rw [hall, hlength]; rfl
      isSome_gasPayer := by simp [hnone, hdelegated]
      length_gasPayer := by simp [hnone]
      append_eq := by simp [hnone, hall] }
  | true =>
    rw [Body.signatureLength_of_delegated hdelegated] at hlength
    have hsome : t.gasPayerSignature = some (t.signature.drop Ecdsa.signatureLength) :=
      if_pos hdelegated
    rw [hdelegated] at hflag
    exact {
      length_eq := by rw [← hflag, hlength]; rfl
      cut_le := by omega
      length_sender := by
        rw [senderSignature, List.length_take, hlength]
        rfl
      isSome_gasPayer := by simp [hsome, hdelegated]
      length_gasPayer := by
        intro signature hsignature
        rw [hsome] at hsignature
        rw [← Option.some.inj hsignature, List.length_drop, hlength]
        rfl
      append_eq := by
        rw [hsome, senderSignature]
        exact List.take_append_drop _ _ }

end SignedTransaction

namespace SenderSigned

/-- A transaction is what the sender signed, with a signature of the gas payer
behind that of the sender. -/
structure Completes (s : SenderSigned) (signature : Ecdsa.Signature) (t : SignedTransaction) :
    Prop where
  body_eq : t.body = s.body
  senderSignature_eq : t.senderSignature = s.senderSignature.bytes
  gasPayerSignature_eq : t.gasPayerSignature = some signature.bytes

/-- Any signature completes what the sender signed, from a key or from a gas
payer who is asked. -/
theorem exists_completes {s : SenderSigned} (h : s.body.isDelegated = true)
    (signature : Ecdsa.Signature) :
    ∃ t, s.complete signature = .ok t ∧ s.Completes signature t ∧
      (∀ payer, PrivateKey.signDigest payer s.delegationHash = .ok signature →
        s.signAsGasPayer payer = .ok t) ∧
      ∀ (p : GasPayer) (server : Http.Server) (log log' : List Http.Request),
        (p.sign s.body.encode s.sender).run server log = (.ok signature, log') →
          (s.request p).run server log = (.ok t, log') := by
  refine ⟨_, complete_eq_ok h signature, ?_, ?_, ?_⟩
  · exact ⟨rfl, SignedTransaction.senderSignature_append _ _ _,
      SignedTransaction.gasPayerSignature_append h _ _⟩
  · intro payer hsign
    exact (signAsGasPayer_eq_ok_iff h).mpr ⟨signature, hsign, rfl⟩
  · intro p server log log' hrun
    exact (run_request_eq_ok_iff h).mpr ⟨signature, hrun, rfl⟩

end SenderSigned

/-- Every transaction that can arise has a signature that falls into its parts.
What a sender has signed is completed by any signature of a gas payer, and then
keeps its body and the sender's signature in front. -/
theorem signature_splits :
    (∀ t : SignedTransaction, t.Reachable → t.Splits) ∧
    ∀ (b : Body) (sender : PrivateKey) (s : SenderSigned), b.signAsSender sender = .ok s →
      s.body = b ∧ ∀ signature : Ecdsa.Signature,
        ∃ t, s.complete signature = .ok t ∧ s.Completes signature t ∧
          (∀ payer, PrivateKey.signDigest payer s.delegationHash = .ok signature →
            s.signAsGasPayer payer = .ok t) ∧
          ∀ (p : GasPayer) (server : Http.Server) (log log' : List Http.Request),
            (p.sign s.body.encode s.sender).run server log = (.ok signature, log') →
              (s.request p).run server log = (.ok t, log') := by
  constructor
  · intro t ht
    exact ht.valid.splits
  · intro b sender s hsender
    obtain ⟨hdelegated, signature, -, rfl⟩ := Body.signAsSender_eq_ok_iff.mp hsender
    exact ⟨rfl, SenderSigned.exists_completes hdelegated⟩

/-- A gas payer who answers with 65 zero bytes, which nobody signed. -/
theorem signature_splits_unsigned :
    ∃ s t, delegatedBody.signAsSender oneKey = .ok s ∧
      (s.request ⟨fun _ _ => .done (.ok (Blob.zero 65))⟩).run (Http.Script.server []) [] =
        (.ok t, []) ∧
      t.Reachable ∧ t.Splits ∧ s.Completes (Blob.zero 65) t := by
  obtain ⟨signed, hboth, -⟩ := exists_signed_delegatedBody
  obtain ⟨s, hsender, -⟩ := Body.signWithGasPayer_eq_ok_iff.mp hboth
  obtain ⟨-, hcompletes⟩ := signature_splits.2 delegatedBody oneKey s hsender
  obtain ⟨t, -, hparts, -, hrequest⟩ := hcompletes (Blob.zero 65)
  have hrun := hrequest ⟨fun _ _ => .done (.ok (Blob.zero 65))⟩ (Http.Script.server []) [] [] rfl
  have hreachable : t.Reachable := .requested delegatedBody_reachable hsender hrun
  exact ⟨s, t, hsender, hrun, hreachable, signature_splits.1 t hreachable, hparts⟩

end ClauseTx
