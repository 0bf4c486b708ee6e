import ClauseTx.Proofs.Ecdsa.Verification
import ClauseTx.Proofs.Transaction.Signers

/-!
# What verification accepts

A transaction keeps no addresses, so verification recovers the signers and
compares.  A signature can also be checked with a public key at hand.
`Address.Signed` says that an account has a public key that passes this check,
and recovery finds exactly such accounts (`signer_eq_ok_iff`).

So verification accepts a sender and a gas payer exactly if they signed
(`verify_iff_signed`).  The digest of the gas payer is made with the sender
that was recovered.  Once verification has passed the sender, this is the
sender that was expected.
-/

namespace ClauseTx

/-- Whether an account signed a digest: one of its public keys accepts the
signature. -/
def Address.Signed (a : Address) (digest : Hash.Digest) (signature : Bytes) : Prop :=
  ∃ publicKey, Address.ofPublicKey publicKey = .ok a ∧
    Ecdsa.verify secp256k1 digest.bytes signature publicKey = .ok true

theorem Address.ofPublicKey_eq_ok_iff {publicKey : Bytes} {a : Address} :
    ofPublicKey publicKey = .ok a ↔
      ∃ full, Ecdsa.inflate secp256k1 publicKey = .ok full ∧ ofUncompressed full = a := by
  rw [ofPublicKey]
  cases Ecdsa.inflate secp256k1 publicKey <;> simp

namespace SignedTransaction

/-! ## Recovered signers -/

/-- The signer of a digest is the account that signed it. -/
theorem signer_eq_ok_iff {digest : Hash.Digest} {signature : Bytes} {a : Address} :
    signer digest signature = .ok a ↔ a.Signed digest signature := by
  obtain ⟨G, hG⟩ := exists_isGenerator_secp256k1
  rw [signer, bind_eq_ok_iff, Address.Signed]
  constructor
  · intro h
    obtain ⟨publicKey, hrecover, haddress⟩ := h
    rw [mapError_eq_ok_iff] at hrecover
    have hinflate := Ecdsa.inflate_of_recover hG secp256k1_regular hrecover
    exact ⟨publicKey, haddress, (Ecdsa.verify_eq_true_iff_recover hG secp256k1_regular).mpr
      ⟨publicKey, hrecover, hinflate⟩⟩
  · intro h
    obtain ⟨publicKey, haddress, hverify⟩ := h
    obtain ⟨full, hrecover, hinflate⟩ :=
      (Ecdsa.verify_eq_true_iff_recover hG secp256k1_regular).mp hverify
    obtain ⟨full', hinflate', hfull⟩ := Address.ofPublicKey_eq_ok_iff.mp haddress
    obtain rfl : full = full' := Except.ok.inj (hinflate.symm.trans hinflate')
    refine ⟨full, mapError_eq_ok_iff.mpr hrecover, Address.ofPublicKey_eq_ok_iff.mpr ?_⟩
    exact ⟨full, Ecdsa.inflate_of_recover hG secp256k1_regular hrecover, hfull⟩

/-- That nobody was asked to pay is never found out by recovery. -/
theorem signer_ne_notDelegated (digest : Hash.Digest) (signature : Bytes) :
    signer digest signature ≠ .error .notDelegated := by
  have hfault : ∀ e : Ecdsa.Error, Error.ofEcdsa e ≠ .notDelegated := by
    intro e
    cases e <;> exact Error.noConfusion
  intro h
  rw [signer] at h
  cases hrecover : Ecdsa.recover secp256k1 digest.bytes signature with
  | error e =>
    rw [hrecover] at h
    exact hfault e (Except.error.inj h)
  | ok publicKey =>
    rw [hrecover] at h
    change Address.ofPublicKey publicKey = _ at h
    rw [Address.ofPublicKey] at h
    split at h
    · cases h
    · exact hfault _ (Except.error.inj h)

theorem gasPayer_of_delegated {t : SignedTransaction} {sender : Address}
    (hdelegated : t.isDelegated = true) (horigin : t.origin = .ok sender) :
    t.gasPayer = signer (t.body.delegationHash sender)
      (t.signature.drop Ecdsa.signatureLength) := by
  rw [gasPayer, gasPayerSignature, if_pos hdelegated, horigin]
  rfl

/-! ## Verification -/

/-- What is accepted is what is recovered.  Without a gas payer there is none to
recover. -/
theorem verify_iff_recovered {t : SignedTransaction} {expected : Address}
    {expectedPayer : Option Address} :
    t.verify expected expectedPayer = .ok () ↔
      t.origin = .ok expected ∧ t.gasPayer = expectedPayer.elim (.error .notDelegated) .ok := by
  rw [verify_eq_ok_iff, and_congr_right_iff]
  intro horigin
  cases hdelegated : t.isDelegated with
  | false =>
    rw [gasPayer_of_not_delegated hdelegated]
    cases expectedPayer <;> simp
  | true =>
    have hne := signer_ne_notDelegated (t.body.delegationHash expected)
      (t.signature.drop Ecdsa.signatureLength)
    rw [← gasPayer_of_delegated hdelegated horigin] at hne
    cases expectedPayer with
    | none => simp [hne]
    | some payer => simp

/-- A transaction is accepted exactly for a sender who signed it and, if it asks
for a gas payer, for one who signed it for this sender.  No other pair is
accepted than the one that is recovered. -/
theorem verify_iff_signed :
    (∀ (t : SignedTransaction) (sender : Address) (payer : Option Address),
      t.verify sender payer = .ok () ↔
        sender.Signed t.body.signingHash t.senderSignature ∧
          ((t.isDelegated = false ∧ payer = none) ∨
            ∃ p signature, t.isDelegated = true ∧ payer = some p ∧
              t.gasPayerSignature = some signature ∧
              p.Signed (Hash.keccak256 (t.body.signingHash.bytes ++ sender.bytes)) signature)) ∧
    (∀ (t : SignedTransaction) (sender : Address) (payer : Option Address),
      t.verify sender payer = .ok () ↔
        t.origin = .ok sender ∧ t.gasPayer = payer.elim (.error .notDelegated) .ok) ∧
    ∀ (t : SignedTransaction) (sender₁ sender₂ : Address) (payer₁ payer₂ : Option Address),
      t.verify sender₁ payer₁ = .ok () → t.verify sender₂ payer₂ = .ok () →
        sender₁ = sender₂ ∧ payer₁ = payer₂ := by
  refine ⟨?_, fun t sender payer => verify_iff_recovered, ?_⟩
  · intro t sender payer
    rw [verify_eq_ok_iff, origin, signer_eq_ok_iff, and_congr_right_iff]
    intro hsender
    have horigin : t.origin = .ok sender := signer_eq_ok_iff.mpr hsender
    refine or_congr_right ⟨?_, ?_⟩
    · intro h
      obtain ⟨p, hdelegated, hpayer, hgasPayer⟩ := h
      rw [gasPayer_of_delegated hdelegated horigin, signer_eq_ok_iff] at hgasPayer
      exact ⟨p, _, hdelegated, hpayer, if_pos hdelegated, hgasPayer⟩
    · intro h
      obtain ⟨p, signature, hdelegated, hpayer, hsignature, hsigned⟩ := h
      rw [gasPayerSignature, if_pos hdelegated, Option.some.injEq] at hsignature
      refine ⟨p, hdelegated, hpayer, ?_⟩
      rw [gasPayer_of_delegated hdelegated horigin, signer_eq_ok_iff, hsignature]
      exact hsigned
  · intro t sender₁ sender₂ payer₁ payer₂ h₁ h₂
    obtain ⟨horigin₁, hpayer₁⟩ := verify_iff_recovered.mp h₁
    obtain ⟨horigin₂, hpayer₂⟩ := verify_iff_recovered.mp h₂
    rw [horigin₁] at horigin₂
    rw [hpayer₁] at hpayer₂
    refine ⟨Except.ok.inj horigin₂, ?_⟩
    cases payer₁ <;> cases payer₂ <;> simp_all

/-- A transaction of two signers is accepted for them and for nobody else. -/
theorem verify_iff_signed_delegated :
    ∃ t, delegatedBody.signWithGasPayer oneKey twoKey = .ok t ∧
      t.verify (.ofPrivateKey oneKey) (some (.ofPrivateKey twoKey)) = .ok () ∧
      ∀ sender payer, t.verify sender payer = .ok () →
        sender = .ofPrivateKey oneKey ∧ payer = some (.ofPrivateKey twoKey) := by
  obtain ⟨t, hsign, -, horigin, hgasPayer⟩ := exists_signed_delegatedBody
  have haccepted := (verify_iff_signed.2.1 t _ (some (.ofPrivateKey twoKey))).mpr
    ⟨horigin, hgasPayer⟩
  refine ⟨t, hsign, haccepted, ?_⟩
  intro sender payer h
  exact verify_iff_signed.2.2 t _ _ _ _ h haccepted

end SignedTransaction

end ClauseTx
