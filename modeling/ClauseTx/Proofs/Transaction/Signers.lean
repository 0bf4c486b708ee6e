import ClauseTx.Proofs.Ecdsa.Recovery
import ClauseTx.Proofs.Transaction.RoundTrip

/-!
# Who signed a transaction

A signature leads back to the key that made it, as long as its last byte is a
parity.  Whether it is one hangs on the digest, so it is a condition here
(`PrivateKey.signsWithParity`), and the only one.

The rest is about transactions: the signatures are cut out where they were put
in, each with the digest that it is for, and the second digest is made from
the sender that the first one gives.  So the sender and the gas payer come out
as the accounts of the keys, before and after the transaction is sent
(`signing_end_to_end`).
-/

namespace ClauseTx

/-! ## Signatures of digests -/

/-- Whether a key signs a digest, with a parity as the last byte. -/
def PrivateKey.signsWithParity (key : PrivateKey) (digest : Hash.Digest) : Bool :=
  match Ecdsa.PrivateKey.sign key digest.bytes with
  | .ok signature => (signature.bytes.getD Ecdsa.compactLength 0).toNat ≤ 1
  | .error _ => false

namespace PrivateKey

theorem signsWithParity_iff {key : PrivateKey} {digest : Hash.Digest} :
    PrivateKey.signsWithParity key digest = true ↔
      ∃ signature, Ecdsa.PrivateKey.sign key digest.bytes = .ok signature ∧
        (signature.bytes.getD Ecdsa.compactLength 0).toNat ≤ 1 := by
  rw [signsWithParity]
  cases Ecdsa.PrivateKey.sign key digest.bytes with
  | ok signature => simp
  | error _ => simp

/-- Whether a key signs with a parity is seen from the nonce and its point. -/
theorem signsWithParity_of_mul {key : PrivateKey} {digest : Hash.Digest} {k x y : Nat}
    (hnonce : Ecdsa.Nonce.nonce? secp256k1Parameters.order key.bytes.bytes digest.bytes = some k)
    (hpoint : secp256k1Parameters.mul k secp256k1Parameters.generator = .affine x y)
    (hx : x < secp256k1Parameters.order) (hr : x ≠ 0)
    (hs : Curve.inverse secp256k1Parameters.order k *
      ((digest.bytes.toNat % secp256k1Parameters.order + x * key.scalar) %
        secp256k1Parameters.order) % secp256k1Parameters.order ≠ 0) :
    PrivateKey.signsWithParity key digest = true := by
  obtain ⟨G, hG⟩ := exists_isGenerator_secp256k1
  exact signsWithParity_iff.mpr
    (Ecdsa.exists_sign_of_mul hG digest.length_eq hnonce hpoint hx hr hs)

end PrivateKey

namespace SignedTransaction

/-- The signer of such a digest is the account of the key. -/
theorem exists_signature {key : PrivateKey} {digest : Hash.Digest}
    (h : PrivateKey.signsWithParity key digest = true) :
    ∃ signature : Ecdsa.Signature, PrivateKey.signDigest key digest = .ok signature ∧
      signer digest signature.bytes = .ok (.ofPrivateKey key) := by
  obtain ⟨signature, hsign, hparity⟩ := PrivateKey.signsWithParity_iff.mp h
  obtain ⟨G, hG⟩ := exists_isGenerator_secp256k1
  have hrecover := Ecdsa.recover_of_sign hG (by decide) (by decide) hsign hparity
  refine ⟨signature, mapError_eq_ok_iff.mpr hsign, ?_⟩
  refine bind_eq_ok_iff.mpr ⟨_, mapError_eq_ok_iff.mpr hrecover, ?_⟩
  exact Address.ofPublicKey_publicKey key

/-! ## Where the signatures are -/

theorem senderSignature_single (b : Body) (signature : Ecdsa.Signature) :
    senderSignature ⟨b, signature.bytes⟩ = signature.bytes :=
  List.take_of_length_le (by rw [signature.length_eq]; decide)

theorem senderSignature_append (b : Body) (first second : Ecdsa.Signature) :
    senderSignature ⟨b, first.bytes ++ second.bytes⟩ = first.bytes :=
  List.take_left' first.length_eq

theorem gasPayerSignature_append {b : Body} (h : b.isDelegated = true)
    (first second : Ecdsa.Signature) :
    gasPayerSignature ⟨b, first.bytes ++ second.bytes⟩ = some second.bytes := by
  rw [gasPayerSignature, isDelegated, if_pos h]
  exact congrArg some (List.drop_left' first.length_eq)

theorem gasPayer_of_not_delegated {t : SignedTransaction} (h : t.isDelegated = false) :
    t.gasPayer = .error .notDelegated := by
  rw [gasPayer, gasPayerSignature, h]
  rfl

/-! ## Remarks do not matter -/

theorem origin_plain (t : SignedTransaction) : t.plain.origin = t.origin := by
  rw [origin, Body.signingHash, plain_body, Body.encode_plain]
  rfl

theorem gasPayer_plain (t : SignedTransaction) : t.plain.gasPayer = t.gasPayer := by
  rw [gasPayer, origin_plain]
  simp only [Body.delegationHash, Body.signingHash, plain_body, Body.encode_plain]
  rfl

/-! ## Verification -/

/-- A transaction is accepted exactly for its sender, and for its gas payer if
it asks for one. -/
theorem verify_eq_ok_iff {t : SignedTransaction} {expected : Address}
    {expectedPayer : Option Address} :
    t.verify expected expectedPayer = .ok () ↔
      t.origin = .ok expected ∧
        ((t.isDelegated = false ∧ expectedPayer = none) ∨
          ∃ payer, t.isDelegated = true ∧ expectedPayer = some payer ∧ t.gasPayer = .ok payer) := by
  unfold verify
  rw [bind_eq_ok_iff]
  constructor
  · intro h
    obtain ⟨sender, horigin, h⟩ := h
    split at h
    · cases h
    rename_i hsender
    refine ⟨by rw [horigin, not_not.mp hsender], ?_⟩
    split at h
    · rename_i hdelegated
      exact Or.inl ⟨hdelegated, rfl⟩
    · cases h
    · cases h
    · rename_i payer hdelegated
      obtain ⟨gasPayer, hgasPayer, h⟩ := bind_eq_ok_iff.mp h
      split at h
      · cases h
      · rename_i hpayer
        refine Or.inr ⟨payer, hdelegated, rfl, ?_⟩
        rw [hgasPayer, not_not.mp hpayer]
  · intro h
    obtain ⟨horigin, h⟩ := h
    refine ⟨expected, horigin, ?_⟩
    rcases h with ⟨hdelegated, hnone⟩ | ⟨payer, hdelegated, hsome, hpayer⟩
    · rw [hdelegated, hnone]
      simp
    · rw [hdelegated, hsome, hpayer]
      simp [bind, Except.bind]

end SignedTransaction

/-! ## From the keys to the signers -/

namespace Body

/-- A signed body leads back to its sender. -/
theorem exists_signed {b : Body} {key : PrivateKey} (hdelegated : b.isDelegated = false)
    (hkey : PrivateKey.signsWithParity key b.signingHash = true) :
    ∃ t, b.sign key = .ok t ∧ t.isDelegated = false ∧ t.origin = .ok (.ofPrivateKey key) := by
  obtain ⟨signature, hsign, hsigner⟩ := SignedTransaction.exists_signature hkey
  refine ⟨⟨b, signature.bytes⟩, sign_eq_ok_iff.mpr ⟨hdelegated, signature, hsign, rfl⟩,
    hdelegated, ?_⟩
  rw [SignedTransaction.origin, SignedTransaction.senderSignature_single]
  exact hsigner

/-- A body that is signed twice leads back to its sender and its gas payer. -/
theorem exists_signed_twice {b : Body} {sender payer : PrivateKey}
    (hdelegated : b.isDelegated = true)
    (hsender : PrivateKey.signsWithParity sender b.signingHash = true)
    (hpayer : PrivateKey.signsWithParity payer (b.delegationHash (.ofPrivateKey sender)) = true) :
    ∃ t, b.signWithGasPayer sender payer = .ok t ∧ t.isDelegated = true ∧
      t.origin = .ok (.ofPrivateKey sender) ∧ t.gasPayer = .ok (.ofPrivateKey payer) := by
  obtain ⟨first, hfirst, hfirstSigner⟩ := SignedTransaction.exists_signature hsender
  obtain ⟨second, hsecond, hsecondSigner⟩ := SignedTransaction.exists_signature hpayer
  have hsigned : b.signAsSender sender = .ok ⟨b, .ofPrivateKey sender, first⟩ :=
    signAsSender_eq_ok_iff.mpr ⟨hdelegated, first, hfirst, rfl⟩
  have horigin : SignedTransaction.origin ⟨b, first.bytes ++ second.bytes⟩ =
      .ok (.ofPrivateKey sender) := by
    rw [SignedTransaction.origin, SignedTransaction.senderSignature_append]
    exact hfirstSigner
  refine ⟨⟨b, first.bytes ++ second.bytes⟩, ?_, hdelegated, horigin, ?_⟩
  · refine signWithGasPayer_eq_ok_iff.mpr ⟨_, hsigned, ?_⟩
    exact (SenderSigned.signAsGasPayer_eq_ok_iff hdelegated).mpr ⟨second, hsecond, rfl⟩
  · rw [SignedTransaction.gasPayer, SignedTransaction.gasPayerSignature_append hdelegated]
    exact bind_eq_ok_iff.mpr ⟨_, horigin, hsecondSigner⟩

theorem sign_of_delegated {b : Body} (h : b.isDelegated = true) (key : PrivateKey) :
    b.sign key = .error (.illegalArgument .needsGasPayer) := by
  rw [sign, h]
  rfl

theorem signAsSender_of_not_delegated {b : Body} (h : b.isDelegated = false) (key : PrivateKey) :
    b.signAsSender key = .error .notDelegated := by
  rw [signAsSender, h]
  rfl

end Body

/-- What is signed is read back as it was, and its signers are the accounts of
the keys that signed it and no others.  A body is signed in the way that it
asks for, or not at all. -/
theorem signing_end_to_end :
    (∀ (b : Body) (key : PrivateKey), b.Reachable → b.isDelegated = false →
      PrivateKey.signsWithParity key b.signingHash = true →
      ∃ t, b.sign key = .ok t ∧
        (t.encode.length < UInt32.size → SignedTransaction.decode t.encode = .ok t.plain) ∧
        t.plain.origin = .ok (.ofPrivateKey key) ∧ t.origin = .ok (.ofPrivateKey key) ∧
        t.gasPayer = .error .notDelegated ∧
        ∀ a, t.verify a none = .ok () ↔ a = .ofPrivateKey key) ∧
    (∀ (b : Body) (sender payer : PrivateKey), b.Reachable → b.isDelegated = true →
      PrivateKey.signsWithParity sender b.signingHash = true →
      PrivateKey.signsWithParity payer (b.delegationHash (.ofPrivateKey sender)) = true →
      ∃ t, b.signWithGasPayer sender payer = .ok t ∧
        (t.encode.length < UInt32.size → SignedTransaction.decode t.encode = .ok t.plain) ∧
        t.plain.origin = .ok (.ofPrivateKey sender) ∧
        t.plain.gasPayer = .ok (.ofPrivateKey payer) ∧
        ∀ a p, t.verify a (some p) = .ok () ↔ a = .ofPrivateKey sender ∧ p = .ofPrivateKey payer) ∧
    (∀ (b : Body) (key : PrivateKey), b.isDelegated = true →
      b.sign key = .error (.illegalArgument .needsGasPayer)) ∧
    ∀ (b : Body) (key : PrivateKey), b.isDelegated = false →
      b.signAsSender key = .error .notDelegated := by
  refine ⟨?_, ?_, ?_, ?_⟩
  · intro b key hreachable hdelegated hkey
    obtain ⟨t, hsign, hsingle, horigin⟩ := Body.exists_signed hdelegated hkey
    have hvalid := SignedTransaction.valid_of_sign hreachable.valid hsign
    refine ⟨t, hsign, SignedTransaction.decode_encode hvalid, ?_, horigin,
      SignedTransaction.gasPayer_of_not_delegated hsingle, ?_⟩
    · rw [SignedTransaction.origin_plain, horigin]
    · intro a
      rw [SignedTransaction.verify_eq_ok_iff]
      simp [horigin, hsingle, eq_comm]
  · intro b sender payer hreachable hdelegated hsender hpayer
    obtain ⟨t, hsign, htwice, horigin, hgasPayer⟩ :=
      Body.exists_signed_twice hdelegated hsender hpayer
    have hvalid := (SignedTransaction.Reachable.signedTwice hreachable hsign).valid
    refine ⟨t, hsign, SignedTransaction.decode_encode hvalid, ?_, ?_, ?_⟩
    · rw [SignedTransaction.origin_plain, horigin]
    · rw [SignedTransaction.gasPayer_plain, hgasPayer]
    · intro a p
      rw [SignedTransaction.verify_eq_ok_iff]
      simp [horigin, hgasPayer, htwice, eq_comm]
  · intro b key hdelegated
    exact Body.sign_of_delegated hdelegated key
  · intro b key hdelegated
    exact Body.signAsSender_of_not_delegated hdelegated key

/-! ## Two signers -/

/-- The keys `1` and `2`. -/
def oneKey : PrivateKey := ⟨1, by decide, by decide +kernel⟩

@[inherit_doc oneKey]
def twoKey : PrivateKey := ⟨2, by decide, by decide +kernel⟩

/-- A body that asks for a gas payer. -/
def delegatedBody : Body :=
  { sparseBody with reserved := sparseBody.reserved.setDelegated true }

theorem delegatedBody_reachable : delegatedBody.Reachable := by
  have hmade : ∃ d, (Draft.ofBody sparseBody).setAll [.delegated true] = .ok d ∧
      d.build = .ok delegatedBody :=
    ⟨_, rfl, rfl⟩
  obtain ⟨d, hset, hbuild⟩ := hmade
  exact .rebuilt sparseBody_reachable hset hbuild

private theorem signsWithParity_sparseBody :
    PrivateKey.signsWithParity oneKey sparseBody.signingHash = true :=
  PrivateKey.signsWithParity_of_mul
    (k := 15185646361152946651521134657764185430931168429325423029481754561270486978416)
    (x := 47188548621595968868068545894892213066226610244690709374689202236082318154015)
    (y := 76999298946895680564682641974759959517227496978707901708008790090609624404932)
    (by decide +kernel) (by decide +kernel) (by decide) (by decide) (by decide +kernel)

private theorem signsWithParity_delegatedBody :
    PrivateKey.signsWithParity oneKey delegatedBody.signingHash = true :=
  PrivateKey.signsWithParity_of_mul
    (k := 17469617033457324668251585158497675840921796979162526530935212593201204580801)
    (x := 71708849782934654299878637025762962630465176011469743594155893625183215561556)
    (y := 80075677979450908656416073269475334830877488398768185488290775509043081670661)
    (by decide +kernel) (by decide +kernel) (by decide) (by decide) (by decide +kernel)

private theorem signsWithParity_delegationHash :
    PrivateKey.signsWithParity twoKey (delegatedBody.delegationHash (.ofPrivateKey oneKey)) =
      true :=
  PrivateKey.signsWithParity_of_mul
    (k := 41842118980590227289482087400107758182707280195314801860245362746132031749506)
    (x := 22754331836438024370671856173860161630891282758505357871620028876477178938889)
    (y := 92469995449717963262055834653214270401987111658448788604050381058940110663918)
    (by decide +kernel) (by decide +kernel) (by decide) (by decide) (by decide +kernel)

/-- The two keys sign the body that asks for a gas payer. -/
theorem exists_signed_delegatedBody :
    ∃ t, delegatedBody.signWithGasPayer oneKey twoKey = .ok t ∧ t.isDelegated = true ∧
      t.origin = .ok (.ofPrivateKey oneKey) ∧ t.gasPayer = .ok (.ofPrivateKey twoKey) :=
  Body.exists_signed_twice rfl signsWithParity_delegatedBody signsWithParity_delegationHash

theorem signing_end_to_end_sparse :
    (∃ t, sparseBody.sign oneKey = .ok t ∧ t.plain.origin = .ok (.ofPrivateKey oneKey)) ∧
      ∃ t, delegatedBody.signWithGasPayer oneKey twoKey = .ok t ∧
        t.plain.gasPayer = .ok (.ofPrivateKey twoKey) := by
  obtain ⟨hsingle, htwice, -⟩ := signing_end_to_end
  obtain ⟨t, hsign, -, horigin, -⟩ :=
    hsingle sparseBody oneKey sparseBody_reachable rfl signsWithParity_sparseBody
  obtain ⟨u, hboth, -, -, hgasPayer, -⟩ :=
    htwice delegatedBody oneKey twoKey delegatedBody_reachable rfl signsWithParity_delegatedBody
      signsWithParity_delegationHash
  exact ⟨⟨t, hsign, horigin⟩, u, hboth, hgasPayer⟩

end ClauseTx
