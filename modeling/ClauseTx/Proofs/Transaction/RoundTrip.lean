import ClauseTx.Proofs.Transaction.Reachable

/-!
# Encodings and what they mean

Reading undoes writing for all that can arise, and writing undoes reading for
every byte string below `2 ^ 32` bytes.  Lengths are written in 32 bits, so
nothing is claimed of longer encodings.

Remarks of clauses are the only thing that does not come back.
-/

namespace ClauseTx

/-! ## Reading what was written -/

/-- What can arise comes back from its encoding, up to remarks, and a
transaction with the same id. -/
theorem decode_encode_of_reachable :
    (∀ b : Body, b.Reachable → b.encode.length < UInt32.size →
      Body.decode b.encode = .ok b.plain) ∧
    ∀ t : SignedTransaction, t.Reachable → t.encode.length < UInt32.size →
      SignedTransaction.decode t.encode = .ok t.plain ∧ t.plain.id = t.id := by
  constructor
  · intro b hreachable hlen
    exact Body.decode_encode hreachable.valid hlen
  · intro t hreachable hlen
    refine ⟨SignedTransaction.decode_encode hreachable.valid hlen, ?_⟩
    rw [SignedTransaction.id, SignedTransaction.encode_plain, SignedTransaction.id]

/-- A body with what is easily lost: leading zero bytes in the reference of a
block and in an id, no features before unused entries, empty entries between
full ones, a cap without a tip, and a remark. -/
def sparseBody : Body where
  chainTag := 0
  blockRef := Blob.zero 8
  expiration := 0
  clauses := [{ data := [0], comment := some "nothing to send" }]
  gas := 1
  dependsOn := some (Blob.zero 32)
  nonce := 0
  fee := .dynamic 0x80 0
  reserved := { features := 0, unused := [[], [0], [], [0x80]] }

/-- What makes the body. -/
def sparseSettings : List Setting :=
  [.clause ((Clause.deploy [0]).withComment "nothing to send"), .gas 1,
    .dependsOn (List.replicate 32 0), .maxFee 0x80,
    .reserved { features := 1, unused := [[], [0], [], [0x80]] }, .delegated false]

theorem sparseBody_reachable : sparseBody.Reachable := by
  have hmade : ∃ d, Draft.empty.setAll sparseSettings = .ok d ∧ d.build = .ok sparseBody :=
    ⟨_, rfl, rfl⟩
  obtain ⟨d, hset, hbuild⟩ := hmade
  exact .built hset hbuild

/-- The body with a signature, as it is read. -/
def sparseTransaction : SignedTransaction :=
  ⟨sparseBody.plain, List.replicate 65 0⟩

theorem length_encode_sparseTransaction : sparseTransaction.encode.length < UInt32.size := by
  decide +kernel

theorem sparseTransaction_reachable : sparseTransaction.Reachable :=
  .decoded (SignedTransaction.decode_encode
    ⟨Body.plain_valid_iff.mpr sparseBody_reachable.valid, rfl⟩ length_encode_sparseTransaction)

theorem decode_encode_sparse :
    (sparseBody.Reachable ∧ sparseBody.encode.length < UInt32.size ∧
      Body.decode sparseBody.encode = .ok sparseBody.plain) ∧
    sparseTransaction.Reachable ∧ sparseTransaction.encode.length < UInt32.size ∧
      SignedTransaction.decode sparseTransaction.encode = .ok sparseTransaction.plain ∧
      sparseTransaction.plain.id = sparseTransaction.id :=
  ⟨⟨sparseBody_reachable, by decide,
      decode_encode_of_reachable.1 sparseBody sparseBody_reachable (by decide)⟩,
    sparseTransaction_reachable, length_encode_sparseTransaction,
    decode_encode_of_reachable.2 sparseTransaction sparseTransaction_reachable
      length_encode_sparseTransaction⟩

/-! ## Writing what was read -/

/-- What is accepted is the encoding of what it means, and its digest is the
id.  So two byte strings never mean the same. -/
theorem encode_of_decode :
    (∀ (w : Bytes) (b : Body), w.length < UInt32.size → Body.decode w = .ok b → b.encode = w) ∧
    (∀ (w : Bytes) (t : SignedTransaction), w.length < UInt32.size →
      SignedTransaction.decode w = .ok t → t.encode = w ∧ t.id = Hash.keccak256 w) ∧
    (∀ (w₁ w₂ : Bytes) (b₁ b₂ : Body), w₁.length < UInt32.size → w₂.length < UInt32.size →
      Body.decode w₁ = .ok b₁ → Body.decode w₂ = .ok b₂ → b₁.agrees b₂ = true → w₁ = w₂) ∧
    ∀ (w₁ w₂ : Bytes) (t₁ t₂ : SignedTransaction), w₁.length < UInt32.size →
      w₂.length < UInt32.size → SignedTransaction.decode w₁ = .ok t₁ →
      SignedTransaction.decode w₂ = .ok t₂ → t₁.plain = t₂.plain → w₁ = w₂ := by
  have hbody : ∀ (w : Bytes) (b : Body), w.length < UInt32.size → Body.decode w = .ok b →
      b.encode = w := by
    intro w b hlen h
    exact ((Body.decode_eq_ok_iff hlen).mp h).1
  have hsigned : ∀ (w : Bytes) (t : SignedTransaction), w.length < UInt32.size →
      SignedTransaction.decode w = .ok t → t.encode = w := by
    intro w t hlen h
    exact ((SignedTransaction.decode_eq_ok_iff hlen).mp h).1
  refine ⟨hbody, ?_, ?_, ?_⟩
  · intro w t hlen h
    have hw := hsigned w t hlen h
    exact ⟨hw, by rw [SignedTransaction.id, hw]⟩
  · intro w₁ w₂ b₁ b₂ hlen₁ hlen₂ h₁ h₂ hagrees
    have hplain : b₁.plain = b₂.plain := of_decide_eq_true hagrees
    rw [← hbody w₁ b₁ hlen₁ h₁, ← hbody w₂ b₂ hlen₂ h₂, ← Body.encode_plain b₁, hplain,
      Body.encode_plain]
  · intro w₁ w₂ t₁ t₂ hlen₁ hlen₂ h₁ h₂ hplain
    rw [← hsigned w₁ t₁ hlen₁ h₁, ← hsigned w₂ t₂ hlen₂ h₂, ← SignedTransaction.encode_plain t₁,
      hplain, SignedTransaction.encode_plain]

theorem encode_of_decode_sparse :
    Body.decode sparseBody.encode = .ok sparseBody.plain ∧
      sparseBody.plain.encode = sparseBody.encode := by
  have hdecode : Body.decode sparseBody.encode = .ok sparseBody.plain :=
    Body.decode_encode sparseBody_reachable.valid (by decide)
  exact ⟨hdecode, encode_of_decode.1 _ _ (by decide) hdecode⟩

end ClauseTx
