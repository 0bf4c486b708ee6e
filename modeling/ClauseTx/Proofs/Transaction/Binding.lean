import ClauseTx.Proofs.Transaction.RoundTrip

/-!
# What a digest binds

Three digests stand for a transaction: the one that the sender signs, the one
that the gas payer signs, and the id.  None of them says the same of two
different transactions, unless two different byte strings have the same hash.
No hash is assumed to be free of such collisions.  The theorems name the two
byte strings (`Hash.Collide`).

The digests are of encodings, so the encodings must differ.  An encoding tells
whether its fee is dynamic by its first byte, and then whether it is signed by
the number of its fields (`Layout.encode_inj`).
-/

namespace ClauseTx

/-! ## Collisions -/

/-- Two different byte strings with the same hash. -/
structure Hash.Collide (x y : Bytes) : Prop where
  ne : x ≠ y
  hash_eq : keccak256 x = keccak256 y

theorem Hash.eq_or_collide {x y : Bytes} (h : keccak256 x = keccak256 y) : x = y ∨ Collide x y := by
  by_cases heq : x = y
  · exact Or.inl heq
  · exact Or.inr ⟨heq, h⟩

/-- A gas payer's digest is of two parts, each of a fixed length. -/
theorem eq_or_collide_of_delegationHash {digest₁ digest₂ : Hash.Digest} {sender₁ sender₂ : Address}
    (h : delegationHash digest₁ sender₁ = delegationHash digest₂ sender₂) :
    (digest₁ = digest₂ ∧ sender₁ = sender₂) ∨
      Hash.Collide (digest₁.bytes ++ sender₁.bytes) (digest₂.bytes ++ sender₂.bytes) := by
  rcases Hash.eq_or_collide h with heq | hcollide
  · have hlen : digest₁.bytes.length = digest₂.bytes.length := by
      rw [digest₁.length_eq, digest₂.length_eq]
    obtain ⟨hdigest, hsender⟩ := List.append_inj heq hlen
    exact Or.inl ⟨Blob.ext hdigest, Address.ext (Blob.ext hsender)⟩
  · exact Or.inr hcollide

/-! ## Encodings of different kinds -/

namespace Layout

/-- An encoding determines the kind of the fee and the items. -/
theorem encode_inj {l₁ l₂ : Layout} (hlen : l₁.encode.length < UInt32.size)
    (h : l₁.encode = l₂.encode) :
    l₁.body.fee.isDynamic = l₂.body.fee.isDynamic ∧ l₁.items = l₂.items := by
  cases h₁ : l₁.body.fee.isDynamic <;> cases h₂ : l₂.body.fee.isDynamic
  case false.false =>
    rw [encode_legacy h₁] at hlen h
    rw [encode_legacy h₂] at h
    have hitem := Rlp.encode_inj hlen h
    injection hitem with hitems
    exact ⟨rfl, hitems⟩
  case false.true =>
    rw [encode_legacy h₁, encode_dynamic h₂] at h
    exact absurd h dynamicMark_ne_head
  case true.false =>
    rw [encode_dynamic h₁, encode_legacy h₂] at h
    exact absurd h.symm dynamicMark_ne_head
  case true.true =>
    rw [encode_dynamic h₁, List.length_cons] at hlen
    rw [encode_dynamic h₁, encode_dynamic h₂, List.cons.injEq] at h
    have hitem := Rlp.encode_inj (by omega) h.2
    injection hitem with hitems
    exact ⟨rfl, hitems⟩

end Layout

/-- A body is never encoded like a signed transaction. -/
theorem Body.encode_ne_encode_signed (b : Body) (t : SignedTransaction)
    (hlen : b.encode.length < UInt32.size) : b.encode ≠ t.encode := by
  intro h
  have hlayout : Layout.encode ⟨b, none⟩ = Layout.encode ⟨t.body, some t.signature⟩ := h
  obtain ⟨hkind, hitems⟩ := Layout.encode_inj hlen hlayout
  have hcount := congrArg List.length hitems
  rw [Layout.length_items, Layout.length_items, hkind] at hcount
  simp at hcount

/-! ## Digests -/

/-- Encodings bind what they encode, and digests bind it unless they exhibit a
collision. -/
theorem digests_bind_transactions :
    (∀ b₁ b₂ : Body, b₁.Reachable → b₂.Reachable → b₁.encode.length < UInt32.size →
      b₂.encode.length < UInt32.size → (b₁.encode = b₂.encode ↔ b₁.agrees b₂ = true)) ∧
    (∀ (b : Body) (t : SignedTransaction), b.encode.length < UInt32.size → b.encode ≠ t.encode) ∧
    (∀ b₁ b₂ : Body, b₁.Reachable → b₂.Reachable → b₁.encode.length < UInt32.size →
      b₂.encode.length < UInt32.size → b₁.signingHash = b₂.signingHash →
      b₁.agrees b₂ = true ∨ Hash.Collide b₁.encode b₂.encode) ∧
    (∀ (b₁ b₂ : Body) (s₁ s₂ : Address), b₁.Reachable → b₂.Reachable →
      b₁.encode.length < UInt32.size → b₂.encode.length < UInt32.size →
      b₁.delegationHash s₁ = b₂.delegationHash s₂ →
      (b₁.agrees b₂ = true ∧ s₁ = s₂) ∨ Hash.Collide b₁.encode b₂.encode ∨
        Hash.Collide (b₁.signingHash.bytes ++ s₁.bytes) (b₂.signingHash.bytes ++ s₂.bytes)) ∧
    ∀ t₁ t₂ : SignedTransaction, t₁.Reachable → t₂.Reachable →
      t₁.encode.length < UInt32.size → t₂.encode.length < UInt32.size → t₁.id = t₂.id →
      t₁.plain = t₂.plain ∨ Hash.Collide t₁.encode t₂.encode := by
  have hbody : ∀ b₁ b₂ : Body, b₁.Reachable → b₂.Reachable → b₁.encode.length < UInt32.size →
      (b₁.encode = b₂.encode ↔ b₁.agrees b₂ = true) := by
    intro b₁ b₂ h₁ h₂ hlen
    rw [Body.agrees, decide_eq_true_eq]
    exact Body.encode_eq_encode_iff h₁.valid h₂.valid hlen
  have hsigning : ∀ b₁ b₂ : Body, b₁.Reachable → b₂.Reachable →
      b₁.encode.length < UInt32.size → b₁.signingHash = b₂.signingHash →
      b₁.agrees b₂ = true ∨ Hash.Collide b₁.encode b₂.encode := by
    intro b₁ b₂ h₁ h₂ hlen hhash
    rcases Hash.eq_or_collide hhash with heq | hcollide
    · exact Or.inl ((hbody b₁ b₂ h₁ h₂ hlen).mp heq)
    · exact Or.inr hcollide
  refine ⟨?_, ?_, ?_, ?_, ?_⟩
  · intro b₁ b₂ h₁ h₂ hlen _
    exact hbody b₁ b₂ h₁ h₂ hlen
  · intro b t hlen
    exact Body.encode_ne_encode_signed b t hlen
  · intro b₁ b₂ h₁ h₂ hlen _ hhash
    exact hsigning b₁ b₂ h₁ h₂ hlen hhash
  · intro b₁ b₂ s₁ s₂ h₁ h₂ hlen _ hhash
    rcases eq_or_collide_of_delegationHash hhash with ⟨hdigest, hsender⟩ | hcollide
    · rcases hsigning b₁ b₂ h₁ h₂ hlen hdigest with hagrees | hcollide
      · exact Or.inl ⟨hagrees, hsender⟩
      · exact Or.inr (Or.inl hcollide)
    · exact Or.inr (Or.inr hcollide)
  · intro t₁ t₂ h₁ h₂ hlen _ hid
    rcases Hash.eq_or_collide hid with heq | hcollide
    · exact Or.inl ((SignedTransaction.encode_eq_encode_iff h₁.valid h₂.valid hlen).mp heq)
    · exact Or.inr hcollide

/-- Remarks are bound by no digest. -/
theorem digests_bind_sparse :
    (sparseBody.encode = sparseBody.plain.encode ↔ sparseBody.agrees sparseBody.plain = true) ∧
      sparseBody.encode ≠ sparseTransaction.encode ∧
      (sparseBody.agrees sparseBody.plain = true ∨
        Hash.Collide sparseBody.encode sparseBody.plain.encode) := by
  have hplain : sparseBody.plain.Reachable :=
    .decoded (Body.decode_encode sparseBody_reachable.valid (by decide))
  obtain ⟨hencode, hsigned, hsigning, -⟩ := digests_bind_transactions
  refine ⟨hencode _ _ sparseBody_reachable hplain (by decide) (by decide),
    hsigned sparseBody sparseTransaction (by decide), ?_⟩
  exact hsigning _ _ sparseBody_reachable hplain (by decide) (by decide)
    (congrArg Hash.keccak256 (Body.encode_plain sparseBody).symm)

end ClauseTx
