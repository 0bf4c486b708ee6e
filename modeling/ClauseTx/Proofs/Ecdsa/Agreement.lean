import ClauseTx.Proofs.Ecdsa.Uniqueness

/-!
# Verification, recovery and the search for a parity agree

A signature without its parity belongs to a public key if recovery with one of
the two parities finds the key.  The search tries the even parity first
(`recoveryId_eq_ok_iff`).  No key is found with both
(`exists_parity_iff`), so the order of the search does not matter, and it finds
the one parity with which verification accepts the signature
(`recoveryId_eq_ok_iff_verify`).
-/

namespace ClauseTx.Ecdsa

open CurveParameters Curve

/-! ## The search for a parity -/

variable {C : Curve} [Fact C.modulus.Prime] [Fact C.order.Prime] [C.weierstrass.IsElliptic]
  {G : C.weierstrass.Point}

/-- What is found first is what is found at all. -/
theorem exists_parity_iff (hG : C.IsGenerator G) (hC : C.Regular)
    (hall : ∀ A : C.weierstrass.Point, ∃ a : Nat, a • G = A) {z n : Nat} {σ : Numbers}
    {Q : Point} (hrange : σ.inRange C = true) :
    (recoverPoint C z σ false = some Q ∧ n = 0 ∨
        recoverPoint C z σ false ≠ some Q ∧ recoverPoint C z σ true = some Q ∧ n = 1) ↔
      ∃ isOdd, recoverPoint C z σ isOdd = some Q ∧ n = (parityByte isOdd false).toNat := by
  constructor
  · rintro (⟨heven, rfl⟩ | ⟨-, hodd, rfl⟩)
    · exact ⟨false, heven, rfl⟩
    · exact ⟨true, hodd, rfl⟩
  · rintro ⟨isOdd, hrecover, rfl⟩
    cases isOdd with
    | false => exact .inl ⟨hrecover, rfl⟩
    | true =>
      refine .inr ⟨?_, hrecover, rfl⟩
      intro heven
      have hsame := recoverPoint_inj hG hC hall hrange hrange rfl heven hrecover
      cases hsame.right

/-- The parity that is found is the one with which the signature is
accepted. -/
theorem recoveryId_eq_ok_iff_verify (hG : C.IsGenerator G) (hC : C.Regular)
    (hall : ∀ A : C.weierstrass.Point, ∃ a : Nat, a • G = A) {digest compact publicKey : Bytes}
    {v : UInt8} :
    recoveryId C digest compact publicKey = .ok v.toNat ↔
      verify C digest (compact ++ [v]) publicKey = .ok true := by
  rw [recoveryId_eq_ok_iff, verify_eq_true_iff]
  refine and_congr_right fun _ => ?_
  constructor
  · rintro ⟨hlen, Q, σ, hdecode, hnumbers, hparity⟩
    have hrange := ((Numbers.ofBytes_eq_ok_iff hC.order_le hlen).mp hnumbers).left
    obtain ⟨isOdd, hrecover, hv⟩ := (exists_parity_iff hG hC hall hrange).mp hparity
    refine ⟨σ, isOdd, Q, hdecode, ?_, hrecover⟩
    exact (splitSignature_append_eq_ok_iff hlen).mpr ⟨hnumbers, UInt8.toNat_inj.mp hv⟩
  · rintro ⟨σ, isOdd, Q, hdecode, hsplit, hrecover⟩
    have hlen : compact.length = compactLength := by
      obtain ⟨-, hwritten⟩ := (splitSignature_eq_ok_iff hC.order_le).mp hsplit
      rw [(List.append_inj' hwritten rfl).left]
      exact length_compact σ
    obtain ⟨hnumbers, rfl⟩ := (splitSignature_append_eq_ok_iff hlen).mp hsplit
    have hrange := ((Numbers.ofBytes_eq_ok_iff hC.order_le hlen).mp hnumbers).left
    exact ⟨hlen, Q, σ, hdecode, hnumbers,
      (exists_parity_iff hG hC hall hrange).mpr ⟨isOdd, hrecover, rfl⟩⟩

/-! ## The three ways -/

/-- On the curve of the protocol a signature is accepted for a public key
exactly if this key is recovered.  Without its last byte, it is completed by
the byte with which it is accepted, and there is no other such byte. -/
theorem acceptance_agrees :
    (∀ digest signature publicKey : Bytes,
      verify secp256k1 digest signature publicKey = .ok true ↔
        ∃ full, recover secp256k1 digest signature = .ok full ∧
          inflate secp256k1 publicKey = .ok full) ∧
    (∀ (digest compact publicKey : Bytes) (v : UInt8),
      recoveryId secp256k1 digest compact publicKey = .ok v.toNat ↔
        verify secp256k1 digest (compact ++ [v]) publicKey = .ok true) ∧
    ∀ (digest compact publicKey : Bytes) (v w : UInt8),
      verify secp256k1 digest (compact ++ [v]) publicKey = .ok true →
        verify secp256k1 digest (compact ++ [w]) publicKey = .ok true → v = w := by
  obtain ⟨G, hG⟩ := exists_isGenerator_secp256k1
  have hall := secp256k1_exists_nsmul_eq hG
  refine ⟨?_, ?_, ?_⟩
  · intro digest signature publicKey
    exact verify_eq_true_iff_recover hG secp256k1_regular
  · intro digest compact publicKey v
    exact recoveryId_eq_ok_iff_verify hG secp256k1_regular hall
  · intro digest compact publicKey v w hv hw
    rw [← recoveryId_eq_ok_iff_verify hG secp256k1_regular hall] at hv hw
    exact UInt8.toNat_inj.mp (Except.ok.inj (hv.symm.trans hw))

/-- Two numbers that are completed by the odd parity, which is tried last. -/
theorem acceptance_agrees_odd :
    verify secp256k1 oddDigest.bytes (oddNumbers.1.bytes ++ oddNumbers.2.bytes ++ [1])
        (compressed secp256k1.generator) = .ok true ∧
      recoveryId secp256k1 oddDigest.bytes (oddNumbers.1.bytes ++ oddNumbers.2.bytes)
        (compressed secp256k1.generator) = .ok 1 ∧
      ∀ w, verify secp256k1 oddDigest.bytes (oddNumbers.1.bytes ++ oddNumbers.2.bytes ++ [w])
        (compressed secp256k1.generator) = .ok true → w = 1 := by
  refine ⟨verify_oddNumbers, ?_, ?_⟩
  · exact (acceptance_agrees.2.1 _ _ _ 1).mpr verify_oddNumbers
  · intro w h
    exact acceptance_agrees.2.2 _ _ _ _ _ h verify_oddNumbers

end ClauseTx.Ecdsa
