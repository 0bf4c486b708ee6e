import ClauseTx.Proofs.Ecdsa.Recovery

/-!
# Verification is recovery

A signature with its parity belongs to at most one public key, the one that
recovery finds.  Verification with a key takes both ways: the equation for the
key, and recovery.  Recovery checks the same equation with the key that it
found, so the first way adds nothing.  A signature is therefore accepted for a
written public key exactly if recovery finds the same point
(`verify_eq_true_iff_recover`).

What is recovered is a point of the curve, so it can be read again
(`inflate_of_recover`).  The search for the parity of a signature that has lost
it tries recovery with both (`recoveryId_eq_ok_iff`).
-/

namespace ClauseTx.Ecdsa

open CurveParameters Curve

variable {C : Curve}

/-! ## Verification -/

/-- The equation of verification is part of recovery. -/
theorem verify_eq_true_iff {digest signature publicKey : Bytes} :
    verify C digest signature publicKey = .ok true ↔
      digest.length = digestLength ∧ ∃ σ isOdd Q, decodePoint C publicKey = .ok Q ∧
        splitSignature C signature = .ok (σ, isOdd) ∧
        recoverPoint C digest.toNat σ isOdd = some Q := by
  rw [verify, bind_eq_ok_iff]
  constructor
  · intro h
    obtain ⟨_, hdigest, h⟩ := h
    obtain ⟨Q, hdecode, h⟩ := bind_eq_ok_iff.mp h
    obtain ⟨⟨σ, isOdd⟩, hsplit, h⟩ := bind_eq_ok_iff.mp h
    rw [pure_eq_ok_iff, Bool.and_eq_true, decide_eq_true_eq] at h
    exact ⟨checkDigest_eq_ok_iff.mp hdigest, σ, isOdd, Q, hdecode, hsplit, h.right⟩
  · intro h
    obtain ⟨hdigest, σ, isOdd, Q, hdecode, hsplit, hrecover⟩ := h
    refine ⟨(), checkDigest_eq_ok_iff.mpr hdigest, bind_eq_ok_iff.mpr ⟨Q, hdecode, ?_⟩⟩
    refine bind_eq_ok_iff.mpr ⟨_, hsplit, ?_⟩
    rw [pure_eq_ok_iff, Bool.and_eq_true, decide_eq_true_eq]
    exact ⟨(recoverPoint_eq_some_iff.mp hrecover).right, hrecover⟩

/-! ## The search for a parity -/

/-- The even parity is found first. -/
theorem recoveryId_eq_ok_iff {digest compact publicKey : Bytes} {n : Nat} :
    recoveryId C digest compact publicKey = .ok n ↔
      digest.length = digestLength ∧ compact.length = compactLength ∧
        ∃ Q σ, decodePoint C publicKey = .ok Q ∧ Numbers.ofBytes C compact = .ok σ ∧
          (recoverPoint C digest.toNat σ false = some Q ∧ n = 0 ∨
            recoverPoint C digest.toNat σ false ≠ some Q ∧
              recoverPoint C digest.toNat σ true = some Q ∧ n = 1) := by
  rw [recoveryId, bind_eq_ok_iff]
  constructor
  · rintro ⟨_, hdigest, h⟩
    refine ⟨checkDigest_eq_ok_iff.mp hdigest, ?_⟩
    split at h
    · cases h
    rename_i hlen
    obtain ⟨Q, hdecode, h⟩ := bind_eq_ok_iff.mp h
    obtain ⟨σ, hnumbers, h⟩ := bind_eq_ok_iff.mp h
    refine ⟨not_not.mp hlen, Q, σ, hdecode, hnumbers, ?_⟩
    split at h
    · rename_i heven
      injection h with h
      exact .inl ⟨heven, h.symm⟩
    · rename_i heven
      split at h
      · rename_i hodd
        injection h with h
        exact .inr ⟨heven, hodd, h.symm⟩
      · cases h
  · rintro ⟨hdigest, hlen, Q, σ, hdecode, hnumbers, hparity⟩
    refine ⟨(), checkDigest_eq_ok_iff.mpr hdigest, ?_⟩
    rw [if_neg (not_not.mpr hlen)]
    refine bind_eq_ok_iff.mpr ⟨Q, hdecode, bind_eq_ok_iff.mpr ⟨σ, hnumbers, ?_⟩⟩
    rcases hparity with ⟨heven, rfl⟩ | ⟨heven, hodd, rfl⟩
    · rw [if_pos heven]
    · rw [if_neg heven, if_pos hodd]

/-! ## What is recovered can be read -/

variable [Fact C.modulus.Prime] [Fact C.order.Prime] [C.weierstrass.IsElliptic]
  {G : C.weierstrass.Point}

theorem onCurve_of_candidate (hG : C.IsGenerator G) (hC : C.Regular) {z : Nat} {σ : Numbers}
    {isOdd : Bool} {Q : Point} (h : candidate C z σ isOdd = some Q) :
    Q ≠ .infinity ∧ C.onCurve Q = true := by
  cases hlift : C.lift σ.r isOdd with
  | none =>
    rw [candidate, hlift] at h
    cases h
  | some R =>
    obtain ⟨y, rfl, hcurve, -⟩ :=
      (lift_eq_some_iff hC.modulus_mod_four hC.cubic_ne_zero).mp hlift
    obtain ⟨A, hA⟩ := onCurve_iff_denotes.mp hcurve
    obtain ⟨hne, hdenotes⟩ := (candidate_eq_some_iff hG hlift hA).mp h
    exact ⟨hne, onCurve_iff_denotes.mpr ⟨_, hdenotes⟩⟩

theorem onCurve_of_recoverPoint (hG : C.IsGenerator G) (hC : C.Regular) {z : Nat} {σ : Numbers}
    {isOdd : Bool} {Q : Point} (h : recoverPoint C z σ isOdd = some Q) :
    Q ≠ .infinity ∧ C.onCurve Q = true :=
  onCurve_of_candidate hG hC (recoverPoint_eq_some_iff.mp h).left

/-- A recovered key is a public key with both coordinates. -/
theorem inflate_of_recover (hG : C.IsGenerator G) (hC : C.Regular)
    {digest signature publicKey : Bytes} (h : recover C digest signature = .ok publicKey) :
    inflate C publicKey = .ok publicKey := by
  obtain ⟨-, σ, isOdd, Q, -, hrecover, rfl⟩ := recover_eq_ok_iff.mp h
  obtain ⟨hne, hcurve⟩ := onCurve_of_recoverPoint hG hC hrecover
  exact inflate_of_decodePoint (decodePoint_uncompressed hC.modulus_le hne hcurve)

/-- A signature is accepted for a public key exactly if this key is
recovered. -/
theorem verify_eq_true_iff_recover (hG : C.IsGenerator G) (hC : C.Regular)
    {digest signature publicKey : Bytes} :
    verify C digest signature publicKey = .ok true ↔
      ∃ full, recover C digest signature = .ok full ∧ inflate C publicKey = .ok full := by
  rw [verify_eq_true_iff]
  constructor
  · intro h
    obtain ⟨hdigest, σ, isOdd, Q, hdecode, hsplit, hrecover⟩ := h
    have hfull := recover_eq_ok_iff.mpr ⟨hdigest, σ, isOdd, Q, hsplit, hrecover, rfl⟩
    exact ⟨uncompressed Q, hfull, inflate_of_decodePoint hdecode⟩
  · intro h
    obtain ⟨full, hfull, hinflate⟩ := h
    obtain ⟨hdigest, σ, isOdd, Q, hsplit, hrecover, rfl⟩ := recover_eq_ok_iff.mp hfull
    obtain ⟨P, hdecode, hwritten⟩ := map_eq_ok_iff.mp hinflate
    obtain ⟨hQ, hQcurve⟩ := onCurve_of_recoverPoint hG hC hrecover
    obtain ⟨hP, hPcurve⟩ := onCurve_of_decodePoint hC hdecode
    rw [uncompressed_inj hC.modulus_le hP hPcurve hQ hQcurve hwritten] at hdecode
    exact ⟨hdigest, σ, isOdd, Q, hdecode, hsplit, hrecover⟩

end ClauseTx.Ecdsa
