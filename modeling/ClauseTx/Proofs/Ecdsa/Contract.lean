import ClauseTx.Proofs.Ecdsa.Verification

/-!
# Signing, verification and recovery fit together

What a key signs is accepted for its public key, in either of its forms, and
leads back to it.  The parity is the one that the two numbers alone determine,
since the other one leads to another key (`recoveryId_of_solves`).  All of this
holds as long as the first coordinate of the nonce point is below the order;
beyond it the last byte is no parity.

`Keeps` collects what a signature promises, and `sign_verify_recover` says that
every signature keeps it, and when there is a signature.
-/

namespace ClauseTx.Ecdsa

open CurveParameters Curve

variable {C : Curve}

/-! ## Private keys given as bytes -/

/-- Signing with the bytes of a private key is signing with the key. -/
theorem sign_bytes (horder : C.order ≤ 256 ^ 32) (key : PrivateKey C) (digest : Bytes) :
    sign C digest key.bytes.bytes = key.sign digest := by
  cases hcheck : checkDigest digest with
  | error e => rw [sign, PrivateKey.sign, hcheck, error_bind, error_bind]
  | ok _ => rw [sign, hcheck, ok_bind, PrivateKey.ofBytes_bytes horder, ok_bind]

/-! ## When there is a signature -/

variable [Fact C.modulus.Prime] [Fact C.order.Prime] {G : C.weierstrass.Point}

omit [Fact C.modulus.Prime] in
/-- The number `s` vanishes exactly if the equation of the signature has the
right hand side zero. -/
theorem signed_eq_zero_iff {nonce : Nat} (hnonce : (nonce : ZMod C.order) ≠ 0) (z r key : Nat) :
    inverse C.order nonce * ((z % C.order + r * key) % C.order) % C.order = 0 ↔
      (z + r * key) % C.order = 0 := by
  have hequation := natCast_signed hnonce z r key
  rw [← Nat.dvd_iff_mod_eq_zero, ← Nat.dvd_iff_mod_eq_zero, ← ZMod.natCast_eq_zero_iff,
    ← ZMod.natCast_eq_zero_iff, ← ZMod.natCast_mod, Nat.cast_add, Nat.cast_mul, ← hequation,
    mul_eq_zero, or_iff_left hnonce]

/-- A digest is signed unless one of the two numbers vanishes. -/
theorem exists_sign_iff (hG : C.IsGenerator G) {key : PrivateKey C} {digest : Bytes}
    {k x y : Nat} (hdigest : digest.length = digestLength)
    (hnonce : Nonce.nonce? C.order key.bytes.bytes digest = some k)
    (hpoint : C.mul k C.generator = .affine x y) (hx : x < C.order) :
    (∃ signature, key.sign digest = .ok signature) ↔
      x ≠ 0 ∧ (digest.toNat + x * key.scalar) % C.order ≠ 0 := by
  obtain ⟨hpos, hlt⟩ := Nonce.bounds_of_draw hnonce
  have hs := signed_eq_zero_iff (IsGenerator.natCast_ne_zero hpos hlt) digest.toNat x key.scalar
  constructor
  · intro h
    obtain ⟨signature, hsign⟩ := h
    obtain ⟨-, k', σ, isOdd, isBeyond, hk', hnumbers, -⟩ := sign_eq_ok_iff.mp hsign
    obtain rfl : k = k' := Option.some.inj (hnonce.symm.trans hk')
    rw [signNumber, hG.mulGenerator_eq_mul hlt, hpoint] at hnumbers
    dsimp only at hnumbers
    rw [Nat.mod_eq_of_lt hx] at hnumbers
    split at hnumbers
    · cases hnumbers
    · rename_i hnonzero
      rw [Bool.or_eq_true, decide_eq_true_eq, decide_eq_true_eq, not_or, hs] at hnonzero
      exact hnonzero
  · intro h
    obtain ⟨hr, hsum⟩ := h
    rw [Ne, ← hs] at hsum
    obtain ⟨signature, hsign, -⟩ := exists_sign_of_mul hG hdigest hnonce hpoint hx hr hsum
    exact ⟨signature, hsign⟩

/-! ## What a signature promises -/

/-- What a signature promises about the key that made it.  Its numbers are `r`
and `s`, and `v` is its last byte. -/
structure Keeps (key : PrivateKey C) (digest : Bytes) (signature : Signature) (r s : Nat)
    (v : UInt8) : Prop where
  bytes_eq : signature.bytes = Bytes.ofNat 32 r ++ Bytes.ofNat 32 s ++ [v]
  s_pos : 1 ≤ s
  s_low : s ≤ (C.order - 1) / 2
  parity : v = 0 ∨ v = 1
  recover_eq : recover C digest signature.bytes = .ok (uncompressed key.publicKey)
  verify_compressed : verify C digest signature.bytes (compressed key.publicKey) = .ok true
  verify_uncompressed : verify C digest signature.bytes (uncompressed key.publicKey) = .ok true
  recoveryId_compressed :
    recoveryId C digest (signature.bytes.take compactLength) (compressed key.publicKey) =
      .ok v.toNat
  recoveryId_uncompressed :
    recoveryId C digest (signature.bytes.take compactLength) (uncompressed key.publicKey) =
      .ok v.toNat

variable [C.weierstrass.IsElliptic]

/-- The two numbers of a solution determine the parity. -/
theorem recoveryId_of_solves (hG : C.IsGenerator G) (hC : C.Regular) {key : PrivateKey C}
    {digest publicKey : Bytes} {σ : Numbers} {x y a : Nat}
    (hsolves : Solves G digest.toNat key.scalar σ x y a) (hx : x < C.order)
    (hdigest : digest.length = digestLength)
    (hread : decodePoint C publicKey = .ok key.publicKey) :
    recoveryId C digest (Bytes.ofNat 32 σ.r ++ Bytes.ofNat 32 σ.s) publicKey =
      .ok (parityByte (decide (y % 2 = 1)) false).toNat := by
  have hparity : ∀ isOdd, recoverPoint C digest.toNat σ isOdd = some key.publicKey ↔
      isOdd = decide (y % 2 = 1) := fun _ => hsolves.recoverPoint_iff hG hC.modulus_mod_four hx
  refine recoveryId_eq_ok_iff.mpr ⟨hdigest, length_compact σ, _, σ, hread,
    Numbers.ofBytes_append (hsolves.inRange hx) hC.order_le, ?_⟩
  rw [Ne, hparity, hparity]
  by_cases hy : y % 2 = 1
  · exact .inr ⟨by simp [hy], by simp [hy], by rw [decide_eq_true hy]; rfl⟩
  · exact .inl ⟨by simp [hy], by rw [decide_eq_false hy]; rfl⟩

/-- A signature keeps its promise. -/
theorem keeps_of_sign (hG : C.IsGenerator G) (hC : C.Regular) {key : PrivateKey C} {digest : Bytes}
    {signature : Signature} {k x y : Nat}
    (hnonce : Nonce.nonce? C.order key.bytes.bytes digest = some k)
    (hpoint : C.mul k C.generator = .affine x y) (hx : x < C.order)
    (hsign : key.sign digest = .ok signature) : ∃ s v, Keeps key digest signature x s v := by
  have hmodulus := hC.modulus_mod_four
  have hdigest := (sign_eq_ok_iff.mp hsign).left
  obtain ⟨k', σ, x', y', a, hk', ⟨y₀, hpoint'⟩, hsolves, hbytes⟩ :=
    exists_solves_of_sign hG (by omega) hsign
  obtain rfl : k = k' := Option.some.inj (hnonce.symm.trans hk')
  obtain ⟨rfl, -⟩ := Point.affine.inj (hpoint.symm.trans hpoint')
  rw [decide_eq_false (Nat.not_le.mpr hx)] at hbytes
  have hr : σ.r = x := by rw [hsolves.r_eq, Nat.mod_eq_of_lt hx]
  have hcompact : signature.bytes.take compactLength =
      Bytes.ofNat 32 σ.r ++ Bytes.ofNat 32 σ.s := by
    rw [hbytes, List.take_left' (length_compact σ)]
  have hsplit : splitSignature C signature.bytes = .ok (σ, decide (y' % 2 = 1)) := by
    rw [hbytes]
    exact splitSignature_append _ (hsolves.inRange hx) hC.order_le
  have hrecover : recoverPoint C digest.toNat σ (decide (y' % 2 = 1)) = some key.publicKey :=
    (hsolves.recoverPoint_iff hG hmodulus hx).mpr rfl
  have hne := publicKey_ne_infinity hG key
  have hcurve := onCurve_publicKey hG key
  have hshort := decodePoint_compressed hC hne hcurve
  have hlong := decodePoint_uncompressed hC.modulus_le hne hcurve
  refine ⟨σ.s, parityByte (decide (y' % 2 = 1)) false, ?_⟩
  exact {
    bytes_eq := by rw [hbytes, hr]
    s_pos := hsolves.s_pos
    s_low := by
      have hlow := hsolves.s_low
      have hodd := (Fact.out : C.order.Prime).eq_two_or_odd.resolve_left hG.order_ne_two
      omega
    parity := by cases decide (y' % 2 = 1) <;> simp [parityByte]
    recover_eq := recover_eq_ok_iff.mpr ⟨hdigest, σ, _, _, hsplit, hrecover, rfl⟩
    verify_compressed := verify_eq_true_iff.mpr ⟨hdigest, σ, _, _, hshort, hsplit, hrecover⟩
    verify_uncompressed := verify_eq_true_iff.mpr ⟨hdigest, σ, _, _, hlong, hsplit, hrecover⟩
    recoveryId_compressed := by
      rw [hcompact]
      exact recoveryId_of_solves hG hC hsolves hx hdigest hshort
    recoveryId_uncompressed := by
      rw [hcompact]
      exact recoveryId_of_solves hG hC hsolves hx hdigest hlong }

/-- On the curve of the protocol, a key given as bytes signs as the key does.
If the first coordinate `x` of the nonce point is below the order, then a
digest is signed exactly if neither number of the signature vanishes, and the
signature belongs to the public key in both of its forms. -/
theorem sign_verify_recover :
    (∀ (key : PrivateKey secp256k1) (digest : Bytes),
      sign secp256k1 digest key.bytes.bytes = key.sign digest) ∧
    ∀ (key : PrivateKey secp256k1) (digest : Bytes) (k x y : Nat),
      digest.length = digestLength →
      Nonce.nonce? secp256k1.order key.bytes.bytes digest = some k →
      secp256k1.mul k secp256k1.generator = .affine x y → x < secp256k1.order →
      (compressed key.publicKey).length = compressedLength ∧
      (uncompressed key.publicKey).length = uncompressedLength ∧
      ((∃ signature, key.sign digest = .ok signature) ↔
        x ≠ 0 ∧ (digest.toNat + x * key.scalar) % secp256k1.order ≠ 0) ∧
      ∀ signature, key.sign digest = .ok signature → ∃ s v, Keeps key digest signature x s v := by
  obtain ⟨G, hG⟩ := exists_isGenerator_secp256k1
  refine ⟨sign_bytes secp256k1_regular.order_le, ?_⟩
  intro key digest k x y hdigest hnonce hpoint hx
  obtain ⟨hcompressed, huncompressed⟩ := length_publicKey hG key
  refine ⟨hcompressed, huncompressed, exists_sign_iff hG hdigest hnonce hpoint hx, ?_⟩
  intro signature hsign
  exact keeps_of_sign hG secp256k1_regular hnonce hpoint hx hsign

/-- A signature whose number `s` is put into the lower half, so that the parity
is not that of the nonce point. -/
theorem sign_verify_recover_lowered :
    ∃ (key : PrivateKey secp256k1) (signature : Signature) (s : Nat) (v : UInt8),
      key.scalar = 2 ∧ key.sign (List.replicate 32 1) = .ok signature ∧
        Keeps key (List.replicate 32 1) signature
          5909677029018092368783805383901064054745451204662558704777724279161539191857 s v := by
  let key : PrivateKey secp256k1 := ⟨2, by decide, by decide +kernel⟩
  obtain ⟨-, -, hiff, hkeeps⟩ := sign_verify_recover.2 key (List.replicate 32 1)
    3596907762728034795043901535419459589181082471150227725431666520180603210290
    5909677029018092368783805383901064054745451204662558704777724279161539191857
    91762681609419972023508238014533836010899337353484696754511520640625355579849
    rfl (by decide +kernel) (by decide +kernel) (by decide +kernel)
  obtain ⟨signature, hsign⟩ := hiff.mpr ⟨by decide, by decide +kernel⟩
  obtain ⟨s, v, hpromise⟩ := hkeeps signature hsign
  exact ⟨key, signature, s, v, rfl, hsign, hpromise⟩

end ClauseTx.Ecdsa
