import ClauseTx.Proofs.Curve.Cardinality
import ClauseTx.Proofs.Ecdsa.Verification

/-!
# A key and a nonce point have one signature

Recovery takes a nonce point from `r` and a parity.  Every point of the curve
is a multiple of the generator, so a key that is recovered comes with a
solution of the equation of the signature (`exists_solves_of_recoverPoint`).

The number `r` names two opposite nonce points, and for one key they ask for
two opposite numbers `s`.  Of these only one lies in the lower half.  So `r`
and the key determine `s` and the parity (`Solves.unique`), and nothing else is
accepted for them (`recoverPoint_inj`).
-/

namespace ClauseTx.Ecdsa

open CurveParameters Curve

variable {C : Curve} [Fact C.modulus.Prime] [Fact C.order.Prime] {G : C.weierstrass.Point}

omit [Fact C.modulus.Prime] [Fact C.order.Prime] in
/-- Verification refuses the upper half. -/
theorem s_low_of_checkNumbers {z : Nat} {σ : Numbers} {Q : Point}
    (h : checkNumbers C z σ Q = true) : σ.s ≤ C.order / 2 := by
  rw [checkNumbers] at h
  split at h
  · cases h
  · rename_i hhigh
    rw [Numbers.isHigh, decide_eq_true_eq] at hhigh
    omega

/-! ## What is recovered solves the equation -/

/-- A recovered key signed with some nonce, whose point has the first
coordinate `r` and the parity. -/
theorem exists_solves_of_recoverPoint [C.weierstrass.IsElliptic] (hG : C.IsGenerator G)
    (hC : C.Regular) (hall : ∀ A : C.weierstrass.Point, ∃ a : Nat, a • G = A) {z : Nat}
    {σ : Numbers} {isOdd : Bool} {Q : Point} (hrange : σ.inRange C = true)
    (h : recoverPoint C z σ isOdd = some Q) :
    ∃ key y a, Solves G z key σ σ.r y a ∧ C.Denotes Q (key • G) ∧ isOdd = decide (y % 2 = 1) := by
  obtain ⟨hcandidate, hcheck⟩ := recoverPoint_eq_some_iff.mp h
  have hlow := s_low_of_checkNumbers hcheck
  simp only [Numbers.inRange, Bool.and_eq_true, decide_eq_true_eq] at hrange
  obtain ⟨⟨⟨hrPos, hrLt⟩, hsPos⟩, -⟩ := hrange
  cases hlift : C.lift σ.r isOdd with
  | none =>
    rw [candidate, hlift] at hcandidate
    cases hcandidate
  | some R =>
    obtain ⟨y, rfl, hcurve, hparity⟩ :=
      (lift_eq_some_iff hC.modulus_mod_four hC.cubic_ne_zero).mp hlift
    obtain ⟨A, hA⟩ := onCurve_iff_denotes.mp hcurve
    obtain ⟨a, rfl⟩ := hall A
    obtain ⟨-, hdenotes⟩ := (candidate_eq_some_iff hG hlift hA).mp hcandidate
    obtain ⟨key, hkey⟩ := hall (recovered G (a • G) z σ)
    have hequation := (recovered_eq_iff hG (IsGenerator.natCast_ne_zero hrPos hrLt)).mp hkey.symm
    rw [← hkey] at hdenotes
    exact ⟨key, y, a, ⟨hA, (Nat.mod_eq_of_lt hrLt).symm, hrPos, hsPos, hlow, hequation⟩, hdenotes,
      hparity.symm⟩

/-! ## Solutions -/

omit [Fact C.modulus.Prime] in
/-- Two numbers of the lower half are not opposite. -/
theorem natCast_add_ne_zero {s₁ s₂ : Nat} (hodd : C.order ≠ 2) (hpos : 0 < s₁)
    (hlow₁ : s₁ ≤ C.order / 2) (hlow₂ : s₂ ≤ C.order / 2) :
    (s₁ : ZMod C.order) + s₂ ≠ 0 := by
  have horder := (Fact.out : C.order.Prime).eq_two_or_odd.resolve_left hodd
  rw [← Nat.cast_add]
  exact IsGenerator.natCast_ne_zero (by omega) (by omega)

/-- The key and the first coordinate of the nonce point determine the number
`s` and the second coordinate. -/
theorem Solves.unique (hG : C.IsGenerator G) {z key₁ key₂ x y₁ y₂ a₁ a₂ : Nat}
    {σ₁ σ₂ : Numbers} (h₁ : Solves G z key₁ σ₁ x y₁ a₁) (h₂ : Solves G z key₂ σ₂ x y₂ a₂)
    (hkey : key₁ • G = key₂ • G) : σ₁ = σ₂ ∧ y₁ = y₂ := by
  have hr : σ₁.r = σ₂.r := h₁.r_eq.trans h₂.r_eq.symm
  have hnonce : (a₂ : ZMod C.order) ≠ 0 := by
    rw [Ne, ← hG.nsmul_eq_zero_iff]
    exact h₂.denotes.ne_zero
  have hequation : (σ₁.s : ZMod C.order) * a₁ = σ₂.s * a₂ := by
    rw [h₁.equation, h₂.equation, hr, hG.nsmul_eq_nsmul_iff.mp hkey]
  rcases h₁.denotes.eq_or_eq_neg h₂.denotes with hsame | hopposite
  · -- One nonce point.
    rw [hG.nsmul_eq_nsmul_iff.mp hsame, mul_left_inj' hnonce] at hequation
    have hlow₁ := h₁.s_low
    have hlow₂ := h₂.s_low
    have hpos := h₁.s_pos
    have hs : σ₁.s = σ₂.s :=
      (natCast_eq_natCast_iff_of_lt (by omega) (by omega)).mp hequation
    have hpoint := h₁.denotes
    rw [hsame] at hpoint
    injection hpoint.point_eq h₂.denotes with _ hy
    refine ⟨?_, hy⟩
    cases σ₁
    cases σ₂
    rw [Numbers.mk.injEq]
    exact ⟨hr, hs⟩
  · -- Opposite nonce points ask for opposite numbers `s`.
    exfalso
    have hsum : a₁ • G + a₂ • G = 0 := by rw [hopposite, neg_add_cancel]
    rw [← add_nsmul, hG.nsmul_eq_zero_iff, Nat.cast_add] at hsum
    rw [eq_neg_of_add_eq_zero_left hsum, mul_neg, neg_eq_iff_add_eq_zero, ← add_mul] at hequation
    exact natCast_add_ne_zero hG.order_ne_two h₁.s_pos h₁.s_low h₂.s_low
      ((mul_eq_zero.mp hequation).resolve_right hnonce)

/-! ## What is accepted for a key -/

variable [C.weierstrass.IsElliptic]

/-- A key is recovered from `r` with one number `s` and one parity at most. -/
theorem recoverPoint_inj (hG : C.IsGenerator G) (hC : C.Regular)
    (hall : ∀ A : C.weierstrass.Point, ∃ a : Nat, a • G = A) {z : Nat} {σ₁ σ₂ : Numbers}
    {isOdd₁ isOdd₂ : Bool} {Q : Point} (hrange₁ : σ₁.inRange C = true)
    (hrange₂ : σ₂.inRange C = true) (hr : σ₁.r = σ₂.r)
    (h₁ : recoverPoint C z σ₁ isOdd₁ = some Q) (h₂ : recoverPoint C z σ₂ isOdd₂ = some Q) :
    σ₁ = σ₂ ∧ isOdd₁ = isOdd₂ := by
  obtain ⟨key₁, y₁, a₁, hsolves₁, hQ₁, rfl⟩ := exists_solves_of_recoverPoint hG hC hall hrange₁ h₁
  obtain ⟨key₂, y₂, a₂, hsolves₂, hQ₂, rfl⟩ := exists_solves_of_recoverPoint hG hC hall hrange₂ h₂
  rw [← hr] at hsolves₂
  obtain ⟨hσ, rfl⟩ := hsolves₁.unique hG hsolves₂ (hQ₁.eq hQ₂)
  exact ⟨hσ, rfl⟩

/-! ## A signature with an odd parity -/

omit [C.weierstrass.IsElliptic] in
/-- The key one signs a digest with the opposite of the generator as the nonce
point, and the number `s` is one. -/
theorem solves_opposite_generator (hG : C.IsGenerator G) {x y : Nat}
    (hgenerator : C.generator = .affine x y) (hpos : 0 < x) (hlt : x < C.order) :
    Solves G (C.order - 1 - x) 1 ⟨x, 1⟩ x (C.modulus - y) (C.order - 1) := by
  have htwo := (Fact.out : C.order.Prime).two_le
  have hdenotes : C.Denotes (.affine x y) (1 • G) := by
    rw [one_nsmul, ← hgenerator]
    exact hG.denotes
  refine ⟨denotes_opposite hG (by omega) hdenotes, (Nat.mod_eq_of_lt hlt).symm, hpos,
    Nat.one_pos, ?_, ?_⟩
  · show 1 ≤ C.order / 2
    omega
  · rw [Nat.cast_one, one_mul, mul_one, ← Nat.cast_add]
    congr 1
    show C.order - 1 = C.order - 1 - x + x
    omega

/-- The first coordinate of the generator of secp256k1. -/
def generatorX : Nat := 0x79BE667EF9DCBBAC55A06295CE870B07029BFCDB2DCE28D959F2815B16F81798

/-- A digest that is signed with the opposite of the generator. -/
def oddDigest : Blob 32 := Blob.ofNat 32 (secp256k1.order - 1 - generatorX)

/-- The two numbers of its signature, whose nonce point is odd. -/
def oddNumbers : Blob 32 × Blob 32 := (Blob.ofNat 32 generatorX, Blob.ofNat 32 1)

theorem verify_oddNumbers :
    verify secp256k1 oddDigest.bytes (oddNumbers.1.bytes ++ oddNumbers.2.bytes ++ [1])
      (compressed secp256k1.generator) = .ok true := by
  obtain ⟨G, hG⟩ := exists_isGenerator_secp256k1
  have hC := secp256k1_regular
  have hlt : generatorX < secp256k1.order := by decide
  have hsolves := solves_opposite_generator (x := generatorX) hG rfl (by decide) hlt
  have hdigest : oddDigest.bytes.toNat = secp256k1.order - 1 - generatorX :=
    Bytes.toNat_ofNat_of_lt (by decide)
  have hgenerator : secp256k1.Denotes secp256k1.generator (1 • G) := by
    rw [one_nsmul]
    exact hG.denotes
  have hcurve : secp256k1.onCurve secp256k1.generator = true :=
    onCurve_iff_denotes.mpr ⟨_, hgenerator⟩
  have hrecover : recoverPoint secp256k1 oddDigest.bytes.toNat ⟨generatorX, 1⟩ true =
      some secp256k1.generator := by
    rw [hdigest]
    refine (recoverPoint_of_solves hG hC.modulus_mod_four hsolves hlt hgenerator
      Point.noConfusion).mpr ?_
    decide
  have hsplit := splitSignature_append true (hsolves.inRange hlt) hC.order_le
  have hparity : parityByte true false = 1 := by decide
  rw [hparity] at hsplit
  have hdecode := decodePoint_compressed hC Point.noConfusion hcurve
  exact verify_eq_true_iff.mpr ⟨oddDigest.length_eq, _, true, _, hdecode, hsplit, hrecover⟩

end ClauseTx.Ecdsa
