import ClauseTx.Ecdsa.Signature
import ClauseTx.Proofs.Bytes
import ClauseTx.Proofs.Curve.Lift
import ClauseTx.Proofs.Curve.Order
import ClauseTx.Proofs.Outcome

/-!
# Signatures lead back to their keys

A signature with the numbers `r` and `s` solves one equation in the field of
the order: `s` times the nonce is the digest plus `r` times the key
(`Solves`).  Signing gives a solution, also after it has put `s` into the
lower half, since that takes the opposite of the nonce
(`exists_solves_of_signNumber`).

The equation is all that verification and recovery need.  Verification divides
by `s` and finds the nonce point (`checkNumbers_of_solves`), and recovery
divides by `r` and finds the key (`candidate_of_solves`).  Recovery takes the
nonce point from `r` and its parity, so the first coordinate of that point
must be below the order.
-/

namespace ClauseTx.Ecdsa

open CurveParameters Curve

variable {C : Curve} [Fact C.modulus.Prime] [Fact C.order.Prime] {G : C.weierstrass.Point}

/-- A signature of a digest by a key, with the nonce `a` and its point. -/
structure Solves (G : C.weierstrass.Point) (z key : Nat) (σ : Numbers) (x y a : Nat) : Prop where
  denotes : C.Denotes (.affine x y) (a • G)
  r_eq : σ.r = x % C.order
  r_pos : 0 < σ.r
  s_pos : 0 < σ.s
  s_low : σ.s ≤ C.order / 2
  equation : (σ.s : ZMod C.order) * a = z + σ.r * key

theorem Solves.natCast_r_ne_zero {z key x y a : Nat} {σ : Numbers}
    (h : Solves G z key σ x y a) : (σ.r : ZMod C.order) ≠ 0 := by
  refine IsGenerator.natCast_ne_zero h.r_pos ?_
  rw [h.r_eq]
  exact Nat.mod_lt _ (Fact.out : C.order.Prime).pos

theorem Solves.natCast_s_ne_zero {z key x y a : Nat} {σ : Numbers}
    (h : Solves G z key σ x y a) : (σ.s : ZMod C.order) ≠ 0 := by
  have hlow := h.s_low
  have hpos := h.s_pos
  exact IsGenerator.natCast_ne_zero hpos (by omega)

omit [Fact C.modulus.Prime] in
/-- The number `s` that signing computes, before it is put into the lower
half. -/
theorem natCast_signed {nonce : Nat} (hnonce : (nonce : ZMod C.order) ≠ 0) (z r key : Nat) :
    ((inverse C.order nonce * ((z % C.order + r * key) % C.order) % C.order : Nat) :
      ZMod C.order) * nonce = z + r * key := by
  rw [ZMod.natCast_mod, Nat.cast_mul, natCast_inverse hnonce, mul_assoc, mul_comm, mul_assoc,
    mul_inv_cancel₀ hnonce, mul_one, ZMod.natCast_mod, Nat.cast_add, Nat.cast_mul,
    ZMod.natCast_mod]

/-- The opposite nonce has the point with the other parity. -/
theorem denotes_opposite (hG : C.IsGenerator G) {x y nonce : Nat} (hlt : nonce < C.order)
    (h : C.Denotes (.affine x y) (nonce • G)) :
    C.Denotes (.affine x (C.modulus - y)) ((C.order - nonce) • G) := by
  have hy := hG.second_pos h
  have hyLt : y < C.modulus := h.right.left
  have hneg : C.neg (.affine x y) = .affine x (C.modulus - y) := by
    rw [CurveParameters.neg, Nat.mod_eq_of_lt (by omega)]
  have hopposite : -(nonce • G) = (C.order - nonce) • G := by
    rw [neg_eq_iff_add_eq_zero, ← add_nsmul, Nat.add_sub_cancel' hlt.le, hG.order_nsmul]
  have hdenotes := h.neg
  rw [hneg, hopposite] at hdenotes
  exact hdenotes

/-- Signing gives a solution whose point has the parity that is told, and the
first coordinate of the nonce point. -/
theorem exists_solves_of_signNumber (hG : C.IsGenerator G) (hodd : C.modulus % 2 = 1)
    {key nonce z : Nat} (hpos : 0 < nonce) (hlt : nonce < C.order) {σ : Numbers}
    {isOdd isBeyond : Bool} (h : signNumber C key nonce z = some (σ, isOdd, isBeyond)) :
    ∃ x y a, Solves G z key σ x y a ∧ isOdd = decide (y % 2 = 1) ∧
      isBeyond = decide (C.order ≤ x) ∧ ∃ y₀, C.mulGenerator nonce = .affine x y₀ := by
  have horder : 0 < C.order := by omega
  have hpoint := hG.denotes.mulGenerator hlt
  rw [signNumber] at h
  split at h
  · cases h
  rename_i x y hR
  rw [hR] at hpoint
  dsimp only at h
  have hs := natCast_signed (IsGenerator.natCast_ne_zero hpos hlt) z (x % C.order) key
  have hslt := Nat.mod_lt (inverse C.order nonce * ((z % C.order + x % C.order * key) % C.order))
    horder
  generalize inverse C.order nonce * ((z % C.order + x % C.order * key) % C.order) % C.order = s
    at h hs hslt
  split at h
  · cases h
  rename_i hnonzero
  simp only [Bool.or_eq_true, decide_eq_true_eq, not_or] at hnonzero
  obtain ⟨hr, hs₀⟩ := hnonzero
  split at h
  · -- The upper half: the opposite nonce has the opposite `s`.
    rename_i hhigh
    simp only [Option.some.injEq, Prod.mk.injEq] at h
    obtain ⟨rfl, rfl, rfl⟩ := h
    have hyLt : y < C.modulus := hpoint.right.left
    refine ⟨x, C.modulus - y, C.order - nonce, ⟨denotes_opposite hG hlt hpoint, rfl,
      Nat.pos_of_ne_zero hr, Nat.sub_pos_of_lt hslt, ?_, ?_⟩, ?_, rfl, y, hR⟩
    · show C.order - s ≤ C.order / 2
      omega
    · rw [← hs, Nat.cast_sub hslt.le, Nat.cast_sub hlt.le, ZMod.natCast_self, zero_sub, zero_sub,
        neg_mul_neg]
    · rw [decide_eq_decide]
      omega
  · rename_i hlow
    simp only [Option.some.injEq, Prod.mk.injEq] at h
    obtain ⟨rfl, rfl, rfl⟩ := h
    exact ⟨x, y, nonce, ⟨hpoint, rfl, Nat.pos_of_ne_zero hr, Nat.pos_of_ne_zero hs₀,
      Nat.le_of_not_lt hlow, hs⟩, rfl, rfl, y, hR⟩

/-! ## Verification -/

/-- A solution is accepted for the key. -/
theorem checkNumbers_of_solves (hG : C.IsGenerator G) {z key x y a : Nat} {σ : Numbers}
    {Q : Point} (h : Solves G z key σ x y a) (hQ : C.Denotes Q (key • G)) :
    checkNumbers C z σ Q = true := by
  have horder : 0 < C.order := (Fact.out : C.order.Prime).pos
  have hlow : σ.isHigh C = false := by
    rw [Numbers.isHigh, decide_eq_false_iff_not]
    have hle := h.s_low
    omega
  have hs := h.natCast_s_ne_zero
  rw [checkNumbers, hlow]
  simp only [Bool.false_eq_true, if_false]
  have hsum := (hG.denotes.mulGenerator
    (Nat.mod_lt (inverse C.order σ.s * (z % C.order)) horder)).add
    (hQ.mul (inverse C.order σ.s * σ.r % C.order))
  have hnonce : (inverse C.order σ.s * (z % C.order) % C.order) • G +
      (inverse C.order σ.s * σ.r % C.order) • key • G = a • G := by
    rw [← mul_nsmul', ← add_nsmul, hG.nsmul_eq_nsmul_iff]
    simp only [Nat.cast_add, Nat.cast_mul, ZMod.natCast_mod]
    rw [natCast_inverse hs, mul_assoc, ← mul_add, ← h.equation, ← mul_assoc, inv_mul_cancel₀ hs,
      one_mul]
  rw [hnonce] at hsum
  rw [hsum.point_eq h.denotes]
  exact decide_eq_true h.r_eq.symm

/-! ## Recovery -/

/-- What recovery computes, where the nonce point stands for `A`. -/
def recovered (G A : C.weierstrass.Point) (z : Nat) (σ : Numbers) : C.weierstrass.Point :=
  ((C.order - inverse C.order σ.r * (z % C.order) % C.order) % C.order) • G +
    (inverse C.order σ.r * σ.s % C.order) • A

/-- A candidate stands for that, and is not at infinity. -/
theorem candidate_eq_some_iff (hG : C.IsGenerator G) {z : Nat} {σ : Numbers} {isOdd : Bool}
    {R Q : Point} {A : C.weierstrass.Point} (hlift : C.lift σ.r isOdd = some R)
    (hR : C.Denotes R A) :
    candidate C z σ isOdd = some Q ↔ Q ≠ .infinity ∧ C.Denotes Q (recovered G A z σ) := by
  have horder : 0 < C.order := (Fact.out : C.order.Prime).pos
  have hsum : C.Denotes _ (recovered G A z σ) := (hG.denotes.mulGenerator
    (Nat.mod_lt (C.order - inverse C.order σ.r * (z % C.order) % C.order) horder)).add
    (hR.mul (inverse C.order σ.r * σ.s % C.order))
  rw [candidate, hlift]
  dsimp only
  split
  · rename_i hinfinity
    rw [hinfinity] at hsum
    constructor
    · intro h
      cases h
    · intro h
      exact absurd (h.right.point_eq hsum) h.left
  · rename_i hne
    constructor
    · intro h
      injection h with h
      rw [← h]
      exact ⟨hne, hsum⟩
    · intro h
      rw [hsum.point_eq h.right]

/-- It is the key for which the equation holds. -/
theorem recovered_eq_iff (hG : C.IsGenerator G) {z key a : Nat} {σ : Numbers}
    (hr : (σ.r : ZMod C.order) ≠ 0) :
    recovered G (a • G) z σ = key • G ↔ (σ.s : ZMod C.order) * a = z + σ.r * key := by
  have horder : 0 < C.order := (Fact.out : C.order.Prime).pos
  have hopposite :
      ((C.order - inverse C.order σ.r * (z % C.order) % C.order) % C.order : Nat) =
        -((σ.r : ZMod C.order)⁻¹ * z) := by
    rw [ZMod.natCast_mod, Nat.cast_sub (Nat.mod_lt _ horder).le, ZMod.natCast_self, zero_sub,
      ZMod.natCast_mod, Nat.cast_mul, natCast_inverse hr, ZMod.natCast_mod]
  rw [recovered, ← mul_nsmul', ← add_nsmul, hG.nsmul_eq_nsmul_iff, Nat.cast_add, hopposite,
    Nat.cast_mul, ZMod.natCast_mod, Nat.cast_mul, natCast_inverse hr, mul_assoc,
    neg_add_eq_iff_eq_add, ← mul_right_inj' hr, mul_add, mul_inv_cancel_left₀ hr,
    mul_inv_cancel_left₀ hr]

/-- From the nonce point of a solution it is the key. -/
theorem Solves.recovered_eq (hG : C.IsGenerator G) {z key x y a : Nat} {σ : Numbers}
    (h : Solves G z key σ x y a) : recovered G (a • G) z σ = key • G :=
  (recovered_eq_iff hG h.natCast_r_ne_zero).mpr h.equation

/-- From the opposite of the nonce point it is not. -/
theorem Solves.recovered_neg_ne (hG : C.IsGenerator G) {z key x y a : Nat} {σ : Numbers}
    (h : Solves G z key σ x y a) : recovered G (-(a • G)) z σ ≠ key • G := by
  intro heq
  have ha : (a : ZMod C.order) ≠ 0 := by
    rw [Ne, ← hG.nsmul_eq_zero_iff]
    exact h.denotes.ne_zero
  rw [← h.recovered_eq hG, recovered, recovered, add_right_inj, neg_nsmul, neg_eq_iff_add_eq_zero,
    ← mul_nsmul', ← add_nsmul, hG.nsmul_eq_zero_iff, Nat.cast_add] at heq
  have hproduct := hG.eq_zero_of_add_self heq
  rw [Nat.cast_mul, ZMod.natCast_mod, Nat.cast_mul, natCast_inverse h.natCast_r_ne_zero] at hproduct
  exact mul_ne_zero (mul_ne_zero (inv_ne_zero h.natCast_r_ne_zero) h.natCast_s_ne_zero) ha hproduct

omit [Fact C.modulus.Prime] [Fact C.order.Prime] in
/-- A key that is recovered is a candidate for which the signature is good. -/
theorem recoverPoint_eq_some_iff {z : Nat} {σ : Numbers} {isOdd : Bool} {Q : Point} :
    recoverPoint C z σ isOdd = some Q ↔
      candidate C z σ isOdd = some Q ∧ checkNumbers C z σ Q = true := by
  rw [recoverPoint]
  cases candidate C z σ isOdd with
  | none => simp
  | some P =>
    show (if checkNumbers C z σ P then some P else none) = some Q ↔ _
    by_cases hcheck : checkNumbers C z σ P = true
    · rw [if_pos hcheck]
      constructor
      · intro h
        injection h with hP
        exact ⟨by rw [hP], by rwa [← hP]⟩
      · intro h
        exact h.left
    · rw [if_neg hcheck]
      constructor
      · intro h
        cases h
      · intro h
        obtain ⟨hP, hQ⟩ := h
        injection hP with hP
        rw [hP] at hcheck
        exact absurd hQ hcheck

/-- The parity of the nonce point leads back to the key of a solution, and the
other parity does not.  The nonce point must be below the order, to be found
from `r`. -/
theorem recoverPoint_of_solves (hG : C.IsGenerator G) (hmodulus : C.modulus % 4 = 3)
    [C.weierstrass.IsElliptic] {z key x y a : Nat} {σ : Numbers} {isOdd : Bool} {Q : Point}
    (h : Solves G z key σ x y a) (hx : x < C.order) (hQ : C.Denotes Q (key • G))
    (hne : Q ≠ .infinity) :
    recoverPoint C z σ isOdd = some Q ↔ isOdd = decide (y % 2 = 1) := by
  have hr : σ.r = x := by rw [h.r_eq, Nat.mod_eq_of_lt hx]
  have hcurve : C.onCurve (.affine x y) = true := onCurve_iff_denotes.mpr ⟨_, h.denotes⟩
  have hy := hG.second_pos h.denotes
  have hyLt : y < C.modulus := h.denotes.right.left
  rw [recoverPoint_eq_some_iff]
  constructor
  · intro hrecover
    by_contra hparity
    -- The other parity finds the opposite point.
    have hneg := h.denotes.neg
    rw [CurveParameters.neg, Nat.mod_eq_of_lt (by omega)] at hneg
    have hopposite : isOdd = decide ((C.modulus - y) % 2 = 1) := by
      cases isOdd <;> simp at hparity ⊢ <;> omega
    have hlift : C.lift σ.r isOdd = some (.affine x (C.modulus - y)) := by
      rw [hr, hopposite]
      exact lift_of_onCurve hmodulus (onCurve_opposite hy hcurve)
    obtain ⟨-, hdenotes⟩ := (candidate_eq_some_iff hG hlift hneg).mp hrecover.left
    exact h.recovered_neg_ne hG (hdenotes.eq hQ)
  · intro hparity
    have hlift : C.lift σ.r isOdd = some (.affine x y) := by
      rw [hr, hparity]
      exact lift_of_onCurve hmodulus hcurve
    refine ⟨(candidate_eq_some_iff hG hlift h.denotes).mpr ⟨hne, ?_⟩,
      checkNumbers_of_solves hG h hQ⟩
    rw [h.recovered_eq hG]
    exact hQ

end ClauseTx.Ecdsa
