import ClauseTx.Proofs.Curve.Group

/-!
# Multiples of a generator of prime order

If the generator has prime order, then its multiples are the numbers modulo
that order (`IsGenerator.nsmul_eq_nsmul_iff`).  So an equation between
multiples of the generator is an equation in a field.

If the order is not two, no multiple is its own opposite, and the second
coordinate of a multiple is never zero.
-/

namespace ClauseTx.Curve

open CurveParameters

variable {C : Curve} [Fact C.modulus.Prime] [Fact C.order.Prime] {G : C.weierstrass.Point}

/-- The generator stands for a member of the order of the curve. -/
structure IsGenerator (C : Curve) [Fact C.modulus.Prime] (G : C.weierstrass.Point) : Prop where
  denotes : C.Denotes C.generator G
  ne_zero : G ≠ 0
  order_nsmul : C.order • G = 0
  order_ne_two : C.order ≠ 2

namespace IsGenerator

theorem nsmul_eq_nsmul_iff (hG : C.IsGenerator G) {a b : Nat} :
    a • G = b • G ↔ (a : ZMod C.order) = b := by
  have horder : addOrderOf G = C.order := addOrderOf_eq_prime hG.order_nsmul hG.ne_zero
  have hfinite : IsOfFinAddOrder G := by
    rw [← addOrderOf_pos_iff, horder]
    exact (Fact.out : C.order.Prime).pos
  rw [hfinite.nsmul_eq_nsmul_iff_modEq, horder, ZMod.natCast_eq_natCast_iff]

theorem nsmul_eq_zero_iff (hG : C.IsGenerator G) {a : Nat} :
    a • G = 0 ↔ (a : ZMod C.order) = 0 := by
  rw [← zero_nsmul G, hG.nsmul_eq_nsmul_iff, Nat.cast_zero]

/-- A factor below the order, other than zero, is not zero in the field. -/
theorem natCast_ne_zero {m a : Nat} (hpos : 0 < a) (hlt : a < m) : (a : ZMod m) ≠ 0 := by
  rw [Ne, ZMod.natCast_eq_zero_iff]
  exact Nat.not_dvd_of_pos_of_lt hpos hlt

/-- The field has two numbers that are their own opposite only if it is the
smallest. -/
theorem eq_zero_of_add_self (hG : C.IsGenerator G) {a : ZMod C.order} (h : a + a = 0) : a = 0 := by
  have htwo : (2 : ZMod C.order) ≠ 0 := by
    have hle := (Fact.out : C.order.Prime).two_le
    have hne := hG.order_ne_two
    exact_mod_cast natCast_ne_zero (m := C.order) (a := 2) (by decide) (by omega)
  rw [← two_mul] at h
  exact (mul_eq_zero.mp h).resolve_left htwo

omit [Fact C.order.Prime] in
/-- The table of multiples of the generator gives the multiples. -/
theorem mulGenerator_eq_mul (hG : C.IsGenerator G) {k : Nat} (hk : k < C.order) :
    C.mulGenerator k = C.mul k C.generator :=
  (hG.denotes.mulGenerator hk).point_eq (hG.denotes.mul k)

/-- No multiple lies where the curve is its own opposite. -/
theorem second_pos (hG : C.IsGenerator G) {x y a : Nat}
    (h : C.Denotes (.affine x y) (a • G)) : 0 < y := by
  rw [Nat.pos_iff_ne_zero]
  intro hzero
  subst hzero
  have hneg := h.neg
  have hsame : C.neg (.affine x 0) = .affine x 0 := by
    rw [CurveParameters.neg, Nat.sub_zero, Nat.mod_self]
  rw [hsame] at hneg
  have hdouble : a • G + a • G = 0 := by
    nth_rewrite 1 [h.eq hneg]
    exact neg_add_cancel _
  rw [← add_nsmul, hG.nsmul_eq_zero_iff, Nat.cast_add] at hdouble
  exact h.ne_zero (hG.nsmul_eq_zero_iff.mpr (hG.eq_zero_of_add_self hdouble))

end IsGenerator

omit [Fact C.order.Prime] in
/-- The generator is checked by calculation. -/
theorem exists_isGenerator [C.weierstrass.IsElliptic] (hcurve : C.onCurve C.generator = true)
    (hne : C.generator ≠ .infinity) (horder : C.mul C.order C.generator = .infinity)
    (htwo : C.order ≠ 2) : ∃ G, C.IsGenerator G := by
  obtain ⟨G, hG⟩ := onCurve_iff_denotes.mp hcurve
  refine ⟨G, hG, ?_, ?_, htwo⟩
  · cases hgenerator : C.generator with
    | infinity => exact absurd hgenerator hne
    | affine x y =>
      rw [hgenerator] at hG
      exact hG.ne_zero
  · have hmul := hG.mul C.order
    rw [horder] at hmul
    exact hmul

end ClauseTx.Curve
