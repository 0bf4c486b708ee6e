import Mathlib.GroupTheory.Perm.Cycle.Type
import Mathlib.GroupTheory.SpecificGroups.Cyclic.Basic
import ClauseTx.Proofs.Curve.Secp256k1

/-!
# Every point is a multiple of the generator

A first coordinate and a parity name at most one point, so a curve has at most
twice as many points as the field has members, and the one at infinity
(`card_le`).  The order of the generator divides that number.  If it is more
than a third of the bound, the curve has as many points as the order, or twice
as many.

Twice as many it cannot have.  There would be a point that is its own
opposite, and its second coordinate would be zero, where the cubic has no
root.  So the multiples of the generator are all the points
(`IsGenerator.exists_nsmul_eq`), and a point that is found from its first
coordinate is one of them.
-/

namespace ClauseTx

namespace Curve

open CurveParameters

variable {C : Curve} [Fact C.modulus.Prime]

/-! ## The number of points -/

/-- Every member of the group has coordinates. -/
theorem exists_denotes (A : C.weierstrass.Point) : ∃ P, C.Denotes P A := by
  cases A with
  | zero => exact ⟨.infinity, rfl⟩
  | some x y h =>
    have hx : ((x.val : Nat) : ZMod C.modulus) = x := ZMod.natCast_zmod_val x
    have hy : ((y.val : Nat) : ZMod C.modulus) = y := ZMod.natCast_zmod_val y
    refine ⟨.affine x.val y.val, ZMod.val_lt x, ZMod.val_lt y, ?_⟩
    simp only [hx, hy]
    exact ⟨h, trivial⟩

/-- A first coordinate and the parity of the second. -/
def code : C.weierstrass.Point → Option (ZMod C.modulus × Bool)
  | .zero => none
  | .some x y _ => some (x, decide (y.val % 2 = 1))

variable [C.weierstrass.IsElliptic]

theorem code_injective (hmodulus : C.modulus % 4 = 3) :
    Function.Injective (code (C := C)) := by
  -- A point is found again from its code.
  have hlift : ∀ {x y : ZMod C.modulus} {h : C.weierstrass.Nonsingular x y},
      C.lift x.val (decide (y.val % 2 = 1)) = some (.affine x.val y.val) := by
    intro x y h
    refine lift_of_onCurve hmodulus (onCurve_iff_denotes.mpr ?_)
    refine ⟨.some x y h, ZMod.val_lt x, ZMod.val_lt y, ?_⟩
    simp only [ZMod.natCast_zmod_val]
    exact ⟨h, trivial⟩
  intro A B hcode
  cases A with
  | zero =>
    cases B with
    | zero => rfl
    | some x y h => exact nomatch hcode
  | some x₁ y₁ h₁ =>
    cases B with
    | zero => exact nomatch hcode
    | some x₂ y₂ h₂ =>
      injection hcode with hpair
      injection hpair with hx hparity
      subst hx
      have h := hlift (h := h₁)
      rw [hparity, hlift (h := h₂)] at h
      injection h with h
      injection h with _ hy
      obtain rfl : y₁ = y₂ := ZMod.val_injective _ hy.symm
      rfl

theorem finite_point (hmodulus : C.modulus % 4 = 3) : Finite C.weierstrass.Point :=
  Finite.of_injective code (code_injective hmodulus)

/-- There are at most two points for each first coordinate, and the one at
infinity. -/
theorem card_le (hmodulus : C.modulus % 4 = 3) :
    Nat.card C.weierstrass.Point ≤ 2 * C.modulus + 1 := by
  have hle := Nat.card_le_card_of_injective code (code_injective (C := C) hmodulus)
  have hbool : Nat.card Bool = 2 := Nat.card_eq_fintype_card
  rw [Finite.card_option, Nat.card_prod, Nat.card_zmod, hbool] at hle
  omega

/-! ## Points that are their own opposite -/

/-- Where the cubic has no root, only the point at infinity is its own
opposite. -/
theorem eq_zero_of_two_nsmul (hC : C.Regular) {A : C.weierstrass.Point} (h : 2 • A = 0) :
    A = 0 := by
  have hmodulus := hC.modulus_mod_four
  rw [two_nsmul] at h
  obtain ⟨P, hP⟩ := exists_denotes A
  cases P with
  | infinity => exact hP
  | affine x y =>
    exfalso
    have hneg := hP.neg
    rw [← eq_neg_of_add_eq_zero_left h] at hneg
    have hpoint := hP.point_eq hneg
    injection hpoint with _ hy
    have hcurve := onCurve_iff_denotes.mpr ⟨A, hP⟩
    simp only [onCurve, Bool.and_eq_true, decide_eq_true_eq] at hcurve
    obtain ⟨⟨-, hlt⟩, hcubic⟩ := hcurve
    have hzero : y = 0 := by
      by_contra hne
      rw [Nat.mod_eq_of_lt (by omega)] at hy
      omega
    rw [hzero, Nat.zero_mul, Nat.zero_mod] at hcubic
    exact hC.cubic_ne_zero x hcubic.symm

/-! ## The order of the curve -/

variable [Fact C.order.Prime] {G : C.weierstrass.Point}

/-- The curve has the order of its generator if that is more than a third of
what it can have. -/
theorem IsGenerator.card_eq (hG : C.IsGenerator G) (hC : C.Regular)
    (hsize : 2 * C.modulus + 1 < 3 * C.order) : Nat.card C.weierstrass.Point = C.order := by
  have hfinite := finite_point hC.modulus_mod_four
  have hle := card_le hC.modulus_mod_four
  have hpos : 0 < Nat.card C.weierstrass.Point := Nat.card_pos
  have horder : addOrderOf G = C.order := addOrderOf_eq_prime hG.order_nsmul hG.ne_zero
  obtain ⟨k, hk⟩ : C.order ∣ Nat.card C.weierstrass.Point := by
    rw [← horder]
    exact addOrderOf_dvd_natCard G
  have hk₃ : k < 3 := by
    by_contra hge
    have := Nat.mul_le_mul_left C.order (Nat.le_of_not_lt hge)
    omega
  interval_cases k
  · omega
  · rw [hk, Nat.mul_one]
  · obtain ⟨A, hA⟩ := exists_prime_addOrderOf_dvd_card' 2 (Dvd.intro_left C.order hk.symm)
    have hdouble : 2 • A = 0 := by
      rw [← hA]
      exact addOrderOf_nsmul_eq_zero A
    rw [eq_zero_of_two_nsmul hC hdouble, addOrderOf_zero] at hA
    omega

/-- Every point is a multiple of the generator. -/
theorem IsGenerator.exists_nsmul_eq (hG : C.IsGenerator G) (hC : C.Regular)
    (hsize : 2 * C.modulus + 1 < 3 * C.order) (A : C.weierstrass.Point) : ∃ a : Nat, a • G = A :=
  (AddSubmonoid.mem_multiples_iff A G).mp
    (mem_multiples_of_prime_card (hG.card_eq hC hsize) hG.ne_zero)

end Curve

/-- Every point of secp256k1 is a multiple of the generator. -/
theorem secp256k1_exists_nsmul_eq {G : secp256k1.weierstrass.Point}
    (hG : secp256k1.IsGenerator G) (A : secp256k1.weierstrass.Point) : ∃ a : Nat, a • G = A :=
  hG.exists_nsmul_eq secp256k1_regular (by decide) A

end ClauseTx
