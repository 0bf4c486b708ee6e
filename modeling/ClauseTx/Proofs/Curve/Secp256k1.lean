import Mathlib.Tactic.NormNum.Prime
import ClauseTx.Curve.Secp256k1
import ClauseTx.Proofs.Curve.Lift

/-!
# The curve secp256k1 is a curve over a field

The modulus and the order are prime by Lucas's test.  The test asks for the
prime factors of the number below, so the proofs climb from primes that are
small enough for trial division.

The curve is smooth, the generator lies on it, and the multiple by the order
is the point at infinity, so the generator has the order of the curve
(`exists_isGenerator_secp256k1`).  The cubic has no root, so points are found
by their first coordinates (`secp256k1_regular`).  Nothing is assumed of the
curve.
-/

namespace ClauseTx

open Curve

/-! ## The field -/

private theorem prime_39_digits : Nat.Prime 255515944373312847190720520512484175977 := by
  have hsmall : ∀ q ∈ [2, 2, 2, 7, 7, 11, 1627, 2657, 4423, 41201, 96557, 7240687, 107590001],
      Nat.Prime q := by
    norm_num
  exact prime_of_powers (a := 3) (by decide) hsmall (by decide) (by decide +kernel)
    (by decide +kernel)

private theorem prime_24_digits : Nat.Prime 132896956044521568488119 := by
  have h₁ : Nat.Prime 173378833005251801 := by
    have hsmall : ∀ q ∈ [2, 2, 2, 5, 5, 2621, 24809, 13331831], Nat.Prime q := by
      norm_num
    exact prime_of_powers (a := 6) (by decide) hsmall (by decide) (by decide +kernel)
      (by decide +kernel)
  have h₂ : Nat.Prime 22149492674086928081353 := by
    have hsmall : ∀ q ∈ [2, 2, 2, 3, 5323], Nat.Prime q := by
      norm_num
    exact prime_of_powers (a := 5) (by decide) (List.forall_mem_cons.mpr ⟨h₁, hsmall⟩)
      (by decide) (by decide +kernel) (by decide +kernel)
  have hsmall : ∀ q ∈ [2, 3], Nat.Prime q := by
    norm_num
  exact prime_of_powers (a := 6) (by decide) (List.forall_mem_cons.mpr ⟨h₂, hsmall⟩)
    (by decide) (by decide +kernel) (by decide +kernel)

theorem secp256k1Parameters_prime : secp256k1Parameters.modulus.Prime := by
  have h : Nat.Prime 205115282021455665897114700593932402728804164701536103180137503955397371 := by
    have hsmall : ∀ q ∈ [2, 3, 5, 29, 29, 31, 7723], Nat.Prime q := by
      norm_num
    exact prime_of_powers (a := 10) (by decide)
      (List.forall_mem_cons.mpr ⟨prime_24_digits,
        List.forall_mem_cons.mpr ⟨prime_39_digits, hsmall⟩⟩)
      (by decide) (by decide +kernel) (by decide +kernel)
  have hsmall : ∀ q ∈ [2, 3, 7, 13441], Nat.Prime q := by
    norm_num
  exact prime_of_powers (a := 3) (by decide) (List.forall_mem_cons.mpr ⟨h, hsmall⟩)
    (by decide) (by decide +kernel) (by decide +kernel)

instance : Fact secp256k1.modulus.Prime := ⟨secp256k1Parameters_prime⟩

instance : secp256k1.weierstrass.IsElliptic :=
  CurveParameters.isElliptic_of_not_dvd
    (Nat.not_dvd_of_pos_of_lt (by decide) (by decide))

theorem secp256k1_regular : secp256k1.Regular where
  modulus_mod_four := by decide
  modulus_le := by decide
  order_le := by decide
  cubic_ne_zero :=
    cubic_ne_zero_of_power (by decide) (by decide) (by decide) (by decide +kernel)

/-! ## The generator -/

private theorem prime_18_digits : Nat.Prime 107361793816595537 := by
  have hsmall : ∀ q ∈ [2, 2, 2, 2, 16699, 85831, 4681609], Nat.Prime q := by
    norm_num
  exact prime_of_powers (a := 3) (by decide) hsmall (by decide) (by decide +kernel)
    (by decide +kernel)

private theorem prime_21_digits : Nat.Prime 174723607534414371449 := by
  have hsmall : ∀ q ∈ [2, 2, 2, 17, 59, 4051, 120233, 44706919], Nat.Prime q := by
    norm_num
  exact prime_of_powers (a := 3) (by decide) hsmall (by decide) (by decide +kernel)
    (by decide +kernel)

private theorem prime_33_digits : Nat.Prime 341948486974166000522343609283189 := by
  have h₁ : Nat.Prime 297159362677 := by
    have hsmall : ∀ q ∈ [2, 2, 3, 3, 11, 461, 1627771], Nat.Prime q := by
      norm_num
    exact prime_of_powers (a := 2) (by decide) hsmall (by decide) (by decide +kernel)
      (by decide +kernel)
  have h₂ : Nat.Prime 545358713 := by
    have hsmall : ∀ q ∈ [2, 2, 2, 41, 59, 28181], Nat.Prime q := by
      norm_num
    exact prime_of_powers (a := 5) (by decide) hsmall (by decide) (by decide +kernel)
      (by decide +kernel)
  have h₃ : Nat.Prime 29047611873442575647497758179 := by
    have hsmall : ∀ q ∈ [2, 293, 305873], Nat.Prime q := by
      norm_num
    exact prime_of_powers (a := 2) (by decide)
      (List.forall_mem_cons.mpr ⟨h₁, List.forall_mem_cons.mpr ⟨h₂, hsmall⟩⟩)
      (by decide) (by decide +kernel) (by decide +kernel)
  have hsmall : ∀ q ∈ [2, 2, 3, 3, 3, 109], Nat.Prime q := by
    norm_num
  exact prime_of_powers (a := 2) (by decide) (List.forall_mem_cons.mpr ⟨h₃, hsmall⟩)
    (by decide) (by decide +kernel) (by decide +kernel)

theorem secp256k1Parameters_order_prime : secp256k1Parameters.order.Prime := by
  have hsmall : ∀ q ∈ [2, 2, 2, 2, 2, 2, 3, 149, 631], Nat.Prime q := by
    norm_num
  exact prime_of_powers (a := 7) (by decide)
    (List.forall_mem_cons.mpr ⟨prime_18_digits, List.forall_mem_cons.mpr ⟨prime_21_digits,
      List.forall_mem_cons.mpr ⟨prime_33_digits, hsmall⟩⟩⟩)
    (by decide) (by decide +kernel) (by decide +kernel)

instance : Fact secp256k1.order.Prime := ⟨secp256k1Parameters_order_prime⟩

theorem secp256k1_mul_order :
    secp256k1Parameters.mul secp256k1Parameters.order secp256k1Parameters.generator =
      .infinity := by
  decide +kernel

/-- The generator has the order of the curve. -/
theorem exists_isGenerator_secp256k1 : ∃ G, secp256k1.IsGenerator G :=
  Curve.exists_isGenerator (by decide +kernel) Point.noConfusion secp256k1_mul_order
    (by decide +kernel)

end ClauseTx
