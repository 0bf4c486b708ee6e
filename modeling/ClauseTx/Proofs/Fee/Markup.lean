import ClauseTx.Proofs.Fee.Price

/-!
# Markups

A coefficient asks for a markup on the base fee, in steps of one 255th.  This
module says how far the price at a coefficient is one.

* The markup as an amount of its own (`Fee.markup`).  It grows with the base
  fee, and where the product of the price fits, the price is the base fee and
  the markup on it (`Fee.price_legacy_eq_satAdd`).
* The bounds of a price (`Fee.price_legacy_bounds`).  The product is clamped
  before it is divided.  No price is therefore above twice the base fee, but
  from the base fee on whose 255-fold does not fit, the price is below the base
  fee (`Fee.price_legacy_below_largest_base`).
-/

namespace ClauseTx.Fee

section Markups

variable {coef : UInt8} {base other : UInt256}

/-! ## The markup as an amount -/

/-- The markup of a coefficient on a base fee, rounded down. -/
def markup (coef : UInt8) (base : UInt256) : UInt256 :=
  (base.satMul coef.toNat).div maxCoef

theorem markup_le_markup (h : base ≤ other) : markup coef base ≤ markup coef other :=
  UInt256.div_le_div (UInt256.satMul_le_satMul h _) _

/-- The product of a price is that of the base fee and that of the markup. -/
theorem products_fit (hfits : base.toNat * (255 + coef.toNat) < UInt256.size) :
    base.toNat * 255 + base.toNat * coef.toNat < UInt256.size := by
  rwa [← Nat.mul_add]

theorem toNat_markup (hfits : base.toNat * (255 + coef.toNat) < UInt256.size) :
    (markup coef base).toNat = base.toNat * coef.toNat / 255 := by
  have hproducts := products_fit hfits
  have hcoef : base.toNat * coef.toNat < UInt256.size := by omega
  rw [markup, maxCoef, UInt256.toNat_div, UInt256.toNat_satMul_of_lt hcoef]

/-- A price whose product fits leaves room for the base fee and the markup. -/
theorem toNat_satAdd_markup (hfits : base.toNat * (255 + coef.toNat) < UInt256.size) :
    (base.satAdd (markup coef base)).toNat = base.toNat + (markup coef base).toNat := by
  have hproducts := products_fit hfits
  apply UInt256.toNat_satAdd_of_lt
  rw [toNat_markup hfits]
  omega

/-- Rounding the price down is the same as rounding the markup down. -/
theorem price_legacy_eq_satAdd (hfits : base.toNat * (255 + coef.toNat) < UInt256.size) :
    (legacy coef).price base = base.satAdd (markup coef base) := by
  apply UInt256.ext
  rw [toNat_satAdd_markup hfits, toNat_markup hfits, toNat_price_legacy_of_fits hfits]
  calc base.toNat * (255 + coef.toNat) / 255
      = (base.toNat * coef.toNat + base.toNat * 255) / 255 := by rw [Nat.mul_add, Nat.add_comm]
    _ = base.toNat * coef.toNat / 255 + base.toNat := Nat.add_mul_div_right _ _ (by decide)
    _ = base.toNat + base.toNat * coef.toNat / 255 := Nat.add_comm ..

/-! ## The bounds of a price -/

/-- Clamping only lowers a price, so twice the base fee bounds it from above
everywhere. -/
theorem price_legacy_le_double (coef : UInt8) (base : UInt256) :
    ((legacy coef).price base).toNat ≤ 2 * base.toNat := by
  have hcoef : coef.toNat < 256 := coef.toNat_lt
  rw [price, maxCoef, UInt256.toNat_div, UInt256.toNat_satMul]
  apply Nat.div_le_of_le_mul
  calc min (base.toNat * (255 + coef.toNat)) (UInt256.size - 1)
      ≤ base.toNat * (255 + coef.toNat) := Nat.min_le_left ..
    _ ≤ base.toNat * 510 := Nat.mul_le_mul_left _ (by omega)
    _ = 255 * (2 * base.toNat) := by omega

/-- The price is not below the base fee exactly as long as 255 base fees
fit. -/
theorem le_price_legacy_iff (coef : UInt8) (base : UInt256) :
    base ≤ (legacy coef).price base ↔ 255 * base.toNat < UInt256.size := by
  have hmarkup : base.toNat * 255 ≤ base.toNat * (255 + coef.toNat) :=
    Nat.mul_le_mul_left _ (Nat.le_add_right ..)
  have hsize : 0 < UInt256.size := by decide
  rw [UInt256.le_iff, price, maxCoef, UInt256.toNat_div, UInt256.toNat_satMul,
    Nat.le_div_iff_mul_le (by decide)]
  omega

end Markups

/-- A legacy price is at most twice the base fee.  It is a markup as long as
255 base fees fit, and below the base fee from there on. -/
theorem price_legacy_bounds (coef : UInt8) (base : UInt256) :
    ((legacy coef).price base).toNat ≤ 2 * base.toNat ∧
      (base ≤ (legacy coef).price base ↔ 255 * base.toNat < UInt256.size) :=
  ⟨price_legacy_le_double coef base, le_price_legacy_iff coef base⟩

/-- At the largest base fee the price without a markup is one 255th of it. -/
theorem price_legacy_below_largest_base :
    ¬ ∀ (coef : UInt8) (base : UInt256),
      base ≤ (legacy coef).price base ∧ ((legacy coef).price base).toNat ≤ 2 * base.toNat := by
  intro hmarkup
  have hprice : (legacy 0).price UInt256.max < UInt256.max := by decide
  exact UInt256.not_le_of_lt hprice (hmarkup 0 UInt256.max).1

end ClauseTx.Fee
