import ClauseTx.Fee.Basic
import ClauseTx.Proofs.Clamped
import Mathlib.Tactic.ByContra

/-!
# Prices and coefficients

Amounts stop at the top of their range, and quotients are rounded down.  This
module says what is left of a price after both.

* The price at a coefficient.  It is exact as long as its product fits
  (`Fee.toNat_price_legacy_of_fits`).
* The coefficient of a price.  `Fee.legacyOfDynamic` rounds a markup down, and
  `Fee.Brackets` says between which two prices the one that it is made from
  lies.  A markup so large that its product is clamped has the largest
  coefficient in any case (`Fee.toNat_coefOfMarkup`).
-/

namespace ClauseTx

namespace Fee

section Prices

variable {base : UInt256}

/-! ## The price at a coefficient -/

/-- The price at a coefficient is exact where its product fits. -/
theorem toNat_price_legacy_of_fits {coef : UInt8}
    (hfits : base.toNat * (255 + coef.toNat) < UInt256.size) :
    ((legacy coef).price base).toNat = base.toNat * (255 + coef.toNat) / 255 := by
  rw [price, maxCoef, UInt256.toNat_div, UInt256.toNat_satMul_of_lt hfits]

/-- At a base fee whose largest product fits, all prices are exact. -/
theorem toNat_price_legacy (hbase : 510 * base.toNat < UInt256.size) (coef : UInt8) :
    ((legacy coef).price base).toNat = base.toNat * (255 + coef.toNat) / 255 := by
  have hcoef : coef.toNat < 256 := coef.toNat_lt
  apply toNat_price_legacy_of_fits
  refine Nat.lt_of_le_of_lt ?_ hbase
  rw [Nat.mul_comm 510]
  exact Nat.mul_le_mul_left _ (by omega)

/-- Without a markup the price is the base fee. -/
theorem toNat_price_legacy_zero (hbase : 510 * base.toNat < UInt256.size) :
    ((legacy 0).price base).toNat = base.toNat := by
  rw [toNat_price_legacy hbase]
  exact Nat.mul_div_cancel _ (by decide)

/-! ## The coefficient of a price -/

/-- The coefficient of a markup is rounded down and at most 255.  Whether the
product is clamped before does not matter. -/
theorem toNat_coefOfMarkup (hbase : 255 * base.toNat < UInt256.size) (hpos : 0 < base.toNat)
    (markup : UInt256) :
    (coefOfMarkup markup base).toNat = min (markup.toNat * 255 / base.toNat) 255 := by
  have hcap : 255 ≤ (UInt256.size - 1) / base.toNat := by
    rw [Nat.le_div_iff_mul_le hpos]
    omega
  have hclamp : min (min (markup.toNat * 255) (UInt256.size - 1) / base.toNat) 255 =
      min (markup.toNat * 255 / base.toNat) 255 := min_clamped_div hcap
  have hlt : min (min (markup.toNat * 255) (UInt256.size - 1) / base.toNat) 255 < 256 := by omega
  rw [← hclamp, coefOfMarkup, UInt256.toNat_div, UInt256.toNat_satMul, maxCoef,
    UInt8.toNat_ofNat_of_lt' hlt]

/-- The markup of the coefficient is not above the markup that it is made
from. -/
theorem coefOfMarkup_mul_le (hbase : 255 * base.toNat < UInt256.size) (hpos : 0 < base.toNat)
    (markup : UInt256) : (coefOfMarkup markup base).toNat * base.toNat ≤ markup.toNat * 255 := by
  rw [toNat_coefOfMarkup hbase hpos]
  calc min (markup.toNat * 255 / base.toNat) 255 * base.toNat
      ≤ markup.toNat * 255 / base.toNat * base.toNat :=
        Nat.mul_le_mul_right _ (Nat.min_le_left ..)
    _ ≤ markup.toNat * 255 := Nat.div_mul_le_self ..

/-- The markup of the next coefficient, if there is one, is above it. -/
theorem lt_coefOfMarkup_succ_mul (hbase : 255 * base.toNat < UInt256.size)
    (hpos : 0 < base.toNat) (markup : UInt256) (hmax : coefOfMarkup markup base ≠ 255) :
    markup.toNat * 255 < ((coefOfMarkup markup base).toNat + 1) * base.toNat := by
  have hcoef := toNat_coefOfMarkup hbase hpos markup
  have hne : (coefOfMarkup markup base).toNat ≠ 255 :=
    fun h => hmax (UInt8.toNat_inj.mp h)
  have hquotient : (coefOfMarkup markup base).toNat = markup.toNat * 255 / base.toNat := by omega
  rw [hquotient, Nat.mul_comm (_ + 1)]
  exact Nat.lt_mul_div_succ _ hpos

/-- A coefficient tells a price at a base fee as well as coefficients can,
from below. -/
structure Brackets (base price : UInt256) (coef : UInt8) : Prop where
  /-- There is no coefficient for a price below the base fee. -/
  eq_zero : price ≤ base → coef = 0
  /-- A price that is at least the base fee is not exceeded. -/
  price_le : base ≤ price → (legacy coef).price base ≤ price
  /-- The next coefficient reaches the price. -/
  le_price_succ : base < price → coef = 255 ∨ price ≤ (legacy (coef + 1)).price base
  /-- Before rounding, less than one step is missing. -/
  lt_step : base ≤ price →
    coef = 255 ∨ 255 * price.toNat < base.toNat * (255 + coef.toNat) + base.toNat

/-- A price that is not above the base fee has no markup. -/
theorem brackets_zero {price : UInt256} (hbase : 510 * base.toNat < UInt256.size)
    (hpos : 0 < base.toNat) (hle : price ≤ base) : Brackets base price 0 where
  eq_zero _ := rfl
  price_le h := by
    rw [UInt256.le_iff, toNat_price_legacy_zero hbase]
    exact h
  le_price_succ h := absurd hle (UInt256.not_le_of_lt h)
  lt_step _ := by
    right
    have hprice : price.toNat ≤ base.toNat := hle
    show 255 * price.toNat < base.toNat * 255 + base.toNat
    omega

/-- A price above the base fee has the coefficient of its markup. -/
theorem brackets_coefOfMarkup {price : UInt256} (hbase : 510 * base.toNat < UInt256.size)
    (hpos : 0 < base.toNat) (hlt : base < price) :
    Brackets base price (coefOfMarkup (price.sub base) base) := by
  have hprice : base.toNat < price.toNat := hlt
  have hfits : 255 * base.toNat < UInt256.size := by omega
  have hlower := coefOfMarkup_mul_le hfits hpos (price.sub base)
  have hupper := lt_coefOfMarkup_succ_mul hfits hpos (price.sub base)
  rw [UInt256.toNat_sub] at hlower hupper
  generalize coefOfMarkup (price.sub base) base = coef at hlower hupper
  -- All that is left of the coefficient are the two bounds on its markup.
  have hstep (hmax : coef ≠ 255) :
      255 * price.toNat < base.toNat * (255 + coef.toNat) + base.toNat := by
    have hmarkup := hupper hmax
    rw [Nat.add_mul, Nat.mul_comm coef.toNat] at hmarkup
    rw [Nat.mul_add]
    omega
  refine ⟨fun hle => absurd hle (UInt256.not_le_of_lt hlt), fun _ => ?_, fun _ => ?_, fun _ => ?_⟩
  · rw [UInt256.le_iff, toNat_price_legacy hbase]
    apply Nat.div_le_of_le_mul
    rw [Nat.mul_add, Nat.mul_comm base.toNat coef.toNat]
    omega
  · rw [or_iff_not_imp_left]
    intro hmax
    have hne : coef.toNat ≠ 255 := fun h => hmax (UInt8.toNat_inj.mp h)
    have hsucc : (coef + 1).toNat = coef.toNat + 1 := by
      have hcoef : coef.toNat < 256 := coef.toNat_lt
      rw [UInt8.toNat_add]
      exact Nat.mod_eq_of_lt (by show coef.toNat + 1 < 256; omega)
    rw [UInt256.le_iff, toNat_price_legacy hbase, hsucc, Nat.le_div_iff_mul_le (by decide)]
    have hmissing := hstep hmax
    rw [← Nat.add_assoc, Nat.mul_add _ (255 + coef.toNat)]
    omega
  · rw [or_iff_not_imp_left]
    exact hstep

/-! ## Conversion -/

theorem checkBase_of_ne_zero (h : base ≠ 0) : checkBase base = .ok () :=
  if_neg h

theorem legacyOfDynamic_zero (maxFee maxPriority : UInt256) :
    legacyOfDynamic maxFee maxPriority 0 = .error (.illegalArgument .zeroBaseFee) := rfl

theorem legacyOfDynamic_of_tip_gt {maxFee maxPriority : UInt256} (h : base ≠ 0)
    (htip : maxFee < maxPriority) :
    legacyOfDynamic maxFee maxPriority base =
      .error (.illegalArgument (.tipAboveCap maxPriority maxFee)) := by
  rw [legacyOfDynamic, checkBase_of_ne_zero h, ofDynamic, if_neg (UInt256.not_le_of_lt htip)]
  rfl

/-- A conversion that is not refused reads the price at the base fee only. -/
theorem legacyOfDynamic_of_tip_le {maxFee maxPriority : UInt256} (h : base ≠ 0)
    (htip : maxPriority ≤ maxFee) :
    legacyOfDynamic maxFee maxPriority base =
      .ok (.legacy (if (dynamic maxFee maxPriority).price base ≤ base then 0
        else coefOfMarkup (((dynamic maxFee maxPriority).price base).sub base) base)) := by
  rw [legacyOfDynamic, checkBase_of_ne_zero h, ofDynamic, if_pos htip]
  rfl

/-- A conversion that is not refused tells the price of the dynamic fee. -/
theorem exists_legacyOfDynamic {maxFee maxPriority : UInt256}
    (hbase : 510 * base.toNat < UInt256.size) (h : base ≠ 0) (htip : maxPriority ≤ maxFee) :
    ∃ coef, legacyOfDynamic maxFee maxPriority base = .ok (.legacy coef) ∧
      Brackets base ((dynamic maxFee maxPriority).price base) coef := by
  have hpos := UInt256.pos_of_ne_zero h
  refine ⟨_, legacyOfDynamic_of_tip_le h htip, ?_⟩
  split
  · next hle => exact brackets_zero hbase hpos hle
  · next hgt => exact brackets_coefOfMarkup hbase hpos (Nat.lt_of_not_le hgt)

end Prices

/-- A dynamic fee becomes a legacy one unless the base fee is zero or the tip is
above the cap.  Its price at the base fee is then bracketed. -/
theorem legacyOfDynamic_brackets (maxFee maxPriority : UInt256) {base : UInt256}
    (hbase : 510 * base.toNat < UInt256.size) :
    ((∃ e, legacyOfDynamic maxFee maxPriority base = .error e) ↔
      base = 0 ∨ maxFee < maxPriority) ∧
    (¬ (base = 0 ∨ maxFee < maxPriority) →
      ∃ coef, legacyOfDynamic maxFee maxPriority base = .ok (.legacy coef) ∧
        Brackets base ((dynamic maxFee maxPriority).price base) coef) := by
  have haccepted (h : ¬ (base = 0 ∨ maxFee < maxPriority)) :
      ∃ coef, legacyOfDynamic maxFee maxPriority base = .ok (.legacy coef) ∧
        Brackets base ((dynamic maxFee maxPriority).price base) coef := by
    obtain ⟨hzero, htip⟩ := not_or.mp h
    exact exists_legacyOfDynamic hbase hzero (Nat.le_of_not_lt htip)
  refine ⟨⟨?_, ?_⟩, haccepted⟩
  · intro ⟨e, he⟩
    by_contra hnot
    obtain ⟨coef, hok, -⟩ := haccepted hnot
    rw [hok] at he
    cases he
  · intro h
    by_cases hzero : base = 0
    · subst hzero
      exact ⟨_, legacyOfDynamic_zero maxFee maxPriority⟩
    · exact ⟨_, legacyOfDynamic_of_tip_gt hzero (h.resolve_left hzero)⟩

/-- At a base fee of one the product of the largest markup is clamped. -/
theorem legacyOfDynamic_brackets_top :
    510 * (1 : UInt256).toNat < UInt256.size ∧
      ¬ ((1 : UInt256) = 0 ∨ UInt256.max < UInt256.max) ∧
      legacyOfDynamic UInt256.max UInt256.max 1 = .ok (.legacy 255) ∧
      Brackets 1 ((dynamic UInt256.max UInt256.max).price 1) 255 := by
  have hbase : 510 * (1 : UInt256).toNat < UInt256.size := by decide
  have hvalid : ¬ ((1 : UInt256) = 0 ∨ UInt256.max < UInt256.max) := by decide
  have hvalue : legacyOfDynamic UInt256.max UInt256.max 1 = .ok (.legacy 255) := rfl
  obtain ⟨coef, hok, hbrackets⟩ :=
    (legacyOfDynamic_brackets UInt256.max UInt256.max hbase).2 hvalid
  have hcoef : coef = 255 := by
    rw [hvalue] at hok
    cases hok
    rfl
  rw [hcoef] at hbrackets
  exact ⟨hbase, hvalid, hvalue, hbrackets⟩

end Fee

end ClauseTx
