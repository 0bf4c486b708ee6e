import ClauseTx.Proofs.Fee.Markup
import Mathlib.Algebra.Order.Floor.Div

/-!
# From a coefficient to amounts and back

A dynamic fee can stand for a coefficient at one base fee only: its cap and its
tip are amounts, while a markup grows with the base fee.

* Prices.  The dynamic fee tips the markup and is capped at the base fee and
  the markup (`Fee.ofMarkup`).  Its price is that of the coefficient at this base
  fee, not below it at lower ones and not above it at higher ones
  (`Fee.StandsFor`).
* The way back.  The tip is rounded down to an amount, and the coefficient of
  the tip to a step.  What is missing after both is `Fee.lostSteps`.
-/

namespace ClauseTx

/-- Dividing a product less a rest loses the rest, rounded up. -/
theorem sub_div_add_ceilDiv {d c r : Nat} (hd : 0 < d) (hr : r ≤ d * c) :
    (d * c - r) / d + r ⌈/⌉ d = c := by
  rw [Nat.ceilDiv_eq_add_pred_div]
  cases r with
  | zero =>
    have hpred : (0 + d - 1) / d = 0 := Nat.div_eq_of_lt (by omega)
    rw [hpred, Nat.sub_zero, Nat.mul_div_cancel_left _ hd, Nat.add_zero]
  | succ x =>
    have hx : x / d < c := Nat.div_lt_of_lt_mul hr
    have hround : (x + 1 + d - 1) / d = x / d + 1 := by
      rw [Nat.add_right_comm, Nat.add_sub_cancel, Nat.add_div_right _ hd]
    rw [Nat.mul_sub_div _ _ _ hr, hround]
    omega

namespace Fee

section Conversion

variable {coef : UInt8} {base other : UInt256}

/-! ## The dynamic fee of a coefficient -/

theorem dynamicOfLegacy_zero (coef : UInt8) :
    dynamicOfLegacy coef 0 = .error (.illegalArgument .zeroBaseFee) := rfl

/-- The dynamic fee that tips the markup of a coefficient, and is capped at the
base fee and the markup. -/
def ofMarkup (coef : UInt8) (base : UInt256) : Fee :=
  .dynamic (base.satAdd (markup coef base)) (markup coef base)

/-- The cap holds where the markup has grown, the tip where it has shrunk. -/
theorem price_ofMarkup (coef : UInt8) (base other : UInt256) :
    (ofMarkup coef base).price other =
      min (base.satAdd (markup coef base)) (other.satAdd (markup coef base)) := rfl

/-- A cap that is clamped is still not below the tip. -/
theorem valid_ofMarkup (coef : UInt8) (base : UInt256) : (ofMarkup coef base).Valid :=
  UInt256.le_satAdd_right ..

theorem dynamicOfLegacy_of_ne_zero (coef : UInt8) (h : base ≠ 0) :
    dynamicOfLegacy coef base = .ok (ofMarkup coef base) := by
  rw [dynamicOfLegacy, checkBase_of_ne_zero h, ← markup, ofDynamic]
  exact if_pos (valid_ofMarkup coef base)

theorem dynamicOfLegacy_eq_error_iff {e : Error} :
    dynamicOfLegacy coef base = .error e ↔
      base = 0 ∧ e = .illegalArgument .zeroBaseFee := by
  by_cases h : base = 0
  · subst h
    rw [dynamicOfLegacy_zero, Except.error.injEq]
    exact ⟨fun he => ⟨rfl, he.symm⟩, fun he => he.2.symm⟩
  · rw [dynamicOfLegacy_of_ne_zero coef h]
    exact ⟨nofun, fun he => absurd he.1 h⟩

/-- A fee takes the place of a coefficient at a base fee. -/
structure StandsFor (fee : Fee) (coef : UInt8) (base : UInt256) : Prop where
  /-- The tip is not above the cap. -/
  valid : fee.Valid
  /-- At the base fee both have the same price. -/
  price_eq : base.toNat * (255 + coef.toNat) < UInt256.size →
    fee.price base = (legacy coef).price base
  /-- Below it the fee is not cheaper than the coefficient. -/
  le_price (other : UInt256) : other.toNat * (255 + coef.toNat) < UInt256.size →
    other ≤ base → (legacy coef).price other ≤ fee.price other
  /-- Above it the fee is not dearer than the coefficient. -/
  price_le (other : UInt256) : other.toNat * (255 + coef.toNat) < UInt256.size →
    base ≤ other → fee.price other ≤ (legacy coef).price other

/-- At a lower base fee the markup is smaller than the tip. -/
theorem le_price_ofMarkup (hfits : other.toNat * (255 + coef.toNat) < UInt256.size)
    (hle : other ≤ base) : (legacy coef).price other ≤ (ofMarkup coef base).price other := by
  have hmarkup : markup coef other ≤ markup coef base := markup_le_markup hle
  rw [price_legacy_eq_satAdd hfits, price_ofMarkup]
  exact UInt256.le_min (UInt256.satAdd_le_satAdd hle hmarkup)
    (UInt256.satAdd_le_satAdd (Nat.le_refl _) hmarkup)

/-- At a higher base fee the markup is larger than the tip. -/
theorem price_ofMarkup_le (hfits : other.toNat * (255 + coef.toNat) < UInt256.size)
    (hle : base ≤ other) : (ofMarkup coef base).price other ≤ (legacy coef).price other := by
  have hmarkup : markup coef base ≤ markup coef other := markup_le_markup hle
  rw [price_legacy_eq_satAdd hfits, price_ofMarkup]
  exact Nat.le_trans (UInt256.min_le_right ..)
    (UInt256.satAdd_le_satAdd (Nat.le_refl _) hmarkup)

/-- The two bounds meet at the base fee that the dynamic fee was made at. -/
theorem standsFor_ofMarkup (coef : UInt8) (base : UInt256) :
    (ofMarkup coef base).StandsFor coef base where
  valid := valid_ofMarkup coef base
  price_eq hfits := UInt256.le_antisymm (price_ofMarkup_le hfits (Nat.le_refl _))
    (le_price_ofMarkup hfits (Nat.le_refl _))
  le_price _ := le_price_ofMarkup
  price_le _ := price_ofMarkup_le

/-! ## The way back -/

/-- How many steps a coefficient loses on its way to a dynamic fee and back. -/
def lostSteps (coef : UInt8) (base : UInt256) : Nat :=
  (base.toNat * coef.toNat % 255) ⌈/⌉ base.toNat

theorem lostSteps_eq_zero_iff (hpos : 0 < base.toNat) :
    lostSteps coef base = 0 ↔ 255 ∣ base.toNat * coef.toNat := by
  rw [lostSteps, Nat.dvd_iff_mod_eq_zero, ← Nat.le_zero, ceilDiv_le_iff_le_mul hpos,
    Nat.mul_zero, Nat.le_zero]

/-- A remainder of 255 is at most one step, once a step is that large. -/
theorem lostSteps_le_one (coef : UInt8) (hbase : 255 ≤ base.toNat) :
    lostSteps coef base ≤ 1 := by
  rw [lostSteps, ceilDiv_le_iff_le_mul (by omega), Nat.mul_one]
  omega

/-- The coefficient of a markup that was rounded down. -/
theorem toNat_coefOfMarkup_markup (hpos : 0 < base.toNat)
    (hfits : base.toNat * (255 + coef.toNat) < UInt256.size) :
    (coefOfMarkup (markup coef base) base).toNat + lostSteps coef base = coef.toNat := by
  have hcoef : coef.toNat < 256 := coef.toNat_lt
  have hproducts := products_fit hfits
  have hbase : 255 * base.toNat < UInt256.size := by omega
  have hrest : base.toNat * coef.toNat % 255 ≤ base.toNat * coef.toNat := Nat.mod_le ..
  have hround : base.toNat * coef.toNat / 255 * 255 =
      base.toNat * coef.toNat - base.toNat * coef.toNat % 255 := by omega
  have hloss := sub_div_add_ceilDiv hpos hrest
  rw [toNat_coefOfMarkup hbase hpos, toNat_markup hfits, hround, lostSteps]
  omega

theorem coefOfMarkup_zero (base : UInt256) : coefOfMarkup 0 base = 0 := by
  have hzero : (0 : UInt256).toNat = 0 := UInt256.eq_zero_iff.mp rfl
  rw [coefOfMarkup, UInt256.toNat_div, UInt256.toNat_satMul, hzero, Nat.zero_mul, Nat.zero_min,
    Nat.zero_div]
  rfl

/-- On the way back a dynamic fee is read by its price, from which the base fee
is taken off again. -/
theorem legacyOfDynamic_ofMarkup (h : base ≠ 0)
    (hfits : base.toNat * (255 + coef.toNat) < UInt256.size) :
    legacyOfDynamic (base.satAdd (markup coef base)) (markup coef base) base =
      .ok (.legacy (coefOfMarkup (markup coef base) base)) := by
  have hprice : (ofMarkup coef base).price base = base.satAdd (markup coef base) := by
    rw [(standsFor_ofMarkup coef base).price_eq hfits, price_legacy_eq_satAdd hfits]
  have hsub : (base.satAdd (markup coef base)).sub base = markup coef base := by
    apply UInt256.ext
    rw [UInt256.toNat_sub, toNat_satAdd_markup hfits, Nat.add_sub_cancel_left]
  rw [legacyOfDynamic_of_tip_le h (valid_ofMarkup coef base), ← ofMarkup, hprice, hsub]
  -- Only a markup of zero leaves the price at the base fee.
  split
  · next hle =>
    have hzero : markup coef base = 0 := by
      rw [UInt256.le_iff, toNat_satAdd_markup hfits] at hle
      exact UInt256.eq_zero_iff.mpr (by omega)
    rw [hzero, coefOfMarkup_zero]
  · rfl

end Conversion

/-- A coefficient becomes a dynamic fee at every base fee but zero, also where
products are clamped.  The dynamic fee keeps the price as far as amounts can. -/
theorem dynamicOfLegacy_standsFor (coef : UInt8) (base : UInt256) :
    (∀ e, dynamicOfLegacy coef base = .error e ↔
      base = 0 ∧ e = .illegalArgument .zeroBaseFee) ∧
    (base ≠ 0 → ∃ maxFee tip, dynamicOfLegacy coef base = .ok (.dynamic maxFee tip) ∧
      (dynamic maxFee tip).StandsFor coef base) :=
  ⟨fun _ => dynamicOfLegacy_eq_error_iff,
    fun h => ⟨_, _, dynamicOfLegacy_of_ne_zero coef h, standsFor_ofMarkup coef base⟩⟩

/-- The markup of 501.96 is rounded down.  At other base fees the prices are
apart. -/
theorem dynamicOfLegacy_standsFor_thousand :
    (1000 : UInt256) ≠ 0 ∧ 1000 * (255 + 128) < UInt256.size ∧
      dynamicOfLegacy 128 1000 = .ok (.dynamic 1501 501) ∧
      (dynamic 1501 501).StandsFor 128 1000 ∧
      (dynamic 1501 501).price 1000 = (legacy 128).price 1000 ∧
      (legacy 128).price 10 ≤ (dynamic 1501 501).price 10 ∧
      (dynamic 1501 501).price 2000 ≤ (legacy 128).price 2000 := by
  have hbase : (1000 : UInt256) ≠ 0 := by decide
  have hvalue : dynamicOfLegacy 128 1000 = .ok (.dynamic 1501 501) := rfl
  obtain ⟨maxFee, tip, hok, hstands⟩ := (dynamicOfLegacy_standsFor 128 1000).2 hbase
  rw [hvalue] at hok
  cases hok
  exact ⟨hbase, by decide, hvalue, hstands, hstands.price_eq (by decide),
    hstands.le_price 10 (by decide) (by decide), hstands.price_le 2000 (by decide) (by decide)⟩

/-- A coefficient that becomes a dynamic fee comes back at the same base fee,
less the steps that rounding has taken from it. -/
theorem legacyOfDynamic_dynamicOfLegacy (coef : UInt8) {base : UInt256} (h : base ≠ 0)
    (hfits : base.toNat * (255 + coef.toNat) < UInt256.size) :
    ∃ maxFee tip back, dynamicOfLegacy coef base = .ok (.dynamic maxFee tip) ∧
      legacyOfDynamic maxFee tip base = .ok (.legacy back) ∧
      back.toNat + lostSteps coef base = coef.toNat ∧
      (back = coef ↔ 255 ∣ base.toNat * coef.toNat) ∧
      back ≤ coef ∧
      (255 ≤ base.toNat → coef.toNat ≤ back.toNat + 1) := by
  have hpos := UInt256.pos_of_ne_zero h
  have hloss := toNat_coefOfMarkup_markup hpos hfits
  refine ⟨_, _, _, dynamicOfLegacy_of_ne_zero coef h, legacyOfDynamic_ofMarkup h hfits, hloss,
    ?_, ?_, fun hbase => ?_⟩
  · rw [← lostSteps_eq_zero_iff hpos, ← UInt8.toNat_inj]
    omega
  · rw [UInt8.le_iff_toNat_le]
    omega
  · have hone := lostSteps_le_one coef hbase
    omega

/-- The part of the markup that is rounded off costs one step. -/
theorem legacyOfDynamic_dynamicOfLegacy_thousand :
    (1000 : UInt256) ≠ 0 ∧ (1000 : UInt256).toNat * (255 + (128 : UInt8).toNat) < UInt256.size ∧
      255 ≤ (1000 : UInt256).toNat ∧ lostSteps 128 1000 = 1 ∧
      ∃ maxFee tip back, dynamicOfLegacy 128 1000 = .ok (.dynamic maxFee tip) ∧
        legacyOfDynamic maxFee tip 1000 = .ok (.legacy back) ∧
        back.toNat + lostSteps 128 1000 = 128 ∧
        (back = 128 ↔ 255 ∣ (1000 : UInt256).toNat * (128 : UInt8).toNat) ∧
        back ≤ 128 ∧ 128 ≤ back.toNat + 1 := by
  have hbase : (1000 : UInt256) ≠ 0 := by decide
  have hfits : (1000 : UInt256).toNat * (255 + (128 : UInt8).toNat) < UInt256.size := by decide
  have hlarge : 255 ≤ (1000 : UInt256).toNat := by decide
  obtain ⟨maxFee, tip, back, hthere, hback, hloss, hsame, hle, hone⟩ :=
    legacyOfDynamic_dynamicOfLegacy 128 hbase hfits
  exact ⟨hbase, hfits, hlarge, by decide, maxFee, tip, back, hthere, hback, hloss, hsame, hle,
    hone hlarge⟩

/-- Below a base fee of 255 more than one step can be lost.  The smallest has no
amount for any part of a markup. -/
example : lostSteps 254 1 = 254 := by decide

end Fee

end ClauseTx
