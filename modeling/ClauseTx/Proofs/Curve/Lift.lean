import Mathlib.NumberTheory.LegendreSymbol.Basic
import ClauseTx.Proofs.Curve.Order

/-!
# Points by their first coordinate

If the modulus is `3` modulo `4`, a square is the square of its power by a
quarter of the modulus plus one.  So a point of the curve is found again from
its first coordinate and the parity of the second (`lift_of_onCurve`).

The parity names one of two opposite points, unless the second coordinate is
zero.  Where the cubic has no root this does not happen, and then what is found
is always the point of the curve that was asked for (`lift_eq_some_iff`).
`Regular` collects what keys and signatures of 32 bytes need of a curve.
-/

namespace ClauseTx.Curve

open CurveParameters

/-- The root of a square is the number that was squared, or its opposite. -/
theorem pow_of_sq {p : Nat} [Fact p.Prime] (hmodulus : p % 4 = 3) (a : ZMod p) :
    (a ^ 2) ^ ((p + 1) / 4) = a ∨ (a ^ 2) ^ ((p + 1) / 4) = -a := by
  have hexponent : 2 * ((p + 1) / 4) = p / 2 + 1 := by omega
  rw [← pow_mul, hexponent, pow_succ]
  by_cases ha : a = 0
  · left
    rw [ha, mul_zero]
  · rcases ZMod.pow_div_two_eq_neg_one_or_one p ha with h | h
    · left
      rw [h, one_mul]
    · right
      rw [h, neg_one_mul]

variable {C : Curve} [Fact C.modulus.Prime]

/-- The root that is found for a point is its second coordinate, or the
opposite. -/
theorem power_cubic_of_onCurve (hmodulus : C.modulus % 4 = 3) {x y : Nat} (hy : y < C.modulus)
    (heq : y * y % C.modulus = C.cubic x) :
    power C.modulus (C.cubic x) ((C.modulus + 1) / 4) = y ∨
      power C.modulus (C.cubic x) ((C.modulus + 1) / 4) = (C.modulus - y) % C.modulus := by
  have hpos : 0 < C.modulus := (Fact.out : C.modulus.Prime).pos
  have hcast : (power C.modulus (C.cubic x) ((C.modulus + 1) / 4) : ZMod C.modulus) =
      ((y : ZMod C.modulus) ^ 2) ^ ((C.modulus + 1) / 4) := by
    rw [power_eq, ZMod.natCast_mod, Nat.cast_pow, ← heq, ZMod.natCast_mod, Nat.cast_mul, sq]
  have hlt : power C.modulus (C.cubic x) ((C.modulus + 1) / 4) < C.modulus := by
    rw [power_eq]
    exact Nat.mod_lt _ hpos
  rcases pow_of_sq hmodulus (y : ZMod C.modulus) with h | h
  · left
    rw [h] at hcast
    exact (natCast_eq_natCast_iff_of_lt hlt hy).mp hcast
  · right
    have hopposite : (((C.modulus - y) % C.modulus : Nat) : ZMod C.modulus) = -y := by
      rw [ZMod.natCast_mod, Nat.cast_sub hy.le, ZMod.natCast_self, zero_sub]
    rw [h, ← hopposite] at hcast
    exact (natCast_eq_natCast_iff_of_lt hlt (Nat.mod_lt _ hpos)).mp hcast

/-- A point is found from its first coordinate and the parity of the second. -/
theorem lift_of_onCurve (hmodulus : C.modulus % 4 = 3) {x y : Nat}
    (h : C.onCurve (.affine x y) = true) :
    C.lift x (decide (y % 2 = 1)) = some (.affine x y) := by
  simp only [onCurve, Bool.and_eq_true, decide_eq_true_eq] at h
  obtain ⟨⟨hx, hy⟩, heq⟩ := h
  have hroot := power_cubic_of_onCurve hmodulus hy heq
  rw [lift, if_pos hx]
  dsimp only
  generalize power C.modulus (C.cubic x) ((C.modulus + 1) / 4) = root at hroot ⊢
  rcases hroot with rfl | rfl
  · rw [if_pos heq]
    simp
  · have hsquare : (C.modulus - y) % C.modulus * ((C.modulus - y) % C.modulus) % C.modulus =
        C.cubic x := by
      rw [← heq, ← ZMod.natCast_eq_natCast_iff', Nat.cast_mul, Nat.cast_mul, ZMod.natCast_mod,
        Nat.cast_sub hy.le, ZMod.natCast_self, zero_sub, neg_mul_neg]
    rw [if_pos hsquare]
    rcases Nat.eq_zero_or_pos y with hzero | hpos
    · simp [hzero]
    · -- The modulus is odd, so the opposite has the other parity.
      have hmod : (C.modulus - y) % C.modulus = C.modulus - y := Nat.mod_eq_of_lt (by omega)
      have hparity : ((C.modulus - y) % 2 = 1) ≠ (decide (y % 2 = 1) = true) := by
        rw [decide_eq_true_eq, ne_eq, eq_iff_iff]
        omega
      rw [hmod, if_neg hparity, Nat.sub_sub_self hy.le]

/-! ## What is found lies on the curve -/

omit [Fact C.modulus.Prime] in
/-- The opposite of a point lies on the curve with it. -/
theorem onCurve_opposite {x y : Nat} (hy : 0 < y) (h : C.onCurve (.affine x y) = true) :
    C.onCurve (.affine x (C.modulus - y)) = true := by
  simp only [onCurve, Bool.and_eq_true, decide_eq_true_eq] at h ⊢
  obtain ⟨⟨hx, hlt⟩, heq⟩ := h
  refine ⟨⟨hx, by omega⟩, ?_⟩
  rw [← heq, ← ZMod.natCast_eq_natCast_iff', Nat.cast_mul, Nat.cast_mul, Nat.cast_sub hlt.le,
    ZMod.natCast_self, zero_sub, neg_mul_neg]

/-- A point is found exactly if it lies on the curve and has the first
coordinate and the parity. -/
theorem lift_eq_some_iff (hmodulus : C.modulus % 4 = 3) (hcubic : ∀ x, C.cubic x ≠ 0) {x : Nat}
    {isOdd : Bool} {P : Point} :
    C.lift x isOdd = some P ↔
      ∃ y, P = .affine x y ∧ C.onCurve (.affine x y) = true ∧ decide (y % 2 = 1) = isOdd := by
  constructor
  · intro h
    rw [lift] at h
    split at h
    · rename_i hx
      dsimp only at h
      have hlt : power C.modulus (C.cubic x) ((C.modulus + 1) / 4) < C.modulus := by
        rw [power_eq]
        exact Nat.mod_lt _ (Fact.out : C.modulus.Prime).pos
      generalize power C.modulus (C.cubic x) ((C.modulus + 1) / 4) = root at h hlt
      split at h
      · rename_i heq
        have hcurve : C.onCurve (.affine x root) = true := by
          simp only [onCurve, Bool.and_eq_true, decide_eq_true_eq]
          exact ⟨⟨hx, hlt⟩, heq⟩
        have hpos : 0 < root := by
          rw [Nat.pos_iff_ne_zero]
          intro hzero
          rw [hzero, Nat.mul_zero, Nat.zero_mod] at heq
          exact hcubic x heq.symm
        injection h with h
        split at h
        · rename_i hparity
          exact ⟨root, h.symm, hcurve, by simp [hparity]⟩
        · rename_i hparity
          refine ⟨C.modulus - root, h.symm, onCurve_opposite hpos hcurve, ?_⟩
          -- The modulus is odd, so the opposite has the other parity.
          cases isOdd <;> simp at hparity ⊢ <;> omega
      · cases h
    · cases h
  · intro h
    obtain ⟨y, rfl, hcurve, rfl⟩ := h
    exact lift_of_onCurve hmodulus hcurve

/-- The cubic has no root if the opposite of its constant is no cube.  A cube
has the power `1` for a third of the order of the units. -/
theorem cubic_ne_zero_of_power (hmodulus : C.modulus % 3 = 1) (hpos : 0 < C.constant)
    (hlt : C.constant < C.modulus)
    (hpower : power C.modulus (C.modulus - C.constant) ((C.modulus - 1) / 3) ≠ 1) (x : Nat) :
    C.cubic x ≠ 0 := by
  intro hzero
  have hcube : (x : ZMod C.modulus) ^ 3 = (C.modulus - C.constant : Nat) := by
    have hsum := natCast_cubic (C := C.toCurveParameters) x
    rw [hzero, Nat.cast_zero] at hsum
    rw [Nat.cast_sub hlt.le, ZMod.natCast_self, zero_sub, eq_neg_iff_add_eq_zero]
    exact hsum.symm
  have hconstant : (C.constant : ZMod C.modulus) ≠ 0 := IsGenerator.natCast_ne_zero hpos hlt
  have hx : (x : ZMod C.modulus) ≠ 0 := by
    intro hx
    rw [hx, Nat.cast_sub hlt.le, ZMod.natCast_self, zero_sub, zero_pow (by decide),
      zero_eq_neg] at hcube
    exact hconstant hcube
  have hone : 1 < C.modulus := (Fact.out : C.modulus.Prime).one_lt
  have hexponent : 3 * ((C.modulus - 1) / 3) = C.modulus - 1 := by omega
  apply hpower
  refine (natCast_eq_natCast_iff_of_lt ?_ hone).mp ?_
  · rw [power_eq]
    exact Nat.mod_lt _ (by omega)
  · rw [power_eq, ZMod.natCast_mod, Nat.cast_pow, ← hcube, ← pow_mul, hexponent,
      ZMod.pow_card_sub_one_eq_one hx, Nat.cast_one]

/-- A curve for keys and signatures of 32 bytes.  Every point is found from
its first coordinate and a parity, and all numbers fit their places. -/
structure Regular (C : Curve) : Prop where
  modulus_mod_four : C.modulus % 4 = 3
  modulus_le : C.modulus ≤ 256 ^ 32
  order_le : C.order ≤ 256 ^ 32
  cubic_ne_zero : ∀ x, C.cubic x ≠ 0

end ClauseTx.Curve
