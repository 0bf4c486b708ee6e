import Mathlib.AlgebraicGeometry.EllipticCurve.Affine.Point
import ClauseTx.Curve.Point
import ClauseTx.Proofs.Curve.Modular

/-!
# The group of a curve

The points of an elliptic curve over a field form a group.  A point with
reduced coordinates denotes a member of that group (`Denotes`), exactly if it
lies on the curve (`onCurve_iff_denotes`), and different points denote
different members.

Sums of points denote sums (`Denotes.add`), and multiples of points denote
multiples (`Denotes.mul`).  So the laws of the group are laws of the
computation, and what is computed from points of the curve lies on the curve.

The modulus must be prime and the curve must be smooth, which is asked for by
instances.
-/

namespace ClauseTx.CurveParameters

open WeierstrassCurve.Affine

variable {C : CurveParameters}

/-- The curve over the field of its modulus. -/
def weierstrass (C : CurveParameters) : WeierstrassCurve.Affine (ZMod C.modulus) :=
  ⟨0, 0, 0, 0, C.constant⟩

/-! ## Coordinates -/

theorem natCast_eq_natCast_iff_of_lt {m x y : Nat} (hx : x < m) (hy : y < m) :
    (x : ZMod m) = y ↔ x = y := by
  rw [ZMod.natCast_eq_natCast_iff', Nat.mod_eq_of_lt hx, Nat.mod_eq_of_lt hy]

theorem natCast_cubic (x : Nat) :
    (C.cubic x : ZMod C.modulus) = (x : ZMod C.modulus) ^ 3 + C.constant := by
  simp only [cubic, ZMod.natCast_mod, Nat.cast_add, Nat.cast_mul]
  ring

theorem equation_iff_cubic (x y : Nat) :
    C.weierstrass.Equation x y ↔ y * y % C.modulus = C.cubic x := by
  have hcubic : C.cubic x % C.modulus = C.cubic x := Nat.mod_mod _ _
  rw [equation_iff, ← hcubic, ← ZMod.natCast_eq_natCast_iff', natCast_cubic, Nat.cast_mul]
  simp only [weierstrass, zero_mul, add_zero]
  rw [sq]

/-! ## Members of the group -/

/-- Whether a point stands for a member of the group. -/
def Denotes (C : CurveParameters) : Point → C.weierstrass.Point → Prop
  | .infinity, A => A = .zero
  | .affine x y, A =>
    x < C.modulus ∧ y < C.modulus ∧
      ∃ h : C.weierstrass.Nonsingular x y, A = .some (x : ZMod C.modulus) y h

/-- A point denotes at most one member. -/
theorem Denotes.eq {P : Point} {A B : C.weierstrass.Point} (hA : C.Denotes P A)
    (hB : C.Denotes P B) : A = B := by
  cases P with
  | infinity =>
    have hA : A = .zero := hA
    have hB : B = .zero := hB
    rw [hA, hB]
  | affine x y =>
    obtain ⟨-, -, _, rfl⟩ := hA
    obtain ⟨-, -, _, rfl⟩ := hB
    rfl

/-- Only the point at infinity denotes zero. -/
theorem Denotes.ne_zero {x y : Nat} {A : C.weierstrass.Point} (h : C.Denotes (.affine x y) A) :
    A ≠ 0 := by
  intro hzero
  subst hzero
  obtain ⟨-, -, _, hpoint⟩ := h
  cases hpoint

/-- No two points denote the same member. -/
theorem Denotes.point_eq {P Q : Point} {A : C.weierstrass.Point} (hP : C.Denotes P A)
    (hQ : C.Denotes Q A) : P = Q := by
  cases P with
  | infinity =>
    have hA : A = .zero := hP
    cases Q with
    | infinity => rfl
    | affine x y =>
      obtain ⟨-, -, _, h⟩ := hQ
      rw [hA] at h
      cases h
  | affine x₁ y₁ =>
    obtain ⟨hx₁, hy₁, _, hA⟩ := hP
    cases Q with
    | infinity =>
      have h : A = .zero := hQ
      rw [hA] at h
      cases h
    | affine x₂ y₂ =>
      obtain ⟨hx₂, hy₂, _, h⟩ := hQ
      rw [hA] at h
      injection h with hx hy
      rw [(natCast_eq_natCast_iff_of_lt hx₁ hx₂).mp hx,
        (natCast_eq_natCast_iff_of_lt hy₁ hy₂).mp hy]

/-! ## Sums -/

variable [Fact C.modulus.Prime]

/-- The coordinates of a sum, for a slope that is given as a fraction. -/
theorem third_eq {x₁ y₁ x₂ denominator : Nat} (numerator : Nat) (hx₁ : x₁ < C.modulus)
    (hy₁ : y₁ < C.modulus) (hx₂ : x₂ < C.modulus) (hne : (denominator : ZMod C.modulus) ≠ 0) :
    ∃ x y : Nat, C.third x₁ y₁ x₂ numerator denominator = .affine x y ∧
      x < C.modulus ∧ y < C.modulus ∧
      (x : ZMod C.modulus) = C.weierstrass.addX x₁ x₂ (numerator / denominator) ∧
      (y : ZMod C.modulus) = C.weierstrass.addY x₁ x₂ y₁ (numerator / denominator) := by
  have hpos : 0 < C.modulus := (Fact.out : C.modulus.Prime).pos
  have hslope : ((numerator * Curve.inverse C.modulus denominator % C.modulus : Nat) :
      ZMod C.modulus) = numerator / denominator := by
    rw [ZMod.natCast_mod, Nat.cast_mul, Curve.natCast_inverse hne, div_eq_mul_inv]
  refine ⟨_, _, rfl, Nat.mod_lt _ hpos, Nat.mod_lt _ hpos, ?_⟩
  generalize numerator * Curve.inverse C.modulus denominator % C.modulus = slope at hslope ⊢
  rw [← hslope]
  have hx : (((slope * slope + 2 * C.modulus - x₁ - x₂) % C.modulus : Nat) : ZMod C.modulus) =
      C.weierstrass.addX x₁ x₂ slope := by
    rw [ZMod.natCast_mod, Nat.cast_sub (by omega), Nat.cast_sub (by omega)]
    simp [addX, weierstrass]
    ring
  refine ⟨hx, ?_⟩
  have hlt : (slope * slope + 2 * C.modulus - x₁ - x₂) % C.modulus < C.modulus := Nat.mod_lt _ hpos
  rw [addY, negAddY, ← hx]
  generalize (slope * slope + 2 * C.modulus - x₁ - x₂) % C.modulus = x at hlt ⊢
  rw [ZMod.natCast_mod, Nat.cast_sub (by omega), Nat.cast_add, Nat.cast_mul,
    Nat.cast_sub (by omega)]
  simp [negY, weierstrass]
  ring

/-- The third point on a line denotes a sum, if the fraction is the slope of
the line. -/
theorem denotes_third {x₁ y₁ x₂ y₂ numerator denominator : Nat} (hx₁ : x₁ < C.modulus)
    (hy₁ : y₁ < C.modulus) (hx₂ : x₂ < C.modulus) (h₁ : C.weierstrass.Nonsingular x₁ y₁)
    (h₂ : C.weierstrass.Nonsingular x₂ y₂) (hne : (denominator : ZMod C.modulus) ≠ 0)
    (hxy : ¬((x₁ : ZMod C.modulus) = x₂ ∧ (y₁ : ZMod C.modulus) = C.weierstrass.negY x₂ y₂))
    (hslope : C.weierstrass.slope (x₁ : ZMod C.modulus) x₂ y₁ y₂ = numerator / denominator) :
    C.Denotes (C.third x₁ y₁ x₂ numerator denominator)
      (Point.some (x₁ : ZMod C.modulus) y₁ h₁ + Point.some (x₂ : ZMod C.modulus) y₂ h₂) := by
  obtain ⟨x, y, hthird, hx, hy, haddX, haddY⟩ := third_eq numerator hx₁ hy₁ hx₂ hne
  rw [← hslope] at haddX haddY
  have hsum := nonsingular_add h₁ h₂ hxy
  rw [hthird, Point.add_some hxy]
  rw [← haddX, ← haddY] at hsum
  refine ⟨hx, hy, hsum, ?_⟩
  simp only [haddX, haddY]

theorem natCast_eq_negY_iff {x₂ y₁ y₂ : Nat} :
    (y₁ : ZMod C.modulus) = C.weierstrass.negY x₂ y₂ ↔ (y₁ + y₂) % C.modulus = 0 := by
  rw [← Nat.dvd_iff_mod_eq_zero, ← ZMod.natCast_eq_zero_iff, Nat.cast_add, negY]
  simp [weierstrass, eq_neg_iff_add_eq_zero]

/-- Two points that are the same are added along the tangent. -/
theorem denotes_tangent {x y₁ y₂ : Nat} (hx : x < C.modulus) (hy₁ : y₁ < C.modulus)
    (h₁ : C.weierstrass.Nonsingular x y₁) (h₂ : C.weierstrass.Nonsingular x y₂)
    (hy : (y₁ + y₂) % C.modulus ≠ 0) :
    C.Denotes (C.third x y₁ x (3 * x * x) (2 * y₁))
      (Point.some (x : ZMod C.modulus) y₁ h₁ + Point.some (x : ZMod C.modulus) y₂ h₂) := by
  have hnegY : (y₁ : ZMod C.modulus) ≠ C.weierstrass.negY x y₂ := mt natCast_eq_negY_iff.mp hy
  have hsame := Y_eq_of_Y_ne h₁.left h₂.left rfl hnegY
  have hdouble : ((2 * y₁ : Nat) : ZMod C.modulus) ≠ 0 := by
    rw [Nat.cast_mul, Nat.cast_two, two_mul]
    intro h
    apply hnegY
    rw [← hsame]
    simpa [negY, weierstrass] using eq_neg_of_add_eq_zero_left h
  refine denotes_third hx hy₁ hx h₁ h₂ hdouble (fun h => hnegY h.right) ?_
  rw [slope_of_Y_ne rfl hnegY]
  congr 1
  · simp [weierstrass]
    ring
  · simp [negY, weierstrass]
    ring

/-- Two points with different first coordinates are added along their
secant. -/
theorem denotes_secant {x₁ y₁ x₂ y₂ : Nat} (hx₁ : x₁ < C.modulus) (hy₁ : y₁ < C.modulus)
    (hx₂ : x₂ < C.modulus) (h₁ : C.weierstrass.Nonsingular x₁ y₁)
    (h₂ : C.weierstrass.Nonsingular x₂ y₂) (hx : x₁ ≠ x₂) :
    C.Denotes (C.third x₁ y₁ x₂ (y₂ + C.modulus - y₁) (x₂ + C.modulus - x₁))
      (Point.some (x₁ : ZMod C.modulus) y₁ h₁ + Point.some (x₂ : ZMod C.modulus) y₂ h₂) := by
  have hne : (x₁ : ZMod C.modulus) ≠ x₂ := mt (natCast_eq_natCast_iff_of_lt hx₁ hx₂).mp hx
  have hdifference : ∀ {a b : Nat}, a < C.modulus →
      ((b + C.modulus - a : Nat) : ZMod C.modulus) = b - a := by
    intro a b ha
    rw [Nat.cast_sub (by omega), Nat.cast_add, ZMod.natCast_self, add_zero]
  have hdenominator : ((x₂ + C.modulus - x₁ : Nat) : ZMod C.modulus) ≠ 0 := by
    rw [hdifference hx₁]
    exact sub_ne_zero.mpr hne.symm
  refine denotes_third hx₁ hy₁ hx₂ h₁ h₂ hdenominator (fun h => hne h.left) ?_
  rw [slope_of_X_ne hne, hdifference hx₁, hdifference hy₁, ← neg_div_neg_eq, neg_sub, neg_sub]

/-- A sum of points denotes the sum of what they denote. -/
theorem Denotes.add {P Q : Point} {A B : C.weierstrass.Point} (hP : C.Denotes P A)
    (hQ : C.Denotes Q B) : C.Denotes (C.add P Q) (A + B) := by
  cases P with
  | infinity =>
    have hA : A = 0 := hP
    rw [hA, zero_add]
    exact hQ
  | affine x₁ y₁ =>
    cases Q with
    | infinity =>
      have hB : B = 0 := hQ
      rw [hB, add_zero]
      exact hP
    | affine x₂ y₂ =>
      obtain ⟨hx₁, hy₁, h₁, rfl⟩ := hP
      obtain ⟨hx₂, hy₂, h₂, rfl⟩ := hQ
      rw [CurveParameters.add]
      by_cases hx : x₁ = x₂
      · subst hx
        rw [if_pos rfl]
        by_cases hy : (y₁ + y₂) % C.modulus = 0
        · rw [if_pos hy]
          exact Point.add_of_Y_eq rfl (natCast_eq_negY_iff.mpr hy)
        · rw [if_neg hy]
          exact denotes_tangent hx₁ hy₁ h₁ h₂ hy
      · rw [if_neg hx]
        exact denotes_secant hx₁ hy₁ hx₂ h₁ h₂ hx

/-- An opposite point denotes the opposite. -/
theorem Denotes.neg {P : Point} {A : C.weierstrass.Point} (hP : C.Denotes P A) :
    C.Denotes (C.neg P) (-A) := by
  cases P with
  | infinity =>
    have hA : A = 0 := hP
    rw [hA, Point.neg_zero]
    rfl
  | affine x y =>
    obtain ⟨hx, hy, h, rfl⟩ := hP
    have hcast : (((C.modulus - y) % C.modulus : Nat) : ZMod C.modulus) =
        C.weierstrass.negY x y := by
      rw [ZMod.natCast_mod, Nat.cast_sub hy.le, ZMod.natCast_self]
      simp [negY, weierstrass]
    have hneg := (nonsingular_neg (x : ZMod C.modulus) y).mpr h
    rw [← hcast] at hneg
    refine ⟨hx, Nat.mod_lt _ (by omega), hneg, ?_⟩
    simp only [Point.neg_some, hcast]

/-- Points with one first coordinate are the same or opposite. -/
theorem Denotes.eq_or_eq_neg {x y₁ y₂ : Nat} {A B : C.weierstrass.Point}
    (hA : C.Denotes (.affine x y₁) A) (hB : C.Denotes (.affine x y₂) B) : A = B ∨ A = -B := by
  obtain ⟨-, -, h₁, rfl⟩ := hA
  obtain ⟨-, -, h₂, rfl⟩ := hB
  rcases Y_eq_of_X_eq h₁.left h₂.left rfl with hy | hy
  · left
    simp only [hy]
  · right
    simp only [Point.neg_some, hy]

/-! ## Multiples -/

theorem Denotes.mulBits {P : Point} {A : C.weierstrass.Point} (hP : C.Denotes P A)
    {bits k : Nat} (hk : k < 2 ^ bits) : C.Denotes (C.mulBits P bits k) (k • A) := by
  induction bits generalizing k with
  | zero =>
    have hzero : k = 0 := by simpa using hk
    rw [hzero, zero_nsmul]
    rfl
  | succ bits ih =>
    rw [pow_succ] at hk
    have hhalf := ih (k := k / 2) (by omega)
    have hdouble := hhalf.add hhalf
    rw [← two_nsmul, ← mul_nsmul'] at hdouble
    rw [CurveParameters.mulBits]
    split
    · have hodd : k • A = (2 * (k / 2)) • A + A := by
        rw [← succ_nsmul]
        congr 1
        omega
      rw [hodd]
      exact hdouble.add hP
    · have heven : 2 * (k / 2) = k := by omega
      rw [heven] at hdouble
      exact hdouble

theorem Denotes.mul {P : Point} {A : C.weierstrass.Point} (hP : C.Denotes P A) (k : Nat) :
    C.Denotes (C.mul k P) (k • A) :=
  hP.mulBits Nat.lt_log2_self

omit [Fact C.modulus.Prime] in
theorem length_multiples (P : Point) (count : Nat) : (C.multiples P count).length = count + 1 := by
  induction count with
  | zero => rfl
  | succ count ih =>
    rw [multiples]
    split
    · rename_i hnil
      simp [hnil] at ih
    · rename_i Q rest hcons
      rw [hcons] at ih
      simpa using ih

/-- The multiples of a point are listed from the last one down. -/
theorem Denotes.multiples {P : Point} {A : C.weierstrass.Point} (hP : C.Denotes P A)
    (count : Nat) {i : Nat} (hi : i ≤ count) :
    C.Denotes ((C.multiples P count)[count - i]?.getD .infinity) (i • A) := by
  induction count generalizing i with
  | zero =>
    have hzero : i = 0 := by omega
    rw [hzero, zero_nsmul]
    rfl
  | succ count ih =>
    have hlength := length_multiples (C := C) P count
    rw [CurveParameters.multiples]
    split
    · rename_i hnil
      simp [hnil] at hlength
    · rename_i Q rest hcons
      rcases Nat.lt_or_eq_of_le hi with hlt | heq
      · have hrest := ih (i := i) (by omega)
        rw [hcons] at hrest
        rw [Nat.succ_sub (by omega), List.getElem?_cons_succ]
        exact hrest
      · have hlast := ih (i := count) (Nat.le_refl count)
        rw [hcons, Nat.sub_self, List.getElem?_cons_zero, Option.getD_some] at hlast
        rw [heq, Nat.sub_self, List.getElem?_cons_zero, Option.getD_some, succ_nsmul]
        exact hlast.add hP

/-- The contributions of the digits of a factor add up to the multiple. -/
theorem Denotes.sumWindows {P : Point} {A : C.weierstrass.Point} (hP : C.Denotes P A)
    (count k : Nat) :
    C.Denotes (Curve.sumWindows C (C.windows P count) k) ((k % 16 ^ count) • A) := by
  induction count generalizing P A k with
  | zero =>
    rw [pow_zero, Nat.mod_one, zero_nsmul]
    rfl
  | succ count ih =>
    have hlength := length_multiples (C := C) P 15
    have hdigit : k % 16 < 16 := Nat.mod_lt k (by decide)
    have hrow : C.Denotes ((C.multiples P 15).reverse.toArray.getD (k % 16) .infinity)
        ((k % 16) • A) := by
      have hmultiple := hP.multiples 15 (i := k % 16) (by omega)
      rw [Array.getD_eq_getD_getElem?, List.getElem?_toArray, List.getElem?_reverse (by omega),
        hlength]
      exact hmultiple
    have hrest := ih (hP.mul 16) (k / 16)
    rw [windows, Curve.sumWindows, pow_succ', Nat.mod_mul, add_nsmul, mul_nsmul]
    exact hrow.add hrest

/-- Multiples of the generator, for factors below the order. -/
theorem Denotes.mulGenerator {C : Curve} [Fact C.modulus.Prime] {G : C.weierstrass.Point}
    (hG : C.Denotes C.generator G) {k : Nat} (hk : k < C.order) :
    C.Denotes (C.mulGenerator k) (k • G) := by
  have hsum := hG.sumWindows (C.order.log2 / 4 + 1) k
  have hlt : k < 16 ^ (C.order.log2 / 4 + 1) := by
    calc k < 2 ^ (C.order.log2 + 1) := hk.trans Nat.lt_log2_self
      _ ≤ 2 ^ (4 * (C.order.log2 / 4 + 1)) := Nat.pow_le_pow_right (by decide) (by omega)
      _ = (2 ^ 4) ^ (C.order.log2 / 4 + 1) := pow_mul 2 4 _
  rw [Nat.mod_eq_of_lt hlt, ← C.table_eq] at hsum
  exact hsum

/-! ## Points of the curve -/

/-- The discriminant is a multiple of the square of the constant. -/
theorem isElliptic_of_not_dvd (h : ¬ C.modulus ∣ 432 * C.constant ^ 2) :
    C.weierstrass.IsElliptic := by
  have hdiscriminant : C.weierstrass.Δ = -((432 * C.constant ^ 2 : Nat) : ZMod C.modulus) := by
    simp only [WeierstrassCurve.Δ, WeierstrassCurve.b₂, WeierstrassCurve.b₄, WeierstrassCurve.b₆,
      WeierstrassCurve.b₈, weierstrass]
    push_cast
    ring
  refine ⟨?_⟩
  rw [isUnit_iff_ne_zero, hdiscriminant, neg_ne_zero, Ne, ZMod.natCast_eq_zero_iff]
  exact h

/-- The points of the curve are those that stand for something. -/
theorem onCurve_iff_denotes [C.weierstrass.IsElliptic] {P : Point} :
    C.onCurve P = true ↔ ∃ A, C.Denotes P A := by
  cases P with
  | infinity =>
    constructor
    · intro _
      exact ⟨.zero, rfl⟩
    · intro _
      rfl
  | affine x y =>
    simp only [onCurve, Bool.and_eq_true, decide_eq_true_eq, Denotes]
    rw [← equation_iff_cubic, equation_iff_nonsingular]
    constructor
    · intro h
      obtain ⟨⟨hx, hy⟩, heq⟩ := h
      exact ⟨_, hx, hy, heq, rfl⟩
    · intro h
      obtain ⟨A, hx, hy, heq, -⟩ := h
      exact ⟨⟨hx, hy⟩, heq⟩

end ClauseTx.CurveParameters
