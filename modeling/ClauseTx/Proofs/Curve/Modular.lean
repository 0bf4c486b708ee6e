import Mathlib.Data.ZMod.Basic
import Mathlib.NumberTheory.LucasPrimality
import ClauseTx.Curve.Modular

/-!
# Arithmetic modulo a number: what it computes

The algorithm of Euclid keeps two things from step to step: the remainders are
multiples of the input modulo the modulus, with the factors that it carries
along, and their greatest common divisor (`euclid_spec`).  The product of the
remainders halves in each step, so the number of steps suffices.

Powers by squaring are powers (`power_eq`).  They can be evaluated where the
powers themselves are too large, as in Lucas's test for primes
(`prime_of_powers`).
-/

namespace ClauseTx.Curve

/-! ## Inverses -/

section Inverse

variable {m : Nat}

/-- A factor with its sign, modulo a number. -/
def signedFactor (m s : Nat) (positive : Bool) : ZMod m :=
  if positive then s else -s

theorem signedFactor_not (s : Nat) (positive : Bool) :
    signedFactor m s (!positive) = -signedFactor m s positive := by
  cases positive <;> simp [signedFactor]

/-- A remainder is less than half of what is divided. -/
theorem two_mul_mod_lt {r₀ r₁ : Nat} (hpos : 0 < r₁) (hle : r₁ ≤ r₀) : 2 * (r₀ % r₁) < r₀ := by
  have hdiv := Nat.div_add_mod r₀ r₁
  have hlt := Nat.mod_lt r₀ hpos
  have hquot : 1 ≤ r₀ / r₁ := (Nat.one_le_div_iff hpos).mpr hle
  have hmul : r₁ ≤ r₁ * (r₀ / r₁) := Nat.le_mul_of_pos_right r₁ hquot
  omega

/-- The algorithm ends with a factor that takes the input to `1`. -/
theorem euclid_spec {a : ZMod m} {steps r₀ r₁ s₀ s₁ : Nat} {positive : Bool}
    (hle : r₁ ≤ r₀) (hsteps : r₀ * r₁ < 2 ^ steps) (hgcd : r₀.gcd r₁ = 1)
    (h₀ : (r₀ : ZMod m) = signedFactor m s₀ positive * a)
    (h₁ : (r₁ : ZMod m) = signedFactor m s₁ (!positive) * a) :
    signedFactor m (euclid steps r₀ r₁ s₀ s₁ positive).1
      (euclid steps r₀ r₁ s₀ s₁ positive).2 * a = 1 := by
  induction steps generalizing r₀ r₁ s₀ s₁ positive with
  | zero =>
    rw [pow_zero, Nat.lt_one_iff, Nat.mul_eq_zero] at hsteps
    have hzero : r₁ = 0 := by omega
    rw [hzero, Nat.gcd_zero_right] at hgcd
    rw [euclid, ← h₀, hgcd, Nat.cast_one]
  | succ steps ih =>
    rw [euclid]
    by_cases hzero : r₁ = 0
    · rw [if_pos hzero]
      rw [hzero, Nat.gcd_zero_right] at hgcd
      rw [← h₀, hgcd, Nat.cast_one]
    · rw [if_neg hzero]
      have hpos : 0 < r₁ := Nat.pos_of_ne_zero hzero
      refine ih (Nat.mod_lt r₀ hpos).le ?_ ?_ h₁ ?_
      · have hhalf := Nat.mul_lt_mul_of_pos_left (two_mul_mod_lt hpos hle) hpos
        rw [pow_succ] at hsteps
        rw [Nat.mul_comm r₁ r₀, Nat.mul_left_comm] at hhalf
        omega
      · rw [Nat.gcd_comm, ← Nat.gcd_rec, Nat.gcd_comm, hgcd]
      · -- The new remainder is the old one less a multiple of the second.
        have hmod : ((r₀ % r₁ : Nat) : ZMod m) = r₀ - (r₀ / r₁ : Nat) * r₁ := by
          rw [eq_sub_iff_add_eq, ← Nat.cast_mul, ← Nat.cast_add, Nat.mul_comm, Nat.mod_add_div]
        rw [hmod, h₀, h₁, signedFactor_not, Bool.not_not]
        cases positive <;> simp [signedFactor] <;> ring

/-- The inverse takes a number without a factor in common with the modulus to
`1`. -/
theorem inverse_mul {a : Nat} (hm : 0 < m) (hcoprime : a.Coprime m) :
    (inverse m a : ZMod m) * a = 1 := by
  have hlog : m < 2 ^ (m.log2 + 1) := Nat.lt_log2_self
  have hmod : a % m < m := Nat.mod_lt a hm
  have hsteps : m * (a % m) < 2 ^ (2 * m.log2 + 4) := by
    calc m * (a % m) < 2 ^ (m.log2 + 1) * 2 ^ (m.log2 + 1) :=
          Nat.mul_lt_mul'' hlog (hmod.trans hlog)
      _ = 2 ^ (2 * m.log2 + 2) := by rw [← pow_add]; congr 1; omega
      _ ≤ 2 ^ (2 * m.log2 + 4) := Nat.pow_le_pow_right (by decide) (by omega)
  have hgcd : m.gcd (a % m) = 1 := by
    rw [Nat.gcd_comm, ← Nat.gcd_rec, Nat.gcd_comm]
    exact hcoprime
  have hspec : signedFactor m (euclid (2 * m.log2 + 4) m (a % m) 0 1 false).1
      (euclid (2 * m.log2 + 4) m (a % m) 0 1 false).2 * (a : ZMod m) = 1 :=
    euclid_spec hmod.le hsteps hgcd (by simp [signedFactor]) (by simp [signedFactor])
  rw [inverse]
  cases hresult : euclid (2 * m.log2 + 4) m (a % m) 0 1 false with
  | mk s positive =>
    rw [hresult] at hspec
    cases positive with
    | true => simpa [signedFactor] using hspec
    | false =>
      have hle : s % m ≤ m := (Nat.mod_lt s hm).le
      simpa [signedFactor, Nat.cast_sub hle] using hspec

/-- Modulo a prime it is the inverse of the field. -/
theorem natCast_inverse [Fact m.Prime] {a : Nat} (ha : (a : ZMod m) ≠ 0) :
    (inverse m a : ZMod m) = (a : ZMod m)⁻¹ := by
  have hprime : m.Prime := Fact.out
  have hcoprime : a.Coprime m := by
    rw [Nat.coprime_comm, hprime.coprime_iff_not_dvd, ← ZMod.natCast_eq_zero_iff]
    exact ha
  exact eq_inv_of_mul_eq_one_left (inverse_mul hprime.pos hcoprime)

end Inverse

/-! ## Powers -/

theorem powerBits_eq {m a bits exponent : Nat} (h : exponent < 2 ^ bits) :
    powerBits m a bits exponent = a ^ exponent % m := by
  induction bits generalizing exponent with
  | zero =>
    rw [pow_zero, Nat.lt_one_iff] at h
    rw [powerBits, h, pow_zero]
  | succ bits ih =>
    have hhalf : exponent / 2 < 2 ^ bits := by
      rw [pow_succ] at h
      omega
    have hsquare : a ^ (exponent / 2) % m * (a ^ (exponent / 2) % m) % m =
        a ^ (2 * (exponent / 2)) % m := by
      rw [← Nat.mul_mod, two_mul, pow_add]
    rw [powerBits, ih hhalf, hsquare]
    split
    · rw [Nat.mod_mul_mod, ← pow_succ]
      congr 2
      omega
    · congr 2
      omega

theorem power_eq (m a exponent : Nat) : power m a exponent = a ^ exponent % m :=
  powerBits_eq Nat.lt_log2_self

/-! ## Primes -/

/-- Lucas's test: a number is prime if some power is `1` for the exponent
`p - 1` and for none of its quotients by a prime. -/
theorem prime_of_powers {p a : Nat} {factors : List Nat} (hp : 1 < p)
    (hfactors : ∀ q ∈ factors, q.Prime) (hprod : p - 1 = factors.prod)
    (hone : power p a (p - 1) = 1) (hne : ∀ q ∈ factors, power p a ((p - 1) / q) ≠ 1) :
    p.Prime := by
  have hcast : ∀ exponent : Nat, (a : ZMod p) ^ exponent = 1 ↔ power p a exponent = 1 := by
    intro exponent
    rw [power_eq, ← Nat.cast_pow, ← Nat.cast_one, ZMod.natCast_eq_natCast_iff',
      Nat.mod_eq_of_lt hp]
  refine lucas_primality p (a : ZMod p) ((hcast _).mpr hone) ?_
  intro q hq hdvd
  rw [hprod, hq.prime.dvd_prod_iff] at hdvd
  obtain ⟨f, hf, hqf⟩ := hdvd
  rw [(Nat.prime_dvd_prime_iff_eq hq (hfactors f hf)).mp hqf]
  exact mt (hcast _).mp (hne f hf)

end ClauseTx.Curve
