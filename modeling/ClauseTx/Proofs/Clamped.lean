import ClauseTx.UInt256
import Mathlib.Algebra.Ring.Nat

/-!
# Clamped arithmetic

Amounts and gas stop at the top of their range.  This module says when that
shows in a result.

* Sums (`read_foldl_of_step`).  A sum that is clamped in each step is the sum
  of all, clamped once: no term is negative, so a sum that has reached the top
  stays there.
* Quotients (`min_clamped_div`).  A cap that lies below the clamp hides it.
* Order.  Clamping does not turn the order of amounts around
  (`UInt256.satAdd_le_satAdd`, `UInt256.satMul_le_satMul`).
-/

namespace ClauseTx

/-- A run whose steps each add a cost and stop at the top adds all costs and
stops there once.  `read` is the number that a state of the run stands for. -/
theorem read_foldl_of_step {σ α : Type} {read : σ → Nat} {step : σ → α → σ} {cost : α → Nat}
    {top : Nat} (hstep : ∀ total item, read (step total item) = min (read total + cost item) top)
    (items : List α) {start : σ} (hstart : read start ≤ top) :
    read (items.foldl step start) = min (read start + (items.map cost).sum) top := by
  induction items generalizing start with
  | nil =>
    rw [List.foldl_nil, List.map_nil, List.sum_nil]
    omega
  | cons item items ih =>
    have hnext : read (step start item) ≤ top := by
      rw [hstep]
      exact Nat.min_le_right ..
    rw [List.foldl_cons, ih hnext, hstep, List.map_cons, List.sum_cons]
    omega

/-- What is cut off above the cap does not matter, whether it is cut off before
or after the division. -/
theorem min_clamped_div {x top d cap : Nat} (h : cap ≤ top / d) :
    min (min x top / d) cap = min (x / d) cap := by
  rcases Nat.le_total x top with hx | hx
  · rw [Nat.min_eq_left hx]
  · have hle : top / d ≤ x / d := Nat.div_le_div_right hx
    rw [Nat.min_eq_right hx]
    omega

namespace UInt256

variable {a b c d : UInt256}

theorem le_antisymm (hab : a ≤ b) (hba : b ≤ a) : a = b :=
  UInt256.ext (Nat.le_antisymm hab hba)

theorem le_min (hab : a ≤ b) (hac : a ≤ c) : a ≤ min b c := by
  rw [le_iff, toNat_min]
  exact Nat.le_min.mpr ⟨hab, hac⟩

/-- A sum that fits is exact. -/
theorem toNat_satAdd_of_lt (h : a.toNat + b.toNat < size) :
    (a.satAdd b).toNat = a.toNat + b.toNat :=
  Nat.min_eq_left (Nat.le_pred_of_lt h)

/-- A clamped sum is not below its second term. -/
theorem le_satAdd_right (a b : UInt256) : b ≤ a.satAdd b := by
  have hb := b.toNat_lt
  rw [le_iff, toNat_satAdd]
  omega

theorem satAdd_le_satAdd (hab : a ≤ b) (hcd : c ≤ d) : a.satAdd c ≤ b.satAdd d := by
  rw [le_iff] at hab hcd
  rw [le_iff, toNat_satAdd, toNat_satAdd]
  omega

theorem satMul_le_satMul (h : a ≤ b) (k : Nat) : a.satMul k ≤ b.satMul k := by
  have hmul : a.toNat * k ≤ b.toNat * k := Nat.mul_le_mul_right k h
  rw [le_iff, toNat_satMul, toNat_satMul]
  omega

theorem div_le_div (h : a ≤ b) (k : Nat) : a.div k ≤ b.div k :=
  Nat.div_le_div_right h

end UInt256

end ClauseTx
