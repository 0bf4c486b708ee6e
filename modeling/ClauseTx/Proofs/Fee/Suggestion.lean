import ClauseTx.Proofs.Fee.Client
import ClauseTx.Proofs.Fee.Price
import Mathlib.Algebra.Ring.Nat

/-!
# Suggested tips are exact

The sum of samples stops at the top of the range before it is divided, and so
does the product in the cap.  Neither shows in a suggestion from at most 1000
blocks: a sum that is clamped still has a mean above any cap.

* The mean under a cap (`Fee.min_mean`).  Samples that are all alike and sums
  that are clamped are both covered by one quotient.
* What a history reports.  `FeeHistory.tipCount` and `FeeHistory.tipSum` are
  read off its rows without a bound.  They depend on the last tip of each row
  only, and not on the order of the rows.
* The suggestion.  `FeeHistory.map_toNat_suggestion` gives it as a number,
  from which the rest follows.
-/

namespace ClauseTx

namespace Fee

/-! ## The mean under a cap -/

/-- A clamped sum is the sum of all, clamped once. -/
theorem toNat_foldl_satAdd (first : UInt256) (rest : List UInt256) :
    (rest.foldl UInt256.satAdd first).toNat =
      min (first.toNat + (rest.map UInt256.toNat).sum) (UInt256.size - 1) :=
  read_foldl_of_step UInt256.toNat_satAdd rest (Nat.le_sub_one_of_lt first.toNat_lt)

/-- The sum of samples that are all alike. -/
theorem sum_of_alike {first : UInt256} {rest : List UInt256} (h : ∀ s ∈ rest, s = first) :
    (rest.map UInt256.toNat).sum = rest.length * first.toNat := by
  rw [List.eq_replicate_of_mem h, List.map_replicate, List.sum_replicate_nat,
    List.length_replicate]

/-- Under a cap that no clamped sum falls below, the mean is exact. -/
theorem min_mean {first : UInt256} {rest : List UInt256} {cap : Nat}
    (hcap : cap ≤ (UInt256.size - 1) / (rest.length + 1)) :
    min (mean first rest).toNat cap =
      min ((first.toNat + (rest.map UInt256.toNat).sum) / (rest.length + 1)) cap := by
  rw [mean]
  split
  · next hall =>
    have halike : ∀ s ∈ rest, s = first := by
      intro s hs
      exact of_decide_eq_true (List.all_eq_true.mp hall s hs)
    have hsum : first.toNat + rest.length * first.toNat = first.toNat * (rest.length + 1) := by
      rw [Nat.mul_add, Nat.mul_comm, Nat.mul_one, Nat.add_comm]
    rw [sum_of_alike halike, hsum, Nat.mul_div_cancel _ (Nat.succ_pos _)]
  · rw [UInt256.toNat_div, toNat_foldl_satAdd]
    exact min_clamped_div hcap

/-- The cap is at most 4.6 percent, whether its product is clamped or not. -/
theorem toNat_priorityCap_le (base : UInt256) :
    (priorityCap base).toNat ≤ 46 * base.toNat / 1000 := by
  rw [priorityCap, UInt256.toNat_div, UInt256.toNat_satMul, capNumerator, capDenominator,
    Nat.mul_comm 46]
  exact Nat.div_le_div_right (Nat.min_le_left ..)

/-- No cap is above the mean of a clamped sum of at most 1000 samples. -/
theorem toNat_priorityCap_le_top_div (base : UInt256) {n : Nat} (hpos : 0 < n) (hn : n ≤ 1000) :
    (priorityCap base).toNat ≤ (UInt256.size - 1) / n := by
  rw [priorityCap, UInt256.toNat_div, UInt256.toNat_satMul, capNumerator, capDenominator]
  calc min (base.toNat * 46) (UInt256.size - 1) / 1000
      ≤ (UInt256.size - 1) / 1000 := Nat.div_le_div_right (Nat.min_le_right ..)
    _ ≤ (UInt256.size - 1) / n := Nat.div_le_div_left hn hpos

end Fee

namespace FeeHistory

/-! ## What a history reports -/

/-- The tips of a history, one row for each block. -/
def rows (history : FeeHistory) : List (List UInt256) :=
  history.rewards.getD []

/-- How many blocks report tips. -/
def tipCount (history : FeeHistory) : Nat :=
  history.rows.countP (· ≠ [])

/-- The sum of the last tips of all rows that have any, however large. -/
def tipSum (history : FeeHistory) : Nat :=
  (history.rows.map fun row => (row.getLast?.map UInt256.toNat).getD 0).sum

theorem length_samples (history : FeeHistory) : history.samples.length = history.tipCount := by
  rw [samples, tipCount, rows, List.length_filterMap_eq_countP]
  congr 1
  funext row
  cases row <;> simp

theorem sum_samples (history : FeeHistory) :
    (history.samples.map UInt256.toNat).sum = history.tipSum := by
  rw [samples, tipSum, ← rows]
  induction history.rows with
  | nil => rfl
  | cons row rows ih =>
    rw [List.map_cons, List.sum_cons, ← ih, List.filterMap_cons]
    cases row.getLast? <;> simp

/-- No tips are reported where none are paid for, or where no block paid
any. -/
theorem hasNoTips_iff {history : FeeHistory} :
    history.HasNoTips ↔
      history.rewards = none ∨ ∃ rows, history.rewards = some rows ∧ ∀ row ∈ rows, row = [] := by
  rw [HasNoTips]
  cases history.rewards <;> simp

theorem tipCount_ne_zero {history : FeeHistory} {rows : List (List UInt256)}
    (hrows : history.rewards = some rows) (h : ∃ row ∈ rows, row ≠ []) :
    history.tipCount ≠ 0 := by
  obtain ⟨row, hmem, hrow⟩ := h
  rw [tipCount, FeeHistory.rows, hrows]
  apply Nat.ne_of_gt
  exact List.countP_pos_iff.mpr ⟨row, hmem, decide_eq_true hrow⟩

/-- The number and the sum of tips do not depend on the order of the rows, nor
on any but the last tip of each. -/
theorem tips_eq_of_perm {h₁ h₂ : FeeHistory}
    (h : (h₁.rows.map List.getLast?).Perm (h₂.rows.map List.getLast?)) :
    h₁.tipCount = h₂.tipCount ∧ h₁.tipSum = h₂.tipSum := by
  have hcount (history : FeeHistory) :
      history.tipCount = (history.rows.map List.getLast?).countP Option.isSome := by
    rw [List.countP_map, tipCount]
    congr 1
    funext row
    cases row <;> simp
  have hsum (history : FeeHistory) : history.tipSum =
      ((history.rows.map List.getLast?).map fun last => (last.map UInt256.toNat).getD 0).sum := by
    rw [List.map_map]
    rfl
  rw [hcount, hcount, hsum, hsum]
  exact ⟨h.countP_eq _, (h.map _).sum_nat⟩

/-! ## The suggestion -/

/-- The suggestion as a number. -/
theorem map_toNat_suggestion {history : FeeHistory} (hcount : history.tipCount ≤ 1000)
    (base : UInt256) :
    (history.suggestion base).map UInt256.toNat =
      if history.tipCount = 0 then none
      else some (min (history.tipSum / history.tipCount) (Fee.priorityCap base).toNat) := by
  rw [← length_samples] at hcount ⊢
  rw [← sum_samples, suggestion]
  cases hsamples : history.samples with
  | nil => rfl
  | cons first rest =>
    rw [hsamples] at hcount
    have hcap := Fee.toNat_priorityCap_le_top_div base (Nat.succ_pos rest.length) hcount
    rw [List.length_cons, if_neg (Nat.succ_ne_zero _), Option.map_some, UInt256.toNat_min,
      Fee.min_mean hcap, List.map_cons, List.sum_cons]

/-- A history with at most 1000 rows that are not empty suggests the mean of
their last tips, as if sums had no bound, and at most the cap. -/
theorem suggestion_eq_capped_mean (base : UInt256) :
    (∀ history : FeeHistory, history.suggestion base = none ↔
      history.rewards = none ∨ ∃ rows, history.rewards = some rows ∧ ∀ row ∈ rows, row = []) ∧
    (∀ (history : FeeHistory) (rows : List (List UInt256)), history.rewards = some rows →
      (∃ row ∈ rows, row ≠ []) → history.tipCount ≤ 1000 →
      ∃ tip, history.suggestion base = some tip ∧
        tip.toNat = min (history.tipSum / history.tipCount) (Fee.priorityCap base).toNat ∧
        tip.toNat ≤ 46 * base.toNat / 1000) ∧
    ∀ h₁ h₂ : FeeHistory, h₁.tipCount ≤ 1000 →
      (h₁.rows.map List.getLast?).Perm (h₂.rows.map List.getLast?) →
      h₁.suggestion base = h₂.suggestion base := by
  refine ⟨?_, ?_, ?_⟩
  · intro history
    rw [suggestion_eq_none_iff, hasNoTips_iff]
  · intro history rows hrows hrow hcount
    have hnumber := map_toNat_suggestion hcount base
    rw [if_neg (tipCount_ne_zero hrows hrow), Option.map_eq_some_iff] at hnumber
    obtain ⟨tip, htip, hvalue⟩ := hnumber
    refine ⟨tip, htip, hvalue, ?_⟩
    rw [hvalue]
    exact Nat.le_trans (Nat.min_le_right ..) (Fee.toNat_priorityCap_le base)
  · intro h₁ h₂ hcount hperm
    obtain ⟨hcounts, hsums⟩ := tips_eq_of_perm hperm
    apply Option.map_injective fun a b => UInt256.ext
    rw [map_toNat_suggestion hcount, map_toNat_suggestion (hcounts ▸ hcount), hcounts, hsums]

/-- Two tips whose sum does not fit, and a block without tips between them. -/
def largeHistory : FeeHistory where
  oldestBlock := 0
  baseFees := []
  gasUsedRatios := []
  rewards := some [[UInt256.max], [], [0, UInt256.max.sub 1]]

/-- The same last tips in another order, above other tips. -/
def shuffledHistory : FeeHistory :=
  { largeHistory with rewards := some [[], [UInt256.max.sub 1], [7, UInt256.max]] }

theorem suggestion_eq_capped_mean_large :
    (largeHistory.tipCount ≤ 1000 ∧ (∃ row ∈ largeHistory.rows, row ≠ []) ∧
      UInt256.size ≤ largeHistory.tipSum ∧
      ∃ tip, largeHistory.suggestion UInt256.max = some tip ∧
        tip.toNat = min (largeHistory.tipSum / largeHistory.tipCount)
          (Fee.priorityCap UInt256.max).toNat ∧
        tip.toNat ≤ 46 * UInt256.max.toNat / 1000) ∧
    (largeHistory.rows.map List.getLast?).Perm (shuffledHistory.rows.map List.getLast?) ∧
    largeHistory.suggestion UInt256.max = shuffledHistory.suggestion UInt256.max := by
  have hcount : largeHistory.tipCount ≤ 1000 := by decide
  have hrow : ∃ row ∈ largeHistory.rows, row ≠ [] := by decide
  have hlarge : UInt256.size ≤ largeHistory.tipSum := by decide
  have hperm : (largeHistory.rows.map List.getLast?).Perm
      (shuffledHistory.rows.map List.getLast?) := by decide
  obtain ⟨-, htip, hrows⟩ := suggestion_eq_capped_mean UInt256.max
  exact ⟨⟨hcount, hrow, hlarge, htip largeHistory largeHistory.rows rfl hrow hcount⟩, hperm,
    hrows largeHistory shuffledHistory hcount hperm⟩

end FeeHistory

end ClauseTx
