import ClauseTx.Fee.History

/-!
# Suggested tips

A tip is suggested from the tips of past blocks, of each the one at the
highest percentile.  The suggestion is their mean, rounded down, and at most
4.6 percent of the base fee.
-/

namespace ClauseTx

namespace Fee

/-- The cap on suggestions is this part of the base fee. -/
def capNumerator : Nat := 46

/-- The cap on suggestions is `capNumerator` in this many parts. -/
def capDenominator : Nat := 1000

/-- The largest tip that is suggested at a base fee. -/
def priorityCap (base : UInt256) : UInt256 :=
  (base.satMul capNumerator).div capDenominator

/-- The mean of samples, rounded down.  Samples that are all alike need no
sum, so their mean is exact whatever their size. -/
def mean (first : UInt256) (rest : List UInt256) : UInt256 :=
  if rest.all (· = first) then first
  else (rest.foldl UInt256.satAdd first).div (rest.length + 1)

end Fee

namespace FeeHistory

/-- The tip at the highest percentile of each block that reports any. -/
def samples (history : FeeHistory) : List UInt256 :=
  (history.rewards.getD []).filterMap List.getLast?

/-- The tip that a history suggests at a base fee. -/
def suggestion (history : FeeHistory) (base : UInt256) : Option UInt256 :=
  match history.samples with
  | [] => none
  | first :: rest => some (min (Fee.mean first rest) (Fee.priorityCap base))

end FeeHistory

end ClauseTx
