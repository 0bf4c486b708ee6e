import ClauseTx.Error

/-!
# Fees

A transaction pays for its gas in one of two ways.  A legacy fee is a
coefficient, a markup on the base fee of the block in steps of one 255th.  A
dynamic fee is a cap on the whole price and a cap on the tip above the base
fee.

`Fee.price` is the price of a unit of gas at a base fee.  Conversions between
the two ways keep that price as far as the coefficient allows.
-/

namespace ClauseTx

/-- How a transaction pays for its gas. -/
inductive Fee where
  /-- A markup of `coef` 255ths of the base fee. -/
  | legacy (coef : UInt8)
  /-- The base fee and a tip, with a cap on their sum. -/
  | dynamic (maxFee maxPriority : UInt256)
deriving DecidableEq

namespace Fee

/-- The largest coefficient, and the number of steps in a full markup. -/
def maxCoef : Nat := 255

/-- Without any choice there is no markup. -/
instance : Inhabited Fee := ⟨.legacy 0⟩

/-- Whether a fee is dynamic. -/
def isDynamic : Fee → Bool
  | .legacy _ => false
  | .dynamic _ _ => true

/-- The rule for amounts: the tip is not above the cap. -/
def Valid : Fee → Prop
  | .legacy _ => True
  | .dynamic maxFee maxPriority => maxPriority ≤ maxFee

/-- The dynamic fee of two amounts.  The tip must not be above the cap. -/
def ofDynamic (maxFee maxPriority : UInt256) : Except Error Fee :=
  if maxPriority ≤ maxFee then .ok (.dynamic maxFee maxPriority)
  else .error (.illegalArgument (.tipAboveCap maxPriority maxFee))

/-- Refuses a dynamic fee whose tip is above its cap. -/
def checked : Fee → Except Error Fee
  | .legacy coef => .ok (.legacy coef)
  | .dynamic maxFee maxPriority => ofDynamic maxFee maxPriority

/-! ## Prices -/

/-- The price of a unit of gas at a base fee. -/
def price (fee : Fee) (base : UInt256) : UInt256 :=
  match fee with
  | .legacy coef => (base.satMul (maxCoef + coef.toNat)).div maxCoef
  | .dynamic maxFee maxPriority => min maxFee (base.satAdd maxPriority)

/-! ## Conversions -/

/-- Refuses a base fee of zero, at which all coefficients mean the same. -/
def checkBase (base : UInt256) : Except Error Unit :=
  if base = 0 then .error (.illegalArgument .zeroBaseFee) else .ok ()

/-- The dynamic fee whose tip is the markup of a coefficient at a base
fee. -/
def dynamicOfLegacy (coef : UInt8) (base : UInt256) : Except Error Fee := do
  checkBase base
  let tip := (base.satMul coef.toNat).div maxCoef
  ofDynamic (base.satAdd tip) tip

/-- The largest coefficient whose markup on a base fee is not above a given
one. -/
def coefOfMarkup (markup base : UInt256) : UInt8 :=
  UInt8.ofNat (min ((markup.satMul maxCoef).div base.toNat).toNat maxCoef)

/-- The legacy fee that comes closest, from below, to the price of a dynamic
fee at a base fee. -/
def legacyOfDynamic (maxFee maxPriority base : UInt256) : Except Error Fee := do
  checkBase base
  let fee ← ofDynamic maxFee maxPriority
  let price := fee.price base
  return .legacy (if price ≤ base then 0 else coefOfMarkup (price.sub base) base)

end Fee

end ClauseTx
