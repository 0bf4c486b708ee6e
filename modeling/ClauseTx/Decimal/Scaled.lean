import ClauseTx.Text.Split

/-!
# Reading decimals as binary numbers

A decimal is read as a 64-bit significand and a power of ten.  Digits that no
longer fit the significand are dropped, those before the point raise the
power.  The significand is then scaled by one multiplication or division, so
the result can be off by a last place.  Overflow is refused, underflow gives
zero.
-/

namespace ClauseTx.Decimal

/-- The digits read so far: a significand below `2 ^ 64`, how many digits it
has absorbed, and how many were dropped since it was full. -/
structure Absorbed where
  significand : Nat
  absorbed : Nat
  dropped : Nat

/-- Absorbs digits until one does not fit, and drops the rest. -/
def absorb (significand : Nat) (digits : List Char) : Absorbed :=
  digits.foldl
    (fun a c =>
      let next := a.significand * 10 + Text.digitValue c
      if a.dropped = 0 && next < UInt64.size then ⟨next, a.absorbed + 1, 0⟩
      else { a with dropped := a.dropped + 1 })
    ⟨significand, 0, 0⟩

/-- The power of ten as a floating point number. -/
def powerOfTen (n : Nat) : Float :=
  Float.ofScientific 1 false n

/-- A significand times a power of ten, or nothing beyond the largest
number.  No power of ten below `10 ^ (-308)` is used: a smaller one is
applied in two steps, after which nothing but zero is left. -/
def scale (significand : Nat) (exponent : Int) : Option Float :=
  let f := significand.toUInt64.toFloat
  if significand = 0 then some 0.0
  else if exponent > 308 then none
  else if 0 ≤ exponent then
    let scaled := f * powerOfTen exponent.toNat
    if scaled.isInf then none else some scaled
  else if -308 ≤ exponent then some (f / powerOfTen (-exponent).toNat)
  else if -616 ≤ exponent then some (f / powerOfTen 308 / powerOfTen (-exponent - 308).toNat)
  else some 0.0

/-- The magnitude of a decimal with the given digits before and after the
point and the given exponent. -/
def toFloat? (whole places : List Char) (exponent : Int) : Option Float :=
  let before := absorb 0 whole
  let after := absorb before.significand places
  scale after.significand (exponent + before.dropped - after.absorbed)

end ClauseTx.Decimal
