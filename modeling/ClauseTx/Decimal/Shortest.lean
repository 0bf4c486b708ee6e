/-!
# The shortest decimal of a binary number

A binary floating point number stands for an interval of reals, those that
round to it.  `shortest` is the decimal in that interval with the fewest
digits, and of two such decimals the nearer one.  All arithmetic is exact, on
natural numbers.

`positional` and `scientific` write such a decimal without and with an
exponent.
-/

namespace ClauseTx.Decimal

/-- The magnitude `mantissa * 2 ^ exponent` of a floating point number. -/
structure Binary where
  mantissa : Nat
  exponent : Int

/-- The leading bit of a mantissa, which the bits of a number leave out. -/
def leadingBit : Nat := 1 <<< 52

/-- The magnitude that the 64 bits of a finite number stand for. -/
def Binary.ofBits (bits : UInt64) : Binary :=
  let n : Nat := bits.toNat
  let fraction : Nat := n % leadingBit
  let biased : Nat := n / leadingBit % 2048
  if biased = 0 then ⟨fraction, -1074⟩ else ⟨leadingBit + fraction, (biased : Int) - 1075⟩

/-- The reals `low / scale` to `high / scale` around `middle / scale`.  The
ends belong to the interval when `closed` holds. -/
structure Interval where
  low : Nat
  middle : Nat
  high : Nat
  scale : Nat
  closed : Bool

/-- The reals that round to a number.  The gap below a power of two is half
as wide, and an end rounds to the number when its mantissa is even. -/
def Binary.interval (x : Binary) : Interval :=
  let unit := 1 <<< x.exponent.toNat
  let middle := 4 * x.mantissa * unit
  let below := if x.mantissa = leadingBit && x.exponent > -1074 then unit else 2 * unit
  ⟨middle - below, middle, middle + 2 * unit, 4 <<< (-x.exponent).toNat, x.mantissa % 2 = 0⟩

/-- The decimal `digits * 10 ^ exponent`. -/
structure Digits where
  digits : Nat
  exponent : Int

/-- Whether `c * 10 ^ k` lies in an interval. -/
def Interval.holds (i : Interval) (k : Int) (c : Nat) : Bool :=
  let point := c * Nat.pow 10 k.toNat * i.scale
  let stretch := Nat.pow 10 (-k).toNat
  if i.closed then i.low * stretch ≤ point && point ≤ i.high * stretch
  else i.low * stretch < point && point < i.high * stretch

/-- The multiple of `10 ^ k` in an interval that is nearest to its middle, if
there is any.  A tie goes to the even multiple. -/
def Interval.onGrid (i : Interval) (k : Int) : Option Nat :=
  let stretched := i.middle * Nat.pow 10 (-k).toNat
  let step := i.scale * Nat.pow 10 k.toNat
  let below := stretched / step
  let above := below + 1
  match i.holds k below && below != 0, i.holds k above with
  | true, true =>
    let toBelow := stretched - below * step
    let toAbove := above * step - stretched
    if toBelow < toAbove || (toBelow = toAbove && below % 2 = 0) then some below else some above
  | true, false => some below
  | false, true => some above
  | false, false => none

/-- Looks for a decimal on finer and finer grids, from `10 ^ k` on. -/
def Interval.search (i : Interval) : (steps : Nat) → (k : Int) → Digits
  | 0, k => ⟨0, k⟩
  | steps + 1, k =>
    match i.onGrid k with
    | some c => ⟨c, k⟩
    | none => i.search steps (k - 1)

/-- The shortest decimal that rounds to a positive number.  The grids from
`10 ^ 308` to `10 ^ (-340)` are fine enough for every number of 64 bits. -/
def Binary.shortest (x : Binary) : Digits :=
  x.interval.search 649 308

/-! ## Writing decimals -/

/-- The digits of a decimal in order. -/
def Digits.text (d : Digits) : List Char :=
  Nat.toDigits 10 d.digits

/-- The exponent of the first digit. -/
def Digits.leading (d : Digits) : Int :=
  d.exponent + d.text.length - 1

/-- A decimal without an exponent.  At least one digit stands on each side of
the point. -/
def Digits.positional (d : Digits) : String :=
  let ds := d.text
  let point := d.exponent + ds.length
  if 0 ≤ d.exponent then
    String.ofList (ds ++ List.replicate d.exponent.toNat '0') ++ ".0"
  else if 0 < point then
    String.ofList (ds.take point.toNat ++ '.' :: ds.drop point.toNat)
  else
    "0." ++ String.ofList (List.replicate (-point).toNat '0' ++ ds)

/-- A decimal with its first digit before the point, and an exponent with a
sign. -/
def Digits.scientific (d : Digits) : String :=
  let e := d.leading
  let front := match d.text with
    | [] => []
    | [c] => [c]
    | c :: rest => c :: '.' :: rest
  String.ofList (front ++ 'e' :: (if e < 0 then '-' else '+') :: Nat.toDigits 10 e.natAbs)

end ClauseTx.Decimal
