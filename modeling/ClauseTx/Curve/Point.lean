import ClauseTx.Curve.Modular

/-!
# Points of an elliptic curve

Curves have the equation `y ^ 2 = x ^ 3 + b` over a prime field.  Points are
affine, with coordinates reduced modulo the prime, or the point at infinity.

`Curve` holds the numbers that fix a curve and its generator, and a table of
multiples of the generator that `mulGenerator` adds up.
-/

namespace ClauseTx

/-- A point of a curve. -/
inductive Point where
  | infinity
  | affine (x y : Nat)
deriving DecidableEq, Inhabited

/-- The numbers that fix a curve with a generator. -/
structure CurveParameters where
  /-- The size of the field, a prime with the remainder 3 modulo 4. -/
  modulus : Nat
  /-- The constant `b` of the equation. -/
  constant : Nat
  /-- The order of the group, a prime. -/
  order : Nat
  generator : Point

namespace CurveParameters

variable (C : CurveParameters)

/-- The right hand side of the equation. -/
def cubic (x : Nat) : Nat :=
  (x * x % C.modulus * x + C.constant) % C.modulus

/-- Whether a point has reduced coordinates that solve the equation. -/
def onCurve : Point → Bool
  | .infinity => true
  | .affine x y =>
    x < C.modulus && y < C.modulus && y * y % C.modulus = C.cubic x

/-! ## The group -/

/-- The opposite point. -/
def neg : Point → Point
  | .infinity => .infinity
  | .affine x y => .affine x ((C.modulus - y) % C.modulus)

/-- The third point on a line through two points of the curve, reflected.  The
line has the slope `numerator / denominator`. -/
def third (x₁ y₁ x₂ numerator denominator : Nat) : Point :=
  let p := C.modulus
  let slope := numerator * Curve.inverse p denominator % p
  let x := (slope * slope + 2 * p - x₁ - x₂) % p
  .affine x ((slope * (x₁ + p - x) + p - y₁) % p)

/-- The sum of two points. -/
def add : Point → Point → Point
  | .infinity, Q => Q
  | P, .infinity => P
  | .affine x₁ y₁, .affine x₂ y₂ =>
    let p := C.modulus
    if x₁ = x₂ then
      if (y₁ + y₂) % p = 0 then .infinity
      else C.third x₁ y₁ x₂ (3 * x₁ * x₁) (2 * y₁)
    else C.third x₁ y₁ x₂ (y₂ + p - y₁) (x₂ + p - x₁)

/-- A multiple of a point, for a factor with a known number of bits. -/
def mulBits (P : Point) : (bits : Nat) → (k : Nat) → Point
  | 0, _ => .infinity
  | bits + 1, k =>
    let half := mulBits P bits (k / 2)
    let double := C.add half half
    if k % 2 = 1 then C.add double P else double

/-- A multiple of a point. -/
def mul (k : Nat) (P : Point) : Point :=
  C.mulBits P (k.log2 + 1) k

/-! ## Multiples of the generator -/

/-- The multiples of a point by `0` to `count`. -/
def multiples (P : Point) : (count : Nat) → List Point
  | 0 => [.infinity]
  | count + 1 =>
    match multiples P count with
    | [] => []
    | Q :: rest => C.add Q P :: Q :: rest

/-- For each hexadecimal digit of a factor, low digit first, the contribution
of each value of the digit. -/
def windows (P : Point) : (count : Nat) → List (Array Point)
  | 0 => []
  | count + 1 =>
    (C.multiples P 15).reverse.toArray :: windows (C.mul 16 P) count

end CurveParameters

/-- A curve with the table of multiples of its generator. -/
structure Curve extends CurveParameters where
  table : List (Array Point)
  table_eq : table =
    toCurveParameters.windows toCurveParameters.generator (toCurveParameters.order.log2 / 4 + 1)

namespace Curve

/-- The curve of given numbers. -/
def ofParameters (C : CurveParameters) : Curve :=
  ⟨C, C.windows C.generator (C.order.log2 / 4 + 1), rfl⟩

/-- Adds up the contributions of the digits of a factor. -/
def sumWindows (C : CurveParameters) : List (Array Point) → (k : Nat) → Point
  | [], _ => .infinity
  | row :: rows, k => C.add (row.getD (k % 16) .infinity) (sumWindows C rows (k / 16))

/-- A multiple of the generator, for a factor below the order. -/
def mulGenerator (C : Curve) (k : Nat) : Point :=
  sumWindows C.toCurveParameters C.table k

/-! ## Points by their first coordinate -/

/-- The point with a first coordinate and a parity of the second, if there is
one.  Where the cubic is a square, its power by a quarter of `modulus + 1`
is a root. -/
def lift (C : Curve) (x : Nat) (isOdd : Bool) : Option Point :=
  if x < C.modulus then
    let y := power C.modulus (C.cubic x) ((C.modulus + 1) / 4)
    if y * y % C.modulus = C.cubic x then
      some (.affine x (if (y % 2 = 1) = isOdd then y else C.modulus - y))
    else none
  else none

end Curve

end ClauseTx
