/-!
# Arithmetic modulo a number

Inverses by the algorithm of Euclid, and powers by squaring.  Both run for a
number of steps that is fixed beforehand by the size of the operands.
-/

namespace ClauseTx.Curve

/-- The steps of the extended algorithm of Euclid.  The remainders `r₀` and
`r₁` are multiples of the input modulo the modulus, with the factors `s₀` and
`s₁` up to a sign.  The signs alternate, and `positive` is that of `s₀`. -/
def euclid : (steps : Nat) → (r₀ r₁ s₀ s₁ : Nat) → (positive : Bool) → Nat × Bool
  | 0, _, _, s₀, _, positive => (s₀, positive)
  | steps + 1, r₀, r₁, s₀, s₁, positive =>
    if r₁ = 0 then (s₀, positive)
    else euclid steps r₁ (r₀ % r₁) s₁ (s₀ + r₀ / r₁ * s₁) !positive

/-- The inverse of a number that has no factor in common with the modulus.
The remainder halves every two steps. -/
def inverse (m a : Nat) : Nat :=
  match euclid (2 * m.log2 + 4) m (a % m) 0 1 false with
  | (s, true) => s % m
  | (s, false) => (m - s % m) % m

/-- A power whose exponent has a known number of bits. -/
def powerBits (m a : Nat) : (bits : Nat) → (exponent : Nat) → Nat
  | 0, _ => 1 % m
  | bits + 1, exponent =>
    let root := powerBits m a bits (exponent / 2)
    let square := root * root % m
    if exponent % 2 = 1 then square * a % m else square

/-- A power modulo a number. -/
def power (m a exponent : Nat) : Nat :=
  powerBits m a (exponent.log2 + 1) exponent

end ClauseTx.Curve
