import ClauseTx.Curve.Point

/-!
# The curve secp256k1

The curve `y ^ 2 = x ^ 3 + 7` on which all keys of the protocol live.
-/

namespace ClauseTx

/-- The numbers of the curve. -/
def secp256k1Parameters : CurveParameters where
  modulus := 0xFFFFFFFFFFFFFFFFFFFFFFFFFFFFFFFFFFFFFFFFFFFFFFFFFFFFFFFEFFFFFC2F
  constant := 7
  order := 0xFFFFFFFFFFFFFFFFFFFFFFFFFFFFFFFEBAAEDCE6AF48A03BBFD25E8CD0364141
  generator := .affine
    0x79BE667EF9DCBBAC55A06295CE870B07029BFCDB2DCE28D959F2815B16F81798
    0x483ADA7726A3C4655DA4FBFC0E1108A8FD17B448A68554199C47D08FFB10D4B8

/-- The curve. -/
def secp256k1 : Curve :=
  Curve.ofParameters secp256k1Parameters

end ClauseTx
