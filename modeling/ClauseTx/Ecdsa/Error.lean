/-!
# Why keys and signatures are refused

`Error` has one constructor for each cause, and `Error.message` gives the
wording.  No message holds key bytes.
-/

namespace ClauseTx.Ecdsa

/-- What is wrong with a signature. -/
inductive SignatureFault where
  | wrongLength (expected length : Nat)
  /-- The last byte is not a parity. -/
  | recoveryByte (v : Nat)
  /-- The two numbers are out of range, or belong to no key. -/
  | unusable
  /-- Neither parity leads to the expected key. -/
  | noParity
deriving DecidableEq

/-- What is wrong with a public key. -/
inductive PublicKeyFault where
  /-- The length and the first byte fit no format. -/
  | unknownFormat (length : Nat)
  | notOnCurve
deriving DecidableEq

/-- Why an operation on keys or signatures fails. -/
inductive Error where
  | invalidPrivateKey
  | invalidMessageHash (length : Nat)
  | invalidSignature (fault : SignatureFault)
  | invalidPublicKey (fault : PublicKeyFault)
deriving DecidableEq

/-- The wording of a fault. -/
def SignatureFault.message : SignatureFault → String
  | .wrongLength expected length =>
    "expected " ++ Nat.repr expected ++ " bytes, got " ++ Nat.repr length
  | .recoveryByte v => "recovery id " ++ Nat.repr v ++ " is not 0 or 1"
  | .unusable => "signature error"
  | .noParity => "no recovery id recovers the expected public key"

/-- The wording of a fault. -/
def PublicKeyFault.message : PublicKeyFault → String
  | .unknownFormat length => "unrecognised " ++ Nat.repr length ++ "-byte encoding"
  | .notOnCurve => "not a point on the curve"

/-- The wording of an error. -/
def Error.message : Error → String
  | .invalidPrivateKey => "invalid private key: not a 32-byte scalar in [1, n)"
  | .invalidMessageHash length =>
    "invalid message hash: expected 32 bytes, got " ++ Nat.repr length
  | .invalidSignature fault => "invalid signature: " ++ fault.message
  | .invalidPublicKey fault => "invalid public key: " ++ fault.message

end ClauseTx.Ecdsa
