import ClauseTx.Proofs.Ecdsa.Key

/-!
# The two forms of a public key

A public key is read from a byte string exactly if the string is one of the two
forms of a point of the curve that is not at infinity (`decodePoint_eq_ok_iff`).
The two forms of a point are read as that point, so each can be turned into the
other and both have one address (`forms_of_onCurve`).  `Forms` collects what two
byte strings have in common that are the forms of one key, and
`key_forms_interchange` says that it holds of all that is read and of all that
belongs to a private key.
-/

namespace ClauseTx.Ecdsa

open CurveParameters Curve

/-! ## What is read -/

section Reading

variable {C : Curve} {bs : Bytes} {P : Point}

/-- Coordinates of 32 bytes are written back. -/
theorem uncompressed_toNat (hlen : bs.length = 64) :
    uncompressed (.affine (Bytes.toNat (bs.take 32)) (Bytes.toNat (bs.drop 32))) = 4 :: bs := by
  have hx := Bytes.ofNat_toNat (bs.take 32)
  have hy := Bytes.ofNat_toNat (bs.drop 32)
  rw [List.length_take_of_le (by omega)] at hx
  rw [List.length_drop, hlen] at hy
  rw [uncompressed, hx, hy, List.take_append_drop]

variable [Fact C.modulus.Prime]

/-- A first coordinate of 32 bytes and the parity of a point are written back. -/
theorem compressed_of_lift (hC : C.Regular) {b : UInt8} (hb : b = 2 ∨ b = 3)
    (hlen : bs.length = 32) (h : C.lift bs.toNat (decide (b = 3)) = some P) :
    compressed P = b :: bs := by
  obtain ⟨y, rfl, -, hparity⟩ := (lift_eq_some_iff hC.modulus_mod_four hC.cubic_ne_zero).mp h
  rw [decide_eq_decide] at hparity
  rw [compressed, ← hlen, Bytes.ofNat_toNat]
  obtain rfl | rfl := hb
  · rw [if_neg (mt hparity.mp (by decide))]
  · rw [if_pos (hparity.mpr rfl)]

/-- What is read is one of the two forms of the point. -/
theorem eq_of_decodePoint (hC : C.Regular) (h : decodePoint C bs = .ok P) :
    bs = compressed P ∨ bs = uncompressed P := by
  obtain ⟨b, x, rfl, hlen, hb, hlift⟩ | ⟨xy, rfl, hlen, rfl, -⟩ := decodePoint_cases h
  · exact .inl (compressed_of_lift hC hb hlen hlift).symm
  · exact .inr (uncompressed_toNat hlen).symm

/-- A byte string is read exactly if it is one of the two forms of a point of
the curve that is not at infinity. -/
theorem decodePoint_eq_ok_iff (hC : C.Regular) :
    decodePoint C bs = .ok P ↔
      (P ≠ .infinity ∧ C.onCurve P = true) ∧ (bs = compressed P ∨ bs = uncompressed P) := by
  constructor
  · intro h
    exact ⟨onCurve_of_decodePoint hC h, eq_of_decodePoint hC h⟩
  · intro h
    obtain ⟨⟨hne, hcurve⟩, rfl | rfl⟩ := h
    · exact decodePoint_compressed hC hne hcurve
    · exact decodePoint_uncompressed hC.modulus_le hne hcurve

end Reading

/-! ## The forms of a key -/

/-- Two byte strings are the short and the long form of one key, which has an
address. -/
structure Forms (short long : Bytes) (address : Address) : Prop where
  length_short : short.length = compressedLength
  length_long : long.length = uncompressedLength
  compress_short : compress secp256k1 short = .ok short
  compress_long : compress secp256k1 long = .ok short
  inflate_short : inflate secp256k1 short = .ok long
  inflate_long : inflate secp256k1 long = .ok long
  ofPublicKey_short : Address.ofPublicKey short = .ok address
  ofPublicKey_long : Address.ofPublicKey long = .ok address

theorem derivePublicKey_of_ofBytes {privateKey : Bytes} {key : PrivateKey secp256k1}
    {isCompressed : Bool} (h : PrivateKey.ofBytes secp256k1 privateKey = .ok key) :
    derivePublicKey secp256k1 privateKey isCompressed =
      .ok (if isCompressed then compressed key.publicKey else uncompressed key.publicKey) := by
  rw [derivePublicKey, h]
  rfl

/-- A point of the curve is written in two forms. -/
theorem forms_of_onCurve {P : Point} (hne : P ≠ .infinity) (hcurve : secp256k1.onCurve P = true) :
    Forms (compressed P) (uncompressed P) (Address.ofPoint P) := by
  have hshort := decodePoint_compressed secp256k1_regular hne hcurve
  have hlong := decodePoint_uncompressed secp256k1_regular.modulus_le hne hcurve
  obtain ⟨hlengthShort, hlengthLong⟩ := length_forms hne
  exact {
    length_short := hlengthShort
    length_long := hlengthLong
    compress_short := compress_of_decodePoint hshort
    compress_long := compress_of_decodePoint hlong
    inflate_short := inflate_of_decodePoint hshort
    inflate_long := inflate_of_decodePoint hlong
    ofPublicKey_short := Address.ofPublicKey_of_decodePoint hshort
    ofPublicKey_long := Address.ofPublicKey_of_decodePoint hlong }

/-- On the curve of the protocol, a byte string can be turned into either form
of a public key, or into neither and then for one reason.  If it can, it is one
of the two, and these are forms of one key with the address of the byte string.
The public keys of a private key are the two forms of one key, with the address
of the private key. -/
theorem key_forms_interchange :
    (∀ publicKey : Bytes,
      (∃ e, compress secp256k1 publicKey = .error e ∧ inflate secp256k1 publicKey = .error e) ∨
      ∃ short long address, compress secp256k1 publicKey = .ok short ∧
        inflate secp256k1 publicKey = .ok long ∧ Address.ofPublicKey publicKey = .ok address ∧
        (publicKey = short ∨ publicKey = long) ∧ Forms short long address) ∧
    ∀ (privateKey : Bytes) (key : PrivateKey secp256k1),
      PrivateKey.ofBytes secp256k1 privateKey = .ok key →
      ∃ short long, derivePublicKey secp256k1 privateKey true = .ok short ∧
        derivePublicKey secp256k1 privateKey false = .ok long ∧
        Forms short long (Address.ofPrivateKey key) := by
  constructor
  · intro publicKey
    cases hread : decodePoint secp256k1 publicKey with
    | error e =>
      left
      rw [compress, inflate, hread]
      exact ⟨e, rfl, rfl⟩
    | ok P =>
      right
      obtain ⟨⟨hne, hcurve⟩, hform⟩ := (decodePoint_eq_ok_iff secp256k1_regular).mp hread
      exact ⟨_, _, _, compress_of_decodePoint hread, inflate_of_decodePoint hread,
        Address.ofPublicKey_of_decodePoint hread, hform, forms_of_onCurve hne hcurve⟩
  · intro privateKey key hkey
    obtain ⟨G, hG⟩ := exists_isGenerator_secp256k1
    have hforms := forms_of_onCurve (publicKey_ne_infinity hG key) (onCurve_publicKey hG key)
    exact ⟨_, _, derivePublicKey_of_ofBytes hkey, derivePublicKey_of_ofBytes hkey, hforms⟩

/-- The private key one has the forms of the generator. -/
theorem key_forms_interchange_one :
    ∃ key : PrivateKey secp256k1,
      PrivateKey.ofBytes secp256k1 (List.replicate 31 0 ++ [1]) = .ok key ∧
        Forms (compressed secp256k1.generator) (uncompressed secp256k1.generator)
          (Address.ofPrivateKey key) := by
  let key : PrivateKey secp256k1 := ⟨1, by decide, by decide +kernel⟩
  have hbytes : key.bytes.bytes = List.replicate 31 0 ++ [1] := by decide +kernel
  have hkey := PrivateKey.ofBytes_bytes secp256k1_regular.order_le key
  rw [hbytes] at hkey
  obtain ⟨short, long, hshort, hlong, hforms⟩ := key_forms_interchange.2 _ key hkey
  obtain ⟨G, hG⟩ := exists_isGenerator_secp256k1
  have hpublic : key.publicKey = secp256k1.generator := by
    rw [PrivateKey.publicKey, hG.mulGenerator_eq_mul key.lt]
    decide +kernel
  rw [derivePublicKey_of_ofBytes hkey, hpublic] at hshort hlong
  injection hshort with hshort
  injection hlong with hlong
  subst hshort hlong
  exact ⟨key, hkey, hforms⟩

end ClauseTx.Ecdsa
