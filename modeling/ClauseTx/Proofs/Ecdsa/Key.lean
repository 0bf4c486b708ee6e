import ClauseTx.Address.Text
import ClauseTx.Proofs.Bytes
import ClauseTx.Proofs.Curve.Secp256k1
import ClauseTx.Proofs.Outcome

/-!
# Written public keys

A point of the curve that is not at infinity is read back from both of its
coordinates (`decodePoint_uncompressed`), and from the first one and a parity
(`decodePoint_compressed`).  There is no other way to read one
(`decodePoint_cases`), so nothing else is ever read
(`onCurve_of_decodePoint`).

The public key of a private key is such a point, so both keys have one
address.
-/

namespace ClauseTx

namespace Ecdsa

open CurveParameters Curve

variable {C : Curve}

/-! ## Private keys -/

/-- The bytes of a private key are read back. -/
theorem PrivateKey.ofBytes_bytes (horder : C.order ≤ 256 ^ 32) (key : PrivateKey C) :
    ofBytes C key.bytes.bytes = .ok key := by
  have hlt := key.lt
  have hnumber : key.bytes.bytes.toNat = key.scalar := Bytes.toNat_ofNat_of_lt (by omega)
  have hkey : ofNat? C key.scalar = some key := dif_pos ⟨key.pos, key.lt⟩
  have hlength : ¬ key.bytes.bytes.length ≠ privateKeyLength := not_not.mpr key.bytes.length_eq
  rw [ofBytes, if_neg hlength, hnumber, hkey]

/-! ## Written points -/

theorem length_uncompressed_affine (x y : Nat) :
    (uncompressed (.affine x y)).length = uncompressedLength := by
  simp [uncompressed, uncompressedLength]

theorem length_compressed_affine (x y : Nat) :
    (compressed (.affine x y)).length = compressedLength := by
  simp [compressed, compressedLength]

/-- Each form of a point has its length. -/
theorem length_forms {P : Point} (hne : P ≠ .infinity) :
    (compressed P).length = compressedLength ∧ (uncompressed P).length = uncompressedLength := by
  cases P with
  | infinity => exact absurd rfl hne
  | affine x y => exact ⟨length_compressed_affine x y, length_uncompressed_affine x y⟩

/-- Coordinates of 32 bytes are read back. -/
theorem decodePoint_uncompressed {P : Point} (hmodulus : C.modulus ≤ 256 ^ 32)
    (hne : P ≠ .infinity) (hcurve : C.onCurve P = true) :
    decodePoint C (uncompressed P) = .ok P := by
  cases P with
  | infinity => exact absurd rfl hne
  | affine x y =>
    have hbounds := hcurve
    simp only [onCurve, Bool.and_eq_true, decide_eq_true_eq] at hbounds
    have hx : Bytes.toNat ((uncompressed (.affine x y)).tail.take 32) = x := by
      rw [uncompressed, List.tail_cons, List.take_left' (Bytes.length_ofNat 32 x),
        Bytes.toNat_ofNat_of_lt (by omega)]
    have hy : Bytes.toNat ((uncompressed (.affine x y)).tail.drop 32) = y := by
      rw [uncompressed, List.tail_cons, List.drop_left' (Bytes.length_ofNat 32 x),
        Bytes.toNat_ofNat_of_lt (by omega)]
    have hcompressed : uncompressedLength ≠ compressedLength := by decide
    simp only [decodePoint, length_uncompressed_affine, hx, hy, hcurve]
    simp [uncompressed, hcompressed]

theorem compress_of_decodePoint {bs : Bytes} {P : Point} (h : decodePoint C bs = .ok P) :
    compress C bs = .ok (compressed P) := by
  rw [compress, h]
  rfl

theorem inflate_of_decodePoint {bs : Bytes} {P : Point} (h : decodePoint C bs = .ok P) :
    inflate C bs = .ok (uncompressed P) := by
  rw [inflate, h]
  rfl

/-- There are two ways to read a point: by its first coordinate and a parity, or
by both coordinates. -/
theorem decodePoint_cases {bs : Bytes} {P : Point} (h : decodePoint C bs = .ok P) :
    (∃ b x, bs = b :: x ∧ x.length = 32 ∧ (b = 2 ∨ b = 3) ∧
        C.lift (Bytes.toNat x) (decide (b = 3)) = some P) ∨
      ∃ xy, bs = 4 :: xy ∧ xy.length = 64 ∧
        P = .affine (Bytes.toNat (xy.take 32)) (Bytes.toNat (xy.drop 32)) ∧
        C.onCurve P = true := by
  unfold decodePoint at h
  dsimp only at h
  split at h
  case isTrue hform =>
    split at h
    case h_1 Q hlift =>
      injection h with h
      subst h
      cases bs with
      | nil => exact nomatch hform
      | cons b x =>
        simp only [List.head?_cons, Option.some.injEq, Bool.and_eq_true, Bool.or_eq_true,
          decide_eq_true_eq] at hform hlift
        exact .inl ⟨b, x, rfl, Nat.succ.inj hform.1, hform.2, hlift⟩
    case h_2 => exact nomatch h
  case isFalse =>
    split at h
    case isTrue hform =>
      split at h
      case isTrue hcurve =>
        injection h with h
        subst h
        cases bs with
        | nil => exact nomatch hform
        | cons b xy =>
          simp only [List.head?_cons, Option.some.injEq, Bool.and_eq_true,
            decide_eq_true_eq] at hform
          obtain ⟨hlen, rfl⟩ := hform
          exact .inr ⟨xy, rfl, Nat.succ.inj hlen, rfl, hcurve⟩
      case isFalse => exact nomatch h
    case isFalse => exact nomatch h

variable [Fact C.modulus.Prime]

/-- A first coordinate of 32 bytes is read back, and the point is found from it
and the parity. -/
theorem decodePoint_compressed (hC : C.Regular) {P : Point} (hne : P ≠ .infinity)
    (hcurve : C.onCurve P = true) : decodePoint C (compressed P) = .ok P := by
  cases P with
  | infinity => exact absurd rfl hne
  | affine x y =>
    have hle := hC.modulus_le
    have hbounds := hcurve
    simp only [onCurve, Bool.and_eq_true, decide_eq_true_eq] at hbounds
    have hx : Bytes.toNat (compressed (.affine x y)).tail = x := by
      rw [compressed, List.tail_cons, Bytes.toNat_ofNat_of_lt (by omega)]
    have hlift := lift_of_onCurve hC.modulus_mod_four hcurve
    simp only [decodePoint, length_compressed_affine, hx]
    by_cases hodd : y % 2 = 1
    · rw [decide_eq_true hodd] at hlift
      simp [compressed, hodd, hlift]
    · rw [decide_eq_false hodd] at hlift
      simp [compressed, hodd, hlift]

/-- What is read is a point of the curve, and not at infinity. -/
theorem onCurve_of_decodePoint (hC : C.Regular) {bs : Bytes} {P : Point}
    (h : decodePoint C bs = .ok P) : P ≠ .infinity ∧ C.onCurve P = true := by
  obtain ⟨b, x, -, -, -, hlift⟩ | ⟨xy, -, -, rfl, hcurve⟩ := decodePoint_cases h
  · obtain ⟨y, rfl, hcurve, -⟩ :=
      (lift_eq_some_iff hC.modulus_mod_four hC.cubic_ne_zero).mp hlift
    exact ⟨Point.noConfusion, hcurve⟩
  · exact ⟨Point.noConfusion, hcurve⟩

omit [Fact C.modulus.Prime] in
/-- Two points of the curve are not written alike. -/
theorem uncompressed_inj {P Q : Point} (hmodulus : C.modulus ≤ 256 ^ 32) (hP : P ≠ .infinity)
    (hPcurve : C.onCurve P = true) (hQ : Q ≠ .infinity) (hQcurve : C.onCurve Q = true)
    (h : uncompressed P = uncompressed Q) : P = Q := by
  have hread := decodePoint_uncompressed hmodulus hP hPcurve
  rw [h, decodePoint_uncompressed hmodulus hQ hQcurve] at hread
  injection hread with hread
  exact hread.symm

/-! ## Public keys -/

section PublicKey

variable [Fact C.order.Prime] {G : C.weierstrass.Point}

/-- The public key of a private key is not at infinity. -/
theorem publicKey_ne_infinity (hG : C.IsGenerator G) (key : PrivateKey C) :
    key.publicKey ≠ .infinity := by
  intro h
  have hpublic := hG.denotes.mulGenerator key.lt
  rw [← PrivateKey.publicKey, h] at hpublic
  have hzero : key.scalar • G = 0 := hpublic
  rw [hG.nsmul_eq_zero_iff] at hzero
  exact IsGenerator.natCast_ne_zero key.pos key.lt hzero

/-- Each form of a public key has its length. -/
theorem length_publicKey (hG : C.IsGenerator G) (key : PrivateKey C) :
    (compressed key.publicKey).length = compressedLength ∧
      (uncompressed key.publicKey).length = uncompressedLength :=
  length_forms (publicKey_ne_infinity hG key)

omit [Fact C.order.Prime] in
theorem onCurve_publicKey [C.weierstrass.IsElliptic] (hG : C.IsGenerator G) (key : PrivateKey C) :
    C.onCurve key.publicKey = true :=
  onCurve_iff_denotes.mpr ⟨_, hG.denotes.mulGenerator key.lt⟩

end PublicKey

end Ecdsa

/-! ## Addresses of keys -/

/-- The address of what is read is that of the point. -/
theorem Address.ofPublicKey_of_decodePoint {bs : Bytes} {P : Point}
    (h : Ecdsa.decodePoint secp256k1 bs = .ok P) : ofPublicKey bs = .ok (ofPoint P) := by
  rw [ofPublicKey, Ecdsa.inflate_of_decodePoint h]
  rfl

/-- The address of a key is that of its public key. -/
theorem Address.ofPublicKey_publicKey (key : PrivateKey) :
    ofPublicKey (Ecdsa.uncompressed key.publicKey) = .ok (ofPrivateKey key) := by
  obtain ⟨G, hG⟩ := exists_isGenerator_secp256k1
  have hne := Ecdsa.publicKey_ne_infinity hG key
  exact ofPublicKey_of_decodePoint
    (Ecdsa.decodePoint_uncompressed (by decide) hne (Ecdsa.onCurve_publicKey hG key))

end ClauseTx
