import ClauseTx.Proofs.Ecdsa.Key
import ClauseTx.Proofs.Ecdsa.Signature

/-!
# Written signatures lead back to their keys

A signature is written as its two numbers and a byte, and read back as long as
the byte is a parity (`splitSignature_append`).  It is one unless the first
coordinate of the nonce point was beyond the order.  So if a key signs a
digest and the last byte is `0` or `1`, then recovery gives the public key
(`recover_of_sign`).
-/

namespace ClauseTx.Ecdsa

open CurveParameters Curve

/-! ## Nonces -/

/-- What is drawn lies between zero and the order. -/
theorem Nonce.bounds_of_draw {order draws k : Nat} {g : Generator}
    (h : draw? order draws g = some k) : 0 < k ∧ k < order := by
  induction draws generalizing g with
  | zero => cases h
  | succ draws ih =>
    rw [draw?] at h
    split at h
    · rename_i hrange
      simp only [Bool.and_eq_true, decide_eq_true_eq] at hrange
      injection h with h
      rw [← h]
      exact hrange
    · exact ih h

/-! ## Signatures as byte strings -/

variable {C : Curve}

theorem checkDigest_eq_ok_iff {digest : Bytes} {u : Unit} :
    checkDigest digest = .ok u ↔ digest.length = digestLength := by
  rw [checkDigest, isDigest]
  by_cases h : digest.length = digestLength <;> simp [h]

/-- A key signs a digest with the numbers that a nonce gives. -/
theorem sign_eq_ok_iff {key : PrivateKey C} {digest : Bytes} {signature : Signature} :
    key.sign digest = .ok signature ↔
      digest.length = digestLength ∧
        ∃ k σ isOdd isBeyond, Nonce.nonce? C.order key.bytes.bytes digest = some k ∧
          signNumber C key.scalar k digest.toNat = some (σ, isOdd, isBeyond) ∧
          signature.bytes =
            Bytes.ofNat 32 σ.r ++ Bytes.ofNat 32 σ.s ++ [parityByte isOdd isBeyond] := by
  rw [PrivateKey.sign, bind_eq_ok_iff]
  constructor
  · intro h
    obtain ⟨_, hdigest, h⟩ := h
    dsimp only at h
    split at h
    · cases h
    · rename_i σ isOdd isBeyond hsigned
      obtain ⟨k, hk, hnumbers⟩ := Option.bind_eq_some_iff.mp hsigned
      injection h with h
      exact ⟨checkDigest_eq_ok_iff.mp hdigest, k, σ, isOdd, isBeyond, hk, hnumbers, by rw [← h]⟩
  · intro h
    obtain ⟨hdigest, k, σ, isOdd, isBeyond, hk, hnumbers, hbytes⟩ := h
    have hsigned : (do
        let k ← Nonce.nonce? C.order key.bytes.bytes digest
        signNumber C key.scalar k digest.toNat) = some (σ, isOdd, isBeyond) :=
      Option.bind_eq_some_iff.mpr ⟨k, hk, hnumbers⟩
    refine ⟨(), checkDigest_eq_ok_iff.mpr hdigest, ?_⟩
    dsimp only
    rw [hsigned]
    exact congrArg Except.ok (Blob.ext hbytes.symm)

theorem length_compact (σ : Numbers) :
    (Bytes.ofNat 32 σ.r ++ Bytes.ofNat 32 σ.s).length = compactLength := by
  simp [compactLength]

/-- The last byte of a signature. -/
theorem getD_append {compact : Bytes} (hlen : compact.length = compactLength) (v : UInt8) :
    (compact ++ [v]).getD compactLength 0 = v := by
  rw [List.getD_eq_getElem?_getD, List.getElem?_append_right hlen.le, hlen, Nat.sub_self]
  rfl

theorem getD_compactLength (σ : Numbers) (v : UInt8) :
    (Bytes.ofNat 32 σ.r ++ Bytes.ofNat 32 σ.s ++ [v]).getD compactLength 0 = v :=
  getD_append (length_compact σ) v

/-- Numbers in their range are read back. -/
theorem Numbers.ofBytes_append {σ : Numbers} (hrange : σ.inRange C = true)
    (horder : C.order ≤ 256 ^ 32) :
    Numbers.ofBytes C (Bytes.ofNat 32 σ.r ++ Bytes.ofNat 32 σ.s) = .ok σ := by
  have hbounds := hrange
  simp only [Numbers.inRange, Bool.and_eq_true, decide_eq_true_eq] at hbounds
  rw [Numbers.ofBytes, List.take_left' (Bytes.length_ofNat 32 σ.r),
    List.drop_left' (Bytes.length_ofNat 32 σ.r), Bytes.toNat_ofNat_of_lt (by omega),
    Bytes.toNat_ofNat_of_lt (by omega)]
  exact if_pos hrange

/-- Only what is written of numbers in their range is read. -/
theorem Numbers.ofBytes_eq_ok_iff (horder : C.order ≤ 256 ^ 32) {bs : Bytes}
    (hlen : bs.length = compactLength) {σ : Numbers} :
    Numbers.ofBytes C bs = .ok σ ↔
      σ.inRange C = true ∧ bs = Bytes.ofNat 32 σ.r ++ Bytes.ofNat 32 σ.s := by
  constructor
  · intro h
    unfold Numbers.ofBytes at h
    dsimp only at h
    split at h
    · rename_i hrange
      injection h with h
      subst h
      refine ⟨hrange, ?_⟩
      have hfirst : (bs.take 32).length = 32 := by simp [hlen, compactLength]
      have hsecond : (bs.drop 32).length = 32 := by simp [hlen, compactLength]
      have hr := Bytes.ofNat_toNat (bs.take 32)
      have hs := Bytes.ofNat_toNat (bs.drop 32)
      rw [hfirst] at hr
      rw [hsecond] at hs
      dsimp only
      rw [hr, hs, List.take_append_drop]
    · cases h
  · intro h
    rw [h.right]
    exact Numbers.ofBytes_append h.left horder

/-- A signature is read if its numbers are and its last byte is a parity. -/
theorem splitSignature_append_eq_ok_iff {compact : Bytes} (hlen : compact.length = compactLength)
    {v : UInt8} {σ : Numbers} {isOdd : Bool} :
    splitSignature C (compact ++ [v]) = .ok (σ, isOdd) ↔
      Numbers.ofBytes C compact = .ok σ ∧ v = parityByte isOdd false := by
  have hlength : (compact ++ [v]).length = signatureLength := by
    rw [List.length_append, hlen]
    rfl
  rw [splitSignature, if_neg (not_not.mpr hlength), getD_append hlen, List.take_left' hlen]
  dsimp only
  split
  · rename_i hlarge
    constructor
    · intro h
      cases h
    · rintro ⟨-, hv⟩
      rw [hv] at hlarge
      cases isOdd <;> exact absurd hlarge (by decide)
  · rename_i hparity
    have hbyte : v = parityByte isOdd false ↔ decide (v.toNat = 1) = isOdd := by
      rw [← UInt8.toNat_inj]
      cases isOdd <;> simp [parityByte]
      omega
    rw [hbyte, bind_eq_ok_iff]
    simp only [pure_eq_ok_iff, Prod.mk.injEq]
    constructor
    · rintro ⟨σ', hnumbers, rfl, hodd⟩
      exact ⟨hnumbers, hodd⟩
    · rintro ⟨hnumbers, hodd⟩
      exact ⟨σ, hnumbers, rfl, hodd⟩

/-- The numbers and the parity of a signature are read back. -/
theorem splitSignature_append {σ : Numbers} (isOdd : Bool) (hrange : σ.inRange C = true)
    (horder : C.order ≤ 256 ^ 32) :
    splitSignature C
        (Bytes.ofNat 32 σ.r ++ Bytes.ofNat 32 σ.s ++ [parityByte isOdd false]) =
      .ok (σ, isOdd) :=
  (splitSignature_append_eq_ok_iff (length_compact σ)).mpr
    ⟨Numbers.ofBytes_append hrange horder, rfl⟩

/-- Only what is written of numbers in their range and a parity is read. -/
theorem splitSignature_eq_ok_iff (horder : C.order ≤ 256 ^ 32) {signature : Bytes} {σ : Numbers}
    {isOdd : Bool} :
    splitSignature C signature = .ok (σ, isOdd) ↔
      σ.inRange C = true ∧
        signature = Bytes.ofNat 32 σ.r ++ Bytes.ofNat 32 σ.s ++ [parityByte isOdd false] := by
  constructor
  · intro h
    have hlen : signature.length = signatureLength := by
      by_contra hne
      rw [splitSignature, if_pos hne] at h
      cases h
    cases signature using List.reverseRecOn with
    | nil => cases hlen
    | append_singleton compact v =>
      have hcompact : compact.length = compactLength := by
        rw [List.length_append] at hlen
        exact Nat.succ.inj hlen
      obtain ⟨hnumbers, hv⟩ := (splitSignature_append_eq_ok_iff hcompact).mp h
      obtain ⟨hrange, hwritten⟩ := (Numbers.ofBytes_eq_ok_iff horder hcompact).mp hnumbers
      rw [hv, hwritten]
      exact ⟨hrange, rfl⟩
  · intro h
    rw [h.right]
    exact splitSignature_append isOdd h.left horder

/-- The last byte is a parity exactly if the first coordinate of the nonce
point was below the order. -/
theorem parityByte_le_one_iff {isOdd isBeyond : Bool} :
    (parityByte isOdd isBeyond).toNat ≤ 1 ↔ isBeyond = false := by
  cases isOdd <;> cases isBeyond <;> decide

variable [Fact C.modulus.Prime] {G : C.weierstrass.Point}

/-- A key signs a digest, with a parity as the last byte, if the nonce point is
below the order in its first coordinate and neither number vanishes. -/
theorem exists_sign_of_mul (hG : C.IsGenerator G) {key : PrivateKey C} {digest : Bytes}
    {k x y : Nat} (hdigest : digest.length = digestLength)
    (hnonce : Nonce.nonce? C.order key.bytes.bytes digest = some k)
    (hpoint : C.mul k C.generator = .affine x y) (hx : x < C.order) (hr : x ≠ 0)
    (hs : inverse C.order k * ((digest.toNat % C.order + x * key.scalar) % C.order) % C.order ≠ 0) :
    ∃ signature : Signature, key.sign digest = .ok signature ∧
      (signature.bytes.getD compactLength 0).toNat ≤ 1 := by
  have hgenerator : C.mulGenerator k = .affine x y := by
    rw [hG.mulGenerator_eq_mul (Nonce.bounds_of_draw hnonce).2, hpoint]
  have hnumbers : ∃ σ isOdd,
      signNumber C key.scalar k digest.toNat = some (σ, isOdd, false) := by
    rw [signNumber, hgenerator]
    simp only [Nat.mod_eq_of_lt hx, hr, hs, decide_false, Bool.or_false, Bool.false_eq_true,
      if_false, ge_iff_le, Nat.not_le.mpr hx]
    split
    · exact ⟨_, _, rfl⟩
    · exact ⟨_, _, rfl⟩
  obtain ⟨σ, isOdd, hnumbers⟩ := hnumbers
  refine ⟨⟨Bytes.ofNat 32 σ.r ++ Bytes.ofNat 32 σ.s ++ [parityByte isOdd false], by simp⟩, ?_, ?_⟩
  · exact sign_eq_ok_iff.mpr ⟨hdigest, k, σ, isOdd, false, hnonce, hnumbers, rfl⟩
  · rw [getD_compactLength]
    exact parityByte_le_one_iff.mpr rfl

/-! ## What a signature solves -/

variable [Fact C.order.Prime]

theorem Solves.inRange {z key x y a : Nat} {σ : Numbers} (h : Solves G z key σ x y a)
    (hx : x < C.order) : σ.inRange C = true := by
  have hr := h.r_eq
  have hrPos := h.r_pos
  have hsPos := h.s_pos
  have hsLow := h.s_low
  rw [Nat.mod_eq_of_lt hx] at hr
  simp only [Numbers.inRange, Bool.and_eq_true, decide_eq_true_eq]
  omega

/-- A signature of a digest by a key solves their equation with the nonce or
its opposite. -/
theorem exists_solves_of_sign (hG : C.IsGenerator G) (hodd : C.modulus % 2 = 1)
    {key : PrivateKey C} {digest : Bytes} {signature : Signature}
    (hsign : key.sign digest = .ok signature) :
    ∃ k σ x y a, Nonce.nonce? C.order key.bytes.bytes digest = some k ∧
      (∃ y₀, C.mul k C.generator = .affine x y₀) ∧ Solves G digest.toNat key.scalar σ x y a ∧
      signature.bytes = Bytes.ofNat 32 σ.r ++ Bytes.ofNat 32 σ.s ++
        [parityByte (decide (y % 2 = 1)) (decide (C.order ≤ x))] := by
  obtain ⟨-, k, σ, isOdd, isBeyond, hk, hnumbers, hbytes⟩ := sign_eq_ok_iff.mp hsign
  obtain ⟨hpos, hlt⟩ := Nonce.bounds_of_draw hk
  obtain ⟨x, y, a, hsolves, rfl, rfl, hpoint⟩ :=
    exists_solves_of_signNumber hG hodd hpos hlt hnumbers
  rw [hG.mulGenerator_eq_mul hlt] at hpoint
  exact ⟨k, σ, x, y, a, hk, hpoint, hsolves, hbytes⟩

/-! ## Recovery -/

omit [Fact C.modulus.Prime] [Fact C.order.Prime] in
theorem recover_eq_ok_iff {digest signature publicKey : Bytes} :
    recover C digest signature = .ok publicKey ↔
      digest.length = digestLength ∧ ∃ σ isOdd Q, splitSignature C signature = .ok (σ, isOdd) ∧
        recoverPoint C digest.toNat σ isOdd = some Q ∧ publicKey = uncompressed Q := by
  rw [recover, bind_eq_ok_iff]
  constructor
  · intro h
    obtain ⟨_, hdigest, h⟩ := h
    obtain ⟨⟨σ, isOdd⟩, hsplit, h⟩ := bind_eq_ok_iff.mp h
    dsimp only at h
    split at h
    · rename_i Q hrecover
      injection h with h
      exact ⟨checkDigest_eq_ok_iff.mp hdigest, σ, isOdd, Q, hsplit, hrecover, h.symm⟩
    · cases h
  · intro h
    obtain ⟨hdigest, σ, isOdd, Q, hsplit, hrecover, rfl⟩ := h
    refine ⟨(), checkDigest_eq_ok_iff.mpr hdigest, bind_eq_ok_iff.mpr ⟨_, hsplit, ?_⟩⟩
    dsimp only
    rw [hrecover]

variable [C.weierstrass.IsElliptic]

/-- The parity of a solution leads back to the public key, and the other parity
does not. -/
theorem Solves.recoverPoint_iff (hG : C.IsGenerator G) (hmodulus : C.modulus % 4 = 3)
    {key : PrivateKey C} {z x y a : Nat} {σ : Numbers} (h : Solves G z key.scalar σ x y a)
    (hx : x < C.order) {isOdd : Bool} :
    recoverPoint C z σ isOdd = some key.publicKey ↔ isOdd = decide (y % 2 = 1) :=
  recoverPoint_of_solves hG hmodulus h hx (hG.denotes.mulGenerator key.lt)
    (publicKey_ne_infinity hG key)

/-- If a key signs a digest, and the last byte of the signature is a parity,
then the public key is recovered. -/
theorem recover_of_sign (hG : C.IsGenerator G) (hmodulus : C.modulus % 4 = 3)
    (horder : C.order ≤ 256 ^ 32) {key : PrivateKey C} {digest : Bytes} {signature : Signature}
    (hsign : key.sign digest = .ok signature)
    (hparity : (signature.bytes.getD compactLength 0).toNat ≤ 1) :
    recover C digest signature.bytes = .ok (uncompressed key.publicKey) := by
  obtain ⟨k, σ, x, y, a, -, -, hsolves, hbytes⟩ := exists_solves_of_sign hG (by omega) hsign
  rw [hbytes, getD_compactLength, parityByte_le_one_iff] at hparity
  have hx : x < C.order := by
    rw [decide_eq_false_iff_not] at hparity
    omega
  rw [hparity] at hbytes
  rw [hbytes]
  exact recover_eq_ok_iff.mpr ⟨(sign_eq_ok_iff.mp hsign).left, σ, _, _,
    splitSignature_append _ (hsolves.inRange hx) horder,
    (hsolves.recoverPoint_iff hG hmodulus hx).mpr rfl, rfl⟩

end ClauseTx.Ecdsa
