import ClauseTx.Proofs.Ecdsa.Uniqueness

/-!
# An accepted signature cannot be changed

The number `r`, a digest and a public key leave no choice for the rest of a
signature that is accepted (`tail_unique`), since the numbers and the parity
are read from one byte string only.

A third party who knows the equation of verification can flip the parity, take
the opposite number `s`, or do both.  Each of these is read as a signature, and
is refused as one (`verify_of_malleation`).  Nothing is assumed of the curve.
-/

namespace ClauseTx.Ecdsa

open CurveParameters Curve

variable {C : Curve}

/-- What is read as a signature and a public key is verified. -/
theorem verify_eq_ok {digest signature publicKey : Bytes} {σ : Numbers} {isOdd : Bool} {Q : Point}
    (hdigest : digest.length = digestLength) (hdecode : decodePoint C publicKey = .ok Q)
    (hsplit : splitSignature C signature = .ok (σ, isOdd)) :
    ∃ accepted, verify C digest signature publicKey = .ok accepted := by
  have hcheck : checkDigest digest = .ok () := checkDigest_eq_ok_iff.mpr hdigest
  rw [verify, hcheck, ok_bind, hdecode, ok_bind, hsplit, ok_bind]
  exact ⟨_, rfl⟩

variable [Fact C.modulus.Prime] [Fact C.order.Prime] [C.weierstrass.IsElliptic]
  {G : C.weierstrass.Point}

/-- A signature that is accepted is determined by its number `r`. -/
theorem tail_unique (hG : C.IsGenerator G) (hC : C.Regular)
    (hall : ∀ A : C.weierstrass.Point, ∃ a : Nat, a • G = A) {digest publicKey : Bytes}
    {r : Blob 32} {tail₁ tail₂ : Bytes}
    (h₁ : verify C digest (r.bytes ++ tail₁) publicKey = .ok true)
    (h₂ : verify C digest (r.bytes ++ tail₂) publicKey = .ok true) : tail₁ = tail₂ := by
  obtain ⟨-, σ₁, isOdd₁, Q₁, hdecode₁, hsplit₁, hrecover₁⟩ := verify_eq_true_iff.mp h₁
  obtain ⟨-, σ₂, isOdd₂, Q₂, hdecode₂, hsplit₂, hrecover₂⟩ := verify_eq_true_iff.mp h₂
  obtain rfl : Q₁ = Q₂ := Except.ok.inj (hdecode₁.symm.trans hdecode₂)
  obtain ⟨hrange₁, hwritten₁⟩ := (splitSignature_eq_ok_iff hC.order_le).mp hsplit₁
  obtain ⟨hrange₂, hwritten₂⟩ := (splitSignature_eq_ok_iff hC.order_le).mp hsplit₂
  have hr : ∀ {σ : Numbers} {tail rest : Bytes}, σ.inRange C = true →
      r.bytes ++ tail = Bytes.ofNat 32 σ.r ++ rest → σ.r = r.toNat := by
    intro σ tail rest hrange hwritten
    have horder := hC.order_le
    simp only [Numbers.inRange, Bool.and_eq_true, decide_eq_true_eq] at hrange
    have hlength : r.bytes.length = (Bytes.ofNat 32 σ.r).length := by
      rw [r.length_eq, Bytes.length_ofNat]
    rw [Blob.toNat, (List.append_inj hwritten hlength).left, Bytes.toNat_ofNat_of_lt (by omega)]
  rw [List.append_assoc] at hwritten₁ hwritten₂
  have hsame := (hr hrange₁ hwritten₁).trans (hr hrange₂ hwritten₂).symm
  obtain ⟨rfl, rfl⟩ := recoverPoint_inj hG hC hall hrange₁ hrange₂ hsame hrecover₁ hrecover₂
  exact List.append_cancel_left (hwritten₁.trans hwritten₂.symm)

/-! ## What a third party can make of a signature -/

/-- The number `s` and the last byte with the other parity, with the opposite
number, and with both. -/
def malleations (C : Curve) (s : Blob 32) (v : UInt8) : List (Blob 32 × UInt8) :=
  [(s, 1 - v), (Blob.ofNat 32 (C.order - s.toNat), v), (Blob.ofNat 32 (C.order - s.toNat), 1 - v)]

omit [Fact C.modulus.Prime] [Fact C.order.Prime] [C.weierstrass.IsElliptic] in
/-- The three parts of a signature are read one by one. -/
theorem splitSignature_parts_eq_ok_iff {r s : Blob 32} {v : UInt8} {σ : Numbers}
    {isOdd : Bool} :
    splitSignature C (r.bytes ++ (s.bytes ++ [v])) = .ok (σ, isOdd) ↔
      Numbers.inRange C ⟨r.toNat, s.toNat⟩ = true ∧ σ = ⟨r.toNat, s.toNat⟩ ∧
        v = parityByte isOdd false := by
  have hlen : (r.bytes ++ s.bytes).length = compactLength := by
    rw [List.length_append, r.length_eq, s.length_eq]
    rfl
  have hnumbers : Numbers.ofBytes C (r.bytes ++ s.bytes) =
      if Numbers.inRange C ⟨r.toNat, s.toNat⟩ then .ok ⟨r.toNat, s.toNat⟩
      else .error (.invalidSignature .unusable) := by
    rw [Numbers.ofBytes, List.take_left' r.length_eq, List.drop_left' r.length_eq]
    rfl
  rw [← List.append_assoc, splitSignature_append_eq_ok_iff hlen, hnumbers]
  by_cases hrange : Numbers.inRange C ⟨r.toNat, s.toNat⟩ = true
  · rw [if_pos hrange, Except.ok.injEq, eq_comm (a := σ)]
    simp [hrange]
  · simp [hrange]

omit [Fact C.modulus.Prime] [Fact C.order.Prime] [C.weierstrass.IsElliptic] in
theorem one_sub_parityByte (isOdd : Bool) :
    1 - parityByte isOdd false = parityByte (!isOdd) false := by
  cases isOdd <;> rfl

omit [Fact C.modulus.Prime] [C.weierstrass.IsElliptic] in
/-- A change of a signature is read as a signature, and it is a change. -/
theorem read_of_mem_malleations (hC : C.Regular) (htwo : C.order ≠ 2) {r s s' : Blob 32}
    {v v' : UInt8} {σ : Numbers} {isOdd : Bool}
    (hsplit : splitSignature C (r.bytes ++ (s.bytes ++ [v])) = .ok (σ, isOdd))
    (hmem : (s', v') ∈ malleations C s v) :
    (∃ σ' isOdd', splitSignature C (r.bytes ++ (s'.bytes ++ [v'])) = .ok (σ', isOdd')) ∧
      s.bytes ++ [v] ≠ s'.bytes ++ [v'] := by
  have horder := hC.order_le
  have hodd := (Fact.out : C.order.Prime).eq_two_or_odd.resolve_left htwo
  obtain ⟨hrange, -, rfl⟩ := splitSignature_parts_eq_ok_iff.mp hsplit
  have hbounds := hrange
  simp only [Numbers.inRange, Bool.and_eq_true, decide_eq_true_eq] at hbounds
  -- The order is odd, so the opposite number is another one.
  have hopposite : (Blob.ofNat 32 (C.order - s.toNat)).toNat = C.order - s.toNat :=
    Bytes.toNat_ofNat_of_lt (by omega)
  have hrange' : Numbers.inRange C ⟨r.toNat, (Blob.ofNat 32 (C.order - s.toNat)).toNat⟩ = true := by
    simp only [hopposite, Numbers.inRange, Bool.and_eq_true, decide_eq_true_eq]
    omega
  have hne : s ≠ Blob.ofNat 32 (C.order - s.toNat) := by
    intro heq
    rw [← heq] at hopposite
    omega
  have hflip : parityByte isOdd false ≠ parityByte (!isOdd) false := by
    cases isOdd <;> decide
  have hchange : ∀ {t : Blob 32} {w : UInt8}, s ≠ t ∨ parityByte isOdd false ≠ w →
      s.bytes ++ [parityByte isOdd false] ≠ t.bytes ++ [w] := by
    intro t w h heq
    obtain ⟨hs, hv⟩ := List.append_inj' heq rfl
    rcases h with h | h
    · exact h (Blob.ext hs)
    · exact h (List.singleton_inj.mp hv)
  simp only [malleations, one_sub_parityByte, List.mem_cons, Prod.mk.injEq, List.not_mem_nil,
    or_false] at hmem
  rcases hmem with ⟨rfl, rfl⟩ | ⟨rfl, rfl⟩ | ⟨rfl, rfl⟩
  · exact ⟨⟨_, _, splitSignature_parts_eq_ok_iff.mpr ⟨hrange, rfl, rfl⟩⟩, hchange (.inr hflip)⟩
  · exact ⟨⟨_, _, splitSignature_parts_eq_ok_iff.mpr ⟨hrange', rfl, rfl⟩⟩, hchange (.inl hne)⟩
  · exact ⟨⟨_, _, splitSignature_parts_eq_ok_iff.mpr ⟨hrange', rfl, rfl⟩⟩, hchange (.inl hne)⟩

/-- What is made of an accepted signature is refused. -/
theorem verify_of_malleation (hG : C.IsGenerator G) (hC : C.Regular)
    (hall : ∀ A : C.weierstrass.Point, ∃ a : Nat, a • G = A) {digest publicKey : Bytes}
    {r s s' : Blob 32} {v v' : UInt8}
    (h : verify C digest (r.bytes ++ (s.bytes ++ [v])) publicKey = .ok true)
    (hmem : (s', v') ∈ malleations C s v) :
    verify C digest (r.bytes ++ (s'.bytes ++ [v'])) publicKey = .ok false := by
  obtain ⟨hdigest, σ, isOdd, Q, hdecode, hsplit, -⟩ := verify_eq_true_iff.mp h
  obtain ⟨⟨σ', isOdd', hsplit'⟩, hne⟩ := read_of_mem_malleations hC hG.order_ne_two hsplit hmem
  obtain ⟨accepted, hverify⟩ := verify_eq_ok hdigest hdecode hsplit'
  cases accepted with
  | false => exact hverify
  | true => exact absurd (tail_unique hG hC hall h hverify) hne

/-! ## Accepted signatures -/

/-- On the curve of the protocol, a digest, a public key and the first number of
a signature determine the rest of it, for verification as for recovery.  In
particular nobody can make another accepted signature of an accepted one by
the parity or the sign of its second number. -/
theorem accepted_tail_unique :
    (∀ (digest publicKey : Bytes) (r : Blob 32) (tail₁ tail₂ : Bytes),
      verify secp256k1 digest (r.bytes ++ tail₁) publicKey = .ok true →
        verify secp256k1 digest (r.bytes ++ tail₂) publicKey = .ok true → tail₁ = tail₂) ∧
    (∀ (digest publicKey : Bytes) (r : Blob 32) (tail₁ tail₂ : Bytes),
      recover secp256k1 digest (r.bytes ++ tail₁) = .ok publicKey →
        recover secp256k1 digest (r.bytes ++ tail₂) = .ok publicKey → tail₁ = tail₂) ∧
    ∀ (digest publicKey : Bytes) (r s s' : Blob 32) (v v' : UInt8),
      verify secp256k1 digest (r.bytes ++ (s.bytes ++ [v])) publicKey = .ok true →
        (s', v') ∈ malleations secp256k1 s v →
          verify secp256k1 digest (r.bytes ++ (s'.bytes ++ [v'])) publicKey = .ok false := by
  obtain ⟨G, hG⟩ := exists_isGenerator_secp256k1
  have hC := secp256k1_regular
  have hall := secp256k1_exists_nsmul_eq hG
  refine ⟨?_, ?_, ?_⟩
  · intro digest publicKey r tail₁ tail₂ h₁ h₂
    exact tail_unique hG hC hall h₁ h₂
  · -- What is recovered accepts the signature.
    intro digest publicKey r tail₁ tail₂ h₁ h₂
    have hinflate := inflate_of_recover hG hC h₁
    exact tail_unique hG hC hall
      ((verify_eq_true_iff_recover hG hC).mpr ⟨publicKey, h₁, hinflate⟩)
      ((verify_eq_true_iff_recover hG hC).mpr ⟨publicKey, h₂, hinflate⟩)
  · intro digest publicKey r s s' v v' h hmem
    exact verify_of_malleation hG hC hall h hmem

/-- A signature with an odd parity, of which only one tail is accepted. -/
theorem accepted_tail_unique_odd :
    (∀ tail, verify secp256k1 oddDigest.bytes (oddNumbers.1.bytes ++ tail)
        (compressed secp256k1.generator) = .ok true → tail = oddNumbers.2.bytes ++ [1]) ∧
      (∀ tail full, recover secp256k1 oddDigest.bytes
          (oddNumbers.1.bytes ++ (oddNumbers.2.bytes ++ [1])) = .ok full →
        recover secp256k1 oddDigest.bytes (oddNumbers.1.bytes ++ tail) = .ok full →
          tail = oddNumbers.2.bytes ++ [1]) ∧
      verify secp256k1 oddDigest.bytes (oddNumbers.1.bytes ++ (oddNumbers.2.bytes ++ [0]))
        (compressed secp256k1.generator) = .ok false := by
  have haccepted := verify_oddNumbers
  rw [List.append_assoc] at haccepted
  refine ⟨?_, ?_, ?_⟩
  · intro tail h
    exact accepted_tail_unique.1 _ _ _ _ _ h haccepted
  · intro tail full hfull h
    exact accepted_tail_unique.2.1 _ _ _ _ _ h hfull
  · exact accepted_tail_unique.2.2 _ _ _ _ _ _ _ haccepted (List.mem_cons_self ..)

end ClauseTx.Ecdsa
