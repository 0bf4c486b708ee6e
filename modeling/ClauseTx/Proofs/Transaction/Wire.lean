import ClauseTx.Proofs.Transaction.Body
import ClauseTx.Proofs.Transaction.Layout
import ClauseTx.Transaction.Signed

/-!
# Bodies and signed transactions in byte strings

The readers accept exactly the encodings of plain, valid values:
`Body.decode_eq_ok_iff` for bodies, and `SignedTransaction.decode_eq_ok_iff`
for signed transactions, whose signature has the length that the body asks
for.  Remarks are not encoded, so a value and its plain form have the same
encoding.  Both kinds are cases of a layout, with and without a signature, and
the facts are proved for layouts (`Layout.decodeValid_eq_ok_iff`,
`Layout.encode_eq_encode_iff`).

What is read is plain and valid whatever its length
(`Layout.valid_of_decodeValid`).
-/

namespace ClauseTx

/-! ## What is written -/

/-- Remarks are not encoded. -/
theorem Layout.encode_plain (b : Body) (signature : Option Bytes) :
    encode ⟨b.plain, signature⟩ = encode ⟨b, signature⟩ := by
  rw [encode, encode, items, items, Body.items_plain]
  rfl

@[simp]
theorem Body.encode_plain (b : Body) : b.plain.encode = b.encode :=
  Layout.encode_plain b none

/-! ## What is read -/

/-- A layout is accepted exactly if it is read and its body is checked. -/
theorem Layout.decodeValid_eq_ok_iff_decode {bs : Bytes} {l : Layout} :
    decodeValid bs = .ok l ↔
      decode bs = .ok l ∧ l.body.clauses ≠ [] ∧ l.body.gas ≠ 0 ∧ l.body.fee.Valid := by
  rw [decodeValid, bind_eq_ok_iff]
  constructor
  · intro h
    obtain ⟨l', hl', h⟩ := h
    obtain ⟨body, hbody, h⟩ := bind_eq_ok_iff.mp h
    obtain ⟨hsame, hchecked⟩ := Body.check_eq_ok_iff.mp hbody
    rw [pure_eq_ok_iff, hsame] at h
    have hl : l' = l := h
    rw [mapError_eq_ok_iff, hl] at hl'
    rw [hl] at hchecked
    exact ⟨hl', hchecked⟩
  · intro h
    obtain ⟨hl, hchecked⟩ := h
    refine ⟨l, mapError_eq_ok_iff.mpr hl, ?_⟩
    exact bind_eq_ok_iff.mpr ⟨l.body, Body.check_eq_ok_iff.mpr ⟨rfl, hchecked⟩, rfl⟩

theorem Layout.decodeValid_eq_ok_iff {bs : Bytes} {l : Layout} (hlen : bs.length < UInt32.size) :
    decodeValid bs = .ok l ↔ l.encode = bs ∧ l.body.plain = l.body ∧ l.body.Valid := by
  rw [decodeValid_eq_ok_iff_decode, decode_eq_ok_iff hlen, Body.valid_iff]
  constructor
  · intro h
    obtain ⟨⟨hbs, hkept⟩, hchecked⟩ := h
    exact ⟨hbs, hkept.plain, hchecked, hkept.trimmed⟩
  · intro h
    obtain ⟨hbs, hplain, hchecked, htrimmed⟩ := h
    exact ⟨⟨hbs, hplain, htrimmed⟩, hchecked⟩

/-- What is read is valid, also from longer byte strings. -/
theorem Layout.valid_of_decodeValid {bs : Bytes} {l : Layout} (h : decodeValid bs = .ok l) :
    l.body.Valid := by
  obtain ⟨hl, hchecked⟩ := decodeValid_eq_ok_iff_decode.mp h
  exact Body.valid_iff.mpr ⟨hchecked, (isKept_of_decode hl).trimmed⟩

/-- A layout with a valid body is read back without its remarks. -/
theorem Layout.decodeValid_encode {b : Body} (hvalid : b.Valid) {signature : Option Bytes}
    (hlen : (encode ⟨b, signature⟩).length < UInt32.size) :
    decodeValid (encode ⟨b, signature⟩) = .ok ⟨b.plain, signature⟩ :=
  (decodeValid_eq_ok_iff hlen).mpr
    ⟨encode_plain b signature, Body.plain_plain b, Body.plain_valid_iff.mpr hvalid⟩

/-- Layouts with valid bodies and the same encoding say the same. -/
theorem Layout.encode_eq_encode_iff {b₁ b₂ : Body} (h₁ : b₁.Valid) (h₂ : b₂.Valid)
    {s₁ s₂ : Option Bytes} (hlen : (encode ⟨b₁, s₁⟩).length < UInt32.size) :
    encode ⟨b₁, s₁⟩ = encode ⟨b₂, s₂⟩ ↔ b₁.plain = b₂.plain ∧ s₁ = s₂ := by
  constructor
  · intro h
    have hdecode := decodeValid_encode h₁ hlen
    rw [h, decodeValid_encode h₂ (h ▸ hlen)] at hdecode
    injection hdecode with hlayout
    injection hlayout with hplain hsignature
    exact ⟨hplain.symm, hsignature.symm⟩
  · intro h
    obtain ⟨hplain, rfl⟩ := h
    rw [← encode_plain b₁, hplain, encode_plain]

/-- The unsigned reader takes layouts without a signature. -/
theorem Body.decode_eq_ok_iff_decodeValid {bs : Bytes} {b : Body} :
    decode bs = .ok b ↔ Layout.decodeValid bs = .ok ⟨b, none⟩ := by
  rw [decode, bind_eq_ok_iff]
  constructor
  · intro h
    obtain ⟨⟨body, signature⟩, hl, h⟩ := h
    cases signature with
    | some signature => cases h
    | none =>
      rw [pure_eq_ok_iff] at h
      subst h
      exact hl
  · intro h
    exact ⟨⟨b, none⟩, h, rfl⟩

/-- The unsigned encodings that are accepted are those of plain, valid
bodies. -/
theorem Body.decode_eq_ok_iff {bs : Bytes} {b : Body} (hlen : bs.length < UInt32.size) :
    decode bs = .ok b ↔ b.encode = bs ∧ b.plain = b ∧ b.Valid := by
  rw [decode_eq_ok_iff_decodeValid]
  exact Layout.decodeValid_eq_ok_iff hlen

theorem Body.decode_encode {b : Body} (hvalid : b.Valid) (hlen : b.encode.length < UInt32.size) :
    decode b.encode = .ok b.plain :=
  decode_eq_ok_iff_decodeValid.mpr (Layout.decodeValid_encode hvalid hlen)

/-- Valid bodies with the same encoding say the same. -/
theorem Body.encode_eq_encode_iff {b₁ b₂ : Body} (h₁ : b₁.Valid) (h₂ : b₂.Valid)
    (hlen : b₁.encode.length < UInt32.size) : b₁.encode = b₂.encode ↔ b₁.plain = b₂.plain := by
  rw [encode, encode, Layout.encode_eq_encode_iff h₁ h₂ hlen]
  simp

theorem Body.valid_of_decode {bs : Bytes} {b : Body} (h : decode bs = .ok b) : b.Valid := by
  have hl := decode_eq_ok_iff_decodeValid.mp h
  exact Layout.valid_of_decodeValid hl

namespace SignedTransaction

theorem ofParts_eq_ok_iff {b : Body} {signature : Bytes} {t : SignedTransaction} :
    ofParts b signature = .ok t ↔ t = ⟨b, signature⟩ ∧ signature.length = b.signatureLength := by
  rw [ofParts]
  by_cases h : signature.length = b.signatureLength
  · simp [h, eq_comm]
  · simp [h]

@[simp]
theorem plain_body (t : SignedTransaction) : t.plain.body = t.body.plain := rfl

@[simp]
theorem plain_signature (t : SignedTransaction) : t.plain.signature = t.signature := rfl

@[simp]
theorem encode_plain (t : SignedTransaction) : t.plain.encode = t.encode :=
  Layout.encode_plain t.body (some t.signature)

/-- What holds for every transaction that is signed or decoded. -/
structure Valid (t : SignedTransaction) : Prop where
  body_valid : t.body.Valid
  length_signature : t.signature.length = t.body.signatureLength

/-- The signed reader takes layouts with a signature of the right length. -/
theorem decode_eq_ok_iff_decodeValid {bs : Bytes} {t : SignedTransaction} :
    decode bs = .ok t ↔
      Layout.decodeValid bs = .ok ⟨t.body, some t.signature⟩ ∧
        t.signature.length = t.body.signatureLength := by
  rw [decode, bind_eq_ok_iff]
  constructor
  · intro h
    obtain ⟨⟨body, signature⟩, hl, h⟩ := h
    cases signature with
    | none => cases h
    | some signature =>
      obtain ⟨rfl, hlength⟩ := ofParts_eq_ok_iff.mp h
      exact ⟨hl, hlength⟩
  · intro h
    obtain ⟨hl, hlength⟩ := h
    exact ⟨⟨t.body, some t.signature⟩, hl, ofParts_eq_ok_iff.mpr ⟨rfl, hlength⟩⟩

/-- The signed encodings that are accepted are those of plain, valid
transactions. -/
theorem decode_eq_ok_iff {bs : Bytes} {t : SignedTransaction} (hlen : bs.length < UInt32.size) :
    decode bs = .ok t ↔ t.encode = bs ∧ t.plain = t ∧ t.Valid := by
  rw [decode_eq_ok_iff_decodeValid, Layout.decodeValid_eq_ok_iff hlen]
  constructor
  · intro h
    obtain ⟨⟨hbs, hplain, hvalid⟩, hlength⟩ := h
    exact ⟨hbs, congrArg (SignedTransaction.mk · t.signature) hplain, hvalid, hlength⟩
  · intro h
    obtain ⟨hbs, hplain, hvalid, hlength⟩ := h
    exact ⟨⟨hbs, congrArg SignedTransaction.body hplain, hvalid⟩, hlength⟩

theorem decode_encode {t : SignedTransaction} (hvalid : t.Valid)
    (hlen : t.encode.length < UInt32.size) : decode t.encode = .ok t.plain :=
  decode_eq_ok_iff_decodeValid.mpr
    ⟨Layout.decodeValid_encode hvalid.body_valid hlen, hvalid.length_signature⟩

/-- Valid transactions with the same encoding are the same, remarks apart. -/
theorem encode_eq_encode_iff {t₁ t₂ : SignedTransaction} (h₁ : t₁.Valid) (h₂ : t₂.Valid)
    (hlen : t₁.encode.length < UInt32.size) : t₁.encode = t₂.encode ↔ t₁.plain = t₂.plain := by
  rw [encode, encode, Layout.encode_eq_encode_iff h₁.body_valid h₂.body_valid hlen]
  simp [plain]

theorem valid_of_decode {bs : Bytes} {t : SignedTransaction} (h : decode bs = .ok t) :
    t.Valid := by
  obtain ⟨hl, hlength⟩ := decode_eq_ok_iff_decodeValid.mp h
  exact ⟨Layout.valid_of_decodeValid hl, hlength⟩

end SignedTransaction

end ClauseTx
