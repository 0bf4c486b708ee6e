import ClauseTx.Proofs.Rlp.Codec

/-!
# Payloads too long for their header

A header has four bytes for a length.  The length of a larger payload is
written modulo `2 ^ 32`, so the header announces less than what follows.  Such
an encoding is never read as something else: the reader finds bytes left over
(`rest_ne_nil_of_oversize`).

So a list comes back from its encoding exactly if its payload is below
`2 ^ 32` bytes, and nothing but the list does (`decode_encode_list_iff`).
-/

namespace ClauseTx.Rlp

/-- The header of a payload that is too long leaves bytes behind the item. -/
theorem rest_ne_nil_of_oversize (isList : Bool) {payload : Bytes} {s : Split}
    (hlen : UInt32.size ≤ payload.length)
    (h : split (header (headerKind isList) payload.length ++ payload) = .ok s) :
    s.rest ≠ [] := by
  have hlarge : 55 < UInt32.size := by decide
  have hwidth := length_lengthField_le payload.length
  rw [header_long _ (by omega), List.cons_append] at h
  intro hnil
  by_cases hzero : (lengthField payload.length).length = 0
  · -- A multiple of `2 ^ 32` has no bytes of its own, and the first byte announces 55.
    have hfirst : (headerKind isList).long + UInt8.ofNat 0 =
        (headerKind isList).short + UInt8.ofNat 55 := by
      cases isList <;> decide
    rw [hzero, hfirst, split_short isList (by omega)] at h
    obtain ⟨-, hpayload, hbs⟩ := eq_of_takePayload h
    have htotal := congrArg List.length hbs
    rw [hnil, List.length_append, List.append_nil] at htotal
    omega
  · rw [split_long isList (Nat.pos_of_ne_zero hzero) (by omega)] at h
    obtain ⟨field, hfield, -, hval, -, -, hbs⟩ := eq_of_takeLong h
    rw [hnil, List.append_nil] at hbs
    obtain ⟨-, hpayload⟩ := List.append_inj hbs hfield.symm
    have hpow : 256 ^ field.length ≤ UInt32.size := by
      show 256 ^ field.length ≤ 256 ^ 4
      exact Nat.pow_le_pow_right (by decide) (by omega)
    have hlt := Bytes.toNat_lt field
    rw [hval, ← hpayload] at hlt
    omega

/-- A list is read back if its payload fits. -/
theorem decode_encode_list {items : List Item} (hlen : (encodeItems items).length < UInt32.size) :
    decode (encode (.list items)) = .ok (.list items) := by
  have hheads : Heads (encode (.list items)) ⟨true, false, encodeItems items, []⟩ := by
    have h := Heads.headed true (encodeItems items) []
    rwa [List.append_nil] at h
  rw [decode, split_of_heads hheads hlen]
  simp [Split.item, decodeItems_encodeItems items hlen]

/-- From the encoding of a list nothing else is read than this list, and only
if its payload fits. -/
theorem decode_encode_list_iff {items : List Item} {item : Item} :
    decode (encode (.list items)) = .ok item ↔
      (encodeItems items).length < UInt32.size ∧ item = .list items := by
  by_cases hlen : (encodeItems items).length < UInt32.size
  · rw [decode_encode_list hlen, Except.ok.injEq, eq_comm]
    simp [hlen]
  · constructor
    · intro h
      rw [decode] at h
      split at h
      · cases h
      rename_i s hs
      split at h
      · cases h
      split at h
      · rename_i hrest
        rw [List.isEmpty_iff] at hrest
        exact absurd hrest (rest_ne_nil_of_oversize true (by omega) hs)
      · cases h
    · intro h
      exact absurd h.1 hlen

end ClauseTx.Rlp
