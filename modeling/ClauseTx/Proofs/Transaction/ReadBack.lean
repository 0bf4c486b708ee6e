import ClauseTx.Proofs.Rlp.Oversize
import ClauseTx.Proofs.Transaction.Wire

/-!
# Reading one's own encoding

What is read from the encoding of a valid body is that body without its
remarks, whatever the size of the encoding (`Body.decode_encode_iff`).  An
encoding whose list is too long for its header is not read at all, so no size
makes a body come back as another one.  The same holds of signed transactions
(`SignedTransaction.decode_encode_iff`).
-/

namespace ClauseTx

open Rlp

/-! ## Layouts -/

namespace Layout

/-- The mark in front leads to the list behind it. -/
theorem decode_encode_eq_ofList (l : Layout) :
    decode l.encode = ofList l.body.fee.isDynamic (Rlp.encode (.list l.items)) := by
  cases hkind : l.body.fee.isDynamic with
  | true => rw [encode_dynamic hkind, decode, if_pos rfl]
  | false =>
    rw [encode_legacy hkind]
    cases hbs : Rlp.encode (.list l.items) with
    | nil => rfl
    | cons b rest =>
      rw [decode, if_neg]
      rintro rfl
      exact dynamicMark_ne_head hbs

theorem decode_encode_iff {l l' : Layout} (h : l.IsKept) :
    decode l.encode = .ok l' ↔ (encodeItems l.items).length < UInt32.size ∧ l' = l := by
  have hitems : ofItems l.body.fee.isDynamic l.items = .ok l := ofItems_eq_ok_iff.mpr ⟨rfl, rfl, h⟩
  rw [decode_encode_eq_ofList, ofList, bind_eq_ok_iff]
  constructor
  · rintro ⟨item, hitem, hread⟩
    obtain ⟨hlen, rfl⟩ := decode_encode_list_iff.mp hitem
    have hsame : Except.ok l = Except.ok l' := hitems.symm.trans hread
    exact ⟨hlen, (Except.ok.inj hsame).symm⟩
  · rintro ⟨hlen, rfl⟩
    exact ⟨_, decode_encode_list hlen, hitems⟩

theorem decodeValid_encode_iff {b : Body} {signature : Option Bytes} {l : Layout}
    (hvalid : b.Valid) :
    decodeValid (encode ⟨b, signature⟩) = .ok l ↔
      (encodeItems (items ⟨b, signature⟩)).length < UInt32.size ∧ l = ⟨b.plain, signature⟩ := by
  have hplain : b.plain.Valid := Body.plain_valid_iff.mpr hvalid
  have hkept : IsKept ⟨b.plain, signature⟩ := ⟨Body.plain_plain b, hplain.reserved_isTrimmed⟩
  have hitems : items ⟨b.plain, signature⟩ = items ⟨b, signature⟩ := by
    rw [items, items, Body.items_plain]
  rw [← encode_plain, decodeValid_eq_ok_iff_decode, decode_encode_iff hkept, hitems]
  constructor
  · intro h
    exact h.1
  · rintro ⟨hlen, rfl⟩
    exact ⟨⟨hlen, rfl⟩, (Body.valid_iff.mp hplain).1⟩

end Layout

/-! ## Bodies and signed transactions -/

/-- A valid body comes back from its encoding without its remarks, or not at
all. -/
theorem Body.decode_encode_iff {b b' : Body} (hvalid : b.Valid) :
    decode b.encode = .ok b' ↔
      (encodeItems (Layout.items ⟨b, none⟩)).length < UInt32.size ∧ b' = b.plain := by
  rw [decode_eq_ok_iff_decodeValid, encode, Layout.decodeValid_encode_iff hvalid, Layout.mk.injEq]
  simp

/-- A signed transaction comes back from its encoding without the remarks of
its body, or not at all. -/
theorem SignedTransaction.decode_encode_iff {t t' : SignedTransaction} (hvalid : t.Valid) :
    decode t.encode = .ok t' ↔
      (encodeItems (Layout.items ⟨t.body, some t.signature⟩)).length < UInt32.size ∧
        t' = t.plain := by
  rw [decode_eq_ok_iff_decodeValid, encode, Layout.decodeValid_encode_iff hvalid.body_valid]
  constructor
  · rintro ⟨⟨hlen, hl⟩, -⟩
    obtain ⟨body, signature⟩ := t'
    cases hl
    exact ⟨hlen, rfl⟩
  · rintro ⟨hlen, rfl⟩
    exact ⟨⟨hlen, rfl⟩, hvalid.length_signature⟩

end ClauseTx
