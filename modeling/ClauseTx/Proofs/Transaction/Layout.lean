import ClauseTx.Proofs.Rlp.Codec
import ClauseTx.Proofs.Transaction.Fields

/-!
# Layouts in byte strings

A byte string below `2 ^ 32` bytes is read as a layout exactly when it was
written from it (`Layout.decode_eq_ok_iff`).  The layout is plain and its
reserved section is trimmed, whether or not its body is valid.

The two kinds of fees have different numbers of fields, and a signature is one
field more, so a legacy layout with a signature has as many fields as a
dynamic one without.  The mark in front tells them apart: no list starts with
it (`dynamicMark_ne_head`).
-/

namespace ClauseTx

open Rlp

/-! ## From items to layouts -/

namespace Layout

/-- The signature is what is left behind the fields of the body. -/
theorem signatureOfItems_eq_ok_iff {items : List Item} {signature : Option Bytes}
    (hlen : items.length ≤ 1) :
    signatureOfItems items = .ok signature ↔ items = (signature.map Item.bytes).toList := by
  match items with
  | [] => cases signature <;> simp [signatureOfItems]
  | [item] =>
    rw [signatureOfItems, map_eq_ok_iff]
    constructor
    · intro h
      obtain ⟨content, hcontent, hsome⟩ := h
      rw [asBytes_eq_ok_iff] at hcontent
      rw [hcontent, ← hsome]
      rfl
    · intro h
      cases signature with
      | none => cases h
      | some content =>
        injection h with h
        exact ⟨content, asBytes_eq_ok_iff.mpr h, rfl⟩
  | _ :: _ :: _ => simp at hlen

/-- What an encoding keeps: a layout without remarks, and without empty
entries at the end of its reserved section. -/
structure IsKept (l : Layout) : Prop where
  plain : l.body.plain = l.body
  trimmed : l.body.reserved.isTrimmed = true

theorem length_feeItems (fee : Fee) :
    fee.items.length = if fee.isDynamic then 2 else 1 := by
  cases fee <;> rfl

/-- The number of items tells whether there is a signature. -/
theorem length_items (l : Layout) :
    l.items.length = fieldCount l.body.fee.isDynamic + l.signature.toList.length := by
  obtain ⟨body, signature⟩ := l
  have hfee := length_feeItems body.fee
  cases hkind : body.fee.isDynamic <;> cases signature <;>
    simp [items, Body.items, fieldCount, hfee, hkind]

/-- The fields of a layout are read one by one. -/
private theorem fields_iff {tag block expiration clauses gas depends nonce reserved : Item}
    {fee : Except Rlp.Error Fee} {rest : List Item} {isDynamic : Bool} {l : Layout}
    (feeItems : List Item) (hfee : ∀ f, fee = .ok f ↔ f.isDynamic = isDynamic ∧ feeItems = f.items)
    (hlen : feeItems.length = if isDynamic then 2 else 1) (hrest : rest.length ≤ 1) :
    (signatureOfItems rest >>= fun signature =>
      Body.ofItems tag block expiration clauses fee gas depends nonce reserved >>= fun body =>
      pure (Layout.mk body signature)) = .ok l ↔
    [tag, block, expiration, clauses] ++ feeItems ++ [gas, depends, nonce, reserved] ++ rest =
        l.items ∧
      l.body.fee.isDynamic = isDynamic ∧ l.IsKept := by
  rw [bind_eq_ok_iff]
  constructor
  · intro h
    obtain ⟨signature, hsignature, h⟩ := h
    obtain ⟨body, hbody, h⟩ := bind_eq_ok_iff.mp h
    rw [pure_eq_ok_iff] at h
    subst h
    obtain ⟨⟨htag, hblock, hexpiration, hclauses⟩, hf, ⟨hgas, hdepends, hnonce, hreserved⟩,
      hplain, htrimmed⟩ := Body.ofItems_eq_ok_iff.mp hbody
    obtain ⟨hkind, hitems⟩ := (hfee body.fee).mp hf
    rw [signatureOfItems_eq_ok_iff hrest] at hsignature
    refine ⟨?_, hkind, hplain, htrimmed⟩
    rw [items, Body.items, hsignature, hitems, htag, hblock, hexpiration, hclauses, hgas,
      hdepends, hnonce, hreserved]
  · intro h
    obtain ⟨hitems, hkind, hplain, htrimmed⟩ := h
    obtain ⟨body, signature⟩ := l
    -- The parts have known lengths, so the two lists agree part by part.
    have hfeeLen : feeItems.length = body.fee.items.length := by
      rw [hlen, length_feeItems, hkind]
    rw [items, Body.items] at hitems
    obtain ⟨hfields, hsignature⟩ := List.append_inj hitems (by simp [hfeeLen])
    obtain ⟨hfront, hback⟩ := List.append_inj hfields (by simp [hfeeLen])
    obtain ⟨hfront, hf⟩ := List.append_inj hfront rfl
    simp only [List.cons.injEq, and_true] at hfront hback
    refine ⟨signature, (signatureOfItems_eq_ok_iff hrest).mpr hsignature, ?_⟩
    refine bind_eq_ok_iff.mpr ⟨body, ?_, rfl⟩
    exact Body.ofItems_eq_ok_iff.mpr
      ⟨hfront, (hfee body.fee).mpr ⟨hkind, hf⟩, hback, hplain, htrimmed⟩

theorem ofItems_eq_ok_iff {isDynamic : Bool} {items : List Item} {l : Layout} :
    ofItems isDynamic items = .ok l ↔
      items = l.items ∧ l.body.fee.isDynamic = isDynamic ∧ l.IsKept := by
  by_cases hlen : items.length = fieldCount isDynamic ∨ items.length = fieldCount isDynamic + 1
  · rw [ofItems, if_pos hlen]
    -- Shorter lists have too few fields.
    cases isDynamic with
    | false =>
      rcases items with _ | ⟨tag, _ | ⟨block, _ | ⟨expiration, _ | ⟨clauses, _ | ⟨coef, _ | ⟨gas,
        _ | ⟨depends, _ | ⟨nonce, _ | ⟨reserved, rest⟩⟩⟩⟩⟩⟩⟩⟩⟩
      on_goal 10 =>
        have hrest : rest.length ≤ 1 := by
          change rest.length + 9 = 9 ∨ rest.length + 9 = 9 + 1 at hlen
          omega
        exact fields_iff [coef] (fun f => Fee.ofCoefItem_eq_ok_iff) rfl hrest
      all_goals simp [fieldCount] at hlen
    | true =>
      rcases items with _ | ⟨tag, _ | ⟨block, _ | ⟨expiration, _ | ⟨clauses, _ | ⟨tip, _ | ⟨cap,
        _ | ⟨gas, _ | ⟨depends, _ | ⟨nonce, _ | ⟨reserved, rest⟩⟩⟩⟩⟩⟩⟩⟩⟩⟩
      on_goal 11 =>
        have hrest : rest.length ≤ 1 := by
          change rest.length + 10 = 10 ∨ rest.length + 10 = 10 + 1 at hlen
          omega
        exact fields_iff [tip, cap] (fun f => Fee.ofAmountItems_eq_ok_iff) rfl hrest
      all_goals simp [fieldCount] at hlen
  · rw [ofItems, if_neg hlen]
    constructor
    · intro h
      cases h
    · intro h
      obtain ⟨hitems, hkind, -⟩ := h
      have hcount := length_items l
      rw [← hitems, hkind] at hcount
      cases hs : l.signature <;> simp [hs] at hcount <;> omega

/-! ## From byte strings to layouts -/

/-- No list starts with the mark of a dynamic fee. -/
theorem dynamicMark_ne_head {items : List Item} {bs : Bytes} :
    Rlp.encode (.list items) ≠ dynamicMark :: bs := by
  obtain ⟨b, rest, hheader, hb⟩ := header_list_eq_cons (encodeItems items).length
  intro h
  rw [Rlp.encode, hheader, List.cons_append, List.cons.injEq] at h
  rw [h.1] at hb
  exact absurd hb (by decide)

theorem ofList_eq_ok_iff {isDynamic : Bool} {bs : Bytes} {l : Layout}
    (hlen : bs.length < UInt32.size) :
    ofList isDynamic bs = .ok l ↔
      Rlp.encode (.list l.items) = bs ∧ l.body.fee.isDynamic = isDynamic ∧ l.IsKept := by
  rw [ofList, bind_eq_ok_iff]
  constructor
  · intro h
    obtain ⟨item, hitem, h⟩ := h
    obtain ⟨items, hitems, h⟩ := bind_eq_ok_iff.mp h
    rw [asList_eq_ok_iff] at hitems
    obtain ⟨hlayout, hkind, hkept⟩ := ofItems_eq_ok_iff.mp h
    rw [decode_eq_ok_iff hlen, hitems, hlayout] at hitem
    exact ⟨hitem, hkind, hkept⟩
  · intro h
    obtain ⟨hbs, hkind, hkept⟩ := h
    refine ⟨.list l.items, (decode_eq_ok_iff hlen).mpr hbs, ?_⟩
    refine bind_eq_ok_iff.mpr ⟨l.items, rfl, ?_⟩
    exact ofItems_eq_ok_iff.mpr ⟨rfl, hkind, hkept⟩

theorem encode_legacy {l : Layout} (h : l.body.fee.isDynamic = false) :
    l.encode = Rlp.encode (.list l.items) := by
  simp [encode, h]

theorem encode_dynamic {l : Layout} (h : l.body.fee.isDynamic = true) :
    l.encode = dynamicMark :: Rlp.encode (.list l.items) := by
  simp [encode, h]

/-- Reading accepts exactly what writing produces. -/
theorem decode_eq_ok_iff {bs : Bytes} {l : Layout} (hlen : bs.length < UInt32.size) :
    decode bs = .ok l ↔ l.encode = bs ∧ l.IsKept := by
  by_cases hmark : ∃ rest, bs = dynamicMark :: rest
  · obtain ⟨rest, hbs⟩ := hmark
    subst hbs
    rw [List.length_cons] at hlen
    rw [decode, if_pos rfl, ofList_eq_ok_iff (by omega)]
    cases hkind : l.body.fee.isDynamic with
    | false =>
      rw [encode_legacy hkind]
      constructor
      · intro h
        cases h.2.1
      · intro h
        exact absurd h.1 dynamicMark_ne_head
    | true =>
      rw [encode_dynamic hkind, List.cons.injEq]
      constructor
      · intro h
        exact ⟨⟨rfl, h.1⟩, h.2.2⟩
      · intro h
        exact ⟨h.1.2, rfl, h.2⟩
  · have hlist : decode bs = ofList false bs := by
      cases bs with
      | nil => rfl
      | cons b rest =>
        rw [decode, if_neg]
        intro hb
        exact hmark ⟨rest, by rw [hb]⟩
    rw [hlist, ofList_eq_ok_iff hlen]
    cases hkind : l.body.fee.isDynamic with
    | false =>
      rw [encode_legacy hkind]
      constructor
      · intro h
        exact ⟨h.1, h.2.2⟩
      · intro h
        exact ⟨h.1, rfl, h.2⟩
    | true =>
      rw [encode_dynamic hkind]
      constructor
      · intro h
        cases h.2.1
      · intro h
        exact absurd ⟨_, h.1.symm⟩ hmark

/-- Only what an encoding keeps is read, also from longer byte strings. -/
theorem isKept_of_decode {bs : Bytes} {l : Layout} (h : decode bs = .ok l) : l.IsKept := by
  have hlist : ∀ {isDynamic : Bool} {list : Bytes}, ofList isDynamic list = .ok l → l.IsKept := by
    intro isDynamic list h
    obtain ⟨item, -, h⟩ := bind_eq_ok_iff.mp h
    obtain ⟨items, -, h⟩ := bind_eq_ok_iff.mp h
    obtain ⟨-, -, hkept⟩ := ofItems_eq_ok_iff.mp h
    exact hkept
  cases bs with
  | nil => exact hlist h
  | cons b rest =>
    rw [decode] at h
    split at h
    · exact hlist h
    · exact hlist h

end Layout

end ClauseTx
