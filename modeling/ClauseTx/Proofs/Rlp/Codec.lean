import ClauseTx.Proofs.Rlp.Header

/-!
# Items in byte strings

`decode` accepts exactly the byte strings that `encode` writes, and gives the
item back (`decode_eq_ok_iff`).  Both directions hold below `2 ^ 32` bytes,
where a length fits into its header.

* Writing, then reading.  `split_encode` and `decodeItems_encodeItems` follow
  the two kinds of items together.  The first is about an encoding with any
  byte string behind it: what is split off is the item, and the rest is left.
* Reading, then writing.  `encode_append_of_item` is the case of one item, and
  `encodeItems_of_decodeItems` the induction over the length of a payload.
-/

namespace ClauseTx.Rlp

/-! ## One step of the reader -/

theorem decodeItems_nil : decodeItems [] = .ok [] := by
  rw [decodeItems]
  rfl

/-- A payload is read item by item. -/
theorem decodeItems_of_split {bs : Bytes} {s : Split} (hs : split bs = .ok s) :
    decodeItems bs =
      match s.item with
      | .error e => .error e
      | .ok item =>
        match decodeItems s.rest with
        | .error e => .error e
        | .ok items => .ok (item :: items) := by
  have hne : bs ≠ [] := by
    intro h
    obtain rfl := h
    cases hs
  rw [decodeItems, if_neg (by simpa using hne)]
  split
  · rename_i e he
    rw [hs] at he
    cases he
  · rename_i s' hs'
    rw [hs] at hs'
    injection hs' with hs'
    subst hs'
    rfl

/-- A payload that is read is empty, or starts with an item. -/
theorem eq_cons_of_decodeItems {bs : Bytes} {items : List Item}
    (h : decodeItems bs = .ok items) (hne : bs ≠ []) :
    ∃ s item rest, split bs = .ok s ∧ s.item = .ok item ∧ decodeItems s.rest = .ok rest ∧
      items = item :: rest := by
  cases hs : split bs with
  | error e =>
    rw [decodeItems, if_neg (by simpa using hne)] at h
    split at h
    · cases h
    · rename_i s' hs'
      rw [hs] at hs'
      cases hs'
  | ok s =>
    rw [decodeItems_of_split hs] at h
    cases hi : s.item with
    | error e =>
      rw [hi] at h
      cases h
    | ok item =>
      rw [hi] at h
      cases hr : decodeItems s.rest with
      | error e =>
        rw [hr] at h
        cases h
      | ok rest =>
        rw [hr] at h
        injection h with h
        exact ⟨s, item, rest, rfl, hi, hr, h.symm⟩

/-! ## Writing, then reading -/

/-- The encoding of a byte string starts with its content. -/
theorem heads_encodeBytes (content rest : Bytes) :
    ∃ s, Heads (encodeBytes content ++ rest) s ∧ s.isList = false ∧
      s.payload = content ∧ s.content = .ok (.bytes content) ∧ s.rest = rest := by
  have headed (h : encodeBytes content = header stringHeader content.length ++ content)
      (hc : (⟨false, false, content, rest⟩ : Split).content = .ok (.bytes content)) :
      ∃ s, Heads (encodeBytes content ++ rest) s ∧ s.isList = false ∧
        s.payload = content ∧ s.content = .ok (.bytes content) ∧ s.rest = rest := by
    refine ⟨⟨false, false, content, rest⟩, ?_, rfl, rfl, hc, rfl⟩
    rw [h, List.append_assoc]
    exact .headed false content rest
  match content with
  | [] => exact headed rfl rfl
  | [b] =>
    by_cases hb : b < 0x80
    · refine ⟨⟨false, true, [b], rest⟩, ?_, rfl, rfl, rfl, rfl⟩
      rw [encodeBytes, if_pos hb]
      exact .bare hb rest
    · refine headed ?_ ?_
      · rw [encodeBytes, if_neg hb]
        rfl
      · simp [Split.content, hb]
  | b :: c :: content => exact headed rfl rfl

/-- The payload of a byte string is part of its encoding. -/
theorem length_le_length_encodeBytes (content : Bytes) :
    content.length ≤ (encodeBytes content).length := by
  match content with
  | [] => simp
  | [b] =>
    rw [encodeBytes]
    split <;> simp
  | b :: c :: content =>
    rw [encodeBytes, List.length_append]
    · omega
    · simp

mutual

/-- The first item of a byte string that starts with an encoding. -/
theorem split_encode (item : Item) (rest : Bytes) (hlen : (encode item).length < UInt32.size) :
    ∃ s, split (encode item ++ rest) = .ok s ∧ s.item = .ok item ∧ s.rest = rest := by
  cases item with
  | bytes content =>
    rw [encode] at hlen ⊢
    obtain ⟨s, hs, hkind, hpayload, hcontent, hrest⟩ := heads_encodeBytes content rest
    have hle := length_le_length_encodeBytes content
    refine ⟨s, split_of_heads hs (by rw [hpayload]; omega), ?_, hrest⟩
    rw [Split.item, hkind]
    exact hcontent
  | list items =>
    rw [encode] at hlen ⊢
    rw [List.length_append] at hlen
    refine ⟨⟨true, false, encodeItems items, rest⟩, ?_, ?_, rfl⟩
    · refine split_of_heads ?_ (by dsimp only; omega)
      rw [List.append_assoc]
      exact .headed true _ _
    · rw [Split.item, if_pos rfl]
      dsimp only
      rw [decodeItems_encodeItems items (by omega)]

/-- A payload of encodings is read back. -/
theorem decodeItems_encodeItems (items : List Item)
    (hlen : (encodeItems items).length < UInt32.size) :
    decodeItems (encodeItems items) = .ok items := by
  cases items with
  | nil => exact decodeItems_nil
  | cons item items =>
    rw [encodeItems] at hlen ⊢
    rw [List.length_append] at hlen
    obtain ⟨s, hs, hitem, hrest⟩ := split_encode item (encodeItems items) (by omega)
    rw [decodeItems_of_split hs, hitem, hrest]
    dsimp only
    rw [decodeItems_encodeItems items (by omega)]

end

theorem decode_encode (item : Item) (hlen : (encode item).length < UInt32.size) :
    decode (encode item) = .ok item := by
  obtain ⟨s, hs, hitem, hrest⟩ := split_encode item [] hlen
  rw [List.append_nil] at hs
  rw [decode, hs]
  dsimp only
  rw [hitem, hrest]
  rfl

/-- Different items have different encodings. -/
theorem encode_inj {item₁ item₂ : Item} (hlen : (encode item₁).length < UInt32.size)
    (h : encode item₁ = encode item₂) : item₁ = item₂ := by
  have hdecode := decode_encode item₁ hlen
  rw [h, decode_encode item₂ (h ▸ hlen)] at hdecode
  injection hdecode with hitem
  exact hitem.symm

/-! ## Reading, then writing -/

/-- A byte string that is read is encoded as it was found. -/
theorem encodeBytes_append_of_content {bs : Bytes} {s : Split} {item : Item} (hs : Heads bs s)
    (hkind : s.isList = false) (h : s.content = .ok item) : encode item ++ s.rest = bs := by
  cases hs with
  | bare hb rest =>
    injection h with h
    subst h
    rw [encode, encodeBytes, if_pos hb]
    rfl
  | headed isList payload rest =>
    dsimp only at hkind
    subst hkind
    match payload with
    | [] =>
      injection h with h
      subst h
      rfl
    | [b] =>
      simp only [Split.content, Bool.not_false, Bool.true_and, decide_eq_true_eq] at h
      split at h
      · cases h
      · rename_i hb
        injection h with h
        subst h
        rw [encode, encodeBytes, if_neg hb, List.append_assoc]
        rfl
    | b :: c :: payload =>
      injection h with h
      subst h
      rw [encode, encodeBytes, List.append_assoc]
      · rfl
      · simp

/-- An item that is read is encoded as it was found, if this holds for the
payloads of lists. -/
theorem encode_append_of_item {bs : Bytes} {s : Split} {item : Item} (hs : split bs = .ok s)
    (h : s.item = .ok item) (hlen : bs.length < UInt32.size)
    (ih : ∀ items, s.isList = true → decodeItems s.payload = .ok items →
      encodeItems items = s.payload) :
    encode item ++ s.rest = bs := by
  have hparts := length_payload_add_rest_le hs
  have hheads := heads_of_split hs (by omega)
  rw [Split.item] at h
  split at h
  · rename_i hkind
    split at h
    · rename_i items hitems
      injection h with h
      subst h
      rw [encode, ih items hkind hitems, List.append_assoc]
      cases hheads with
      | bare hb rest => cases hkind
      | headed isList payload rest =>
        dsimp only at hkind
        subst hkind
        rfl
    · cases h
  · rename_i hkind
    exact encodeBytes_append_of_content hheads (by simpa using hkind) h

/-- The items of a payload make it up. -/
theorem encodeItems_of_decodeItems {bs : Bytes} {items : List Item}
    (h : decodeItems bs = .ok items) (hlen : bs.length < UInt32.size) :
    encodeItems items = bs := by
  induction hn : bs.length using Nat.strongRecOn generalizing bs items with
  | ind n ih =>
    by_cases hne : bs = []
    · subst hne
      rw [decodeItems_nil] at h
      injection h with h
      subst h
      rfl
    · obtain ⟨s, item, rest, hs, hitem, hrest, rfl⟩ := eq_cons_of_decodeItems h hne
      obtain ⟨hshort, hpayload⟩ := split_length hs
      rw [encodeItems, ih s.rest.length (by omega) hrest (by omega) rfl]
      refine encode_append_of_item hs hitem hlen fun items hkind hitems => ?_
      have := hpayload hkind
      exact ih s.payload.length (by omega) hitems (by omega) rfl

/-- Reading accepts exactly what writing produces. -/
theorem decode_eq_ok_iff {bs : Bytes} {item : Item} (hlen : bs.length < UInt32.size) :
    decode bs = .ok item ↔ encode item = bs := by
  constructor
  · intro h
    rw [decode] at h
    split at h
    · cases h
    rename_i s hs
    split at h
    · cases h
    rename_i item' hitem
    split at h
    · rename_i hrest
      injection h with h
      subst h
      have happend := encode_append_of_item hs hitem hlen fun items hkind hitems =>
        encodeItems_of_decodeItems hitems (by have := (split_length hs).2 hkind; omega)
      rwa [List.isEmpty_iff.mp hrest, List.append_nil] at happend
    · cases h
  · intro h
    obtain rfl := h
    exact decode_encode item hlen

end ClauseTx.Rlp
