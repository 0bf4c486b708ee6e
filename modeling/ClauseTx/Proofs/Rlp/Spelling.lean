import ClauseTx.Proofs.Rlp.Codec

/-!
# The spelling of an item

`Spells bs item` is the grammar of encodings.  It says which byte strings
spell an item by the ranges of first bytes and by the numbers in headers, and
it mentions neither the writer nor the reader.

Its rules leave no second spelling.

* `Announces` gives each length one header.  Up to 55 bytes there is no long
  header, and the number in a long header has no leading zero.
* A byte below `80` stands for itself and never has a header.
* A payload has exactly the announced length, and the spellings of its items
  make it up.

`spells_encode` and `encode_eq_of_spells` tie the grammar to the writer.  So
what the reader accepts is the image of the writer, and it is the language of
the grammar (`accepts_only_encodings`).
-/

namespace ClauseTx.Rlp

/-! ## The grammar -/

/-- The headers of a payload of a given length. -/
inductive Announces (kind : HeaderKind) : Bytes → Nat → Prop where
  /-- A length of up to 55 is added to the first byte. -/
  | short {n : Nat} (hn : n ≤ 55) : Announces kind [kind.short + UInt8.ofNat n] n
  /-- A larger length is a number of its own, and its width is added to the
  first byte. -/
  | long {field : Bytes} (hwidth : field.length ≤ 8) (hmin : field.IsMinimal)
    (hlong : 55 < field.toNat) :
    Announces kind ((kind.long + UInt8.ofNat field.length) :: field) field.toNat

mutual

/-- The byte strings that spell an item. -/
inductive Spells : Bytes → Item → Prop where
  /-- A byte below `80` stands for itself. -/
  | bare {b : UInt8} (hb : b < 0x80) : Spells [b] (.bytes [b])
  /-- Any other byte string has a header. -/
  | string {start content : Bytes} (hbare : ∀ b, content = [b] → ¬ b < 0x80)
    (hstart : Announces stringHeader start content.length) :
    Spells (start ++ content) (.bytes content)
  /-- A list has a header, and the spellings of its items follow. -/
  | list {start payload : Bytes} {items : List Item}
    (hstart : Announces listHeader start payload.length) (hitems : SpellsAll payload items) :
    Spells (start ++ payload) (.list items)

/-- The byte strings that spell items one after another. -/
inductive SpellsAll : Bytes → List Item → Prop where
  | nil : SpellsAll [] []
  | cons {first rest : Bytes} {item : Item} {items : List Item} (hfirst : Spells first item)
    (hrest : SpellsAll rest items) : SpellsAll (first ++ rest) (item :: items)

end

/-! ## One header for each length -/

theorem announces_header (kind : HeaderKind) {n : Nat} (hn : n < UInt32.size) :
    Announces kind (header kind n) n := by
  by_cases hshort : n ≤ 55
  · rw [header_short kind hshort]
    exact .short hshort
  · have hval : (lengthField n).toNat = n := toNat_lengthField hn
    have hwidth := length_lengthField_le n
    have hmin : (lengthField n).IsMinimal := Bytes.isMinimal_stripZeros _
    rw [header_long kind (by omega)]
    have hlong : Announces kind _ (lengthField n).toNat := .long (by omega) hmin (by omega)
    rwa [hval] at hlong

theorem eq_header_of_announces {kind : HeaderKind} {start : Bytes} {n : Nat}
    (h : Announces kind start n) (hn : n < UInt32.size) : start = header kind n := by
  cases h with
  | short hshort => rw [header_short kind hshort]
  | @long field hwidth hmin hlong =>
    have hfield : lengthField field.toNat = field := lengthField_toNat hmin hn
    rw [header_long kind hlong, hfield]

/-! ## The writer spells -/

theorem spells_encodeBytes (content : Bytes) (hlen : content.length < UInt32.size) :
    Spells (encodeBytes content) (.bytes content) := by
  have hstart : Announces stringHeader (header stringHeader content.length) content.length :=
    announces_header stringHeader hlen
  match content with
  | [] => exact .string (by simp) hstart
  | [b] =>
    rw [encodeBytes]
    split
    · rename_i hb
      exact .bare hb
    · rename_i hb
      refine .string ?_ hstart
      intro c hc
      injection hc with hc
      rwa [← hc]
  | b :: c :: content => exact .string (by simp) hstart

mutual

/-- An encoding spells its item. -/
theorem spells_encode (item : Item) (hlen : (encode item).length < UInt32.size) :
    Spells (encode item) item := by
  cases item with
  | bytes content =>
    rw [encode] at hlen ⊢
    have hle := length_le_length_encodeBytes content
    exact spells_encodeBytes content (by omega)
  | list items =>
    rw [encode] at hlen ⊢
    rw [List.length_append] at hlen
    have hitems := spellsAll_encodeItems items (by omega)
    exact .list (announces_header listHeader (by omega)) hitems

/-- Encodings one after another spell their items. -/
theorem spellsAll_encodeItems (items : List Item)
    (hlen : (encodeItems items).length < UInt32.size) : SpellsAll (encodeItems items) items := by
  cases items with
  | nil => exact .nil
  | cons item items =>
    rw [encodeItems] at hlen ⊢
    rw [List.length_append] at hlen
    have hfirst := spells_encode item (by omega)
    have hrest := spellsAll_encodeItems items (by omega)
    exact .cons hfirst hrest

end

/-! ## Nothing else spells -/

mutual

/-- A spelling is the encoding of its item. -/
theorem encode_eq_of_spells {bs : Bytes} {item : Item} (h : Spells bs item)
    (hlen : bs.length < UInt32.size) : encode item = bs := by
  -- The length that a header announces determines it, so only the content is left to compare.
  cases h with
  | @bare b hb => rw [encode, encodeBytes, if_pos hb]
  | @string start content hbare hstart =>
    rw [List.length_append] at hlen
    rw [eq_header_of_announces hstart (by omega), encode]
    match content with
    | [] => rfl
    | [b] =>
      have hb : ¬ b < 0x80 := hbare b rfl
      rw [encodeBytes, if_neg hb]
      rfl
    | b :: c :: content => rfl
  | @list start payload items hstart hitems =>
    rw [List.length_append] at hlen
    have hpayload : encodeItems items = payload := encodeItems_eq_of_spellsAll hitems (by omega)
    rw [eq_header_of_announces hstart (by omega), encode, hpayload]

/-- Spellings one after another are the encodings of their items. -/
theorem encodeItems_eq_of_spellsAll {bs : Bytes} {items : List Item} (h : SpellsAll bs items)
    (hlen : bs.length < UInt32.size) : encodeItems items = bs := by
  cases h with
  | nil => rfl
  | @cons first rest item items hfirst hrest =>
    rw [List.length_append] at hlen
    rw [encodeItems, encode_eq_of_spells hfirst (by omega),
      encodeItems_eq_of_spellsAll hrest (by omega)]

end

/-- A byte string is the encoding of an item exactly if it spells it. -/
theorem encode_eq_iff_spells {bs : Bytes} {item : Item} (hlen : bs.length < UInt32.size) :
    encode item = bs ↔ Spells bs item := by
  constructor
  · intro h
    subst h
    exact spells_encode item hlen
  · intro h
    exact encode_eq_of_spells h hlen

/-! ## Reading -/

/-- An item comes back from its encoding, at any depth.  Whatever follows the
encoding, exactly the encoding is taken. -/
theorem decode_encode_item (item : Item) (hlen : (encode item).length < UInt32.size) :
    decode (encode item) = .ok item ∧
      ∀ rest, ∃ s, split (encode item ++ rest) = .ok s ∧ s.item = .ok item ∧ s.rest = rest := by
  constructor
  · exact decode_encode item hlen
  · intro rest
    exact split_encode item rest hlen

/-- An item with all forms of headers, and with byte strings on both sides of
each limit. -/
def mixedItem : Item :=
  .list [.bytes [], .bytes [0x7F], .bytes [0x80], .bytes (List.replicate 55 0),
    .list [.list [], .bytes (List.replicate 56 0)]]

theorem length_encode_mixedItem : (encode mixedItem).length < UInt32.size := by
  decide +kernel

theorem decode_encode_mixedItem :
    (encode mixedItem).length < UInt32.size ∧ decode (encode mixedItem) = .ok mixedItem ∧
      ∃ s, split (encode mixedItem ++ [0x01]) = .ok s ∧ s.item = .ok mixedItem ∧
        s.rest = [0x01] := by
  obtain ⟨hdecode, hsplit⟩ := decode_encode_item mixedItem length_encode_mixedItem
  exact ⟨length_encode_mixedItem, hdecode, hsplit [0x01]⟩

/-- What is accepted is the encoding of what it means.  So the byte strings
that are accepted are those that the writer produces, and they are those of
the grammar. -/
theorem accepts_only_encodings {w : Bytes} (hlen : w.length < UInt32.size) :
    (∀ item, decode w = .ok item → encode item = w) ∧
      ((∃ item, decode w = .ok item) ↔ ∃ item, encode item = w) ∧
      ∀ item, decode w = .ok item ↔ Spells w item := by
  have hreads : ∀ item, decode w = .ok item ↔ encode item = w := by
    intro item
    exact decode_eq_ok_iff hlen
  refine ⟨?_, ?_, ?_⟩
  · intro item h
    exact (hreads item).mp h
  · simp only [hreads]
  · intro item
    rw [hreads, encode_eq_iff_spells hlen]

theorem accepts_only_encodings_mixedItem :
    (encode mixedItem).length < UInt32.size ∧
      decode (encode mixedItem) = .ok mixedItem ∧ Spells (encode mixedItem) mixedItem := by
  have hdecode : decode (encode mixedItem) = .ok mixedItem :=
    decode_encode mixedItem length_encode_mixedItem
  obtain ⟨-, -, hspells⟩ := accepts_only_encodings length_encode_mixedItem
  exact ⟨length_encode_mixedItem, hdecode, (hspells mixedItem).mp hdecode⟩

/-- A byte below `80` has no header, also within a list. -/
example : decode [0xC2, 0x81, 0x05] = .error .nonCanonical := by cbv

end ClauseTx.Rlp
