import ClauseTx.Proofs.Rlp.Spelling

/-!
# Damage at the end of an encoding

An encoding tells where it ends.  Bytes behind it are counted, and an encoding
whose end is missing is refused as truncated, wherever it is cut: within a
header, right after it, within the payload or within an item of a list.

* The reader needs all that it takes.  `split_of_cut` is about any byte string
  of which an item is split off: without its last byte the same item is not
  there.  The length in a header is looked at when its first byte is there, and
  that byte is never zero, so no fault of the length is found in place of the
  missing end.
* `decode_encode_append` and `decode_of_cut` are the two kinds of damage.  The
  items of a list are read after its own length is checked, so a cut within an
  item is found by the outermost header.
-/

namespace ClauseTx.Rlp

/-! ## The reader needs all that it takes -/

theorem takePayload_of_lt (isList : Bool) {n : Nat} {bs : Bytes} (h : bs.length < n) :
    takePayload isList n bs = .error .truncated := by
  have hlen : (bs.take n).length < n := by
    rw [List.length_take]
    omega
  rw [takePayload, if_pos hlen]

/-- A long header is cut within the length, or the payload behind it is cut. -/
theorem takeLong_of_cut {isList : Bool} {width : Nat} {bs p : Bytes} {s : Split}
    (h : takeLong isList width bs = .ok s) (hp : p <+: bs)
    (hcut : p.length + s.rest.length < bs.length) :
    takeLong isList width p = .error .truncated := by
  obtain ⟨field, hwidth, -, hval, hlong, -, hbs⟩ := eq_of_takeLong h
  have htotal : bs.length = width + (s.payload.length + s.rest.length) := by
    rw [hbs, List.length_append, List.length_append, hwidth]
  have hfield : bs.take width = field := by
    rw [hbs, ← hwidth, List.take_left]
  obtain ⟨tail, rfl⟩ := hp
  cases p with
  | nil => rfl
  | cons b p =>
    have hb : b ≠ 0 := by
      rintro rfl
      rw [List.cons_append, takeLong, if_pos rfl] at h
      cases h
    rw [takeLong, if_neg hb]
    by_cases hshort : (b :: p).length < width
    · rw [if_pos hshort]
    · -- The length is complete, so it is the length of the payload that was there.
      rw [List.take_append_of_le_length (by omega)] at hfield
      rw [if_neg hshort, hfield]
      dsimp only
      rw [hval, if_neg (by omega)]
      refine takePayload_of_lt isList ?_
      rw [List.length_drop]
      omega

/-- An item is split off only if all of it is there. -/
theorem split_of_cut {bs p : Bytes} {s : Split} (h : split bs = .ok s) (hp : p <+: bs)
    (hcut : p.length + s.rest.length < bs.length) : split p = .error .truncated := by
  cases p with
  | nil => rfl
  | cons b p =>
    cases bs with
    | nil => cases h
    | cons b' bs =>
      obtain ⟨rfl, htail⟩ := List.cons_prefix_cons.mp hp
      rw [List.length_cons, List.length_cons] at hcut
      rcases firstByte_cases b with hb | ⟨isList, n, hn, rfl⟩ | ⟨isList, width, hpos, hle, rfl⟩
      · rw [split_bare hb] at h
        injection h with h
        subst h
        dsimp only at hcut
        omega
      · rw [split_short isList hn] at h ⊢
        obtain ⟨-, hpayload, hbs⟩ := eq_of_takePayload h
        refine takePayload_of_lt isList ?_
        rw [hbs, List.length_append] at hcut
        omega
      · rw [split_long isList hpos hle] at h ⊢
        exact takeLong_of_cut h htail (by omega)

/-! ## The two kinds of damage -/

/-- Bytes behind an encoding are counted. -/
theorem decode_encode_append (item : Item) (hlen : (encode item).length < UInt32.size)
    {t : Bytes} (ht : t ≠ []) :
    decode (encode item ++ t) = .error (.trailingBytes t.length) := by
  obtain ⟨s, hs, hitem, hrest⟩ := split_encode item t hlen
  have hne : ¬ t.isEmpty = true := by rwa [List.isEmpty_iff]
  rw [decode, hs]
  dsimp only
  rw [hitem, hrest]
  dsimp only
  rw [if_neg hne]

/-- An encoding that is cut is truncated. -/
theorem decode_of_cut {item : Item} (hlen : (encode item).length < UInt32.size) {p : Bytes}
    (hp : p <+: encode item) (hne : p ≠ encode item) : decode p = .error .truncated := by
  obtain ⟨s, hs, -, hrest⟩ := split_encode item [] hlen
  rw [List.append_nil] at hs
  have hshort : p.length < (encode item).length := by
    refine Nat.lt_of_le_of_ne hp.length_le ?_
    intro heq
    exact hne (hp.eq_of_length heq)
  have hsplit : split p = .error .truncated := by
    refine split_of_cut hs hp ?_
    rwa [hrest, List.length_nil, Nat.add_zero]
  rw [decode, hsplit]

/-- No encoding starts with another one. -/
theorem eq_of_encode_prefix {item item' : Item} (hlen : (encode item).length < UInt32.size)
    (hp : encode item' <+: encode item) : item' = item := by
  have hlen' : (encode item').length < UInt32.size := Nat.lt_of_le_of_lt hp.length_le hlen
  by_cases heq : encode item' = encode item
  · exact encode_inj hlen' heq
  · have hcut := decode_of_cut hlen hp heq
    rw [decode_encode item' hlen'] at hcut
    cases hcut

/-- An encoding is followed by nothing and lacks nothing.  Whatever stands
behind it is reported with its length, whatever is missing is reported as
missing, and nothing shorter could be meant. -/
theorem encoding_delimits_itself (item : Item) (hlen : (encode item).length < UInt32.size) :
    (∀ t, t ≠ [] → decode (encode item ++ t) = .error (.trailingBytes t.length)) ∧
      (∀ p, p <+: encode item → p ≠ encode item → decode p = .error .truncated) ∧
      ∀ item', encode item' <+: encode item → item' = item := by
  refine ⟨?_, ?_, ?_⟩
  · intro t ht
    exact decode_encode_append item hlen ht
  · intro p hp hne
    exact decode_of_cut hlen hp hne
  · intro item' hp
    exact eq_of_encode_prefix hlen hp

/-- The first byte alone is a cut header, two bytes are a whole header without
payload, and the third cut is within the header of an item of an item. -/
theorem encoding_delimits_itself_mixedItem :
    (encode mixedItem).length < UInt32.size ∧
      decode (encode mixedItem ++ [0x00, 0xC0]) = .error (.trailingBytes 2) ∧
      decode ((encode mixedItem).take 1) = .error .truncated ∧
      decode ((encode mixedItem).take 2) = .error .truncated ∧
      decode ((encode mixedItem).take 66) = .error .truncated := by
  obtain ⟨htrailing, hcut, -⟩ := encoding_delimits_itself mixedItem length_encode_mixedItem
  refine ⟨length_encode_mixedItem, htrailing _ (by decide), ?_, ?_, ?_⟩
  · exact hcut _ (List.take_prefix ..) (by decide +kernel)
  · exact hcut _ (List.take_prefix ..) (by decide +kernel)
  · exact hcut _ (List.take_prefix ..) (by decide +kernel)

end ClauseTx.Rlp
