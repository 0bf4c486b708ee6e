import ClauseTx.Proofs.Bytes
import ClauseTx.Rlp.Decode

/-!
# Headers of items

`split` undoes what `header` writes.  `Heads bs s` says that the byte string
`bs` starts with the item that `s` describes: a bare byte, or a payload after
its header.  The two main statements are the directions of one equivalence,
for payloads whose length fits into four bytes.

* `split_of_heads`: a header is read back, whatever follows the payload.
* `heads_of_split`: what `split` accepts has the header that `header` would
  write, so no payload has a second header.

In between stand `takePayload` and `takeLong`, which read short and long
headers, and the first byte, which tells the two apart (`firstByte_cases`).
-/

namespace ClauseTx.Rlp

/-- The headers of one kind of item. -/
def headerKind (isList : Bool) : HeaderKind :=
  if isList then listHeader else stringHeader

/-- What a byte string starts with. -/
inductive Heads : Bytes → Split → Prop where
  /-- A byte below `80` without a header. -/
  | bare {b : UInt8} (hb : b < 0x80) (rest : Bytes) : Heads (b :: rest) ⟨false, true, [b], rest⟩
  /-- A payload after its header. -/
  | headed (isList : Bool) (payload rest : Bytes) :
    Heads (header (headerKind isList) payload.length ++ (payload ++ rest))
      ⟨isList, false, payload, rest⟩

/-! ## The first byte -/

/-- The five ranges of first bytes, as a bare byte, a short header or a long
header. -/
theorem firstByte_cases (b : UInt8) :
    b < 0x80 ∨
      (∃ isList n, n ≤ 55 ∧ b = (headerKind isList).short + UInt8.ofNat n) ∨
      ∃ isList width, 0 < width ∧ width ≤ 8 ∧ b = (headerKind isList).long + UInt8.ofNat width := by
  have hlt := b.toNat_lt
  by_cases h₁ : b.toNat < 0x80
  · exact Or.inl (UInt8.lt_iff_toNat_lt.mpr h₁)
  have byte_eq (base offset : Nat) (h : base + offset = b.toNat) :
      b = UInt8.ofNat base + UInt8.ofNat offset := by
    rw [← UInt8.ofNat_add, h, UInt8.ofNat_toNat]
  by_cases h₂ : b.toNat < 0xB8
  · exact Or.inr (Or.inl ⟨false, b.toNat - 0x80, by omega, byte_eq 0x80 _ (by omega)⟩)
  by_cases h₃ : b.toNat < 0xC0
  · exact Or.inr (Or.inr ⟨false, b.toNat - 0xB7, by omega, by omega, byte_eq 0xB7 _ (by omega)⟩)
  by_cases h₄ : b.toNat < 0xF8
  · exact Or.inr (Or.inl ⟨true, b.toNat - 0xC0, by omega, byte_eq 0xC0 _ (by omega)⟩)
  · exact Or.inr (Or.inr ⟨true, b.toNat - 0xF7, by omega, by omega, byte_eq 0xF7 _ (by omega)⟩)

/-- The ranges of first bytes as numbers. -/
private theorem split_cons (b : UInt8) (bs : Bytes) :
    split (b :: bs) =
      if b.toNat < 0x80 then .ok ⟨false, true, [b], bs⟩
      else if b.toNat < 0xB8 then takePayload false (b.toNat - 0x80) bs
      else if b.toNat < 0xC0 then takeLong false (b.toNat - 0xB7) bs
      else if b.toNat < 0xF8 then takePayload true (b.toNat - 0xC0) bs
      else takeLong true (b.toNat - 0xF7) bs := by
  simp only [split, UInt8.lt_iff_toNat_lt]
  rfl

/-- A bare byte is split off. -/
theorem split_bare {b : UInt8} (hb : b < 0x80) (bs : Bytes) :
    split (b :: bs) = .ok ⟨false, true, [b], bs⟩ := by
  rw [split, if_pos hb]

/-- A short header tells the length of the payload. -/
theorem split_short (isList : Bool) {n : Nat} (hn : n ≤ 55) (bs : Bytes) :
    split (((headerKind isList).short + UInt8.ofNat n) :: bs) = takePayload isList n bs := by
  cases isList with
  | false =>
    have hb : ((headerKind false).short + UInt8.ofNat n).toNat = 0x80 + n := by
      simp [headerKind, stringHeader]
      omega
    rw [split_cons, hb, if_neg (by omega), if_pos (by omega), Nat.add_sub_cancel_left]
  | true =>
    have hb : ((headerKind true).short + UInt8.ofNat n).toNat = 0xC0 + n := by
      simp [headerKind, listHeader]
      omega
    rw [split_cons, hb, if_neg (by omega), if_neg (by omega), if_neg (by omega),
      if_pos (by omega), Nat.add_sub_cancel_left]

/-- A long header tells the width of the length of the payload. -/
theorem split_long (isList : Bool) {width : Nat} (hpos : 0 < width) (hle : width ≤ 8)
    (bs : Bytes) :
    split (((headerKind isList).long + UInt8.ofNat width) :: bs) = takeLong isList width bs := by
  cases isList with
  | false =>
    have hb : ((headerKind false).long + UInt8.ofNat width).toNat = 0xB7 + width := by
      simp [headerKind, stringHeader]
      omega
    rw [split_cons, hb, if_neg (by omega), if_neg (by omega), if_pos (by omega),
      Nat.add_sub_cancel_left]
  | true =>
    have hb : ((headerKind true).long + UInt8.ofNat width).toNat = 0xF7 + width := by
      simp [headerKind, listHeader]
      omega
    rw [split_cons, hb, if_neg (by omega), if_neg (by omega), if_neg (by omega),
      if_neg (by omega), Nat.add_sub_cancel_left]

/-! ## Payloads -/

theorem takePayload_append (isList : Bool) (payload rest : Bytes) :
    takePayload isList payload.length (payload ++ rest) = .ok ⟨isList, false, payload, rest⟩ := by
  simp [takePayload]

/-- What is cut off has the length asked for, and nothing is lost. -/
theorem eq_of_takePayload {isList : Bool} {n : Nat} {bs : Bytes} {s : Split}
    (h : takePayload isList n bs = .ok s) :
    s = ⟨isList, false, s.payload, s.rest⟩ ∧ s.payload.length = n ∧ bs = s.payload ++ s.rest := by
  unfold takePayload at h
  dsimp only at h
  split at h
  · cases h
  · rename_i hlen
    injection h with h
    subst h
    refine ⟨rfl, ?_, (List.take_append_drop n bs).symm⟩
    rw [List.length_take] at hlen ⊢
    omega

/-- A length that has no leading zero and is above 55 is read back. -/
theorem takeLong_append (isList : Bool) {field : Bytes} (payload rest : Bytes)
    (hne : field ≠ []) (hmin : field.IsMinimal) (hval : field.toNat = payload.length)
    (hlong : 55 < payload.length) :
    takeLong isList field.length (field ++ (payload ++ rest)) =
      .ok ⟨isList, false, payload, rest⟩ := by
  cases field with
  | nil => exact absurd rfl hne
  | cons b field =>
    have hb : b ≠ 0 := fun he => hmin (congrArg some he)
    have htake : (b :: (field ++ (payload ++ rest))).take (b :: field).length = b :: field := by
      rw [← List.cons_append, List.take_left]
    have hdrop : (b :: (field ++ (payload ++ rest))).drop (b :: field).length =
        payload ++ rest := by
      rw [← List.cons_append, List.drop_left]
    rw [List.cons_append, takeLong]
    rw [if_neg hb, if_neg (by simp), htake, hdrop]
    dsimp only
    rw [hval, if_neg (by omega), takePayload_append]

/-- A long header that is read has a minimal length above 55. -/
theorem eq_of_takeLong {isList : Bool} {width : Nat} {bs : Bytes} {s : Split}
    (h : takeLong isList width bs = .ok s) :
    ∃ field : Bytes, field.length = width ∧ field.IsMinimal ∧ field.toNat = s.payload.length ∧
      55 < s.payload.length ∧ s = ⟨isList, false, s.payload, s.rest⟩ ∧
      bs = field ++ (s.payload ++ s.rest) := by
  unfold takeLong at h
  split at h
  · cases h
  rename_i first rest
  dsimp only at h
  split at h
  · cases h
  rename_i hfirst
  split at h
  · cases h
  rename_i hwidth
  split at h
  · cases h
  rename_i hlong
  obtain ⟨hs, hlen, hbs⟩ := eq_of_takePayload h
  refine ⟨(first :: rest).take width, ?_, ?_, hlen.symm, by omega, hs, ?_⟩
  · rw [List.length_take]
    omega
  · cases width with
    | zero => simp [Bytes.IsMinimal]
    | succ width => simpa [Bytes.IsMinimal] using hfirst
  · rw [← hbs, List.take_append_drop]

/-- Payload and rest are parts of the whole. -/
theorem length_payload_add_rest_le {bs : Bytes} {s : Split} (h : split bs = .ok s) :
    s.payload.length + s.rest.length ≤ bs.length := by
  cases bs with
  | nil => cases h
  | cons b bs =>
    rw [List.length_cons]
    rcases firstByte_cases b with hb | ⟨isList, n, hn, rfl⟩ | ⟨isList, width, hpos, hle, rfl⟩
    · rw [split_bare hb] at h
      injection h with h
      subst h
      show 1 + bs.length ≤ bs.length + 1
      omega
    · rw [split_short isList hn] at h
      rw [takePayload_length h]
      omega
    · rw [split_long isList hpos hle] at h
      have := takeLong_length h
      omega

/-! ## Headers -/

/-- The bytes of a length in a long header. -/
def lengthField (n : Nat) : Bytes :=
  Bytes.stripZeros (Bytes.ofNat 4 n)

theorem header_short (kind : HeaderKind) {n : Nat} (hn : n ≤ 55) :
    header kind n = [kind.short + UInt8.ofNat n] := by
  rw [header, if_pos hn]

theorem header_long (kind : HeaderKind) {n : Nat} (hn : 55 < n) :
    header kind n = (kind.long + UInt8.ofNat (lengthField n).length) :: lengthField n := by
  rw [header, if_neg (by omega)]
  rfl

theorem toNat_lengthField {n : Nat} (hn : n < UInt32.size) : (lengthField n).toNat = n := by
  rw [lengthField, Bytes.toNat_stripZeros, Bytes.toNat_ofNat_of_lt hn]

/-- A minimal length below `2 ^ 32` takes at most the four bytes that a header
would use. -/
theorem lengthField_toNat {field : Bytes} (hmin : field.IsMinimal)
    (hlt : field.toNat < UInt32.size) : lengthField field.toNat = field := by
  have hlen : field.length ≤ 4 := hmin.length_le_iff.mpr hlt
  exact hmin.stripZeros_ofNat_toNat hlen

theorem length_lengthField_le (n : Nat) : (lengthField n).length ≤ 4 := by
  have := Bytes.length_stripZeros_le (Bytes.ofNat 4 n)
  rwa [Bytes.length_ofNat] at this

theorem lengthField_ne_nil {n : Nat} (hpos : 0 < n) (hn : n < UInt32.size) :
    lengthField n ≠ [] := by
  intro h
  have hval := toNat_lengthField hn
  rw [h, Bytes.toNat_nil] at hval
  omega

/-- The header of a list starts with a byte from `C0` on. -/
theorem header_list_eq_cons (n : Nat) :
    ∃ b rest, header listHeader n = b :: rest ∧ 0xC0 ≤ b.toNat := by
  by_cases hn : n ≤ 55
  · refine ⟨_, _, header_short listHeader hn, ?_⟩
    simp [listHeader]
    omega
  · refine ⟨_, _, header_long listHeader (by omega), ?_⟩
    have := length_lengthField_le n
    simp [listHeader]
    omega

/-- A header is read back. -/
theorem split_of_heads {bs : Bytes} {s : Split} (h : Heads bs s)
    (hlen : s.payload.length < UInt32.size) : split bs = .ok s := by
  cases h with
  | bare hb rest => exact split_bare hb rest
  | headed isList payload rest =>
    by_cases hshort : payload.length ≤ 55
    · rw [header_short _ hshort, List.singleton_append, split_short isList hshort,
        takePayload_append]
    · have hlong : 55 < payload.length := by omega
      have hne := lengthField_ne_nil (Nat.zero_lt_of_lt hlong) hlen
      have hle := length_lengthField_le payload.length
      rw [header_long _ hlong, List.cons_append,
        split_long isList (List.length_pos_iff.mpr hne) (by omega)]
      exact takeLong_append isList payload rest hne (Bytes.isMinimal_stripZeros _)
        (toNat_lengthField hlen) hlong

/-- Only headers are accepted that `header` writes. -/
theorem heads_of_split {bs : Bytes} {s : Split} (h : split bs = .ok s)
    (hlen : s.payload.length < UInt32.size) : Heads bs s := by
  cases bs with
  | nil => cases h
  | cons b bs =>
    rcases firstByte_cases b with hb | ⟨isList, n, hn, rfl⟩ | ⟨isList, width, hpos, hle, rfl⟩
    · rw [split_bare hb] at h
      injection h with h
      subst h
      exact .bare hb bs
    · rw [split_short isList hn] at h
      obtain ⟨hs, hpayload, hbs⟩ := eq_of_takePayload h
      rw [hs, hbs, ← List.singleton_append, ← hpayload, ← header_short _ (by omega)]
      exact .headed isList s.payload s.rest
    · rw [split_long isList hpos hle] at h
      obtain ⟨field, hwidth, hmin, hval, hlong, hs, hbs⟩ := eq_of_takeLong h
      have hfield : lengthField s.payload.length = field := by
        rw [← hval]
        exact lengthField_toNat hmin (hval ▸ hlen)
      rw [hs, hbs, ← List.cons_append, ← hwidth, ← hfield, ← header_long _ hlong]
      exact .headed isList s.payload s.rest

end ClauseTx.Rlp
