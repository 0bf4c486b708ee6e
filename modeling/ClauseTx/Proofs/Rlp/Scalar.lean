import ClauseTx.Proofs.Bytes
import ClauseTx.Proofs.Outcome
import ClauseTx.Rlp.Scalar

/-!
# Scalar fields have one spelling

Each reader of a scalar field accepts exactly what the writer produces from a
value that fits.  The lemmas state this as an equivalence, one for each kind
of field.

* Integers: `map_decodeNat_eq_ok_iff`, for any type that holds the integers of
  a width.  `decodeUInt_eq_ok_iff` and `decodeUInt64_eq_ok_iff` are the amounts
  and the 64-bit numbers, for every width that they can have.
* Integers written as 64-bit numbers and held in a narrower type:
  `decodeUInt64_narrow_iff`.  The fields of one byte and of four bytes follow.
* Compact values of fixed width: `decodeCompact_eq_ok_iff`.
* Optional values of fixed width: `decodeOptional_eq_ok_iff`.  A value of zero
  bytes is not absence.
-/

namespace ClauseTx.Rlp

/-! ## Shapes -/

theorem asBytes_eq_ok_iff {field : String} {item : Item} {content : Bytes} :
    item.asBytes field = .ok content ↔ item = .bytes content := by
  cases item <;> simp [Item.asBytes]

theorem asList_eq_ok_iff {field : String} {item : Item} {items : List Item} :
    item.asList field = .ok items ↔ item = .list items := by
  cases item <;> simp [Item.asList]

/-! ## Integers -/

/-- An integer is read from the content that spells it without leading
zeros. -/
theorem decodeNat_eq_ok_iff {field : String} {width : Nat} {item : Item} {n : Nat} :
    decodeNat field width item = .ok n ↔
      ∃ content : Bytes, item = .bytes content ∧ content.length ≤ width ∧ content.IsMinimal ∧
        content.toNat = n := by
  cases item with
  | list items => simp [decodeNat, Item.asBytes]
  | bytes content =>
    simp only [decodeNat, Item.asBytes, Item.bytes.injEq]
    constructor
    · intro h
      split at h
      · cases h
      rename_i hlen
      split at h
      · cases h
      rename_i hmin
      injection h with h
      exact ⟨content, rfl, by omega, hmin, h⟩
    · intro h
      obtain ⟨_, rfl, hlen, hmin, rfl⟩ := h
      rw [if_neg (by omega), if_neg hmin]

/-- An integer is read from its shortest spelling, if it fits. -/
theorem decodeNat_eq_ok_iff_spelling {field : String} {width w : Nat} (hw : width ≤ w)
    {item : Item} {n : Nat} :
    decodeNat field width item = .ok n ↔
      item = .bytes (Bytes.stripZeros (Bytes.ofNat w n)) ∧ n < 256 ^ width := by
  rw [decodeNat_eq_ok_iff]
  constructor
  · intro h
    obtain ⟨content, rfl, hlen, hmin, rfl⟩ := h
    exact ⟨by rw [hmin.stripZeros_ofNat_toNat (hlen.trans hw)], hmin.length_le_iff.mp hlen⟩
  · intro h
    obtain ⟨rfl, hn⟩ := h
    have hlt : n < 256 ^ w := Nat.lt_of_lt_of_le hn (Nat.pow_le_pow_right (by decide) hw)
    refine ⟨_, rfl, (Bytes.length_stripZeros_ofNat_le_iff hlt).mpr hn,
      Bytes.isMinimal_stripZeros _, ?_⟩
    rw [Bytes.toNat_stripZeros, Bytes.toNat_ofNat_of_lt hlt]

/-- An integer held in a type `α` is read from its shortest spelling, if `α` has
every integer of the width.  Nothing is asked of `ofNat` above the width, where
an amount stops at the largest one and a 64-bit number wraps around. -/
theorem map_decodeNat_eq_ok_iff {α : Type} {ofNat : Nat → α} {toNat : α → Nat} {field : String}
    {width w : Nat} (hw : width ≤ w) (hvalue : ∀ value, ofNat (toNat value) = value)
    (hfits : ∀ n < 256 ^ width, toNat (ofNat n) = n) {item : Item} {value : α} :
    (decodeNat field width item).map ofNat = .ok value ↔
      item = .bytes (Bytes.stripZeros (Bytes.ofNat w (toNat value))) ∧
        toNat value < 256 ^ width := by
  rw [map_eq_ok_iff]
  constructor
  · intro h
    obtain ⟨n, hn, rfl⟩ := h
    obtain ⟨hitem, hlt⟩ := (decodeNat_eq_ok_iff_spelling hw).mp hn
    rw [hfits n hlt]
    exact ⟨hitem, hlt⟩
  · intro h
    exact ⟨toNat value, (decodeNat_eq_ok_iff_spelling hw).mpr h, hvalue value⟩

theorem decodeUInt_eq_ok_iff {field : String} {width : Nat} (hw : width ≤ 32) {item : Item}
    {value : UInt256} :
    decodeUInt field width item = .ok value ↔
      item = encodeUInt value ∧ value.toNat < 256 ^ width := by
  have hsize : 256 ^ width ≤ UInt256.size := by
    show 256 ^ width ≤ 256 ^ 32
    exact Nat.pow_le_pow_right (by decide) hw
  rw [decodeUInt, encodeUInt]
  refine map_decodeNat_eq_ok_iff hw ?_ ?_
  · intro v
    have hlt := v.toNat_lt
    rw [UInt256.ext_iff, UInt256.toNat_ofNatClamped]
    omega
  · intro n hn
    rw [UInt256.toNat_ofNatClamped]
    omega

theorem decodeUInt64_eq_ok_iff {field : String} {width : Nat} (hw : width ≤ 8) {item : Item}
    {value : UInt64} :
    decodeUInt64 field width item = .ok value ↔
      item = encodeUInt64 value ∧ value.toNat < 256 ^ width := by
  have hsize : 256 ^ width ≤ UInt64.size := by
    show 256 ^ width ≤ 256 ^ 8
    exact Nat.pow_le_pow_right (by decide) hw
  rw [decodeUInt64, encodeUInt64, minimalBytes, Nat.min_eq_left hw]
  refine map_decodeNat_eq_ok_iff hw ?_ ?_
  · intro v
    exact UInt64.ofNat_toNat
  · intro n hn
    exact UInt64.toNat_ofNat_of_lt' (Nat.lt_of_lt_of_le hn hsize)

/-- A field of `width` bytes is written as a 64-bit number and held in a
narrower type `α`.  A number survives the narrowing exactly when it fits. -/
theorem decodeUInt64_narrow_iff {α : Type} {narrow : UInt64 → α} {widen : α → UInt64}
    {width : Nat} (hw : width ≤ 8) (hnarrow : ∀ value, narrow (widen value) = value)
    (hwiden : ∀ n : UInt64, widen (narrow n) = n ↔ n.toNat < 256 ^ width)
    (field : String) {item : Item} {value : α} :
    (∃ n, decodeUInt64 field width item = .ok n ∧ narrow n = value) ↔
      item = encodeUInt64 (widen value) := by
  constructor
  · intro h
    obtain ⟨n, hn, rfl⟩ := h
    obtain ⟨hitem, hlt⟩ := (decodeUInt64_eq_ok_iff hw).mp hn
    rw [(hwiden n).mpr hlt, hitem]
  · intro h
    have hlt : (widen value).toNat < 256 ^ width := by
      rw [← hwiden, hnarrow]
    exact ⟨widen value, (decodeUInt64_eq_ok_iff hw).mpr ⟨h, hlt⟩, hnarrow value⟩

/-- A field of one byte. -/
theorem decodeUInt64_toUInt8_iff (field : String) {item : Item} {value : UInt8} :
    (∃ n, decodeUInt64 field 1 item = .ok n ∧ n.toUInt8 = value) ↔
      item = encodeUInt64 value.toUInt64 := by
  refine decodeUInt64_narrow_iff (by decide) UInt8.toUInt8_toUInt64 (fun n => ?_) field
  rw [← UInt64.toNat_inj, UInt8.toNat_toUInt64, UInt64.toNat_toUInt8]
  omega

/-- A field of four bytes. -/
theorem decodeUInt64_toUInt32_iff (field : String) {item : Item} {value : UInt32} :
    (∃ n, decodeUInt64 field 4 item = .ok n ∧ n.toUInt32 = value) ↔
      item = encodeUInt64 value.toUInt64 := by
  refine decodeUInt64_narrow_iff (by decide) UInt32.toUInt32_toUInt64 (fun n => ?_) field
  rw [← UInt64.toNat_inj, UInt32.toNat_toUInt64, UInt64.toNat_toUInt32]
  omega

/-! ## Compact values of fixed width -/

theorem decodeCompact_eq_ok_iff {n : Nat} {field : String} {item : Item} {b : Blob n} :
    decodeCompact n field item = .ok b ↔ item = encodeCompact b.bytes := by
  cases item with
  | list items => simp [decodeCompact, Item.asBytes, encodeCompact]
  | bytes content =>
    simp only [decodeCompact, Item.asBytes, encodeCompact, Item.bytes.injEq]
    constructor
    · intro h
      split at h
      · cases h
      split at h
      · cases h
      rename_i hmin
      injection h with h
      subst h
      exact (Bytes.IsMinimal.stripZeros_padLeft hmin).symm
    · intro h
      obtain rfl := h
      have hlen := Bytes.length_stripZeros_le b.bytes
      rw [b.length_eq] at hlen
      rw [dif_neg (by omega), if_neg (Bytes.isMinimal_stripZeros b.bytes)]
      simp only [Bytes.padLeft_stripZeros b.length_eq]

/-! ## Optional values of fixed width -/

theorem decodeOptional_eq_ok_iff {n : Nat} (hn : 0 < n) {field : String} {item : Item}
    {b : Option (Blob n)} :
    decodeOptional n field item = .ok b ↔ item = encodeOptional (b.map Blob.bytes) := by
  cases item with
  | list items => cases b <;> simp [decodeOptional, Item.asBytes, encodeOptional, Item.empty]
  | bytes content =>
    simp only [decodeOptional, Item.asBytes]
    constructor
    · intro h
      split at h
      · rename_i hempty
        injection h with h
        subst h
        rw [List.isEmpty_iff.mp hempty]
        rfl
      split at h
      · rename_i blob hblob
        injection h with h
        subst h
        rw [Blob.ofBytes?_eq_some_iff.mp hblob]
        rfl
      · cases h
    · intro h
      cases b with
      | none =>
        injection h with h
        subst h
        rfl
      | some b =>
        injection h with h
        subst h
        have hne : b.bytes.isEmpty = false := by
          rw [List.isEmpty_eq_false_iff, ← List.length_pos_iff, b.length_eq]
          exact hn
        rw [if_neg (by simp [hne]), Blob.ofBytes?_eq_some_iff.mpr rfl]

end ClauseTx.Rlp
