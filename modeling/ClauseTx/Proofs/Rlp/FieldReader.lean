import ClauseTx.Proofs.Rlp.Scalar

/-!
# Readers of fields

A reader of a scalar field accepts the one spelling of each value that fits
and refuses every other item.  `ReadsExactly` says so for any reader and the
writer that belongs to it, and it says how an item is refused: a list for its
shape, and a byte string for its content.

* Refusing.  `NamesFault` is about the errors alone.  It goes through a
  conversion of what is read (`NamesFault.map`), so the two kinds of integers
  get it from the reader that they share.
* Accepting.  What is accepted is stated next to the scalars themselves, and
  `NamesFault.readsExactly` puts the two halves together.

The main statements are `integers_have_one_spelling` and
`blobs_have_one_spelling`.  A zero byte in front of an integer or of a compact
value would be a second spelling and is refused.  In front of an optional value
it is a part of the value, so a blob of zeros is not taken for absence.
-/

namespace ClauseTx.Rlp

variable {α β : Type} {read : String → Item → Except Error α} {write : α → Item}
  {Fits : α → Prop}

/-! ## Refusing -/

/-- What a reader says of an item that it refuses.  Both errors name the
field. -/
structure NamesFault (read : String → Item → Except Error α) : Prop where
  list : ∀ field items, read field (.list items) = .error (.unexpectedShape field .bytes)
  bytes : ∀ field content e, read field (.bytes content) = .error e →
    ∃ fault, e = .invalidField field fault

theorem namesFault_decodeNat (width : Nat) : NamesFault fun field => decodeNat field width where
  list field items := rfl
  bytes field content e h := by
    simp only [decodeNat, Item.asBytes] at h
    split_ifs at h
    · exact ⟨_, (Except.error.inj h).symm⟩
    · exact ⟨_, (Except.error.inj h).symm⟩

theorem namesFault_decodeCompact (n : Nat) : NamesFault (decodeCompact n) where
  list field items := rfl
  bytes field content e h := by
    simp only [decodeCompact, Item.asBytes] at h
    split_ifs at h
    · exact ⟨_, (Except.error.inj h).symm⟩
    · exact ⟨_, (Except.error.inj h).symm⟩

theorem namesFault_decodeOptional (n : Nat) : NamesFault (decodeOptional n) where
  list field items := rfl
  bytes field content e h := by
    simp only [decodeOptional, Item.asBytes] at h
    split at h
    · cases h
    · split at h
      · cases h
      · injection h with h
        exact ⟨_, h.symm⟩

/-- A conversion of what is read keeps the errors. -/
theorem NamesFault.map (h : NamesFault read) (f : α → β) :
    NamesFault fun field item => (read field item).map f where
  list field items := by
    show (read field (.list items)).map f = _
    rw [h.list]
    rfl
  bytes field content e he := by
    cases hread : read field (.bytes content) with
    | ok v =>
      rw [hread] at he
      cases he
    | error e' =>
      rw [hread] at he
      injection he with he
      exact he ▸ h.bytes field content e' hread

/-! ## Accepting one spelling -/

/-- A reader accepts exactly what a writer produces from the values that fit.
All other items are refused, lists for their shape and byte strings for their
content. -/
structure ReadsExactly (read : String → Item → Except Error α) (write : α → Item)
    (Fits : α → Prop) : Prop where
  accepts_iff : ∀ field item v, read field item = .ok v ↔ item = write v ∧ Fits v
  refuses_list : ∀ field items, read field (.list items) = .error (.unexpectedShape field .bytes)
  refuses_bytes : ∀ field content, (¬ ∃ v, Item.bytes content = write v ∧ Fits v) →
    ∃ fault, read field (.bytes content) = .error (.invalidField field fault)

theorem NamesFault.readsExactly (h : NamesFault read)
    (haccepts : ∀ field item v, read field item = .ok v ↔ item = write v ∧ Fits v) :
    ReadsExactly read write Fits where
  accepts_iff := haccepts
  refuses_list := h.list
  refuses_bytes field content hother := by
    cases hread : read field (.bytes content) with
    | ok v => exact absurd ⟨v, (haccepts field _ v).mp hread⟩ hother
    | error e =>
      obtain ⟨fault, rfl⟩ := h.bytes field content e hread
      exact ⟨fault, rfl⟩

/-- A value is read from one item only, in whatever field it stands. -/
theorem ReadsExactly.item_unique (h : ReadsExactly read write Fits) {field field' : String}
    {item item' : Item} {v : α} (hread : read field item = .ok v)
    (hread' : read field' item' = .ok v) : item = item' := by
  rw [((h.accepts_iff field item v).mp hread).1, ((h.accepts_iff field' item' v).mp hread').1]

/-! ## Integers -/

theorem readsExactly_decodeUInt {width : Nat} (hw : width ≤ 32) :
    ReadsExactly (fun field => decodeUInt field width) encodeUInt
      (fun v => v.toNat < 256 ^ width) :=
  ((namesFault_decodeNat width).map UInt256.ofNatClamped).readsExactly
    fun _ _ _ => decodeUInt_eq_ok_iff hw

theorem readsExactly_decodeUInt64 {width : Nat} (hw : width ≤ 8) :
    ReadsExactly (fun field => decodeUInt64 field width) encodeUInt64
      (fun v => v.toNat < 256 ^ width) :=
  ((namesFault_decodeNat (min width 8)).map UInt64.ofNat).readsExactly
    fun _ _ _ => decodeUInt64_eq_ok_iff hw

/-- The two kinds of integers have the same items. -/
theorem encodeUInt64_eq_encodeUInt_iff {n : UInt64} {v : UInt256} :
    encodeUInt64 n = encodeUInt v ↔ n.toNat = v.toNat := by
  have hn : n.toNat < 256 ^ 8 := n.toNat_lt
  have hv : v.toNat < 256 ^ 32 := v.toNat_lt
  rw [encodeUInt64, minimalBytes, encodeUInt, Item.bytes.injEq]
  constructor
  · intro h
    have hnum := congrArg Bytes.toNat h
    rwa [Bytes.toNat_stripZeros, Bytes.toNat_stripZeros, Bytes.toNat_ofNat_of_lt hn,
      Bytes.toNat_ofNat_of_lt hv] at hnum
  · intro h
    rw [← h]
    exact Bytes.stripZeros_ofNat_eq hn (by decide)

/-- An integer has one spelling at every width, and it is the same for both
kinds of integers. -/
theorem integers_have_one_spelling :
    (∀ width ≤ 32, ReadsExactly (fun field => decodeUInt field width) encodeUInt
      (fun v => v.toNat < 256 ^ width)) ∧
    (∀ width ≤ 8, ReadsExactly (fun field => decodeUInt64 field width) encodeUInt64
      (fun v => v.toNat < 256 ^ width)) ∧
    ∀ (n : UInt64) (v : UInt256), encodeUInt64 n = encodeUInt v ↔ n.toNat = v.toNat := by
  refine ⟨?_, ?_, ?_⟩
  · intro width hw
    exact readsExactly_decodeUInt hw
  · intro width hw
    exact readsExactly_decodeUInt64 hw
  · intro n v
    exact encodeUInt64_eq_encodeUInt_iff

/-- The largest number of one byte is read, the next one is too wide, and no
byte string that starts with a zero byte spells a number. -/
theorem integers_have_one_spelling_one :
    1 ≤ 32 ∧ 8 ≤ 8 ∧
      decodeUInt "gasPriceCoef" 1 (.bytes [0xFF]) = .ok 0xFF ∧
      (∃ fault, decodeUInt "gasPriceCoef" 1 (.bytes [0x01, 0x00]) =
        .error (.invalidField "gasPriceCoef" fault)) ∧
      (∃ fault, decodeUInt64 "nonce" 8 (.bytes [0x00]) = .error (.invalidField "nonce" fault)) ∧
      decodeUInt64 "nonce" 8 .empty = .ok 0 := by
  obtain ⟨hamounts, hwords, -⟩ := integers_have_one_spelling
  have hbyte := hamounts 1 (by decide)
  have hword := hwords 8 (by decide)
  refine ⟨by decide, by decide, ?_, ?_, ?_, ?_⟩
  · exact (hbyte.accepts_iff _ _ _).mpr ⟨rfl, by decide⟩
  · refine hbyte.refuses_bytes _ _ ?_
    rintro ⟨v, hv, hlt⟩
    have hnum := congrArg Bytes.toNat (Item.bytes.inj hv)
    rw [Bytes.toNat_stripZeros, Bytes.toNat_ofNat_of_lt v.toNat_lt] at hnum
    rw [← hnum] at hlt
    exact absurd hlt (by decide)
  · refine hword.refuses_bytes _ _ ?_
    rintro ⟨n, hn, -⟩
    refine Bytes.isMinimal_stripZeros (Bytes.ofNat 8 n.toNat) ?_
    show (minimalBytes n).head? = some 0
    rw [← Item.bytes.inj hn]
    rfl
  · exact (hword.accepts_iff _ _ _).mpr ⟨rfl, by decide⟩

/-! ## Blobs -/

theorem readsExactly_decodeCompact (n : Nat) :
    ReadsExactly (decodeCompact n) (fun b => encodeCompact b.bytes) (fun _ => True) :=
  (namesFault_decodeCompact n).readsExactly fun _ _ _ => by
    rw [decodeCompact_eq_ok_iff, and_true]

theorem readsExactly_decodeOptional {n : Nat} (hn : 0 < n) :
    ReadsExactly (decodeOptional n) (fun o => encodeOptional (o.map Blob.bytes))
      (fun _ => True) :=
  (namesFault_decodeOptional n).readsExactly fun _ _ _ => by
    rw [decodeOptional_eq_ok_iff hn, and_true]

/-- A compact value is read from no more bytes than it has itself.  They are
what is left of it without its leading zeros. -/
theorem content_of_decodeCompact {n : Nat} {field : String} {content : Bytes} {b : Blob n}
    (h : decodeCompact n field (.bytes content) = .ok b) :
    content.length ≤ n ∧ content.padLeft n = b.bytes ∧ Bytes.stripZeros b.bytes = content := by
  have hcontent : content = Bytes.stripZeros b.bytes :=
    Item.bytes.inj (decodeCompact_eq_ok_iff.mp h)
  have hlen := Bytes.length_stripZeros_le b.bytes
  rw [b.length_eq, ← hcontent] at hlen
  refine ⟨hlen, ?_, hcontent.symm⟩
  rw [hcontent]
  exact Bytes.padLeft_stripZeros b.length_eq

/-- A blob has one spelling, as a compact value and as an optional one.
Stripping and padding are inverse to each other, and a blob of zeros is not
absent. -/
theorem blobs_have_one_spelling {n : Nat} (hn : 1 ≤ n) :
    ReadsExactly (decodeCompact n) (fun b => encodeCompact b.bytes) (fun _ => True) ∧
    ReadsExactly (decodeOptional n) (fun o => encodeOptional (o.map Blob.bytes))
      (fun _ => True) ∧
    (∀ b : Blob n, (Bytes.stripZeros b.bytes).padLeft n = b.bytes) ∧
    (∀ field content b, decodeCompact n field (.bytes content) = .ok b →
      content.length ≤ n ∧ content.padLeft n = b.bytes ∧ Bytes.stripZeros b.bytes = content) ∧
    (∀ field field' item item' b, decodeCompact n field item = .ok b →
      decodeCompact n field' item' = .ok b → item = item') ∧
    ∀ field field' item item' o, decodeOptional n field item = .ok o →
      decodeOptional n field' item' = .ok o → item = item' := by
  refine ⟨readsExactly_decodeCompact n, readsExactly_decodeOptional hn, ?_, ?_, ?_, ?_⟩
  · intro b
    exact Bytes.padLeft_stripZeros b.length_eq
  · intro field content b h
    exact content_of_decodeCompact h
  · intro field field' item item' b h h'
    exact (readsExactly_decodeCompact n).item_unique h h'
  · intro field field' item item' o h h'
    exact (readsExactly_decodeOptional hn).item_unique h h'

/-- The empty item is eight zero bytes as a compact value, and no value as an
optional one. -/
theorem blobs_have_one_spelling_eight :
    1 ≤ 8 ∧
      decodeCompact 8 "blockRef" .empty = .ok (Blob.zero 8) ∧
      decodeOptional 8 "dependsOn" .empty = .ok (none : Option (Blob 8)) ∧
      decodeOptional 8 "dependsOn" (.bytes (List.replicate 8 0)) = .ok (some (Blob.zero 8)) ∧
      (Bytes.stripZeros (Blob.zero 8).bytes).padLeft 8 = (Blob.zero 8).bytes := by
  obtain ⟨hcompact, hoptional, hinverse, -⟩ := blobs_have_one_spelling (n := 8) (by decide)
  refine ⟨by decide, ?_, ?_, ?_, hinverse (Blob.zero 8)⟩
  · exact (hcompact.accepts_iff _ _ _).mpr ⟨rfl, trivial⟩
  · exact (hoptional.accepts_iff _ _ _).mpr ⟨rfl, trivial⟩
  · exact (hoptional.accepts_iff _ _ _).mpr ⟨rfl, trivial⟩

end ClauseTx.Rlp
