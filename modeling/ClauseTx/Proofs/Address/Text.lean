import ClauseTx.Address.Text
import ClauseTx.Proofs.Text.Split
import ClauseTx.Proofs.Text.Utf8

/-!
# Digits of either case

A text is read as bytes exactly if its characters are hexadecimal digits with
the values of these bytes (`Hex.decode_eq_ok_iff`).  The case of a letter does
not matter: a text spells the bytes whose digits it has in lower case
(`Hex.spells_iff_toLower`).

A text is an address if digits that spell it stand after the mark
(`Address.parse_eq_ok_iff`).  The text of an address has the letters of some
digits in upper case, as a digest tells, and is read as that address
(`Address.parse_checksummed`).
-/

namespace ClauseTx

/-! ## Digits -/

namespace Address

theorem nibbles_cons (b : UInt8) (bs : Bytes) :
    nibbles (b :: bs) = b.toNat / 16 :: b.toNat % 16 :: nibbles bs := rfl

theorem length_nibbles (bs : Bytes) : (nibbles bs).length = 2 * bs.length := by
  induction bs with
  | nil => rfl
  | cons b bs ih =>
    simp only [nibbles_cons, List.length_cons, ih]
    omega

theorem lt_of_mem_nibbles {bs : Bytes} : ∀ n ∈ nibbles bs, n < 16 := by
  intro n hn
  obtain ⟨b, -, hb⟩ := List.mem_flatMap.mp hn
  have := b.toNat_lt
  simp only [List.mem_cons, List.not_mem_nil, or_false] at hb
  omega

end Address

namespace Hex

/-- A text spells bytes if its characters are digits, two for each byte. -/
def Spells (cs : List Char) (bs : Bytes) : Prop :=
  cs.map Text.hexValue? = (Address.nibbles bs).map some

theorem Spells.length_eq {cs : List Char} {bs : Bytes} (h : Spells cs bs) :
    cs.length = 2 * bs.length := by
  have hlen := congrArg List.length h
  rwa [List.length_map, List.length_map, Address.length_nibbles] at hlen

theorem Spells.isHexDigit {cs : List Char} {bs : Bytes} (h : Spells cs bs) :
    ∀ c ∈ cs, Text.isHexDigit c = true := by
  intro c hc
  have hvalue := List.mem_map_of_mem (f := Text.hexValue?) hc
  rw [h] at hvalue
  obtain ⟨n, -, hn⟩ := List.mem_map.mp hvalue
  exact Option.isSome_iff_exists.mpr ⟨n, hn.symm⟩

/-- Digits have one value as characters and as bytes. -/
theorem digitValue?_ofNat {c : Char} (h : c.toNat ≤ 0x7F) :
    digitValue? (UInt8.ofNat c.toNat) = Text.hexValue? c := by
  have hall : ∀ c : Char, c.toNat ≤ 0x7F →
      digitValue? (UInt8.ofNat c.toNat) = Text.hexValue? c :=
    Text.forall_ascii (by decide +kernel)
  exact hall c h

theorem digitValue?_lt {b : UInt8} {n : Nat} (h : digitValue? b = some n) : n < 16 := by
  unfold digitValue? at h
  simp only [UInt8.le_iff_toNat_le, Bool.and_eq_true, decide_eq_true_eq] at h
  have hdecimal : (48 : UInt8).toNat = 48 ∧ (57 : UInt8).toNat = 57 := ⟨rfl, rfl⟩
  have hlower : (97 : UInt8).toNat = 97 ∧ (102 : UInt8).toNat = 102 := ⟨rfl, rfl⟩
  have hupper : (65 : UInt8).toNat = 65 ∧ (70 : UInt8).toNat = 70 := ⟨rfl, rfl⟩
  grind

theorem digitValue?_eq_none {b : UInt8} (h : 0x80 ≤ b) : digitValue? b = none := by
  have hle : 128 ≤ b.toNat := UInt8.le_iff_toNat_le.mp h
  have hnot {k : UInt8} (hk : k.toNat < 128) : ¬ b ≤ k := by
    rw [UInt8.le_iff_toNat_le]
    omega
  rw [digitValue?]
  simp [hnot (k := 57) (by decide), hnot (k := 102) (by decide), hnot (k := 70) (by decide)]

/-- The nibbles of a byte, read from a pair of digits. -/
theorem ofNat_pair_eq_iff {h l : Nat} (hh : h < 16) (hl : l < 16) {b : UInt8} :
    UInt8.ofNat (h * 16 + l) = b ↔ h = b.toNat / 16 ∧ l = b.toNat % 16 := by
  rw [← UInt8.toNat_inj, UInt8.toNat_ofNat']
  have := b.toNat_lt
  omega

/-- A pair of digits is read as a byte in front of what the others are read as. -/
theorem decodePairs_cons_eq_ok_iff {position : Nat} {high low : UInt8} {rest bs : Bytes} :
    decodePairs position (high :: low :: rest) = .ok bs ↔
      ∃ b tail, bs = b :: tail ∧ digitValue? high = some (b.toNat / 16) ∧
        digitValue? low = some (b.toNat % 16) ∧ decodePairs (position + 2) rest = .ok tail := by
  rw [decodePairs]
  cases hhigh : digitValue? high with
  | none => simp
  | some h =>
    cases hlow : digitValue? low with
    | none => simp
    | some l =>
      cases hrest : decodePairs (position + 2) rest with
      | error fault => simp
      | ok tail =>
        have hpair {b : UInt8} := ofNat_pair_eq_iff (b := b) (digitValue?_lt hhigh)
          (digitValue?_lt hlow)
        constructor
        · intro heq
          injection heq with heq
          obtain ⟨hh, hl⟩ := hpair.mp rfl
          exact ⟨_, tail, heq.symm, congrArg some hh, congrArg some hl, rfl⟩
        · rintro ⟨b, tail', rfl, hh, hl, htail⟩
          injection hh with hh
          injection hl with hl
          injection htail with htail
          dsimp only
          rw [hpair.mpr ⟨hh, hl⟩, htail]

/-- An even number of bytes is read by the values of the digits. -/
theorem decodePairs_eq_ok_iff {position : Nat} {bytes bs : Bytes} (heven : bytes.length % 2 = 0) :
    decodePairs position bytes = .ok bs ↔
      bytes.map digitValue? = (Address.nibbles bs).map some := by
  induction bs generalizing bytes position with
  | nil =>
    match bytes, heven with
    | [], _ => exact iff_of_true rfl rfl
    | high :: low :: rest, _ =>
      rw [decodePairs_cons_eq_ok_iff]
      exact iff_of_false nofun nofun
  | cons b bs ih =>
    match bytes, heven with
    | [], _ => exact iff_of_false nofun nofun
    | high :: low :: rest, heven =>
      have hrest : rest.length % 2 = 0 := by
        simp only [List.length_cons] at heven
        omega
      rw [decodePairs_cons_eq_ok_iff, Address.nibbles_cons]
      simp only [List.map_cons, List.cons.injEq]
      constructor
      · rintro ⟨b', tail, ⟨rfl, rfl⟩, hhigh, hlow, htail⟩
        exact ⟨hhigh, hlow, (ih hrest).mp htail⟩
      · intro ⟨hhigh, hlow, htail⟩
        exact ⟨b, bs, ⟨rfl, rfl⟩, hhigh, hlow, (ih hrest).mpr htail⟩

/-- The bytes of a text have values as digits exactly if its characters have. -/
theorem map_digitValue?_flatMap_iff {cs : List Char} {ns : List Nat} :
    (cs.flatMap String.utf8EncodeChar).map digitValue? = ns.map some ↔
      cs.map Text.hexValue? = ns.map some := by
  induction cs generalizing ns with
  | nil => rfl
  | cons c cs ih =>
    rw [List.flatMap_cons, List.map_append, List.map_cons]
    rcases Nat.lt_or_ge 0x7F c.toNat with hhigh | hascii
    · -- Beyond ASCII neither the character nor its bytes have a value.
      obtain ⟨b, bs, hbytes⟩ := List.exists_cons_of_ne_nil (String.utf8EncodeChar_ne_nil (c := c))
      have hmem : b ∈ String.utf8EncodeChar c := hbytes ▸ List.mem_cons_self ..
      have hbyte : digitValue? b = none :=
        digitValue?_eq_none (Text.Utf8.le_of_mem_encodeChar hhigh b hmem)
      have hchar : Text.hexValue? c = none := by
        refine Option.eq_none_iff_forall_ne_some.mpr ?_
        intro n hn
        exact absurd (Text.toNat_le_of_hexValue? hn) (Nat.not_le_of_lt hhigh)
      rw [hbytes, List.map_cons, List.cons_append, hbyte, hchar]
      cases ns <;> exact iff_of_false nofun nofun
    · rw [Text.Utf8.encodeChar_of_le hascii, List.map_singleton, digitValue?_ofNat hascii]
      cases ns with
      | nil => exact iff_of_false nofun nofun
      | cons n ns => simp only [List.singleton_append, List.map_cons, List.cons.injEq, ih]

/-- A text is read as the bytes that it spells. -/
theorem decode_eq_ok_iff {cs : List Char} {bs : Bytes} : decode cs = .ok bs ↔ Spells cs bs := by
  rw [Spells, ← map_digitValue?_flatMap_iff, decode]
  split
  case isTrue hodd =>
    constructor
    · intro h
      cases h
    · intro h
      have hlen := congrArg List.length h
      rw [List.length_map, List.length_map, Address.length_nibbles] at hlen
      omega
  case isFalse heven =>
    exact decodePairs_eq_ok_iff (by omega)

theorem digits_eq_map (bs : Bytes) : digits bs = (Address.nibbles bs).map digit := by
  rw [digits, Address.nibbles, List.map_flatMap]
  rfl

/-- A text spells the bytes whose digits it has in lower case. -/
theorem spells_iff_toLower {cs : List Char} {bs : Bytes} :
    Spells cs bs ↔ cs.map Char.toLower = digits bs := by
  rw [Spells, digits_eq_map]
  exact Text.map_hexValue?_iff Address.lt_of_mem_nibbles

/-- A digit is its own lower case form and that of its upper case form. -/
theorem toLower_digit {n : Nat} (h : n < 16) :
    (digit n).toLower = digit n ∧ (digit n).toUpper.toLower = digit n := by
  have hall : ∀ n : Fin 16, (digit n).toLower = digit n ∧ (digit n).toUpper.toLower = digit n := by
    decide
  exact hall ⟨n, h⟩

end Hex

/-! ## The text of an address -/

namespace Address

/-- The letters that are in upper case are the same digits. -/
theorem map_toLower_zipWith {ns ms : List Nat} (hns : ∀ n ∈ ns, n < 16)
    (hlen : ns.length ≤ ms.length) :
    (List.zipWith (fun c n => if 8 ≤ n then c.toUpper else c) (ns.map Hex.digit) ms).map
      Char.toLower = ns.map Hex.digit := by
  induction ns generalizing ms with
  | nil => rfl
  | cons n ns ih =>
    cases ms with
    | nil => exact nomatch hlen
    | cons m ms =>
      obtain ⟨hlower, hupper⟩ := Hex.toLower_digit (hns n (List.mem_cons_self ..))
      rw [List.map_cons, List.zipWith_cons_cons, List.map_cons,
        ih (fun n' hn => hns n' (List.mem_cons_of_mem _ hn)) (Nat.le_of_succ_le_succ hlen)]
      split
      · rw [hupper]
      · rw [hlower]

theorem map_toLower_mixedDigits (a : Address) : a.mixedDigits.map Char.toLower = a.digits := by
  rw [mixedDigits, digits, Hex.digits_eq_map]
  refine map_toLower_zipWith lt_of_mem_nibbles ?_
  rw [length_nibbles, length_nibbles, Blob.length_eq, bytes, Blob.length_eq]
  decide

/-- A text is read as an address exactly if digits that spell it stand after
the mark. -/
theorem parse_eq_ok_iff {text : String} {a : Address} :
    parse text = .ok a ↔ Hex.Spells (stripMark text.toList) a.bytes := by
  constructor
  · intro h
    rw [parse] at h
    split at h
    case isFalse => cases h
    case isTrue =>
      split at h
      case h_2 => cases h
      case h_1 bs hbs =>
        have hspells : Hex.Spells (stripMark text.toList) bs := Hex.decode_eq_ok_iff.mp hbs
        rw [ofBytes] at h
        split at h
        case h_2 => cases h
        case h_1 blob hblob =>
          injection h with h
          subst h
          rwa [Blob.ofBytes?_eq_some_iff.mp hblob] at hspells
  · intro h
    have hlen : (stripMark text.toList).length = 2 * length := by
      rw [h.length_eq, bytes, Blob.length_eq, length]
    have hvalid : isValid text = true := by
      simp only [isValid, hlen, Bool.and_eq_true, decide_eq_true_eq, List.all_eq_true, true_and]
      exact h.isHexDigit
    have hblob : Blob.ofBytes? a.bytes = some a.blob := Blob.ofBytes?_eq_some_iff.mpr rfl
    rw [parse, if_pos hvalid, Hex.decode_eq_ok_iff.mpr h]
    simp only [ofBytes, hblob]

/-- An address is read from its text. -/
theorem parse_checksummed (a : Address) : parse a.checksummed = .ok a := by
  rw [parse_eq_ok_iff, checksummed, String.toList_ofList, stripMark]
  exact Hex.spells_iff_toLower.mpr a.map_toLower_mixedDigits

end Address

end ClauseTx
