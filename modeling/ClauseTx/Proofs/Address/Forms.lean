import ClauseTx.Proofs.Address.Text
import ClauseTx.Proofs.Json.Text
import ClauseTx.Proofs.Outcome

/-!
# The forms of an address

The text of an address is an optional mark and 40 hexadecimal digits
(`Written`).  The grammar says nothing of the reader, and the two agree on all
texts.

* The reader takes exactly what is written so (`isValid_iff_written`), and the
  address is the number that the digits spell (`Written.exists_parse`).
* The texts of one address differ in the mark and in the case of letters only
  (`parse_eq_ok_iff_recased`).  The text with a checksum is one of them
  (`toLower_checksummed`).
* The forms for JSON and for binary data are read back.

A mark is never taken for digits, since `x` is none.  So at most one mark is
dropped, and it does not matter that the reader drops it before it counts.
-/

namespace ClauseTx

/-! ## Digits that spell bytes -/

namespace Hex

/-- An even number of digits spells bytes. -/
theorem exists_spells {cs : List Char} {n : Nat} (hlen : cs.length = 2 * n)
    (hcs : ∀ c ∈ cs, c ∈ Text.hexDigits) : ∃ bs, Spells cs bs ∧ bs.length = n := by
  have hvalue {c : Char} (hc : c ∈ cs) : ∃ v, Text.hexValue? c = some v ∧ v < 16 := by
    obtain ⟨v, hv⟩ := Option.isSome_iff_exists.mp (Text.isHexDigit_iff_mem.mpr (hcs c hc))
    exact ⟨v, hv, (Text.hexValue?_eq_some_iff.mp hv).1⟩
  induction n generalizing cs with
  | zero =>
    obtain rfl := List.length_eq_zero_iff.mp hlen
    exact ⟨[], rfl, rfl⟩
  | succ n ih =>
    match cs, hlen with
    | high :: low :: rest, hlen =>
      obtain ⟨h, hhigh, hh⟩ := hvalue (c := high) (by simp)
      obtain ⟨l, hlow, hl⟩ := hvalue (c := low) (by simp)
      have hmem {c : Char} (hc : c ∈ rest) : c ∈ high :: low :: rest :=
        List.mem_cons_of_mem _ (List.mem_cons_of_mem _ hc)
      obtain ⟨bs, hbs, hlength⟩ := ih
        (by rw [List.length_cons, List.length_cons] at hlen; omega)
        (fun c hc => hcs c (hmem hc)) (fun hc => hvalue (hmem hc))
      obtain ⟨hhdiv, hlmod⟩ := (ofNat_pair_eq_iff hh hl).mp rfl
      refine ⟨UInt8.ofNat (h * 16 + l) :: bs, ?_, congrArg (· + 1) hlength⟩
      rw [Spells, Address.nibbles_cons, ← hhdiv, ← hlmod, List.map_cons, List.map_cons, hhigh,
        hlow, hbs]
      rfl

/-- The number of the bytes is the number of the digits. -/
theorem toNat_of_spells {cs : List Char} {bs : Bytes} (h : Spells cs bs) :
    bs.toNat = Text.hexadecimalValue cs := by
  have hbyte : (fun n (b : UInt8) => n * 256 + b.toNat) =
      fun n (b : UInt8) => [b.toNat / 16, b.toNat % 16].foldl (fun n d => n * 16 + d) n := by
    funext n b
    simp only [List.foldl_cons, List.foldl_nil]
    omega
  calc bs.toNat = (Address.nibbles bs).foldl (fun n d => n * 16 + d) 0 := by
        rw [Bytes.toNat, Address.nibbles, List.foldl_flatMap, hbyte]
    _ = ((Address.nibbles bs).map some).foldl (fun n v => n * 16 + v.getD 0) 0 := by
        rw [List.foldl_map]
        rfl
    _ = (cs.map Text.hexValue?).foldl (fun n v => n * 16 + v.getD 0) 0 := by rw [h]
    _ = Text.hexadecimalValue cs := by
        rw [List.foldl_map]
        rfl

end Hex

namespace Address

/-! ## The grammar -/

/-- What may stand in front of the digits. -/
def marks : List (List Char) := [[], ['0', 'x'], ['0', 'X']]

/-- A text consists of an optional mark and the digits of an address. -/
structure Written (text : String) (digits : List Char) : Prop where
  exists_mark : ∃ mark ∈ marks, text.toList = mark ++ digits
  length_eq : digits.length = 40
  mem_hexDigits : ∀ c ∈ digits, c ∈ Text.hexDigits

theorem exists_mark_append_stripMark (cs : List Char) :
    ∃ mark ∈ marks, cs = mark ++ stripMark cs := by
  unfold stripMark
  split
  · exact ⟨['0', 'x'], by simp [marks], rfl⟩
  · exact ⟨['0', 'X'], by simp [marks], rfl⟩
  · exact ⟨[], by simp [marks], rfl⟩

/-- Digits are not taken for a mark. -/
theorem stripMark_append {mark digits : List Char} (hmark : mark ∈ marks)
    (hdigits : ∀ c ∈ digits, c ∈ Text.hexDigits) : stripMark (mark ++ digits) = digits := by
  simp only [marks, List.mem_cons, List.not_mem_nil, or_false] at hmark
  rcases hmark with rfl | rfl | rfl
  · rw [List.nil_append, stripMark.eq_def]
    split
    · exact absurd (hdigits 'x' (by simp)) (by decide)
    · exact absurd (hdigits 'X' (by simp)) (by decide)
    · rfl
  · rfl
  · rfl

theorem Written.stripMark_eq {text : String} {digits : List Char} (h : Written text digits) :
    stripMark text.toList = digits := by
  obtain ⟨mark, hmark, htext⟩ := h.exists_mark
  rw [htext, stripMark_append hmark h.mem_hexDigits]

/-! ## The reader and the grammar -/

theorem isValid_iff_written {text : String} :
    isValid text = true ↔ ∃ digits, Written text digits := by
  simp only [isValid, Bool.and_eq_true, decide_eq_true_eq, List.all_eq_true,
    Text.isHexDigit_iff_mem]
  constructor
  · rintro ⟨hlen, hdigits⟩
    exact ⟨stripMark text.toList, exists_mark_append_stripMark _, hlen, hdigits⟩
  · rintro ⟨digits, h⟩
    rw [h.stripMark_eq]
    exact ⟨h.length_eq, h.mem_hexDigits⟩

/-- The address of a text is the number that its digits spell. -/
theorem Written.exists_parse {text : String} {digits : List Char} (h : Written text digits) :
    ∃ a, parse text = .ok a ∧ a.blob.toNat = Text.hexadecimalValue digits := by
  obtain ⟨bs, hbs, hlen⟩ := Hex.exists_spells (n := 20) h.length_eq h.mem_hexDigits
  refine ⟨⟨⟨bs, hlen⟩⟩, ?_, Hex.toNat_of_spells hbs⟩
  rw [parse_eq_ok_iff, h.stripMark_eq]
  exact hbs

theorem isValid_iff_exists_parse {text : String} :
    isValid text = true ↔ ∃ a, parse text = .ok a := by
  constructor
  · intro h
    obtain ⟨digits, hwritten⟩ := isValid_iff_written.mp h
    obtain ⟨a, ha, -⟩ := hwritten.exists_parse
    exact ⟨a, ha⟩
  · rintro ⟨a, ha⟩
    by_contra h
    rw [parse, if_neg h] at ha
    cases ha

/-! ## The texts of one address -/

/-- The texts of an address are its digits with letters of either case and any
mark in front. -/
theorem parse_eq_ok_iff_recased {text : String} {a : Address} :
    parse text = .ok a ↔
      ∃ mark ∈ marks, ∃ recased, text.toList = mark ++ recased ∧
        recased.map Char.toLower = a.digits := by
  rw [parse_eq_ok_iff]
  constructor
  · intro h
    obtain ⟨mark, hmark, htext⟩ := exists_mark_append_stripMark text.toList
    exact ⟨mark, hmark, _, htext, Hex.spells_iff_toLower.mp h⟩
  · rintro ⟨mark, hmark, recased, htext, hrecased⟩
    have hspells : Hex.Spells recased a.bytes := Hex.spells_iff_toLower.mpr hrecased
    have hdigits : ∀ c ∈ recased, c ∈ Text.hexDigits := by
      intro c hc
      exact Text.isHexDigit_iff_mem.mp (hspells.isHexDigit c hc)
    rwa [htext, stripMark_append hmark hdigits]

/-- Neither the mark nor the case of a letter counts. -/
theorem Written.parse_recased {text : String} {digits mark recased : List Char} {a : Address}
    (h : Written text digits) (ha : parse text = .ok a) (hmark : mark ∈ marks)
    (hrecased : recased.map Char.toLower = digits.map Char.toLower) :
    parse (String.ofList (mark ++ recased)) = .ok a := by
  have hspells : Hex.Spells digits a.bytes := by
    rw [← h.stripMark_eq]
    exact parse_eq_ok_iff.mp ha
  refine parse_eq_ok_iff_recased.mpr ⟨mark, hmark, recased, String.toList_ofList, ?_⟩
  rw [hrecased]
  exact Hex.spells_iff_toLower.mp hspells

/-- The text with a checksum tells the address. -/
theorem map_checksummed_eq_ok_iff {x : Except Error Address} {a : Address} :
    x.map checksummed = .ok a.checksummed ↔ x = .ok a := by
  rw [map_eq_ok_iff]
  constructor
  · rintro ⟨b, rfl, hb⟩
    have hparse := b.parse_checksummed
    rw [hb, parse_checksummed] at hparse
    exact hparse.symm
  · intro h
    exact ⟨a, h, rfl⟩

/-- The text with a checksum is the usual one in lower case. -/
theorem toLower_checksummed (a : Address) :
    a.checksummed.toLower = "0x" ++ Hex.encode a.bytes := by
  have hlower : a.checksummed.toLower.toList = a.checksummed.toList.map Char.toLower :=
    String.toList_map
  have hencode : (Hex.encode a.bytes).toList = a.digits := String.toList_ofList
  refine String.toList_inj.mp ?_
  rw [hlower, checksummed, String.toList_ofList, List.map_cons, List.map_cons,
    map_toLower_mixedDigits, String.toList_append, hencode]
  rfl

/-! ## JSON and binary data -/

theorem ofJson_toJson (a : Address) : ofJson a.toJson = .ok a := by
  rw [toJson, ofJson, parse_checksummed]
  rfl

/-- The text of JSON is read back as well. -/
theorem ofJson_parse?_render (a : Address) :
    (Json.parse? (Bytes.ofText a.toJson.render)).map ofJson = some (.ok a) := by
  rw [toJson, Json.parse?_render_string, Option.map_some]
  exact congrArg some a.ofJson_toJson

/-- The length in front tells where the address ends. -/
theorem ofBinary_append (a : Address) (rest : Bytes) : ofBinary (a.toBinary ++ rest) = .ok a := by
  have hlen : a.bytes.length = 20 := a.blob.length_eq
  have hcount : Bytes.toNatLittle (Bytes.ofNatLittle 8 20) = 20 := by decide
  have hblob : Blob.ofBytes? a.bytes = some a.blob := Blob.ofBytes?_eq_some_iff.mpr rfl
  have hhead : (a.toBinary ++ rest).take 8 = Bytes.ofNatLittle 8 20 := by
    rw [toBinary, hlen, List.append_assoc]
    exact List.take_left' (Bytes.length_ofNatLittle ..)
  have htail : (a.toBinary ++ rest).drop 8 = a.bytes ++ rest := by
    rw [toBinary, List.append_assoc]
    exact List.drop_left' (Bytes.length_ofNatLittle ..)
  have hlong : ¬ (a.toBinary ++ rest).length < 8 := by
    rw [toBinary, List.length_append, List.length_append, Bytes.length_ofNatLittle]
    omega
  have hcontent : (a.bytes ++ rest).take 20 = a.bytes := List.take_left' hlen
  rw [ofBinary, if_neg hlong, hhead, htail, hcount]
  dsimp only
  rw [hcontent, if_neg (by omega), ofBytes, hblob]
  rfl

/-! ## All forms -/

/-- A text is an address exactly if it is an optional mark and 40 digits.  The
digits are a number, most significant digit first, and neither their case nor
the mark counts.  The text with a checksum is one of the texts of the address,
and it is the same whichever of them the address was read from.  What is
written in any form is read back. -/
theorem forms_agree :
    (∀ text, (isValid text = true ↔ ∃ a, parse text = .ok a) ∧
        (isValid text = true ↔ ∃ digits, Written text digits)) ∧
      (∀ text digits, Written text digits → ∃ a, parse text = .ok a ∧
        a.blob.toNat = Text.hexadecimalValue digits ∧
        ∀ mark ∈ marks, ∀ recased : List Char,
          recased.map Char.toLower = digits.map Char.toLower →
            parse (String.ofList (mark ++ recased)) = .ok a) ∧
      (∀ a : Address, parse a.checksummed = .ok a ∧
        a.checksummed.toLower = "0x" ++ Hex.encode a.bytes ∧
        ∀ text,
          (parse text = .ok a ↔ ∃ mark ∈ marks, ∃ recased, text.toList = mark ++ recased ∧
            recased.map Char.toLower = a.digits) ∧
          ((parse text).map checksummed = .ok a.checksummed ↔ parse text = .ok a)) ∧
      ∀ a : Address, ofJson a.toJson = .ok a ∧
        (Json.parse? (Bytes.ofText a.toJson.render)).map ofJson = some (.ok a) ∧
        ∀ rest, ofBinary (a.toBinary ++ rest) = .ok a := by
  refine ⟨?_, ?_, ?_, ?_⟩
  · intro text
    exact ⟨isValid_iff_exists_parse, isValid_iff_written⟩
  · intro text digits h
    obtain ⟨a, ha, hvalue⟩ := h.exists_parse
    refine ⟨a, ha, hvalue, ?_⟩
    intro mark hmark recased hrecased
    exact h.parse_recased ha hmark hrecased
  · intro a
    refine ⟨a.parse_checksummed, a.toLower_checksummed, ?_⟩
    intro text
    exact ⟨parse_eq_ok_iff_recased, map_checksummed_eq_ok_iff⟩
  · intro a
    exact ⟨a.ofJson_toJson, a.ofJson_parse?_render, a.ofBinary_append⟩

/-- Capital letters behind `0X`, and small letters without a mark. -/
theorem forms_agree_capitals :
    Written "0X5AAEB6053F3E94C9B9A09F33669435E7EF1BEAED"
        "5AAEB6053F3E94C9B9A09F33669435E7EF1BEAED".toList ∧
      ∃ a, parse "0X5AAEB6053F3E94C9B9A09F33669435E7EF1BEAED" = .ok a ∧
        a.blob.toNat = 0x5AAEB6053F3E94C9B9A09F33669435E7EF1BEAED ∧
        parse "5aaeb6053f3e94c9b9a09f33669435e7ef1beaed" = .ok a := by
  have hdigits : "5AAEB6053F3E94C9B9A09F33669435E7EF1BEAED".toList.all Text.isHexDigit = true := by
    decide +kernel
  have hwritten : Written "0X5AAEB6053F3E94C9B9A09F33669435E7EF1BEAED"
      "5AAEB6053F3E94C9B9A09F33669435E7EF1BEAED".toList := by
    refine ⟨⟨['0', 'X'], by decide, by decide⟩, by decide, ?_⟩
    intro c hc
    exact Text.isHexDigit_iff_mem.mp (List.all_eq_true.mp hdigits c hc)
  obtain ⟨-, hread, -⟩ := forms_agree
  obtain ⟨a, ha, hvalue, hrecased⟩ := hread _ _ hwritten
  have hnumber : Text.hexadecimalValue "5AAEB6053F3E94C9B9A09F33669435E7EF1BEAED".toList =
      0x5AAEB6053F3E94C9B9A09F33669435E7EF1BEAED := by
    decide +kernel
  have hsmall := hrecased [] (by decide) "5aaeb6053f3e94c9b9a09f33669435e7ef1beaed".toList
    (by decide)
  rw [List.nil_append, String.ofList_toList] at hsmall
  exact ⟨hwritten, a, ha, hvalue.trans hnumber, hsmall⟩

end Address

end ClauseTx
