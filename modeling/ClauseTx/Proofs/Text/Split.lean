import ClauseTx.Hex
import ClauseTx.Text.Split
import Mathlib.Data.List.Basic

/-!
# Pieces and digits of a text

A text is its pieces with separators between them (`eq_of_splitOn`), and
segments that are put behind a text add their own pieces
(`splitOn_append_flatMap`).

A run of digits spells a number.  For decimal digits this is the number that
the standard library reads (`decimalValue_eq_ofDigitChars`), so a number is read
back from its own text.  A hexadecimal digit has the value of its lower case
form (`hexValue?_eq_some_iff`).
-/

namespace ClauseTx.Text

/-! ## Pieces -/

/-- The pieces are those of the standard library. -/
theorem splitOn_eq (separator : Char) (cs : List Char) :
    splitOn separator cs = List.splitOn separator cs := by
  induction cs with
  | nil => exact (List.splitOn_nil separator).symm
  | cons c cs ih =>
    obtain ⟨piece, pieces, hcs⟩ := List.exists_cons_of_ne_nil (List.splitOn_ne_nil separator cs)
    rw [splitOn] at ih ⊢
    rw [List.foldr_cons, ih, List.splitOn_cons_eq_if_modifyHead, hcs]
    simp only [beq_iff_eq]
    rfl

theorem splitOn_ne_nil (separator : Char) (cs : List Char) : splitOn separator cs ≠ [] := by
  rw [splitOn_eq]
  exact List.splitOn_ne_nil separator cs

/-- The pieces of a text with segments behind it, each after a separator. -/
theorem splitOn_append_flatMap (separator : Char) (cs : List Char) (segments : List (List Char)) :
    splitOn separator (cs ++ segments.flatMap (separator :: ·)) =
      splitOn separator cs ++ segments.flatMap (splitOn separator) := by
  induction segments generalizing cs with
  | nil => simp
  | cons segment segments ih =>
    rw [List.flatMap_cons, List.flatMap_cons, List.cons_append, splitOn_eq,
      List.splitOn_append_cons_self, ← splitOn_eq, ← splitOn_eq, ih]

theorem intercalate_cons_eq (separator : Char) (piece : List Char) (pieces : List (List Char)) :
    [separator].intercalate (piece :: pieces) = piece ++ pieces.flatMap (separator :: ·) := by
  induction pieces generalizing piece with
  | nil => simp
  | cons next pieces ih =>
    rw [List.intercalate_cons_cons, ih, List.flatMap_cons, List.append_assoc]
    rfl

/-- A text is its pieces with separators between them. -/
theorem eq_of_splitOn {separator : Char} {cs piece : List Char} {pieces : List (List Char)}
    (h : splitOn separator cs = piece :: pieces) :
    cs = piece ++ pieces.flatMap (separator :: ·) := by
  rw [← intercalate_cons_eq, ← h, splitOn_eq, List.intercalate_splitOn]

/-! ## Decimal digits -/

theorem decimalValue_eq_ofDigitChars (digits : List Char) :
    decimalValue digits = Nat.ofDigitChars 10 digits 0 := by
  simp only [decimalValue, Nat.ofDigitChars_eq_foldl, digitValue, Nat.mul_comm 10]

theorem decimal?_eq_some_iff {digits : List Char} {n : Nat} :
    decimal? digits = some n ↔
      digits ≠ [] ∧ (∀ c ∈ digits, c.isDigit = true) ∧ decimalValue digits = n := by
  simp only [decimal?, Option.ite_none_right_eq_some, Bool.and_eq_true, List.all_eq_true,
    Option.some.injEq, and_assoc]
  simp

/-- A number is read back from its text. -/
theorem decimal?_toDigits (n : Nat) : decimal? (Nat.toDigits 10 n) = some n := by
  refine decimal?_eq_some_iff.mpr ⟨Nat.toDigits_ne_nil, ?_, ?_⟩
  · intro c hc
    exact Nat.isDigit_of_mem_toDigits (by decide) (by decide) hc
  · rw [decimalValue_eq_ofDigitChars, Nat.ofDigitChars_ten_toDigits]

theorem repr_inj {m n : Nat} (h : Nat.repr m = Nat.repr n) : m = n := by
  have hm := decimal?_toDigits m
  rw [← Nat.toList_repr, h, Nat.toList_repr, decimal?_toDigits] at hm
  exact (Option.some.inj hm).symm

/-- Numbers are read back from their texts with commas between them, and
nothing is read if there are none. -/
theorem filterMap_decimal?_splitOn (ns : List Nat) :
    (splitOn ',' (",".intercalate (ns.map Nat.repr)).toList).filterMap decimal? = ns := by
  rw [String.toList_intercalate, List.map_map, splitOn_eq]
  rcases eq_or_ne ns [] with rfl | hne
  · rfl
  · have hcomma : ∀ piece ∈ ns.map (String.toList ∘ Nat.repr), ',' ∉ piece := by
      intro piece hpiece hmem
      obtain ⟨n, -, rfl⟩ := List.mem_map.mp hpiece
      rw [Function.comp_apply, Nat.toList_repr] at hmem
      exact absurd (Nat.isDigit_of_mem_toDigits (by decide) (by decide) hmem) (by decide)
    have hread : decimal? ∘ (String.toList ∘ Nat.repr) = some := by
      funext n
      rw [Function.comp_apply, Function.comp_apply, Nat.toList_repr, decimal?_toDigits]
    have hpieces : ns.map (String.toList ∘ Nat.repr) ≠ [] := mt List.map_eq_nil_iff.mp hne
    have hseparator : ",".toList = [','] := rfl
    rw [hseparator, List.splitOn_intercalate ',' hcomma hpieces, List.filterMap_map, hread,
      List.filterMap_some]

/-- A plus sign is no digit, so digits are read without a sign. -/
theorem signedDecimal?_of_digits {digits : List Char} (h : ∀ c ∈ digits, c.isDigit = true) :
    signedDecimal? digits = decimal? digits := by
  unfold signedDecimal?
  split
  · rename_i rest
    have hplus := h '+' (List.mem_cons_self ..)
    exact absurd hplus (by decide)
  · rfl

/-! ## Hexadecimal digits -/

/-- The hexadecimal digits of either case. -/
def hexDigits : List Char :=
  "0123456789abcdefABCDEF".toList

/-- A hexadecimal digit is in ASCII. -/
theorem toNat_le_of_hexValue? {c : Char} {n : Nat} (h : hexValue? c = some n) :
    c.toNat ≤ 0x7F := by
  have hle {d : Char} (hd : c ≤ d) (hascii : d.toNat ≤ 0x7F) : c.toNat ≤ 0x7F :=
    Nat.le_trans (UInt32.le_iff_toNat_le.mp hd) hascii
  unfold hexValue? at h
  split at h
  case isTrue hdecimal =>
    simp only [Char.isDigit, Bool.and_eq_true, decide_eq_true_eq] at hdecimal
    exact Nat.le_trans (UInt32.le_iff_toNat_le.mp hdecimal.2) (by decide)
  case isFalse =>
    split at h
    case isTrue hlower =>
      simp only [Bool.and_eq_true, decide_eq_true_eq] at hlower
      exact hle hlower.2 (by decide)
    case isFalse =>
      split at h
      case isTrue hupper =>
        simp only [Bool.and_eq_true, decide_eq_true_eq] at hupper
        exact hle hupper.2 (by decide)
      case isFalse => exact nomatch h

/-- What holds of all characters of ASCII can be checked one by one. -/
theorem forall_ascii {P : Char → Prop} (h : ∀ n : Fin 0x80, P (Char.ofNat n)) (c : Char)
    (hc : c.toNat ≤ 0x7F) : P c := by
  have hP := h ⟨c.toNat, Nat.lt_succ_of_le hc⟩
  rwa [Char.ofNat_toNat] at hP

theorem isHexDigit_iff_mem {c : Char} : isHexDigit c = true ↔ c ∈ hexDigits := by
  constructor
  · intro h
    have hall : ∀ c : Char, c.toNat ≤ 0x7F → isHexDigit c = true → c ∈ hexDigits :=
      forall_ascii (by decide +kernel)
    obtain ⟨n, hn⟩ := Option.isSome_iff_exists.mp h
    exact hall c (toNat_le_of_hexValue? hn) h
  · intro h
    have hall : hexDigits.all isHexDigit = true := by decide +kernel
    exact List.all_eq_true.mp hall c h

/-- Only capital letters of ASCII have another lower case form, so a character
beyond ASCII keeps out of it. -/
theorem toNat_le_of_toLower {c : Char} (h : c.toLower.toNat ≤ 0x7F) : c.toNat ≤ 0x7F := by
  by_cases hupper : c.val ≥ 'A'.val ∧ c.val ≤ 'Z'.val
  · exact Nat.le_trans (UInt32.le_iff_toNat_le.mp hupper.2) (by decide)
  · have hlower : c.toLower = c := dif_neg hupper
    rwa [hlower] at h

/-- The value of a digit is that of its lower case form. -/
theorem hexValue?_eq_some_iff {c : Char} {n : Nat} :
    hexValue? c = some n ↔ n < 16 ∧ c.toLower = Hex.digit n := by
  constructor
  · intro h
    have hall : ∀ c : Char, c.toNat ≤ 0x7F → ∀ n ∈ hexValue? c,
        n < 16 ∧ c.toLower = Hex.digit n :=
      forall_ascii (by decide +kernel)
    exact hall c (toNat_le_of_hexValue? h) n h
  · rintro ⟨hn, hlower⟩
    have hdigit : ∀ n : Fin 16, (Hex.digit n).toNat ≤ 0x7F := by decide
    have hall : ∀ c : Char, c.toNat ≤ 0x7F → ∀ n : Fin 16, c.toLower = Hex.digit n →
        hexValue? c = some n.val :=
      forall_ascii (by decide +kernel)
    have hascii : c.toNat ≤ 0x7F := toNat_le_of_toLower (hlower ▸ hdigit ⟨n, hn⟩)
    exact hall c hascii ⟨n, hn⟩ hlower

/-- Characters have the values of digits if the digits are their lower case
forms. -/
theorem map_hexValue?_iff {cs : List Char} {ns : List Nat} (hns : ∀ n ∈ ns, n < 16) :
    cs.map hexValue? = ns.map some ↔ cs.map Char.toLower = ns.map Hex.digit := by
  induction cs generalizing ns with
  | nil => cases ns <;> simp
  | cons c cs ih =>
    cases ns with
    | nil => simp
    | cons n ns =>
      have hn : n < 16 := hns n (List.mem_cons_self ..)
      simp only [List.map_cons, List.cons.injEq, hexValue?_eq_some_iff, hn, true_and]
      rw [ih fun m hm => hns m (List.mem_cons_of_mem _ hm)]

end ClauseTx.Text
