import ClauseTx.Proofs.Text.Split
import Mathlib.Data.Nat.Digits.Lemmas

/-!
# Numerals

A numeral of a number is the digits of the number, with any number of zeros in
front of them and with letters of either case (`IsNumeral`).  What the digits
of a number are is left to the standard library.

* The digits of a number.  They have values below the base that add up to the
  number (`exists_toDigits_eq_map`), and digits with such values are those of
  the number after some zeros (`exists_map_digitChar_eq`).
* Numerals of a base.  A text is a numeral exactly if it is not empty and its
  characters are digits of the base, and the number is what the digits add up
  to (`isNumeral_iff`).
* Decimal and hexadecimal numerals, and the functions that read them
  (`isNumeral_ten_iff`, `isNumeral_sixteen_iff`).
-/

namespace ClauseTx.Text

/-- A text is a numeral of a number: the digits of the number, of either case
and after any number of zeros. -/
def IsNumeral (base : Nat) (text : List Char) (n : Nat) : Prop :=
  ∃ zeros, text.map Char.toLower = List.replicate zeros '0' ++ Nat.toDigits base n

/-! ## The digits of a number -/

section Digits

variable {base : Nat}

theorem ofDigits_reverse_concat (ds : List Nat) (d : Nat) :
    Nat.ofDigits base (ds ++ [d]).reverse = base * Nat.ofDigits base ds.reverse + d := by
  rw [List.reverse_append, List.reverse_singleton, List.singleton_append, Nat.ofDigits_cons,
    Nat.add_comm]

theorem ofDigits_reverse_eq_foldl (ds : List Nat) :
    Nat.ofDigits base ds.reverse = ds.foldl (fun n d => n * base + d) 0 := by
  induction ds using List.reverseRecOn with
  | nil => rfl
  | append_singleton ds d ih =>
    rw [ofDigits_reverse_concat, ih, List.foldl_append, Nat.mul_comm]
    rfl

/-- The digits of a number have values below the base, which add up to the
number. -/
theorem exists_toDigits_eq_map (hbase : 1 < base) (n : Nat) :
    ∃ ds, Nat.toDigits base n = ds.map Nat.digitChar ∧ ds ≠ [] ∧ (∀ d ∈ ds, d < base) ∧
      Nat.ofDigits base ds.reverse = n := by
  induction n using Nat.strongRecOn with
  | ind n ih =>
    rw [Nat.toDigits_eq_if hbase]
    split
    case isTrue hlt =>
      exact ⟨[n], rfl, List.cons_ne_nil _ _, List.forall_mem_singleton.mpr hlt,
        Nat.ofDigits_singleton⟩
    case isFalse hle =>
      obtain ⟨ds, hdigits, -, hlt, hvalue⟩ := ih (n / base) (Nat.div_lt_self (by omega) hbase)
      refine ⟨ds ++ [n % base], ?_, by simp, ?_, ?_⟩
      · rw [hdigits, List.map_append, List.map_singleton]
      · rw [List.forall_mem_append, List.forall_mem_singleton]
        exact ⟨hlt, Nat.mod_lt n (by omega)⟩
      · rw [ofDigits_reverse_concat, hvalue, Nat.div_add_mod]

/-- Digits are those of the number that they add up to, after some zeros. -/
theorem exists_map_digitChar_eq (hbase : 1 < base) {ds : List Nat} (hne : ds ≠ [])
    (hlt : ∀ d ∈ ds, d < base) :
    ∃ zeros, ds.map Nat.digitChar =
      List.replicate zeros '0' ++ Nat.toDigits base (Nat.ofDigits base ds.reverse) := by
  induction ds using List.reverseRecOn with
  | nil => exact absurd rfl hne
  | append_singleton ds d ih =>
    rw [List.forall_mem_append, List.forall_mem_singleton] at hlt
    obtain ⟨hds, hd⟩ := hlt
    rw [ofDigits_reverse_concat, List.map_append, List.map_singleton]
    rcases eq_or_ne ds [] with rfl | hds'
    · exact ⟨0, by simp [Nat.toDigits_of_lt_base hd]⟩
    · obtain ⟨zeros, hzeros⟩ := ih hds' hds
      rw [hzeros]
      generalize Nat.ofDigits base ds.reverse = n
      rcases Nat.eq_zero_or_pos n with rfl | hpos
      · -- The zero that was the whole number is now one more zero in front.
        refine ⟨zeros + 1, ?_⟩
        rw [Nat.toDigits_zero, Nat.mul_zero, Nat.zero_add, Nat.toDigits_of_lt_base hd,
          List.replicate_succ']
      · refine ⟨zeros, ?_⟩
        rw [← Nat.toDigits_append_toDigits hbase hpos hd, Nat.toDigits_of_lt_base hd,
          List.append_assoc]

end Digits

/-! ## Numerals of a base -/

section Base

variable {base : Nat} {text : List Char} {n : Nat}

/-- A text is a numeral exactly if its characters are digits, and the number is
what these add up to. -/
theorem isNumeral_iff_exists (hbase : 1 < base) (hle : base ≤ 16) :
    IsNumeral base text n ↔ ∃ ds, text.map hexValue? = ds.map some ∧ ds ≠ [] ∧
      (∀ d ∈ ds, d < base) ∧ Nat.ofDigits base ds.reverse = n := by
  constructor
  · intro h
    obtain ⟨zeros, htext⟩ := h
    obtain ⟨ds, hdigits, hne, hlt, hvalue⟩ := exists_toDigits_eq_map hbase n
    have hall : ∀ d ∈ List.replicate zeros 0 ++ ds, d < base := by
      rw [List.forall_mem_append]
      exact ⟨fun d hd => (List.eq_of_mem_replicate hd) ▸ Nat.zero_lt_of_lt hbase, hlt⟩
    refine ⟨List.replicate zeros 0 ++ ds, ?_, List.append_ne_nil_of_right_ne_nil _ hne, hall, ?_⟩
    · rw [map_hexValue?_iff fun d hd => Nat.lt_of_lt_of_le (hall d hd) hle, htext, hdigits,
        List.map_append, List.map_replicate]
      rfl
    · rw [List.reverse_append, List.reverse_replicate, Nat.ofDigits_append_replicate_zero, hvalue]
  · intro h
    obtain ⟨ds, htext, hne, hlt, rfl⟩ := h
    obtain ⟨zeros, hzeros⟩ := exists_map_digitChar_eq hbase hne hlt
    refine ⟨zeros, ?_⟩
    rw [(map_hexValue?_iff fun d hd => Nat.lt_of_lt_of_le (hlt d hd) hle).mp htext, ← hzeros]
    rfl

theorem IsNumeral.isHexDigit (hbase : 1 < base) (hle : base ≤ 16) (h : IsNumeral base text n) :
    ∀ c ∈ text, isHexDigit c = true := by
  obtain ⟨ds, htext, -⟩ := (isNumeral_iff_exists hbase hle).mp h
  intro c hc
  have hvalue : hexValue? c ∈ ds.map some := htext ▸ List.mem_map_of_mem hc
  obtain ⟨d, -, hd⟩ := List.mem_map.mp hvalue
  exact Option.isSome_iff_exists.mpr ⟨d, hd.symm⟩

/-- The number of a numeral is bounded by the number of the digits. -/
theorem IsNumeral.lt_pow (hbase : 1 < base) (hle : base ≤ 16) (h : IsNumeral base text n) :
    n < base ^ text.length := by
  obtain ⟨ds, htext, -, hlt, rfl⟩ := (isNumeral_iff_exists hbase hle).mp h
  have hlen : text.length = ds.reverse.length := by
    rw [List.length_reverse, ← List.length_map hexValue?, htext, List.length_map]
  rw [hlen]
  exact Nat.ofDigits_lt_base_pow_length hbase fun d hd => hlt d (List.mem_reverse.mp hd)

variable {isDigit : Char → Bool} {value : Char → Nat}

/-- Characters have values below the base exactly if they are digits of the
base. -/
theorem map_hexValue?_lt_iff
    (hdigit : ∀ c d, hexValue? c = some d ∧ d < base ↔ isDigit c = true ∧ value c = d)
    {ds : List Nat} :
    text.map hexValue? = ds.map some ∧ (∀ d ∈ ds, d < base) ↔
      (∀ c ∈ text, isDigit c = true) ∧ text.map value = ds := by
  induction text generalizing ds with
  | nil => cases ds <;> simp
  | cons c cs ih =>
    cases ds with
    | nil => simp
    | cons d ds =>
      simp only [List.map_cons, List.cons.injEq, List.forall_mem_cons]
      rw [and_and_and_comm, hdigit, ih, and_and_and_comm]

/-- The characters of a numeral are the digits of its base, and the number is
read off their values. -/
theorem isNumeral_iff (hbase : 1 < base) (hle : base ≤ 16)
    (hdigit : ∀ c d, hexValue? c = some d ∧ d < base ↔ isDigit c = true ∧ value c = d) :
    IsNumeral base text n ↔ text ≠ [] ∧ (∀ c ∈ text, isDigit c = true) ∧
      text.foldl (fun n c => n * base + value c) 0 = n := by
  have hfold : text.foldl (fun n c => n * base + value c) 0 =
      Nat.ofDigits base (text.map value).reverse := by
    rw [ofDigits_reverse_eq_foldl, List.foldl_map]
  rw [isNumeral_iff_exists hbase hle, hfold]
  constructor
  · intro h
    obtain ⟨ds, htext, hne, hlt, rfl⟩ := h
    obtain ⟨hall, rfl⟩ := (map_hexValue?_lt_iff hdigit).mp ⟨htext, hlt⟩
    exact ⟨mt List.map_eq_nil_iff.mpr hne, hall, rfl⟩
  · intro h
    obtain ⟨hne, hall, rfl⟩ := h
    obtain ⟨htext, hlt⟩ := (map_hexValue?_lt_iff hdigit).mpr ⟨hall, rfl⟩
    exact ⟨text.map value, htext, mt List.map_eq_nil_iff.mp hne, hlt, rfl⟩

end Base

/-! ## Decimal and hexadecimal numerals -/

variable {text : List Char} {n : Nat}

/-- A decimal digit is a hexadecimal digit with a value below ten. -/
theorem hexValue?_lt_ten_iff (c : Char) (d : Nat) :
    hexValue? c = some d ∧ d < 10 ↔ c.isDigit = true ∧ digitValue c = d := by
  unfold hexValue?
  by_cases hc : c.isDigit = true
  · have hlt : digitValue c < 10 := by
      simp only [Char.isDigit, Bool.and_eq_true, decide_eq_true_eq] at hc
      have hle : c.toNat ≤ 57 := UInt32.le_iff_toNat_le.mp hc.2
      rw [digitValue]
      simp only [Char.reduceToNat]
      omega
    rw [if_pos hc, Option.some.injEq]
    constructor
    · intro h
      obtain ⟨rfl, -⟩ := h
      exact ⟨hc, rfl⟩
    · intro h
      obtain ⟨-, rfl⟩ := h
      exact ⟨rfl, hlt⟩
  · -- A letter has a value of ten or more.
    rw [if_neg hc]
    refine iff_of_false ?_ fun h => hc h.1
    intro h
    obtain ⟨hd, hlt⟩ := h
    split at hd
    · injection hd with hd
      omega
    · split at hd
      · injection hd with hd
        omega
      · cases hd

theorem isNumeral_ten_iff :
    IsNumeral 10 text n ↔ text ≠ [] ∧ (∀ c ∈ text, c.isDigit = true) ∧ decimalValue text = n :=
  isNumeral_iff (by decide) (by decide) hexValue?_lt_ten_iff

theorem isNumeral_sixteen_iff :
    IsNumeral 16 text n ↔
      text ≠ [] ∧ (∀ c ∈ text, isHexDigit c = true) ∧ hexadecimalValue text = n := by
  refine isNumeral_iff (by decide) (by decide) ?_
  intro c d
  constructor
  · intro h
    obtain ⟨hc, -⟩ := h
    exact ⟨Option.isSome_iff_exists.mpr ⟨d, hc⟩, by rw [hc, Option.getD_some]⟩
  · intro h
    obtain ⟨hc, rfl⟩ := h
    obtain ⟨d, hd⟩ := Option.isSome_iff_exists.mp hc
    rw [hd, Option.getD_some]
    exact ⟨rfl, (hexValue?_eq_some_iff.mp hd).1⟩

/-- Decimal numerals are read as their numbers. -/
theorem decimal?_eq_some_iff_isNumeral : decimal? text = some n ↔ IsNumeral 10 text n := by
  rw [decimal?_eq_some_iff, isNumeral_ten_iff]

/-- What is no hexadecimal digit is no part of a numeral. -/
theorem not_isNumeral_of_mem {base : Nat} (hbase : 1 < base) (hle : base ≤ 16) {c : Char}
    (hc : isHexDigit c = false) (hmem : c ∈ text) : ¬ IsNumeral base text n := by
  intro h
  rw [h.isHexDigit hbase hle c hmem] at hc
  exact nomatch hc

/-- The mark of hexadecimal digits is no part of a numeral. -/
theorem not_isNumeral_marked {base : Nat} (hbase : 1 < base) (hle : base ≤ 16) :
    ¬ IsNumeral base ('0' :: 'x' :: text) n :=
  not_isNumeral_of_mem hbase hle (by decide : isHexDigit 'x' = false) (by simp)

/-- A plus sign is no part of a numeral. -/
theorem not_isNumeral_signed {base : Nat} (hbase : 1 < base) (hle : base ≤ 16) :
    ¬ IsNumeral base ('+' :: text) n :=
  not_isNumeral_of_mem hbase hle (by decide : isHexDigit '+' = false) (by simp)

/-- A decimal numeral is read with a plus sign in front of it and without. -/
theorem signedDecimal?_eq_some_iff :
    signedDecimal? text = some n ↔
      IsNumeral 10 text n ∨ ∃ digits, text = '+' :: digits ∧ IsNumeral 10 digits n := by
  unfold signedDecimal?
  split
  case h_1 digits =>
    have hsigned : ¬ IsNumeral 10 ('+' :: digits) n :=
      not_isNumeral_signed (by decide) (by decide)
    simp [decimal?_eq_some_iff_isNumeral, hsigned]
  case h_2 hunsigned =>
    rw [decimal?_eq_some_iff_isNumeral, or_iff_left]
    intro h
    obtain ⟨digits, rfl, -⟩ := h
    exact hunsigned digits rfl

end ClauseTx.Text
