import ClauseTx.Fee.Quantity
import ClauseTx.Proofs.Text.Numeral

/-!
# The texts of quantities

A quantity is a hexadecimal numeral of 64 digits at most behind the mark `0x`,
or a decimal numeral (`Spells`).  All of these are read as their numbers, with
letters of either case and any number of zeros in front.

The reader of hexadecimal digits skips a mark of its own.  So a second mark
behind the first is accepted, and then the digits may be missing (`Remarked`).
Nothing else is read (`reads_numerals`).
-/

namespace ClauseTx.Quantity

open Text (IsNumeral stripHexMark)

/-! ## The grammar -/

/-- The texts of an amount: a hexadecimal numeral of 1 to 64 digits behind a
mark, or a decimal numeral. -/
inductive Spells : List Char → UInt256 → Prop
  | hexadecimal {digits : List Char} {v : UInt256} (hlen : digits.length ≤ 64)
      (hnumeral : IsNumeral 16 digits v.toNat) : Spells ('0' :: 'x' :: digits) v
  | decimal {digits : List Char} {v : UInt256} (hnumeral : IsNumeral 10 digits v.toNat) :
      Spells digits v

/-- The texts with a second mark.  Behind it the digits may be missing, which
counts as zero. -/
inductive Remarked : List Char → UInt256 → Prop
  | intro {digits : List Char} {v : UInt256} (hlen : digits.length ≤ 64)
      (hnumeral : IsNumeral 16 digits v.toNat ∨ digits = [] ∧ v = 0) :
      Remarked ('0' :: 'x' :: '0' :: 'x' :: digits) v

theorem spells_marked_iff {digits : List Char} {v : UInt256} :
    Spells ('0' :: 'x' :: digits) v ↔ digits.length ≤ 64 ∧ IsNumeral 16 digits v.toNat := by
  constructor
  · intro h
    cases h with
    | hexadecimal hlen hnumeral => exact ⟨hlen, hnumeral⟩
    | decimal hnumeral => exact absurd hnumeral (Text.not_isNumeral_marked (by decide) (by decide))
  · intro h
    obtain ⟨hlen, hnumeral⟩ := h
    exact .hexadecimal hlen hnumeral

/-- A text is that of some amount exactly if it has the form of one: 64 digits
cannot go beyond the range, and decimal digits must not. -/
theorem exists_spells_iff {text : List Char} :
    (∃ v, Spells text v) ↔
      (∃ digits, text = '0' :: 'x' :: digits ∧ (1 ≤ digits.length ∧ digits.length ≤ 64) ∧
          ∀ c ∈ digits, c ∈ Text.hexDigits) ∨
        (text ≠ [] ∧ (∀ c ∈ text, c.isDigit = true) ∧
          Text.decimalValue text < UInt256.size) := by
  simp only [← Text.isHexDigit_iff_mem]
  constructor
  · intro h
    obtain ⟨v, h⟩ := h
    cases h with
    | @hexadecimal digits _ hlen hnumeral =>
      obtain ⟨hne, hdigits, -⟩ := Text.isNumeral_sixteen_iff.mp hnumeral
      exact .inl ⟨digits, rfl, ⟨List.length_pos_iff.mpr hne, hlen⟩, hdigits⟩
    | decimal hnumeral =>
      obtain ⟨hne, hdigits, hvalue⟩ := Text.isNumeral_ten_iff.mp hnumeral
      exact .inr ⟨hne, hdigits, hvalue ▸ v.toNat_lt⟩
  · intro h
    obtain ⟨digits, rfl, ⟨hpos, hlen⟩, hdigits⟩ | ⟨hne, hdigits, hlt⟩ := h
    · have hnumeral : IsNumeral 16 digits (Text.hexadecimalValue digits) :=
        Text.isNumeral_sixteen_iff.mpr ⟨List.length_pos_iff.mp hpos, hdigits, rfl⟩
      have hlt : Text.hexadecimalValue digits < UInt256.size :=
        calc Text.hexadecimalValue digits < 16 ^ digits.length :=
              hnumeral.lt_pow (by decide) (by decide)
          _ ≤ 16 ^ 64 := Nat.pow_le_pow_right (by decide) hlen
      exact ⟨⟨_, hlt⟩, .hexadecimal hlen hnumeral⟩
    · exact ⟨⟨_, hlt⟩, .decimal (Text.isNumeral_ten_iff.mpr ⟨hne, hdigits, rfl⟩)⟩

/-! ## The readers -/

theorem decimal?_eq_some_iff {digits : List Char} {v : UInt256} :
    decimal? digits = some v ↔ IsNumeral 10 digits v.toNat := by
  rw [decimal?, Option.bind_eq_some_iff]
  simp only [UInt256.ofNat?_eq_some_iff, Text.decimal?_eq_some_iff_isNumeral]
  constructor
  · intro h
    obtain ⟨n, hnumeral, rfl⟩ := h
    exact hnumeral
  · intro hnumeral
    exact ⟨_, hnumeral, rfl⟩

/-- The digits behind an optional mark are read.  No digits count as zero. -/
theorem hexadecimal?_eq_some_iff {text : List Char} {v : UInt256} :
    hexadecimal? text = some v ↔ (stripHexMark text).length ≤ 64 ∧
      (IsNumeral 16 (stripHexMark text) v.toNat ∨ stripHexMark text = [] ∧ v = 0) := by
  rw [hexadecimal?]
  generalize stripHexMark text = digits
  rw [Option.ite_none_right_eq_some, UInt256.ofNat?_eq_some_iff, Bool.and_eq_true,
    decide_eq_true_eq, List.all_eq_true, and_assoc, Text.isNumeral_sixteen_iff]
  refine and_congr_right fun _ => ?_
  rcases eq_or_ne digits [] with rfl | hne
  · rw [UInt256.eq_zero_iff]
    constructor
    · intro h
      obtain ⟨-, hzero⟩ := h
      exact .inr ⟨rfl, hzero⟩
    · intro h
      obtain ⟨hne, -⟩ | ⟨-, hzero⟩ := h
      · exact absurd rfl hne
      · exact ⟨List.forall_mem_nil _, hzero⟩
  · rw [or_iff_left fun h => hne h.1, and_iff_right hne, eq_comm (a := v.toNat)]

/-- A second mark stands in front of the digits, or none does. -/
theorem stripHexMark_cases (text : List Char) :
    (∃ digits, text = '0' :: 'x' :: digits ∧ stripHexMark text = digits) ∨
      (∀ digits, text ≠ '0' :: 'x' :: digits) ∧ stripHexMark text = text := by
  unfold stripHexMark
  split
  case h_1 digits => exact .inl ⟨digits, rfl, rfl⟩
  case h_2 hunmarked => exact .inr ⟨fun digits h => hunmarked digits h, rfl⟩

/-- Behind a mark there are digits, or a second mark with digits. -/
theorem hexadecimal?_eq_some_iff_marked {text : List Char} {v : UInt256} (hne : text ≠ []) :
    hexadecimal? text = some v ↔
      Spells ('0' :: 'x' :: text) v ∨ Remarked ('0' :: 'x' :: text) v := by
  rw [spells_marked_iff, hexadecimal?_eq_some_iff]
  rcases stripHexMark_cases text with ⟨digits, rfl, hdigits⟩ | ⟨hunmarked, hdigits⟩
  · rw [hdigits]
    constructor
    · intro h
      exact .inr ⟨h.1, h.2⟩
    · intro h
      obtain ⟨-, hnumeral⟩ | ⟨hlen, hnumeral⟩ := h
      · exact absurd hnumeral (Text.not_isNumeral_marked (by decide) (by decide))
      · exact ⟨hlen, hnumeral⟩
  · rw [hdigits]
    constructor
    · intro h
      obtain ⟨hlen, hnumeral | ⟨hempty, -⟩⟩ := h
      · exact .inl ⟨hlen, hnumeral⟩
      · exact absurd hempty hne
    · intro h
      obtain ⟨hlen, hnumeral⟩ | h := h
      · exact ⟨hlen, .inl hnumeral⟩
      · cases h
        exact absurd rfl (hunmarked _)

/-- A text without a mark is read as a decimal numeral only. -/
theorem decimal?_eq_some_iff_unmarked {text : List Char} {v : UInt256}
    (hunmarked : ∀ digits, text ≠ '0' :: 'x' :: digits) :
    decimal? text = some v ↔ Spells text v ∨ Remarked text v := by
  rw [decimal?_eq_some_iff]
  constructor
  · intro hnumeral
    exact .inl (.decimal hnumeral)
  · intro h
    obtain h | h := h
    · cases h with
      | hexadecimal => exact absurd rfl (hunmarked _)
      | decimal hnumeral => exact hnumeral
    · cases h
      exact absurd rfl (hunmarked _)

theorem parse?_eq_some_iff {text : List Char} {v : UInt256} :
    parse? text = some v ↔ Spells text v ∨ Remarked text v := by
  unfold parse?
  split
  case h_1 =>
    -- A mark alone has no digits behind it, not even after a second mark.
    refine iff_of_false nofun ?_
    intro h
    obtain h | h := h
    · have hnumeral := (spells_marked_iff.mp h).2
      exact (Text.isNumeral_sixteen_iff.mp hnumeral).1 rfl
    · cases h
  case h_2 text hne => exact hexadecimal?_eq_some_iff_marked hne
  case h_3 hunmarked => exact decimal?_eq_some_iff_unmarked hunmarked

/-! ## What is read -/

theorem parse_eq_ok_iff {field text : String} {v : UInt256} :
    parse field text = .ok v ↔ Spells text.toList v ∨ Remarked text.toList v := by
  rw [← parse?_eq_some_iff, parse]
  split <;> simp_all

theorem parse_eq_error_iff {field text : String} {e : Error} :
    parse field text = .error e ↔
      e = .invalidDataType (.notQuantity field text) ∧ ∀ v, parse field text ≠ .ok v := by
  rw [parse]
  split
  · simp
  · simp [eq_comm]

/-- No amount is written with a second mark. -/
theorem Remarked.not_spells {text : List Char} {v w : UInt256} (h : Remarked text v) :
    ¬ Spells text w := by
  cases h
  rw [spells_marked_iff]
  exact fun hspells => Text.not_isNumeral_marked (by decide) (by decide) hspells.2

/-- A text is read as an amount exactly if it spells the amount, or if it has a
second mark.  All other texts are refused, with the name of the field.  So the
reader keeps to the grammar exactly on texts that have no second mark.  An
amount is spelled by `0x` and 1 to 64 hexadecimal digits of either case, or by
decimal digits that stay in the range. -/
theorem reads_numerals (field text : String) :
    (∀ v, parse field text = .ok v ↔ Spells text.toList v ∨ Remarked text.toList v) ∧
    (∀ e, parse field text = .error e ↔ e = .invalidDataType (.notQuantity field text) ∧
      ∀ v, ¬ Spells text.toList v ∧ ¬ Remarked text.toList v) ∧
    ((∀ v, parse field text = .ok v ↔ Spells text.toList v) ↔
      ∀ v, ¬ Remarked text.toList v) ∧
    ((∃ v, Spells text.toList v) ↔
      (∃ digits, text.toList = '0' :: 'x' :: digits ∧
          (1 ≤ digits.length ∧ digits.length ≤ 64) ∧ ∀ c ∈ digits, c ∈ Text.hexDigits) ∨
        (text.toList ≠ [] ∧ (∀ c ∈ text.toList, c.isDigit = true) ∧
          Text.decimalValue text.toList < UInt256.size)) := by
  refine ⟨fun _ => parse_eq_ok_iff, ?_, ?_, exists_spells_iff⟩
  · intro e
    simp only [parse_eq_error_iff, Ne, parse_eq_ok_iff, not_or]
  · simp only [parse_eq_ok_iff]
    constructor
    · intro h v hremarked
      exact hremarked.not_spells ((h v).mp (.inr hremarked))
    · intro h v
      exact or_iff_left (h v)

/-- A second mark is skipped, though the texts spell nothing.  Without digits
behind it there is still an amount. -/
theorem parse_remarked_texts :
    (parse "baseFeePerGas" "0x0x" = .ok 0 ∧ ∀ v, ¬ Spells "0x0x".toList v) ∧
    (parse "baseFeePerGas" "0x0x10" = .ok 16 ∧ ∀ v, ¬ Spells "0x0x10".toList v) := by
  have hempty : Remarked "0x0x".toList 0 := @Remarked.intro [] 0 (by decide) (.inr ⟨rfl, rfl⟩)
  have hsixteen : Remarked "0x0x10".toList 16 :=
    @Remarked.intro ['1', '0'] 16 (by decide) (.inl ⟨0, by decide⟩)
  constructor
  · exact ⟨parse_eq_ok_iff.mpr (.inr hempty), fun _ => hempty.not_spells⟩
  · exact ⟨parse_eq_ok_iff.mpr (.inr hsixteen), fun _ => hsixteen.not_spells⟩

end ClauseTx.Quantity
