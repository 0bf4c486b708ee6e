import ClauseTx.Proofs.Fee.Client
import ClauseTx.Proofs.Text.Numeral

/-!
# What is asked of the past

Options are checked before anything is sent, and what is sent tells them all.

* Blocks.  A text tells a block by a name, by a number of 32 bits or by an id of
  64 hexadecimal digits (`TellsBlock`).  The check takes these texts, and also
  numbers with a plus sign in front (`isRevision_iff`).
* Checking.  The check passes exactly what is `Valid`, and all that it says
  otherwise is a fault of the data (`validate_eq_ok_iff`,
  `exists_of_validate_eq_error`).
* Sending.  Numbers and lists of numbers are read off their texts, so different
  options are different queries (`query_inj`).  Options that are refused are not
  sent, and others take one request (`sends_valid_options`).
-/

namespace ClauseTx

open Http
open Text (IsNumeral)

namespace HistoryOptions

/-! ## Blocks -/

/-- The texts that tell a block: a name, a number of 32 bits or an id. -/
inductive TellsBlock (text : String) : Prop
  | name (hname : text ∈ ["best", "next", "finalized", "justified"])
  | number {n : Nat} (hnumeral : IsNumeral 10 text.toList n) (hlt : n < UInt32.size)
  | id {digits : List Char} (htext : text.toList = '0' :: 'x' :: digits)
      (hlen : digits.length = 64) (hdigits : ∀ c ∈ digits, c ∈ Text.hexDigits)

/-- The texts of numbers with a plus sign. -/
def HasPlusSign (text : String) : Prop :=
  ∃ digits n, text.toList = '+' :: digits ∧ IsNumeral 10 digits n ∧ n < UInt32.size

theorem isNumbered_iff {text : List Char} :
    isNumbered text = true ↔
      (∃ digits, text = '0' :: 'x' :: digits ∧ digits.length = 64 ∧
          ∀ c ∈ digits, c ∈ Text.hexDigits) ∨
        ∃ n, Text.signedDecimal? text = some n ∧ n < UInt32.size := by
  unfold isNumbered
  split
  case h_1 digits =>
    -- A text with the mark is an id or nothing, since no number starts like that.
    rw [or_iff_left fun h => ?_]
    · simp [Text.isHexDigit_iff_mem]
    · obtain ⟨n, hn, -⟩ := h
      rw [Text.signedDecimal?_eq_some_iff] at hn
      obtain hn | ⟨_, hsign, -⟩ := hn
      · exact Text.not_isNumeral_marked (by decide) (by decide) hn
      · injection hsign with hsign
        exact absurd hsign (by decide)
  case h_2 digits hunmarked =>
    rw [or_iff_right fun h => ?_]
    · split <;> simp [*]
    · obtain ⟨digits, rfl, -⟩ := h
      exact hunmarked digits rfl

/-- The check takes the texts that tell a block, and numbers with a plus
sign. -/
theorem isRevision_iff {text : String} :
    isRevision text = true ↔ TellsBlock text ∨ HasPlusSign text := by
  rw [isRevision, Bool.or_eq_true, List.contains_iff_mem, isNumbered_iff]
  simp only [Text.signedDecimal?_eq_some_iff]
  constructor
  · intro h
    obtain hname | ⟨digits, htext, hlen, hdigits⟩ |
      ⟨n, hnumeral | ⟨digits, htext, hnumeral⟩, hlt⟩ := h
    · exact .inl (.name hname)
    · exact .inl (.id htext hlen hdigits)
    · exact .inl (.number hnumeral hlt)
    · exact .inr ⟨digits, n, htext, hnumeral, hlt⟩
  · intro h
    obtain (hname | ⟨hnumeral, hlt⟩ | ⟨htext, hlen, hdigits⟩) |
      ⟨digits, n, htext, hnumeral, hlt⟩ := h
    · exact .inl hname
    · exact .inr (.inr ⟨_, .inl hnumeral, hlt⟩)
    · exact .inr (.inl ⟨_, htext, hlen, hdigits⟩)
    · exact .inr (.inr ⟨n, .inr ⟨digits, htext, hnumeral⟩, hlt⟩)

/-- No block is told with a plus sign. -/
theorem HasPlusSign.not_tellsBlock {text : String} (h : HasPlusSign text) :
    ¬ TellsBlock text := by
  obtain ⟨digits, -, htext, -⟩ := h
  intro htells
  cases htells with
  | name hname =>
    have hsign : ∀ name ∈ ["best", "next", "finalized", "justified"],
        name.toList.head? ≠ some '+' := by decide
    exact hsign text hname (by rw [htext, List.head?_cons])
  | number hnumeral =>
    rw [htext] at hnumeral
    exact Text.not_isNumeral_signed (by decide) (by decide) hnumeral
  | id hid =>
    rw [htext] at hid
    injection hid with hplus
    exact absurd hplus (by decide)

/-! ## Checking -/

/-- Options that pass the check: some blocks, a text for the last of them, and
percentiles up to 100. -/
structure Valid (options : HistoryOptions) : Prop where
  blockCount_ne_zero : options.blockCount ≠ 0
  isRevision_newestBlock : isRevision options.newestBlock = true
  percentile_le : ∀ ps, options.percentiles = some ps → ∀ p ∈ ps, p ≤ 100

theorem validate_eq_ok_iff {options : HistoryOptions} :
    options.validate = .ok () ↔ options.Valid := by
  unfold validate
  split
  case isTrue hzero => exact iff_of_false nofun fun h => h.blockCount_ne_zero hzero
  case isFalse hcount =>
    split
    case isTrue hrevision =>
      refine iff_of_false nofun fun h => ?_
      rw [h.isRevision_newestBlock] at hrevision
      exact nomatch hrevision
    case isFalse hrevision =>
      rw [Bool.not_eq_true', Bool.not_eq_false] at hrevision
      split
      case h_1 p hp =>
        refine iff_of_false nofun fun h => ?_
        have hgt : p > 100 := by simpa using List.find?_some hp
        cases hps : options.percentiles with
        | none =>
          rw [hps] at hp
          exact nomatch hp
        | some ps =>
          rw [hps] at hp
          exact UInt8.not_le.mpr hgt (h.percentile_le ps hps p (List.mem_of_find?_eq_some hp))
      case h_2 hnone =>
        refine iff_of_true rfl ⟨hcount, hrevision, ?_⟩
        intro ps hps p hp
        rw [hps, Option.getD_some, List.find?_eq_none] at hnone
        simpa using hnone p hp

/-- All that the check says is a fault of the data. -/
theorem exists_of_validate_eq_error {options : HistoryOptions} {e : Error}
    (h : options.validate = .error e) : ∃ fault, e = .invalidDataType fault := by
  unfold validate at h
  repeat' split at h
  all_goals cases h
  all_goals exact ⟨_, rfl⟩

/-- The check of a block keeps to the texts that tell one, except that it takes
numbers with a plus sign as well.  Options for some blocks, the last of which is
told by a text, pass exactly if the text passes. -/
theorem checks_blocks (text : String) :
    (isRevision text = true ↔ TellsBlock text ∨ HasPlusSign text) ∧
    ((isRevision text = true ↔ TellsBlock text) ↔ ¬ HasPlusSign text) ∧
    ∀ count, validate ⟨count, text, none⟩ = .ok () ↔ count ≠ 0 ∧ isRevision text = true := by
  refine ⟨isRevision_iff, ?_, ?_⟩
  · rw [isRevision_iff]
    constructor
    · intro h hsign
      exact hsign.not_tellsBlock (h.mp (.inr hsign))
    · exact or_iff_left
  · intro count
    rw [validate_eq_ok_iff]
    constructor
    · intro h
      exact ⟨h.blockCount_ne_zero, h.isRevision_newestBlock⟩
    · intro h
      exact ⟨h.1, h.2, nofun⟩

/-- A number with a plus sign passes, though it tells no block. -/
theorem isRevision_plus_five : isRevision "+5" = true ∧ ¬ TellsBlock "+5" := by
  have hsign : HasPlusSign "+5" := ⟨['5'], 5, rfl, ⟨0, rfl⟩, by decide⟩
  exact ⟨isRevision_iff.mpr (.inr hsign), hsign.not_tellsBlock⟩

/-! ## Sending -/

/-- Lists of percentiles have texts of their own. -/
theorem percentiles_inj {ps qs : List UInt8}
    (h : ",".intercalate (ps.map fun p => Nat.repr p.toNat) =
      ",".intercalate (qs.map fun q => Nat.repr q.toNat)) : ps = qs := by
  have hread (ps : List UInt8) :
      (Text.splitOn ',' (",".intercalate (ps.map fun p => Nat.repr p.toNat)).toList).filterMap
        Text.decimal? = ps.map UInt8.toNat := by
    rw [← Text.filterMap_decimal?_splitOn (ps.map UInt8.toNat), List.map_map]
    rfl
  have hnumbers : ps.map UInt8.toNat = qs.map UInt8.toNat := by rw [← hread ps, h, hread qs]
  exact List.map_injective_iff.mpr (fun p q => UInt8.toNat_inj.mp) hnumbers

/-- Different options are different queries. -/
theorem query_inj {options options' : HistoryOptions} (h : options.query = options'.query) :
    options = options' := by
  obtain ⟨count, newest, percentiles⟩ := options
  obtain ⟨count', newest', percentiles'⟩ := options'
  simp only [query, List.cons_append, List.nil_append, List.cons.injEq, Prod.mk.injEq,
    true_and] at h
  obtain ⟨hcount, rfl, hpercentiles⟩ := h
  obtain rfl : count = count' := UInt32.toNat_inj.mp (Text.repr_inj hcount)
  congr 1
  cases percentiles with
  | none =>
    cases percentiles' with
    | none => rfl
    | some => exact nomatch hpercentiles
  | some ps =>
    cases percentiles' with
    | none => exact nomatch hpercentiles
    | some ps' =>
      simp only [List.cons.injEq, Prod.mk.injEq, true_and, and_true] at hpercentiles
      rw [percentiles_inj hpercentiles]

end HistoryOptions

namespace FeeClient

/-- Options that are refused are not sent. -/
theorem run_history_of_error {c : FeeClient} {options : HistoryOptions} {e : Error}
    (h : options.validate = .error e) (server : Server) (log : List Request) :
    (c.history options).run server log = (.error e, log) := by
  unfold history
  rw [h]
  rfl

/-- Options are checked before anything is sent.  Those that are refused are a
fault of the data, and no request is made.  All others take one request for past
fees, whatever the server does with it, and the request tells which options they
were. -/
theorem sends_valid_options (c : FeeClient) (options : HistoryOptions) (server : Server)
    (log : List Request) :
    (options.validate = .ok () ↔ options.Valid) ∧
    (∀ e, options.validate = .error e → (∃ fault, e = .invalidDataType fault) ∧
      (c.history options).run server log = (.error e, log)) ∧
    (options.validate = .ok () →
      (c.history options).run server log =
        (c.reading historyPath pastFees (server log (.get historyPath options.query)),
          log ++ [.get historyPath options.query])) ∧
    ∀ options', options'.query = options.query → options' = options := by
  refine ⟨HistoryOptions.validate_eq_ok_iff, ?_, ?_, fun options' => HistoryOptions.query_inj⟩
  · intro e h
    exact ⟨HistoryOptions.exists_of_validate_eq_error h, run_history_of_error h server log⟩
  · intro h
    exact c.run_history h server log

/-- A percentile beyond 100 keeps a request from being made.  No percentiles are
sent as an empty list of them, which is not the query without a list. -/
theorem sends_valid_options_three :
    (history ⟨⟨1000⟩⟩ ⟨4, "best", some [25, 101]⟩).run (node noTips) [] =
      (.error (.invalidDataType (.percentile 101)), []) ∧
    (history ⟨⟨1000⟩⟩ ⟨4, "best", some []⟩).run (node noTips) [] =
      (.ok ⟨0, [], [], none⟩, [.get historyPath
        [("blockCount", "4"), ("newestBlock", "best"), ("rewardPercentiles", "")]]) ∧
    HistoryOptions.query ⟨4, "best", none⟩ ≠ HistoryOptions.query ⟨4, "best", some []⟩ := by
  refine ⟨?_, ?_, ?_⟩
  · have h := sends_valid_options ⟨⟨1000⟩⟩ ⟨4, "best", some [25, 101]⟩ (node noTips) []
    exact (h.2.1 _ rfl).2
  · obtain ⟨-, -, hsent, -⟩ :=
      sends_valid_options ⟨⟨1000⟩⟩ ⟨4, "best", some []⟩ (node noTips) []
    have hread : (reading ⟨⟨1000⟩⟩ historyPath pastFees (node noTips [] (.get historyPath
        (HistoryOptions.query ⟨4, "best", some []⟩)))) = .ok ⟨0, [], [], none⟩ :=
      reading_eq_ok_iff.mpr ⟨⟨200, noTips⟩, ⟨Nat.le_refl _, rfl⟩, success_200, parse_noTips⟩
    rw [hsent rfl, hread]
    rfl
  · intro h
    obtain ⟨-, -, -, hquery⟩ :=
      sends_valid_options ⟨⟨1000⟩⟩ ⟨4, "best", some []⟩ (node noTips) []
    exact nomatch hquery _ h

end FeeClient

end ClauseTx
