import ClauseTx.Proofs.Transaction.RoundTrip

/-!
# What the readers answer

`Body.decode` reads unsigned transactions and `SignedTransaction.decode` reads
signed ones.  What they answer to a byte string below `2 ^ 32` bytes follows
from the first line of this table that fits.

| the byte string                        | unsigned reader    | signed reader      |
|----------------------------------------|--------------------|--------------------|
| is the encoding of no layout           | malformed encoding | malformed encoding |
| encodes a body that breaks a rule      | illegal argument   | illegal argument   |
| has no signature                       | accepted           | unsigned           |
| has a signature of a wrong length      | malformed encoding | invalid signature  |
| has a signature of the length asked for| malformed encoding | accepted           |

A layout has any values in its fields, as long as they fit and the reserved
section is trimmed (`Layout.IsKept`).  `Body.Breaks` tells which rule a body
breaks first, and the field that the error names.  `readers_answer` is the
table.
-/

namespace ClauseTx

/-! ## Rules that are broken -/

/-- The first rule that a body breaks: the field that it is about, and why the
field is refused. -/
inductive Body.Breaks (b : Body) : String → ArgumentError → Prop where
  | noClauses (hclauses : b.clauses = []) : Breaks b "clauses" .noClauses
  | zeroGas (hclauses : b.clauses ≠ []) (hgas : b.gas = 0) : Breaks b "gas" .zeroGas
  | tipAboveCap {cap tip : UInt256} (hclauses : b.clauses ≠ []) (hgas : b.gas ≠ 0)
    (hfee : b.fee = .dynamic cap tip) (htip : cap < tip) :
    Breaks b "max_priority_fee_per_gas" (.tipAboveCap tip cap)

namespace Body

/-- The error names the field of the rule. -/
theorem Breaks.field_eq {b : Body} {field : String} {cause : ArgumentError}
    (h : b.Breaks field cause) : cause.field = field := by
  cases h <;> rfl

/-- The check refuses a body for the first rule that it breaks. -/
theorem check_of_breaks {b : Body} {field : String} {cause : ArgumentError}
    (h : b.Breaks field cause) : b.check = .error (.illegalArgument cause) := by
  cases h with
  | noClauses hclauses => simp [check, hclauses]
  | zeroGas hclauses hgas => simp [check, hclauses, hgas]
  | @tipAboveCap cap tip hclauses hgas hfee htip =>
    have hnot : ¬ tip ≤ cap := Nat.not_le.mpr htip
    have hchecked : b.fee.checked = .error (.illegalArgument (.tipAboveCap tip cap)) := by
      rw [hfee, Fee.checked, Fee.ofDynamic, if_neg hnot]
    rw [check, if_neg (mt List.isEmpty_iff.mp hclauses), if_neg hgas, hchecked]

/-- A body that breaks no rule passes the check. -/
theorem check_of_not_breaks {b : Body} (h : ∀ field cause, ¬ b.Breaks field cause) :
    b.check = .ok b := by
  have hclauses : b.clauses ≠ [] := fun hnil => h _ _ (.noClauses hnil)
  have hgas : b.gas ≠ 0 := fun hzero => h _ _ (.zeroGas hclauses hzero)
  have hfee : b.fee.Valid := by
    cases hkind : b.fee with
    | legacy coef => trivial
    | dynamic cap tip =>
      show tip ≤ cap
      by_contra hnot
      exact h _ _ (.tipAboveCap hclauses hgas hkind (Nat.lt_of_not_le hnot))
  exact check_eq_ok_iff.mpr ⟨rfl, hclauses, hgas, hfee⟩

/-- A valid body breaks no rule. -/
theorem Valid.not_breaks {b : Body} (h : b.Valid) (field : String) (cause : ArgumentError) :
    ¬ b.Breaks field cause := by
  intro hbreaks
  have hpasses : b.check = .ok b := check_eq_ok_iff.mpr ⟨rfl, (valid_iff.mp h).1⟩
  rw [check_of_breaks hbreaks] at hpasses
  cases hpasses

end Body

/-! ## Both readers at once -/

/-- Both readers refuse a byte string with the same error. -/
def BothRefuse (w : Bytes) (e : Error) : Prop :=
  Body.decode w = .error e ∧ SignedTransaction.decode w = .error e

/-- What both readers do first decides for both. -/
theorem bothRefuse_of_decodeValid {w : Bytes} {e : Error} (h : Layout.decodeValid w = .error e) :
    BothRefuse w e := by
  constructor
  · rw [Body.decode, h]
    rfl
  · rw [SignedTransaction.decode, h]
    rfl

/-- What is no layout is malformed for both. -/
theorem bothRefuse_of_decode {w : Bytes} {e : Rlp.Error} (h : Layout.decode w = .error e) :
    BothRefuse w (.malformedEncoding e) := by
  apply bothRefuse_of_decodeValid
  rw [Layout.decodeValid, h]
  rfl

/-- The layout of a byte string is checked as its body is. -/
theorem Layout.decodeValid_of_decode {w : Bytes} {l : Layout} (h : decode w = .ok l) :
    decodeValid w = l.body.check >>= fun body => pure { l with body } := by
  rw [decodeValid, h]
  rfl

/-- Without a signature the unsigned reader gets what it wants. -/
theorem answers_of_unsigned {w : Bytes} {l : Layout} (h : Layout.decodeValid w = .ok l)
    (hsignature : l.signature = none) :
    Body.decode w = .ok l.body ∧ SignedTransaction.decode w = .error .unsigned := by
  obtain ⟨body, signature⟩ := l
  subst hsignature
  constructor
  · rw [Body.decode, h]
    rfl
  · rw [SignedTransaction.decode, h]
    rfl

/-- With a signature it is for the signed reader, which looks at the length. -/
theorem answers_of_signed {w signature : Bytes} {l : Layout} (h : Layout.decodeValid w = .ok l)
    (hsignature : l.signature = some signature) :
    Body.decode w = .error (.malformedEncoding (.invalidField "signature" .unexpectedSignature)) ∧
      SignedTransaction.decode w = SignedTransaction.ofParts l.body signature := by
  obtain ⟨body, signature'⟩ := l
  subst hsignature
  constructor
  · rw [Body.decode, h]
    rfl
  · rw [SignedTransaction.decode, h]
    rfl

/-- Nothing is accepted by both readers. -/
theorem not_accepted_by_both (w : Bytes) :
    ¬ ((∃ b, Body.decode w = .ok b) ∧ ∃ t, SignedTransaction.decode w = .ok t) := by
  intro h
  obtain ⟨⟨b, hb⟩, ⟨t, ht⟩⟩ := h
  have hunsigned : Layout.decodeValid w = .ok ⟨b, none⟩ := Body.decode_eq_ok_iff_decodeValid.mp hb
  obtain ⟨hsigned, -⟩ := SignedTransaction.decode_eq_ok_iff_decodeValid.mp ht
  rw [hunsigned] at hsigned
  simp at hsigned

/-! ## The answers to a layout -/

/-- The answers to a byte string that encodes a layout. -/
structure Layout.Answers (l : Layout) (w : Bytes) : Prop where
  /-- A broken rule comes before anything about the signature. -/
  broken : ∀ field cause, l.body.Breaks field cause →
    cause.field = field ∧ BothRefuse w (.illegalArgument cause)
  /-- Without a signature the body is accepted. -/
  unsigned : (∀ field cause, ¬ l.body.Breaks field cause) → l.signature = none →
    Body.decode w = .ok l.body ∧ SignedTransaction.decode w = .error .unsigned
  /-- With a signature there is no unsigned body, and the length of the
  signature decides. -/
  signed : (∀ field cause, ¬ l.body.Breaks field cause) → ∀ signature,
    l.signature = some signature →
    (∃ e, Body.decode w = .error (.malformedEncoding e)) ∧
    (signature.length = (if l.body.isDelegated then 130 else 65) →
      SignedTransaction.decode w = .ok ⟨l.body, signature⟩) ∧
    (signature.length ≠ (if l.body.isDelegated then 130 else 65) →
      ∃ fault, SignedTransaction.decode w = .error (.invalidSignature fault))

theorem Layout.answers_of_decode {w : Bytes} {l : Layout} (h : decode w = .ok l) :
    l.Answers w := by
  have hchecked := decodeValid_of_decode h
  have haccepted (hrules : ∀ field cause, ¬ l.body.Breaks field cause) : decodeValid w = .ok l := by
    rw [hchecked, Body.check_of_not_breaks hrules]
    rfl
  refine ⟨?_, ?_, ?_⟩
  · intro field cause hbreaks
    refine ⟨hbreaks.field_eq, bothRefuse_of_decodeValid ?_⟩
    rw [hchecked, Body.check_of_breaks hbreaks]
    rfl
  · intro hrules hsignature
    exact answers_of_unsigned (haccepted hrules) hsignature
  · intro hrules signature hsignature
    obtain ⟨hmalformed, hparts⟩ := answers_of_signed (haccepted hrules) hsignature
    have hlength : l.body.signatureLength = if l.body.isDelegated then 130 else 65 := rfl
    rw [hmalformed, hparts, ← hlength]
    refine ⟨⟨_, rfl⟩, ?_, ?_⟩
    · intro hfits
      exact SignedTransaction.ofParts_eq_ok_iff.mpr ⟨rfl, hfits⟩
    · intro hwrong
      refine ⟨.transactionLength l.body.signatureLength signature.length, ?_⟩
      rw [SignedTransaction.ofParts, if_neg hwrong]

/-! ## All byte strings -/

/-- A byte string that encodes no layout is malformed for both readers, and the
answers to any other are those to its layout.  No byte string is accepted by
both. -/
theorem readers_answer {w : Bytes} (hlen : w.length < UInt32.size) :
    ((∀ l : Layout, l.IsKept → l.encode ≠ w) → ∃ e, BothRefuse w (.malformedEncoding e)) ∧
      (∀ l : Layout, l.IsKept → l.encode = w → l.Answers w) ∧
      ¬ ((∃ b, Body.decode w = .ok b) ∧ ∃ t, SignedTransaction.decode w = .ok t) := by
  refine ⟨?_, ?_, not_accepted_by_both w⟩
  · intro hnone
    cases hdecode : Layout.decode w with
    | error e => exact ⟨e, bothRefuse_of_decode hdecode⟩
    | ok l =>
      obtain ⟨hw, hkept⟩ := (Layout.decode_eq_ok_iff hlen).mp hdecode
      exact absurd hw (hnone l hkept)
  · intro l hkept hw
    have hdecode : Layout.decode w = .ok l := (Layout.decode_eq_ok_iff hlen).mpr ⟨hw, hkept⟩
    exact Layout.answers_of_decode hdecode

/-- A layout that breaks all rules at once, with a signature of one byte. -/
def brokenLayout : Layout where
  body := { sparseBody with clauses := [], gas := 0, fee := .dynamic 0 1 }
  signature := some [0]

theorem readers_answer_broken :
    (brokenLayout.IsKept ∧ brokenLayout.encode.length < UInt32.size ∧
      BothRefuse brokenLayout.encode (.illegalArgument .noClauses)) ∧
    (sparseTransaction.encode.length < UInt32.size ∧
      SignedTransaction.decode sparseTransaction.encode = .ok sparseTransaction) ∧
    ∃ e, BothRefuse [] (.malformedEncoding e) := by
  refine ⟨?_, ?_, ?_⟩
  · have hkept : brokenLayout.IsKept := ⟨rfl, rfl⟩
    have hlen : brokenLayout.encode.length < UInt32.size := by decide
    obtain ⟨-, hanswers, -⟩ := readers_answer hlen
    obtain ⟨-, hrefused⟩ := (hanswers brokenLayout hkept rfl).broken _ _ (.noClauses rfl)
    exact ⟨hkept, hlen, hrefused⟩
  · let l : Layout := ⟨sparseTransaction.body, some sparseTransaction.signature⟩
    have hkept : l.IsKept := ⟨rfl, rfl⟩
    have hvalid : l.body.Valid := sparseTransaction_reachable.valid.body_valid
    have hlength : sparseTransaction.signature.length =
        if sparseTransaction.body.isDelegated then 130 else 65 := by decide
    obtain ⟨-, hanswers, -⟩ := readers_answer length_encode_sparseTransaction
    obtain ⟨-, hfits, -⟩ := (hanswers l hkept rfl).signed hvalid.not_breaks _ rfl
    exact ⟨length_encode_sparseTransaction, hfits hlength⟩
  · obtain ⟨hmalformed, -, -⟩ := readers_answer (w := []) (by decide)
    apply hmalformed
    intro l hkept hnil
    have hdecode : Layout.decode [] = .ok l :=
      (Layout.decode_eq_ok_iff (by decide)).mpr ⟨hnil, hkept⟩
    have htruncated : Layout.decode [] = .error .truncated := rfl
    rw [htruncated] at hdecode
    cases hdecode

end ClauseTx
