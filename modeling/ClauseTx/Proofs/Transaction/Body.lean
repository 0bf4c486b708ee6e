import ClauseTx.Proofs.Outcome
import ClauseTx.Transaction.Body

/-!
# Checked bodies

`Body.check` refuses what breaks a rule of `Body.Valid`, apart from the rule
for the reserved section, which it does not look at (`Body.check_eq_ok_iff`,
`Body.valid_iff`).  Remarks of clauses do not matter for validity.
-/

namespace ClauseTx

/-! ## Reserved sections -/

/-- Whether a section is trimmed does not depend on its features. -/
@[simp]
theorem Reserved.isTrimmed_setDelegated (r : Reserved) (on : Bool) :
    (r.setDelegated on).isTrimmed = r.isTrimmed := rfl

/-! ## What is checked -/

theorem Fee.checked_eq_ok_iff {fee fee' : Fee} :
    fee.checked = .ok fee' ↔ fee' = fee ∧ fee.Valid := by
  cases fee with
  | legacy coef => simp [checked, Valid, eq_comm]
  | dynamic maxFee maxPriority =>
    rw [checked, ofDynamic, Valid]
    by_cases h : maxPriority ≤ maxFee
    · simp [h, eq_comm]
    · simp [h]

namespace Body

/-- A check keeps the body that it accepts. -/
theorem check_eq_ok_iff {b b' : Body} :
    b.check = .ok b' ↔ b' = b ∧ b.clauses ≠ [] ∧ b.gas ≠ 0 ∧ b.fee.Valid := by
  rw [check]
  by_cases hclauses : b.clauses = []
  · simp [hclauses]
  rw [if_neg (mt List.isEmpty_iff.mp hclauses)]
  by_cases hgas : b.gas = 0
  · simp [hgas]
  rw [if_neg hgas]
  cases hfee : b.fee.checked with
  | error e =>
    have hvalid : ¬ b.fee.Valid := by
      intro h
      rw [Fee.checked_eq_ok_iff.mpr ⟨rfl, h⟩] at hfee
      cases hfee
    simp [hvalid]
  | ok fee =>
    obtain ⟨-, hvalid⟩ := Fee.checked_eq_ok_iff.mp hfee
    simp [hclauses, hgas, hvalid, eq_comm]

/-- What the check leaves open is that the reserved section is trimmed. -/
theorem valid_iff {b : Body} :
    b.Valid ↔
      (b.clauses ≠ [] ∧ b.gas ≠ 0 ∧ b.fee.Valid) ∧ b.reserved.isTrimmed = true := by
  constructor
  · intro h
    exact ⟨⟨h.clauses_ne_nil, h.gas_ne_zero, h.fee_valid⟩, h.reserved_isTrimmed⟩
  · intro h
    obtain ⟨⟨hclauses, hgas, hfee⟩, htrimmed⟩ := h
    exact ⟨hclauses, hgas, hfee, htrimmed⟩

/-- Remarks do not matter for validity. -/
@[simp]
theorem plain_valid_iff {b : Body} : b.plain.Valid ↔ b.Valid := by
  rw [valid_iff, valid_iff]
  simp [plain]

end Body

end ClauseTx
