import ClauseTx.Proofs.Clamped
import ClauseTx.Transaction.Gas
import Mathlib.Algebra.Order.BigOperators.Group.List
import Mathlib.Algebra.Order.Ring.Nat

/-!
# Intrinsic gas is an exact sum

Sums of gas stop at the largest number of 64 bits, once for the data of each
clause and twice more when the clause is added to the total.  This module
compares them with a sum that has no bound.

* Costs (`Gas.dataCost`, `Gas.clauseCost`, `Gas.total`).  What is counted, as
  natural numbers.
* One clause (`Gas.toNat_charge`).  However often its parts are clamped, a
  clause adds its cost, clamped once.
* All clauses (`Gas.toNat_intrinsic`).  By induction over the clauses the gas is
  the total, clamped once.  What holds of the total holds of the gas: it does
  not depend on the order, and clauses and bytes only add to it.
-/

namespace ClauseTx.Gas

/-! ## Costs -/

/-- What data costs, without a bound. -/
def dataCost (data : Bytes) : Nat :=
  4 * data.count 0 + 68 * data.countP (· ≠ 0)

/-- What a clause costs, without a bound. -/
def clauseCost (c : Clause) : Nat :=
  (if c.recipient = none then 48000 else 16000) + dataCost c.data

/-- What a transaction costs, without a bound. -/
def total (clauses : List Clause) : Nat :=
  if clauses = [] then 21000 else 5000 + (clauses.map clauseCost).sum

theorem total_of_ne_nil {clauses : List Clause} (h : clauses ≠ []) :
    total clauses = 5000 + (clauses.map clauseCost).sum :=
  if_neg h

theorem le_clauseCost (c : Clause) : 16000 ≤ clauseCost c := by
  rw [clauseCost]
  split <;> omega

/-- Having no clauses is the least that a transaction can cost. -/
theorem total_nil_le (clauses : List Clause) : total [] ≤ total clauses := by
  cases clauses with
  | nil => exact Nat.le_refl _
  | cons c clauses =>
    have hnil : total [] = 21000 := rfl
    have hcost := le_clauseCost c
    rw [hnil, total_of_ne_nil (List.cons_ne_nil c clauses), List.map_cons, List.sum_cons]
    omega

theorem total_eq_of_perm {clauses clauses' : List Clause} (h : clauses.Perm clauses') :
    total clauses = total clauses' := by
  have hnil : clauses = [] ↔ clauses' = [] := by
    rw [← List.length_eq_zero_iff, h.length_eq, List.length_eq_zero_iff]
  rw [total, total, (h.map clauseCost).sum_nat]
  exact if_congr hnil rfl rfl

theorem total_le_of_sublist {clauses clauses' : List Clause} (h : clauses.Sublist clauses') :
    total clauses ≤ total clauses' := by
  -- Only without clauses the total is not a sum, and it is the smallest one then.
  by_cases hnil : clauses = []
  · subst hnil
    exact total_nil_le clauses'
  · have hnil' : clauses' ≠ [] := fun h' => hnil (List.sublist_nil.mp (h' ▸ h))
    have hsum : (clauses.map clauseCost).sum ≤ (clauses'.map clauseCost).sum :=
      (h.map clauseCost).sum_le_sum fun _ _ => Nat.zero_le _
    rw [total_of_ne_nil hnil, total_of_ne_nil hnil']
    omega

theorem dataCost_le_of_sublist {data data' : Bytes} (h : data.Sublist data') :
    dataCost data ≤ dataCost data' := by
  have hzeros : data.count 0 ≤ data'.count 0 := h.count_le 0
  have hothers : data.countP (· ≠ 0) ≤ data'.countP (· ≠ 0) := h.countP_le
  rw [dataCost, dataCost]
  omega

/-- A clause whose data has more bytes costs no less, wherever it stands. -/
theorem total_le_of_data (before after : List Clause) (c : Clause) {data : Bytes}
    (h : c.data.Sublist data) :
    total (before ++ c :: after) ≤ total (before ++ { c with data } :: after) := by
  have hcost : clauseCost c ≤ clauseCost { c with data } :=
    Nat.add_le_add_left (dataCost_le_of_sublist h) _
  rw [total_of_ne_nil (by simp), total_of_ne_nil (by simp)]
  simp only [List.map_append, List.map_cons, List.sum_append, List.sum_cons]
  omega

/-! ## One clause -/

theorem toNat_satAdd (a b : UInt64) :
    (satAdd a b).toNat = min (a.toNat + b.toNat) (UInt64.size - 1) := by
  have hlt : min (a.toNat + b.toNat) (UInt64.size - 1) < UInt64.size :=
    Nat.lt_of_le_of_lt (Nat.min_le_right ..) (by decide)
  exact UInt64.toNat_ofNat_of_lt' hlt

/-- The bytes of data one by one. -/
theorem sum_ofByte (data : Bytes) :
    (data.map fun b => (ofByte b).toNat).sum = dataCost data := by
  induction data with
  | nil => rfl
  | cons b data ih =>
    rw [List.map_cons, List.sum_cons, ih, dataCost, dataCost, ofByte]
    by_cases hb : b = 0
    · have hcost : zeroByte.toNat = 4 := rfl
      rw [if_pos hb, hcost, hb, List.count_cons_self, List.countP_cons_of_neg (by decide)]
      omega
    · have hcost : otherByte.toNat = 68 := rfl
      have hothers : (b :: data).countP (· ≠ 0) = data.countP (· ≠ 0) + 1 :=
        List.countP_cons_of_pos (decide_eq_true hb)
      rw [if_neg hb, hcost, List.count_cons_of_ne hb, hothers]
      omega

theorem toNat_ofData (data : Bytes) :
    (ofData data).toNat = min (dataCost data) (UInt64.size - 1) := by
  have hstart : (0 : UInt64).toNat ≤ UInt64.size - 1 := by decide
  rw [ofData, read_foldl_of_step (fun spent b => toNat_satAdd spent (ofByte b)) data hstart,
    sum_ofByte, UInt64.toNat_zero, Nat.zero_add]

theorem toNat_ofKind (c : Clause) :
    (ofKind c).toNat = if c.recipient = none then 48000 else 16000 := by
  rw [ofKind, Clause.isCreation]
  cases c.recipient <;> rfl

/-- A clause adds its cost to the gas of those before it, however its parts are
clamped. -/
theorem toNat_charge (spent : UInt64) (c : Clause) :
    (satAdd (satAdd spent (ofKind c)) (ofData c.data)).toNat =
      min (spent.toNat + clauseCost c) (UInt64.size - 1) := by
  rw [toNat_satAdd, toNat_satAdd, toNat_ofKind, toNat_ofData, clauseCost]
  omega

/-! ## All clauses -/

/-- The gas of a transaction is its total, clamped once. -/
theorem toNat_intrinsic (clauses : List Clause) :
    (intrinsic clauses).toNat = min (total clauses) (UInt64.size - 1) := by
  cases clauses with
  | nil => rfl
  | cons c clauses =>
    rw [total_of_ne_nil (List.cons_ne_nil c clauses)]
    exact read_foldl_of_step toNat_charge (c :: clauses) (by decide)

/-- A larger total never costs less gas. -/
theorem intrinsic_le_of_total {clauses clauses' : List Clause}
    (h : total clauses ≤ total clauses') : intrinsic clauses ≤ intrinsic clauses' := by
  rw [UInt64.le_iff_toNat_le, toNat_intrinsic, toNat_intrinsic]
  omega

/-- The gas of a transaction is the exact sum of all costs, clamped once.  It
does not depend on the order of the clauses, and neither clauses nor bytes that
are added lower it. -/
theorem intrinsic_eq_clamped_total :
    (intrinsic []).toNat = 21000 ∧
    (∀ clauses : List Clause, clauses ≠ [] → (intrinsic clauses).toNat =
      min (UInt64.size - 1) (5000 + (clauses.map clauseCost).sum)) ∧
    (∀ clauses clauses' : List Clause, clauses.Perm clauses' →
      intrinsic clauses = intrinsic clauses') ∧
    (∀ clauses clauses' : List Clause, clauses.Sublist clauses' →
      intrinsic clauses ≤ intrinsic clauses') ∧
    ∀ (before after : List Clause) (c : Clause) (data : Bytes), c.data.Sublist data →
      intrinsic (before ++ c :: after) ≤ intrinsic (before ++ { c with data } :: after) := by
  refine ⟨rfl, ?_, ?_, ?_, ?_⟩
  · intro clauses h
    rw [toNat_intrinsic, total_of_ne_nil h, Nat.min_comm]
  · intro clauses clauses' h
    apply UInt64.toNat_inj.mp
    rw [toNat_intrinsic, toNat_intrinsic, total_eq_of_perm h]
  · intro clauses clauses' h
    exact intrinsic_le_of_total (total_le_of_sublist h)
  · intro before after c data h
    exact intrinsic_le_of_total (total_le_of_data before after c h)

/-- A call whose data has zero bytes and others. -/
def mixedCall : Clause :=
  .call default [0, 0, 1, 2] 0

/-- A creation of a contract with one byte of code. -/
def shortCreation : Clause :=
  .deploy [0x60]

theorem intrinsic_eq_clamped_total_two :
    ([mixedCall, shortCreation] ≠ [] ∧
      (intrinsic [mixedCall, shortCreation]).toNat = min (UInt64.size - 1)
        (5000 + ((16000 + 4 * 2 + 68 * 2) + (48000 + 68)))) ∧
    ([mixedCall, shortCreation].Perm [shortCreation, mixedCall] ∧
      intrinsic [mixedCall, shortCreation] = intrinsic [shortCreation, mixedCall]) ∧
    ([shortCreation].Sublist [mixedCall, shortCreation] ∧
      intrinsic [shortCreation] ≤ intrinsic [mixedCall, shortCreation]) ∧
    mixedCall.data.Sublist [0, 0, 1, 0, 2] ∧
      intrinsic ([] ++ mixedCall :: [shortCreation]) ≤
        intrinsic ([] ++ { mixedCall with data := [0, 0, 1, 0, 2] } :: [shortCreation]) := by
  have hne : [mixedCall, shortCreation] ≠ [] := by decide
  have hperm : [mixedCall, shortCreation].Perm [shortCreation, mixedCall] := .swap ..
  have hsub : [shortCreation].Sublist [mixedCall, shortCreation] := List.sublist_cons_self ..
  have hdata : mixedCall.data.Sublist [0, 0, 1, 0, 2] := by decide
  obtain ⟨-, hsum, horder, hclauses, hbytes⟩ := intrinsic_eq_clamped_total
  exact ⟨⟨hne, hsum _ hne⟩, ⟨hperm, horder _ _ hperm⟩, ⟨hsub, hclauses _ _ hsub⟩, hdata,
    hbytes [] [shortCreation] mixedCall _ hdata⟩

end ClauseTx.Gas
