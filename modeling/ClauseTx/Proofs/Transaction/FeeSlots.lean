import ClauseTx.Proofs.Transaction.Answers
import ClauseTx.Proofs.Transaction.Validity

/-!
# The fee of a draft

A body has one fee, of one of two kinds.  A draft has three slots for it: a
coefficient, a cap and a tip.  Settings fill them one by one or all at once, so
that the slots could contradict each other, or keep what was meant to be
replaced.

* The slots agree (`Draft.OneFee`), at the start and after each setting.  This
  decides what `Draft.build` answers (`Draft.OneFee.buildAnswers`).
* The slots in use hold what was given last (`Draft.Recalls`).  The other slots
  are empty, so nothing that was given before comes back.
* The order of a cap and a tip does not matter (`Draft.EitherOrder`).
-/

namespace ClauseTx

/-! ## What settings give -/

namespace Setting

/-- The coefficient that a setting gives.  No draft takes a value that does not
fit, so it does not matter what is said of those. -/
def coef? : Setting → Option UInt8
  | .coef value => some (UInt8.ofNat value.toNat)
  | .fee (.legacy value) => some value
  | _ => none

/-- The cap that a setting gives. -/
def maxFee? : Setting → Option UInt256
  | .maxFee amount => some amount
  | .fee (.dynamic amount _) => some amount
  | _ => none

/-- The tip that a setting gives. -/
def maxPriority? : Setting → Option UInt256
  | .maxPriority amount => some amount
  | .fee (.dynamic _ amount) => some amount
  | _ => none

end Setting

/-- The value that was given last, or what there was at the start. -/
def lastGiven {α : Type} (given : Setting → Option α) (settings : List Setting)
    (start : Option α) : Option α :=
  (settings.filterMap given).getLast?.or start

theorem lastGiven_cons {α : Type} (given : Setting → Option α) (s : Setting)
    (settings : List Setting) (start : Option α) :
    lastGiven given (s :: settings) start = lastGiven given settings ((given s).or start) := by
  rw [lastGiven, lastGiven, List.filterMap_cons]
  cases given s with
  | none => rfl
  | some value =>
    rw [List.getLast?_cons]
    cases (settings.filterMap given).getLast? <;> rfl

namespace Draft

/-! ## The slots agree -/

/-- The slots of a draft say at most one fee, and a valid one as far as they
are filled. -/
structure OneFee (d : Draft) : Prop where
  one_kind : d.coef = none ∨ (d.maxFee = none ∧ d.maxPriority = none)
  tip_le_cap : TipWithinCap d.maxFee d.maxPriority

/-- The drafts from which others are made. -/
inductive IsStart : Draft → Prop where
  | empty : IsStart Draft.empty
  | ofBody {b : Body} (h : b.Reachable) : IsStart (Draft.ofBody b)

theorem oneFee_empty : empty.OneFee where
  one_kind := .inl rfl
  tip_le_cap := tipWithinCap_no_cap none

/-- A draft whose fee was set as a whole. -/
theorem oneFee_setFee (d : Draft) {fee : Fee} (h : fee.Valid) : (d.setFee fee).OneFee := by
  cases fee with
  | legacy coef => exact ⟨.inr ⟨rfl, rfl⟩, tipWithinCap_no_cap none⟩
  | dynamic maxFee maxPriority => exact ⟨.inl rfl, tipWithinCap_some.mpr h⟩

theorem IsStart.oneFee {d : Draft} (h : d.IsStart) : d.OneFee := by
  cases h with
  | empty => exact oneFee_empty
  | ofBody hbody => exact oneFee_setFee _ hbody.valid.fee_valid

/-- Each setting keeps the slots in agreement. -/
theorem OneFee.put {d : Draft} {s : Setting} (h : d.OneFee) (haccepts : d.Accepts s) :
    (d.put s).OneFee := by
  cases s with
  | coef value =>
    obtain ⟨-, hmaxFee, hmaxPriority⟩ := haccepts
    exact ⟨.inr ⟨hmaxFee, hmaxPriority⟩, h.tip_le_cap⟩
  | maxFee amount => exact ⟨.inl haccepts.1, haccepts.2⟩
  | maxPriority amount => exact ⟨.inl haccepts.1, haccepts.2⟩
  | fee fee => exact oneFee_setFee d haccepts
  | _ => exact ⟨h.one_kind, h.tip_le_cap⟩

theorem OneFee.setAll {start d : Draft} {settings : List Setting} (h : start.OneFee)
    (hset : start.setAll settings = .ok d) : d.OneFee :=
  setAll_induction (fun _ _ haccepts h => h.put haccepts) hset h

/-! ## Building -/

/-- A tip that is not zero is set, and no cap. -/
def HasLoneTip (d : Draft) : Prop :=
  d.maxFee = none ∧ ∃ tip, d.maxPriority = some tip ∧ tip ≠ 0

/-- A draft is not built, and the error names a field. -/
def Refuses (d : Draft) (field : String) : Prop :=
  ∃ cause, d.build = .error (.illegalArgument cause) ∧ cause.field = field

/-- What comes of building a draft.  The first rule that is broken decides. -/
structure BuildAnswers (d : Draft) : Prop where
  ok_iff : (∃ b, d.build = .ok b) ↔ d.clauses ≠ [] ∧ d.gas ≠ 0 ∧ ¬ d.HasLoneTip
  noClauses : d.clauses = [] → d.Refuses "clauses"
  zeroGas : d.clauses ≠ [] → d.gas = 0 → d.Refuses "gas"
  loneTip : d.clauses ≠ [] → d.gas ≠ 0 → d.HasLoneTip → d.Refuses "max_priority_fee_per_gas"

/-- A missing cap counts as zero, so only a lone tip can be above it. -/
theorem OneFee.fee_valid_iff {d : Draft} (h : d.OneFee) : d.fee.Valid ↔ ¬ d.HasLoneTip := by
  have hwithin := h.tip_le_cap
  unfold fee HasLoneTip
  cases hmaxFee : d.maxFee with
  | none =>
    cases hmaxPriority : d.maxPriority with
    | none => simp [Fee.Valid]
    | some tip =>
      have hzero : tip ≤ 0 ↔ tip = 0 := by
        rw [UInt256.eq_zero_iff]
        exact Nat.le_zero
      simp [Fee.Valid, hzero]
  | some cap =>
    cases hmaxPriority : d.maxPriority with
    | none =>
      have hzero : (0 : UInt256) ≤ cap := Nat.zero_le _
      simp [Fee.Valid, hzero]
    | some tip => simp [Fee.Valid, hwithin cap tip hmaxFee hmaxPriority]

theorem refuses_of_breaks {d : Draft} {field : String} {cause : ArgumentError}
    (h : d.body.Breaks field cause) : d.Refuses field :=
  ⟨cause, Body.check_of_breaks h, h.field_eq⟩

theorem OneFee.buildAnswers {d : Draft} (h : d.OneFee) : d.BuildAnswers where
  ok_iff := by
    rw [← h.fee_valid_iff]
    constructor
    · rintro ⟨b, hb⟩
      exact (Body.check_eq_ok_iff.mp hb).2
    · intro hrules
      exact ⟨d.body, Body.check_eq_ok_iff.mpr ⟨rfl, hrules⟩⟩
  noClauses hclauses := refuses_of_breaks (.noClauses hclauses)
  zeroGas hclauses hgas := refuses_of_breaks (.zeroGas hclauses hgas)
  loneTip hclauses hgas htip := by
    obtain ⟨hmaxFee, tip, hmaxPriority, hne⟩ := htip
    have hfee : d.fee = .dynamic 0 tip := by
      simp [fee, hmaxFee, hmaxPriority]
    exact refuses_of_breaks (.tipAboveCap hclauses hgas hfee (UInt256.pos_of_ne_zero hne))

/-! ## What the slots recall -/

/-- The slots in use hold these values.  Nothing is said of a slot that the
other kind of fee keeps empty. -/
structure Recalls (d : Draft) (coef : Option UInt8) (maxFee maxPriority : Option UInt256) :
    Prop where
  coef_eq : d.maxFee = none → d.maxPriority = none → d.coef = coef
  amounts_eq : d.coef = none → d.maxFee = maxFee ∧ d.maxPriority = maxPriority

/-- A setting makes the slots recall what it gives. -/
theorem Recalls.put {d : Draft} {s : Setting} {coef : Option UInt8}
    {maxFee maxPriority : Option UInt256} (h : d.Recalls coef maxFee maxPriority)
    (haccepts : d.Accepts s) :
    (d.put s).Recalls (s.coef?.or coef) (s.maxFee?.or maxFee) (s.maxPriority?.or maxPriority) := by
  cases s with
  | coef value => exact ⟨fun _ _ => rfl, fun hnone => (nomatch hnone)⟩
  | maxFee amount =>
    have hpriority := (h.amounts_eq haccepts.1).2
    exact ⟨fun hnone => (nomatch hnone), fun _ => ⟨rfl, hpriority⟩⟩
  | maxPriority amount =>
    have hmaxFee := (h.amounts_eq haccepts.1).1
    exact ⟨fun _ hnone => (nomatch hnone), fun _ => ⟨hmaxFee, rfl⟩⟩
  | fee fee =>
    -- The slots of the other kind become empty, whatever they held.
    cases fee with
    | legacy coef => exact ⟨fun _ _ => rfl, fun hnone => (nomatch hnone)⟩
    | dynamic maxFee maxPriority => exact ⟨fun hnone => (nomatch hnone), fun _ => ⟨rfl, rfl⟩⟩
  | _ => exact ⟨h.coef_eq, h.amounts_eq⟩

/-- After any settings the slots in use hold what was given last. -/
theorem Recalls.setAll {start d : Draft} {settings : List Setting} {coef : Option UInt8}
    {maxFee maxPriority : Option UInt256} (h : start.Recalls coef maxFee maxPriority)
    (hset : start.setAll settings = .ok d) :
    d.Recalls (lastGiven Setting.coef? settings coef)
      (lastGiven Setting.maxFee? settings maxFee)
      (lastGiven Setting.maxPriority? settings maxPriority) := by
  -- What is recalled at the start changes with the first setting.
  induction settings generalizing start coef maxFee maxPriority with
  | nil =>
    rw [setAll_nil] at hset
    cases hset
    exact h
  | cons s settings ih =>
    obtain ⟨haccepts, hrest⟩ := setAll_cons_eq_ok_iff.mp hset
    simp only [lastGiven_cons]
    exact ih (h.put haccepts) hrest

/-- The fee of a draft tells what was given last. -/
structure FeeGiven (start : Draft) (settings : List Setting) (d : Draft) (fee : Fee) : Prop where
  legacy_iff : (∃ coef, fee = .legacy coef) ↔ d.maxFee = none ∧ d.maxPriority = none
  eq_legacy : d.maxFee = none → d.maxPriority = none →
    fee = .legacy ((lastGiven Setting.coef? settings start.coef).getD 0)
  eq_dynamic : ¬ (d.maxFee = none ∧ d.maxPriority = none) →
    fee = .dynamic ((lastGiven Setting.maxFee? settings start.maxFee).getD 0)
      ((lastGiven Setting.maxPriority? settings start.maxPriority).getD 0)

theorem fee_of_no_amounts {d : Draft} (hmaxFee : d.maxFee = none)
    (hmaxPriority : d.maxPriority = none) : d.fee = .legacy (d.coef.getD 0) := by
  simp [fee, hmaxFee, hmaxPriority]

theorem fee_of_amounts {d : Draft} (h : ¬ (d.maxFee = none ∧ d.maxPriority = none)) :
    d.fee = .dynamic (d.maxFee.getD 0) (d.maxPriority.getD 0) := by
  rw [fee, if_pos]
  rw [Bool.or_eq_true, Option.isSome_iff_ne_none, Option.isSome_iff_ne_none]
  exact not_and_or.mp h

theorem OneFee.feeGiven {start d : Draft} {settings : List Setting} (h : d.OneFee)
    (hset : start.setAll settings = .ok d) : FeeGiven start settings d d.fee := by
  have hstart : start.Recalls start.coef start.maxFee start.maxPriority :=
    ⟨fun _ _ => rfl, fun _ => ⟨rfl, rfl⟩⟩
  have hrecalls := hstart.setAll hset
  refine ⟨?_, ?_, ?_⟩
  · constructor
    · rintro ⟨coef, hcoef⟩
      by_contra hnot
      rw [fee_of_amounts hnot] at hcoef
      cases hcoef
    · rintro ⟨hmaxFee, hmaxPriority⟩
      exact ⟨_, fee_of_no_amounts hmaxFee hmaxPriority⟩
  · intro hmaxFee hmaxPriority
    rw [fee_of_no_amounts hmaxFee hmaxPriority, hrecalls.coef_eq hmaxFee hmaxPriority]
  · intro hnot
    have hcoef : d.coef = none := h.one_kind.resolve_right hnot
    obtain ⟨hmaxFee, hmaxPriority⟩ := hrecalls.amounts_eq hcoef
    rw [fee_of_amounts hnot, hmaxFee, hmaxPriority]

/-! ## The order of two amounts -/

/-- A cap and a tip come out the same in either order. -/
structure EitherOrder (d : Draft) (cap tip : UInt256) : Prop where
  refused : cap < tip →
    d.setAll [.maxFee cap, .maxPriority tip] = .error (.illegalArgument (.tipAboveCap tip cap)) ∧
    d.setAll [.maxPriority tip, .maxFee cap] = .error (.illegalArgument (.tipAboveCap tip cap))
  accepted : tip ≤ cap → ∃ d',
    d.setAll [.maxFee cap, .maxPriority tip] = .ok d' ∧
    d.setAll [.maxPriority tip, .maxFee cap] = .ok d' ∧ d'.fee = .dynamic cap tip

theorem accepts_maxFee {d : Draft} (hcoef : d.coef = none) (hmaxPriority : d.maxPriority = none)
    (cap : UInt256) : d.Accepts (.maxFee cap) := by
  refine ⟨hcoef, ?_⟩
  rw [hmaxPriority]
  exact tipWithinCap_no_tip (some cap)

theorem accepts_maxPriority {d : Draft} (hcoef : d.coef = none) (hmaxFee : d.maxFee = none)
    (tip : UInt256) : d.Accepts (.maxPriority tip) := by
  refine ⟨hcoef, ?_⟩
  rw [hmaxFee]
  exact tipWithinCap_no_cap (some tip)

theorem checkTip_of_lt {cap tip : UInt256} (h : cap < tip) :
    checkTip (some cap) (some tip) = .error (.illegalArgument (.tipAboveCap tip cap)) := by
  rw [checkTip, Fee.ofDynamic, if_neg (UInt256.not_le_of_lt h)]
  rfl

/-- A tip is checked against the cap that is there. -/
theorem set_maxPriority_of_lt {d : Draft} {cap tip : UInt256} (hcoef : d.coef = none)
    (hmaxFee : d.maxFee = some cap) (h : cap < tip) :
    d.set (.maxPriority tip) = .error (.illegalArgument (.tipAboveCap tip cap)) := by
  have hkind : d.checkNoCoef .maxPriority = .ok () := checkNoCoef_eq_ok_iff.mpr hcoef
  rw [set, hkind, hmaxFee, checkTip_of_lt h]
  rfl

/-- A cap is checked against the tip that is there. -/
theorem set_maxFee_of_lt {d : Draft} {cap tip : UInt256} (hcoef : d.coef = none)
    (hmaxPriority : d.maxPriority = some tip) (h : cap < tip) :
    d.set (.maxFee cap) = .error (.illegalArgument (.tipAboveCap tip cap)) := by
  have hkind : d.checkNoCoef .maxFee = .ok () := checkNoCoef_eq_ok_iff.mpr hcoef
  rw [set, hkind, hmaxPriority, checkTip_of_lt h]
  rfl

/-- Where no fee is set, the second amount is checked against the first. -/
theorem eitherOrder {d : Draft} (hcoef : d.coef = none) (hmaxFee : d.maxFee = none)
    (hmaxPriority : d.maxPriority = none) (cap tip : UInt256) : d.EitherOrder cap tip := by
  have hcap := setAll_cons_of_accepts (accepts_maxFee hcoef hmaxPriority cap)
  have htip := setAll_cons_of_accepts (accepts_maxPriority hcoef hmaxFee tip)
  constructor
  · intro hlt
    rw [hcap, htip]
    have htip' := set_maxPriority_of_lt (d := d.put (.maxFee cap)) hcoef rfl hlt
    have hcap' := set_maxFee_of_lt (d := d.put (.maxPriority tip)) hcoef rfl hlt
    exact ⟨setAll_cons_of_error htip' _, setAll_cons_of_error hcap' _⟩
  · intro hle
    have hwithin : TipWithinCap (some cap) (some tip) := tipWithinCap_some.mpr hle
    have hsecond : (d.put (.maxFee cap)).Accepts (.maxPriority tip) := ⟨hcoef, hwithin⟩
    have hsecond' : (d.put (.maxPriority tip)).Accepts (.maxFee cap) := ⟨hcoef, hwithin⟩
    refine ⟨{ d with maxFee := some cap, maxPriority := some tip }, ?_, ?_, rfl⟩
    · rw [hcap, setAll_cons_of_accepts hsecond]
      rfl
    · rw [htip, setAll_cons_of_accepts hsecond']
      rfl

/-! ## All drafts -/

/-- Every draft that is made from the empty one or from that of a body says at
most one fee, is built exactly if it breaks no rule, and tells the fee that was
given last. -/
theorem fee_of_drafts :
    (∀ {start d : Draft} {settings : List Setting}, start.IsStart →
      start.setAll settings = .ok d →
      d.OneFee ∧ d.BuildAnswers ∧ ∀ b, d.build = .ok b → FeeGiven start settings d b.fee) ∧
    ∀ (d : Draft) (cap tip : UInt256), d.coef = none → d.maxFee = none → d.maxPriority = none →
      d.EitherOrder cap tip := by
  constructor
  · intro start d settings hstart hset
    have hone := hstart.oneFee.setAll hset
    refine ⟨hone, hone.buildAnswers, ?_⟩
    intro b hbuild
    obtain ⟨rfl, -⟩ := Body.check_eq_ok_iff.mp hbuild
    exact hone.feeGiven hset
  · intro d cap tip hcoef hmaxFee hmaxPriority
    exact eitherOrder hcoef hmaxFee hmaxPriority cap tip

/-- Settings that leave a dynamic fee for a coefficient, and come back to
another one. -/
def repricing : List Setting :=
  [.maxFee 0x90, .fee (.legacy 3), .coef 7, .fee (.dynamic 20 5), .maxPriority 6]

theorem fee_of_drafts_repriced :
    ((Draft.ofBody sparseBody).IsStart ∧
      ∃ d b, (Draft.ofBody sparseBody).setAll repricing = .ok d ∧ d.build = .ok b ∧
        d.OneFee ∧ d.BuildAnswers ∧ FeeGiven (Draft.ofBody sparseBody) repricing d b.fee ∧
        b.fee = .dynamic 20 6) ∧
    (empty.coef = none ∧ empty.maxFee = none ∧ empty.maxPriority = none ∧
      empty.EitherOrder 20 6) := by
  have hstart : (Draft.ofBody sparseBody).IsStart := .ofBody sparseBody_reachable
  have hmade : ∃ d b, (Draft.ofBody sparseBody).setAll repricing = .ok d ∧ d.build = .ok b ∧
      d.maxFee = some 20 := ⟨_, _, rfl, rfl, rfl⟩
  obtain ⟨d, b, hset, hbuild, hmaxFee⟩ := hmade
  obtain ⟨hdrafts, horder⟩ := fee_of_drafts
  obtain ⟨hone, hanswers, hgiven⟩ := hdrafts hstart hset
  have hdynamic : ¬ (d.maxFee = none ∧ d.maxPriority = none) := by
    simp [hmaxFee]
  exact ⟨⟨hstart, d, b, hset, hbuild, hone, hanswers, hgiven b hbuild,
      (hgiven b hbuild).eq_dynamic hdynamic⟩,
    rfl, rfl, rfl, horder empty 20 6 rfl rfl rfl⟩

end Draft

end ClauseTx
