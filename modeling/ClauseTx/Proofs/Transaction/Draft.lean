import ClauseTx.Proofs.Transaction.Body
import ClauseTx.Transaction.Draft

/-!
# What setting a value does

`Draft.set` refuses a value or changes one part of the draft.  The lemmas
split this in two: `Draft.Accepts` is the condition, and `Draft.put` is the
change.  `Draft.set_eq_ok_iff` says that together they are what `set` does,
and nothing else about a draft unfolds `set`.

A property that every accepted change keeps holds after any sequence of
settings (`Draft.setAll_induction`).  One such property is that the reserved
section is trimmed.
-/

namespace ClauseTx

namespace Draft

/-! ## Conditions -/

/-- Whether an integer is a value of a field. -/
def InRange (field : IntegerField) (value : Int) : Prop :=
  0 ≤ value ∧ value.toNat < bound field

theorem inRange_of_lt {field : IntegerField} {n : Nat} (h : n < bound field) :
    InRange field n := by
  constructor
  · omega
  · simpa using h

/-- A tip is not above a cap, where both are there. -/
def TipWithinCap (maxFee maxPriority : Option UInt256) : Prop :=
  ∀ cap tip, maxFee = some cap → maxPriority = some tip → tip ≤ cap

@[simp]
theorem tipWithinCap_some {cap tip : UInt256} :
    TipWithinCap (some cap) (some tip) ↔ tip ≤ cap := by
  simp [TipWithinCap]

@[simp]
theorem tipWithinCap_no_cap (maxPriority : Option UInt256) : TipWithinCap none maxPriority :=
  fun _ _ hcap _ => nomatch hcap

@[simp]
theorem tipWithinCap_no_tip (maxFee : Option UInt256) : TipWithinCap maxFee none :=
  fun _ _ _ htip => nomatch htip

/-- Whether a draft takes a value. -/
def Accepts (d : Draft) : Setting → Prop
  | .chainTag value => InRange .chainTag value
  | .blockRef bytes => bytes.length = Body.blockRefLength
  | .expiration value => InRange .expiration value
  | .clause _ => True
  | .clauses clauses => clauses ≠ []
  | .gas value => InRange .gas value ∧ value ≠ 0
  | .dependsOn id => id.length = Body.idLength
  | .nonce value => InRange .nonce value
  | .coef value => InRange .gasPriceCoef value ∧ d.maxFee = none ∧ d.maxPriority = none
  | .maxFee amount => d.coef = none ∧ TipWithinCap (some amount) d.maxPriority
  | .maxPriority amount => d.coef = none ∧ TipWithinCap d.maxFee (some amount)
  | .fee fee => fee.Valid
  | .reserved reserved => reserved.isTrimmed = true
  | .delegated _ => True

/-! ## Changes -/

/-- A draft with another value.  What it says of values that do not fit does
not matter. -/
def put (d : Draft) : Setting → Draft
  | .chainTag value => { d with chainTag := UInt8.ofNat value.toNat }
  | .blockRef bytes => { d with blockRef := (Blob.ofBytes? bytes).getD d.blockRef }
  | .expiration value => { d with expiration := UInt32.ofNat value.toNat }
  | .clause clause => { d with clauses := d.clauses ++ [clause] }
  | .clauses clauses => { d with clauses }
  | .gas value => { d with gas := UInt64.ofNat value.toNat }
  | .dependsOn id => { d with dependsOn := Blob.ofBytes? id }
  | .nonce value => { d with nonce := UInt64.ofNat value.toNat }
  | .coef value => { d with coef := some (UInt8.ofNat value.toNat) }
  | .maxFee amount => { d with maxFee := some amount }
  | .maxPriority amount => { d with maxPriority := some amount }
  | .fee fee => d.setFee fee
  | .reserved reserved => { d with reserved }
  | .delegated on => { d with reserved := d.reserved.setDelegated on }

/-! ## One setting -/

theorem narrow_eq_ok_iff {field : IntegerField} {value : Int} {n : Nat} :
    narrow field value = .ok n ↔ InRange field value ∧ value.toNat = n := by
  rw [narrow, InRange]
  by_cases h : 0 ≤ value ∧ value.toNat < bound field
  · simp [h]
  · simp [h]

theorem checkNoCoef_eq_ok_iff {d : Draft} {field : FeeField} {u : Unit} :
    d.checkNoCoef field = .ok u ↔ d.coef = none := by
  rw [checkNoCoef]
  cases d.coef <;> simp

theorem checkTip_eq_ok_iff {maxFee maxPriority : Option UInt256} {u : Unit} :
    checkTip maxFee maxPriority = .ok u ↔ TipWithinCap maxFee maxPriority := by
  rw [TipWithinCap]
  cases maxFee with
  | none => simp [checkTip]
  | some cap =>
    cases maxPriority with
    | none => simp [checkTip]
    | some tip =>
      rw [checkTip, map_eq_ok_iff, Fee.ofDynamic]
      by_cases h : tip ≤ cap <;> simp [h]

/-- A number is put into a field exactly if it is in range, and if the draft
takes it. -/
private theorem narrow_bind_iff {field : IntegerField} {value : Int} {d' : Draft}
    {f : Nat → Except Error Draft} {P : Nat → Prop} {d : Nat → Draft}
    (hf : ∀ n, f n = .ok d' ↔ P n ∧ d' = d n) :
    (narrow field value >>= f) = .ok d' ↔
      (InRange field value ∧ P value.toNat) ∧ d' = d value.toNat := by
  rw [bind_eq_ok_iff]
  constructor
  · intro h
    obtain ⟨n, hn, h⟩ := h
    obtain ⟨hrange, rfl⟩ := narrow_eq_ok_iff.mp hn
    obtain ⟨hP, hd⟩ := (hf _).mp h
    exact ⟨⟨hrange, hP⟩, hd⟩
  · intro h
    obtain ⟨⟨hrange, hP⟩, hd⟩ := h
    exact ⟨value.toNat, narrow_eq_ok_iff.mpr ⟨hrange, rfl⟩, (hf _).mpr ⟨hP, hd⟩⟩

theorem length_eq_iff_isSome_ofBytes? {n : Nat} {bytes : Bytes} :
    bytes.length = n ↔ (Blob.ofBytes? bytes : Option (Blob n)).isSome = true := by
  rw [Blob.ofBytes?]
  split <;> simp_all

/-- Setting a value takes what fits, and changes the draft by it. -/
theorem set_eq_ok_iff {d d' : Draft} {s : Setting} :
    d.set s = .ok d' ↔ d.Accepts s ∧ d' = d.put s := by
  -- A value that is always taken, or that only has to be in range.
  have hpure : ∀ d₀ : Draft, (pure d₀ : Except Error Draft) = .ok d' ↔ True ∧ d' = d₀ := by
    intro d₀
    rw [pure_eq_ok_iff, true_and, eq_comm]
  cases s with
  | chainTag value => exact (narrow_bind_iff fun n => hpure _).trans (by rw [and_true]; rfl)
  | blockRef bytes =>
    rw [set, Accepts, put, Body.blockRefLength, length_eq_iff_isSome_ofBytes?]
    cases (Blob.ofBytes? bytes : Option (Blob 8)) <;> simp [eq_comm]
  | expiration value => exact (narrow_bind_iff fun n => hpure _).trans (by rw [and_true]; rfl)
  | clause clause => exact hpure _
  | clauses clauses =>
    rw [set, Accepts, put]
    cases clauses <;> simp [eq_comm]
  | gas value =>
    have hgas : ∀ n : Nat, (if n = 0 then .error (.illegalArgument .zeroGas)
        else .ok { d with gas := UInt64.ofNat n } : Except Error Draft) = .ok d' ↔
          n ≠ 0 ∧ d' = { d with gas := UInt64.ofNat n } := by
      intro n
      by_cases h : n = 0 <;> simp [h, eq_comm]
    have hzero : InRange .gas value ∧ value.toNat ≠ 0 ↔ InRange .gas value ∧ value ≠ 0 := by
      rw [InRange]
      omega
    rw [Accepts, ← hzero]
    exact narrow_bind_iff hgas
  | dependsOn id =>
    rw [set, Accepts, put, Body.idLength, length_eq_iff_isSome_ofBytes?]
    cases (Blob.ofBytes? id : Option (Blob 32)) <;> simp [eq_comm]
  | nonce value => exact (narrow_bind_iff fun n => hpure _).trans (by rw [and_true]; rfl)
  | coef value =>
    have hcoef : ∀ n : Nat, (if d.maxFee.isSome || d.maxPriority.isSome then
        .error (.illegalArgument .coefWithDynamicFee)
        else .ok { d with coef := some (UInt8.ofNat n) } : Except Error Draft) = .ok d' ↔
          (d.maxFee = none ∧ d.maxPriority = none) ∧
            d' = { d with coef := some (UInt8.ofNat n) } := by
      intro n
      cases d.maxFee <;> cases d.maxPriority <;> simp [eq_comm]
    exact narrow_bind_iff hcoef
  | maxFee amount =>
    rw [set, Accepts, put, bind_eq_ok_iff]
    simp only [checkNoCoef_eq_ok_iff, bind_eq_ok_iff, checkTip_eq_ok_iff, pure_eq_ok_iff]
    simp [eq_comm (a := d'), and_assoc]
  | maxPriority amount =>
    rw [set, Accepts, put, bind_eq_ok_iff]
    simp only [checkNoCoef_eq_ok_iff, bind_eq_ok_iff, checkTip_eq_ok_iff, pure_eq_ok_iff]
    simp [eq_comm (a := d'), and_assoc]
  | fee fee =>
    rw [set, Accepts, put, bind_eq_ok_iff]
    simp only [Fee.checked_eq_ok_iff, pure_eq_ok_iff]
    simp [eq_comm (a := d')]
  | reserved reserved =>
    rw [set, Accepts, put]
    cases reserved.isTrimmed <;> simp [eq_comm]
  | delegated on => exact hpure _

/-! ## Many settings -/

@[simp]
theorem setAll_nil (d : Draft) : d.setAll [] = .ok d := rfl

/-- A value that the draft takes is put into it. -/
theorem setAll_cons_of_accepts {d : Draft} {s : Setting} (h : d.Accepts s)
    (settings : List Setting) : d.setAll (s :: settings) = (d.put s).setAll settings := by
  have hset : d.set s = .ok (d.put s) := set_eq_ok_iff.mpr ⟨h, rfl⟩
  rw [setAll, List.foldlM_cons, hset]
  rfl

theorem setAll_cons_eq_ok_iff {d d' : Draft} {s : Setting} {settings : List Setting} :
    d.setAll (s :: settings) = .ok d' ↔ d.Accepts s ∧ (d.put s).setAll settings = .ok d' := by
  rw [setAll, List.foldlM_cons, bind_eq_ok_iff]
  constructor
  · intro h
    obtain ⟨next, hset, h⟩ := h
    obtain ⟨haccepts, rfl⟩ := set_eq_ok_iff.mp hset
    exact ⟨haccepts, h⟩
  · intro h
    exact ⟨d.put s, set_eq_ok_iff.mpr ⟨h.1, rfl⟩, h.2⟩

/-- What each accepted change keeps holds in the end. -/
theorem setAll_induction {P : Draft → Prop} (hput : ∀ d s, d.Accepts s → P d → P (d.put s))
    {d d' : Draft} {settings : List Setting} (h : d.setAll settings = .ok d') (hP : P d) :
    P d' := by
  induction settings generalizing d with
  | nil =>
    rw [setAll_nil] at h
    injection h with h
    rwa [← h]
  | cons s settings ih =>
    obtain ⟨haccepts, h⟩ := setAll_cons_eq_ok_iff.mp h
    exact ih h (hput d s haccepts hP)

/-! ## The reserved section stays trimmed -/

@[simp]
theorem reserved_setFee (d : Draft) (fee : Fee) : (d.setFee fee).reserved = d.reserved := by
  cases fee <;> rfl

theorem isTrimmed_put {d : Draft} {s : Setting} (haccepts : d.Accepts s)
    (h : d.reserved.isTrimmed = true) : (d.put s).reserved.isTrimmed = true := by
  cases s with
  | reserved reserved => exact haccepts
  | delegated on => exact h
  | fee fee => rwa [put, reserved_setFee]
  | _ => exact h

theorem isTrimmed_setAll {d d' : Draft} {settings : List Setting}
    (h : d.setAll settings = .ok d') (htrimmed : d.reserved.isTrimmed = true) :
    d'.reserved.isTrimmed = true :=
  setAll_induction (P := fun d => d.reserved.isTrimmed = true)
    (fun _ _ haccepts h => isTrimmed_put haccepts h) h htrimmed

/-- A body that is built from a draft with a trimmed reserved section is
valid. -/
theorem valid_of_build {d : Draft} {b : Body} (h : d.build = .ok b)
    (htrimmed : d.reserved.isTrimmed = true) : b.Valid := by
  obtain ⟨rfl, hchecked⟩ := Body.check_eq_ok_iff.mp h
  exact Body.valid_iff.mpr ⟨hchecked, htrimmed⟩

end Draft

end ClauseTx
