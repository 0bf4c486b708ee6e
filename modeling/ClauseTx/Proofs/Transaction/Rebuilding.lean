import ClauseTx.Proofs.Transaction.FeeSlots
import ClauseTx.Proofs.Transaction.Parts

/-!
# Changing a body

A body is changed by making a draft of it, putting values into the draft, and
building that.  Nothing else may change of what gets signed.

* What a setting makes of a body.  `Part.after` is a table of it, part by part,
  and `Body.edit` applies the table to all parts.
* Drafts of bodies.  The draft of a valid body stays the draft of a valid body,
  with the parts changed by the table (`Draft.eq_ofBody_of_setAll`).
* Features.  Asking for a gas payer is about a single flag
  (`Reserved.testBit_setDelegated`).
* The whole.  `Body.Rebuilt` tells all parts of the body that comes out.
-/

namespace ClauseTx

/-! ## What a setting makes of a body -/

/-- A part of a body. -/
def Body.get (b : Body) : (p : Part) → p.Value Fee
  | .chainTag => b.chainTag
  | .blockRef => b.blockRef
  | .expiration => b.expiration
  | .clauses => b.clauses
  | .gas => b.gas
  | .dependsOn => b.dependsOn
  | .nonce => b.nonce
  | .fee => b.fee
  | .reserved => b.reserved

namespace Part

/-- What a setting makes of a part.  A setting of another part leaves it.  What
is said of a setting that the draft of a body refuses does not matter. -/
def after : (p : Part) → p.Value Fee → Setting → p.Value Fee
  | .chainTag, _, .chainTag value => UInt8.ofNat value.toNat
  | .blockRef, _, .blockRef bytes => (Blob.ofBytes? bytes).getD (Blob.zero 8)
  | .expiration, _, .expiration value => UInt32.ofNat value.toNat
  | .clauses, old, .clause value => old ++ [value]
  | .clauses, _, .clauses value => value
  | .gas, _, .gas value => UInt64.ofNat value.toNat
  | .dependsOn, _, .dependsOn id => Blob.ofBytes? id
  | .nonce, _, .nonce value => UInt64.ofNat value.toNat
  | .fee, .legacy _, .coef value => .legacy (UInt8.ofNat value.toNat)
  | .fee, .dynamic _ maxPriority, .maxFee amount => .dynamic amount maxPriority
  | .fee, .dynamic maxFee _, .maxPriority amount => .dynamic maxFee amount
  | .fee, _, .fee value => value
  | .reserved, _, .reserved value => value
  | .reserved, old, .delegated on => old.setDelegated on
  | _, old, _ => old

/-- Each setting of the part replaces what it holds. -/
def IsScalar (p : Part) : Prop :=
  p ≠ .clauses ∧ p ≠ .fee ∧ p ≠ .reserved

instance (p : Part) : Decidable p.IsScalar :=
  inferInstanceAs (Decidable (p ≠ .clauses ∧ p ≠ .fee ∧ p ≠ .reserved))

variable {p : Part} {s : Setting}

theorem after_of_ne (h : s.part ≠ p) (value : p.Value Fee) : p.after value s = value := by
  -- Off the diagonal of the table the last row applies.
  cases p with
  | fee => cases value <;> cases s <;> first | rfl | exact absurd rfl h
  | _ => cases s <;> first | rfl | exact absurd rfl h

/-- Settings of other parts can be left out. -/
theorem foldl_after_among (p : Part) (settings : List Setting) (value : p.Value Fee) :
    (p.among settings).foldl p.after value = settings.foldl p.after value := by
  induction settings generalizing value with
  | nil => rfl
  | cons s settings ih =>
    by_cases hpart : s.part = p
    · rw [among_cons_of_eq hpart, List.foldl_cons, List.foldl_cons, ih]
    · rw [among_cons_of_ne hpart, List.foldl_cons, ih, after_of_ne hpart]

theorem after_of_isScalar (h : p.IsScalar) (hs : s.part = p) (value value' : p.Value Fee) :
    p.after value s = p.after value' s := by
  subst hs
  obtain ⟨hclauses, hfee, hreserved⟩ := h
  cases s with
  | clause _ | clauses _ => exact absurd rfl hclauses
  | coef _ | maxFee _ | maxPriority _ | fee _ => exact absurd rfl hfee
  | reserved _ | delegated _ => exact absurd rfl hreserved
  | _ => rfl

end Part

/-- A body after a setting. -/
def Body.edit (b : Body) (s : Setting) : Body where
  chainTag := Part.after .chainTag b.chainTag s
  blockRef := Part.after .blockRef b.blockRef s
  expiration := Part.after .expiration b.expiration s
  clauses := Part.after .clauses b.clauses s
  gas := Part.after .gas b.gas s
  dependsOn := Part.after .dependsOn b.dependsOn s
  nonce := Part.after .nonce b.nonce s
  fee := Part.after .fee b.fee s
  reserved := Part.after .reserved b.reserved s

namespace Body

theorem get_edit (b : Body) (s : Setting) (p : Part) :
    (b.edit s).get p = p.after (b.get p) s := by
  cases p <;> rfl

theorem get_foldl_edit (b : Body) (settings : List Setting) (p : Part) :
    (settings.foldl edit b).get p = settings.foldl p.after (b.get p) := by
  induction settings generalizing b with
  | nil => rfl
  | cons s settings ih => rw [List.foldl_cons, ih, get_edit, List.foldl_cons]

end Body

namespace Draft

variable {b : Body} {s : Setting}

/-! ## Drafts of bodies -/

/-- What is put into the draft of a body is put into the body. -/
theorem put_ofBody (h : (ofBody b).Accepts s) : (ofBody b).put s = ofBody (b.edit s) := by
  obtain ⟨chainTag, blockRef, expiration, clauses, gas, dependsOn, nonce, fee, reserved⟩ := b
  cases s with
  | blockRef bytes =>
    have hlength : bytes.length = 8 := h
    obtain ⟨ref, href⟩ :=
      Option.isSome_iff_exists.mp (length_eq_iff_isSome_ofBytes?.mp hlength)
    cases fee <;> simp [put, ofBody, setFee, Body.edit, Part.after, href]
  | coef value =>
    cases fee with
    | legacy coef => rfl
    | dynamic maxFee maxPriority => exact absurd h.2.1 (Option.some_ne_none maxFee)
  | maxFee amount | maxPriority amount =>
    cases fee with
    | legacy coef => exact absurd h.1 (Option.some_ne_none coef)
    | dynamic maxFee maxPriority => rfl
  | fee value => cases fee <;> cases value <;> rfl
  | _ => cases fee <;> rfl

theorem clauses_edit_ne_nil (h : b.clauses ≠ []) (haccepts : (ofBody b).Accepts s) :
    (b.edit s).clauses ≠ [] := by
  cases s with
  | clause clause => exact List.append_ne_nil_of_right_ne_nil _ (List.cons_ne_nil clause [])
  | clauses clauses => exact haccepts
  | _ => exact h

theorem gas_edit_ne_zero (h : b.gas ≠ 0) (haccepts : (ofBody b).Accepts s) :
    (b.edit s).gas ≠ 0 := by
  cases s with
  | gas value =>
    obtain ⟨⟨hnonneg, hlt⟩, hne⟩ := haccepts
    intro hzero
    have hvalue : (UInt64.ofNat value.toNat).toNat = 0 := congrArg UInt64.toNat hzero
    rw [UInt64.toNat_ofNat_of_lt' hlt] at hvalue
    omega
  | _ => exact h

theorem fee_valid_of_oneFee (h : (ofBody b).OneFee) : b.fee.Valid := by
  obtain ⟨chainTag, blockRef, expiration, clauses, gas, dependsOn, nonce, fee, reserved⟩ := b
  cases fee with
  | legacy coef => trivial
  | dynamic maxFee maxPriority => exact h.tip_le_cap maxFee maxPriority rfl rfl

/-- A setting that the draft of a valid body takes keeps the body valid. -/
theorem valid_edit (h : b.Valid) (haccepts : (ofBody b).Accepts s) : (b.edit s).Valid where
  clauses_ne_nil := clauses_edit_ne_nil h.clauses_ne_nil haccepts
  gas_ne_zero := gas_edit_ne_zero h.gas_ne_zero haccepts
  fee_valid := by
    apply fee_valid_of_oneFee
    rw [← put_ofBody haccepts]
    exact (oneFee_setFee _ h.fee_valid).put haccepts
  reserved_isTrimmed := by
    rw [← reserved_ofBody, ← put_ofBody haccepts]
    apply isTrimmed_put haccepts
    rw [reserved_ofBody]
    exact h.reserved_isTrimmed

/-- The draft of a valid body stays the draft of a valid body. -/
theorem eq_ofBody_of_setAll {d : Draft} {settings : List Setting} (h : b.Valid)
    (hset : (ofBody b).setAll settings = .ok d) :
    d = ofBody (settings.foldl Body.edit b) ∧ (settings.foldl Body.edit b).Valid := by
  induction settings generalizing b with
  | nil =>
    cases hset
    exact ⟨rfl, h⟩
  | cons s settings ih =>
    obtain ⟨haccepts, hrest⟩ := setAll_cons_eq_ok_iff.mp hset
    rw [put_ofBody haccepts] at hrest
    exact ih (valid_edit h haccepts) hrest

/-- Settings that are taken make a body, part by part. -/
theorem exists_build {d : Draft} {settings : List Setting} (h : b.Valid)
    (hset : (ofBody b).setAll settings = .ok d) :
    ∃ r, d.build = .ok r ∧ ∀ p, r.get p = settings.foldl p.after (b.get p) := by
  obtain ⟨rfl, hvalid⟩ := eq_ofBody_of_setAll h hset
  exact ⟨_, build_ofBody hvalid, Body.get_foldl_edit b settings⟩

end Draft

/-! ## Features -/

namespace Reserved

theorem getLsbD_delegationFeature (i : Nat) :
    delegationFeature.toBitVec.getLsbD i = decide (i = 0) := by
  show (1#32).getLsbD i = decide (i = 0)
  simp [BitVec.getLsbD_one]

/-- Asking for a gas payer is about the lowest flag, and leaves the others. -/
theorem testBit_setDelegated (r : Reserved) (on : Bool) (i : Nat) :
    (r.setDelegated on).features.toNat.testBit i =
      if i = 0 then on else r.features.toNat.testBit i := by
  have hbits (x : UInt32) : x.toNat.testBit i = x.toBitVec.getLsbD i := rfl
  rw [hbits, hbits, setDelegated]
  cases on with
  | true =>
    simp only [if_true, UInt32.toBitVec_or, BitVec.getLsbD_or, getLsbD_delegationFeature]
    by_cases hi : i = 0 <;> simp [hi]
  | false =>
    simp only [Bool.false_eq_true, if_false, UInt32.toBitVec_and, UInt32.toBitVec_not,
      BitVec.getLsbD_and, BitVec.getLsbD_not, getLsbD_delegationFeature]
    by_cases hi : i = 0
    · simp [hi]
    · have hlt := r.features.toBitVec.lt_of_getLsbD (i := i)
      simpa [hi] using hlt

end Reserved

/-! ## The whole -/

/-- A body comes out of another one by settings. -/
structure Body.Rebuilt (b : Body) (settings : List Setting) (r : Body) : Prop where
  /-- Each part is what its own settings make of it one after another. -/
  get_eq : ∀ p : Part, r.get p = (p.among settings).foldl p.after (b.get p)
  /-- A part that each of its settings replaces holds the value of the last. -/
  get_last : ∀ p : Part, p.IsScalar → ∀ s, (p.among settings).getLast? = some s →
    ∀ value, r.get p = p.after value s
  /-- A part without settings is kept. -/
  get_kept : ∀ p : Part, (∀ s ∈ settings, s.part ≠ p) → r.get p = b.get p
  /-- The settings of a part alone make the same of it, and nothing else. -/
  alone : ∀ p : Part, ∃ d r', (Draft.ofBody b).setAll (p.among settings) = .ok d ∧
    d.build = .ok r' ∧ r'.get p = r.get p ∧ ∀ q, q ≠ p → r'.get q = b.get q

theorem Part.foldl_after_of_last {p : Part} (h : p.IsScalar) {settings : List Setting}
    {s : Setting} (hlast : (p.among settings).getLast? = some s) (old value : p.Value Fee) :
    (p.among settings).foldl p.after old = p.after value s := by
  obtain ⟨front, hfront⟩ := List.getLast?_eq_some_iff.mp hlast
  have hs : s.part = p := by
    have hmem : s ∈ p.among settings := List.mem_of_getLast? hlast
    exact of_decide_eq_true (List.mem_filter.mp hmem).2
  rw [hfront, List.foldl_append, List.foldl_cons, List.foldl_nil]
  exact after_of_isScalar h hs _ _

theorem Draft.rebuilt {b r : Body} {d : Draft} {settings : List Setting} (h : b.Valid)
    (hset : (ofBody b).setAll settings = .ok d) (hbuild : d.build = .ok r) :
    b.Rebuilt settings r := by
  obtain ⟨r₀, hr₀, hparts⟩ := exists_build h hset
  obtain rfl : r₀ = r := by
    rw [hr₀] at hbuild
    injection hbuild
  have hown (p : Part) : r₀.get p = (p.among settings).foldl p.after (b.get p) := by
    rw [hparts, Part.foldl_after_among]
  refine ⟨hown, ?_, ?_, ?_⟩
  · intro p hscalar s hlast value
    rw [hown]
    exact Part.foldl_after_of_last hscalar hlast _ value
  · intro p hnone
    rw [hown, Part.among_eq_nil hnone]
    rfl
  · intro p
    obtain ⟨e, he, -⟩ := exists_setAll_among (p := p) hset rfl
    obtain ⟨r', hr', halone⟩ := exists_build h he
    refine ⟨e, r', he, hr', ?_, ?_⟩
    · rw [halone, hown]
    · intro q hq
      rw [halone, ← Part.foldl_after_among, Part.among_among_of_ne hq]
      rfl

/-- A body is built from its own draft.  Settings change the parts that they
are about, each part by its own settings, so that only the order within a part
counts. -/
theorem rebuilding_changes_parts :
    (∀ b : Body, b.Reachable → (Draft.ofBody b).build = .ok b) ∧
    (∀ (b : Body) (settings : List Setting) (d : Draft), b.Reachable →
      (Draft.ofBody b).setAll settings = .ok d →
      ∃ r, d.build = .ok r ∧ b.Rebuilt settings r) ∧
    (∀ (d d' : Draft) (settings settings' : List Setting),
      (∀ p : Part, p.among settings = p.among settings') →
      (d.setAll settings = .ok d' ↔ d.setAll settings' = .ok d')) ∧
    (∀ (d d' : Draft) (s t : Setting), s.part ≠ t.part →
      (d.setAll [s, t] = .ok d' ↔ d.setAll [t, s] = .ok d')) ∧
    ∀ (d : Draft) (on : Bool), ∃ d', d.set (.delegated on) = .ok d' ∧
      (∀ p, p ≠ .reserved → d'.get p = d.get p) ∧
      d'.reserved.unused = d.reserved.unused ∧
      ∀ i, d'.reserved.features.toNat.testBit i =
        if i = 0 then on else d.reserved.features.toNat.testBit i := by
  refine ⟨?_, ?_, ?_, ?_, ?_⟩
  · intro b hb
    exact Draft.build_ofBody hb.valid
  · intro b settings d hb hset
    obtain ⟨r, hbuild, -⟩ := Draft.exists_build hb.valid hset
    exact ⟨r, hbuild, Draft.rebuilt hb.valid hset hbuild⟩
  · intro d d' settings settings' h
    exact Draft.setAll_eq_ok_iff_of_among_eq h
  · intro d d' s t h
    exact Draft.setAll_eq_ok_iff_of_among_eq (Draft.among_swap h)
  · intro d on
    refine ⟨d.put (.delegated on), Draft.set_eq_ok_iff.mpr ⟨trivial, rfl⟩, ?_, rfl, ?_⟩
    · intro p hp
      exact Draft.get_put_of_ne (Ne.symm hp)
    · intro i
      exact d.reserved.testBit_setDelegated on i

/-- Settings of four parts, two of them of the same part. -/
def renumbering : List Setting :=
  [.nonce 7, .delegated true, .nonce 8, .clause (Clause.deploy [1]), .maxFee 0x90]

/-- The same settings in another order. -/
def reordered : List Setting :=
  [.maxFee 0x90, .clause (Clause.deploy [1]), .nonce 7, .delegated true, .nonce 8]

theorem rebuilding_changes_parts_sparse :
    (sparseBody.Reachable ∧ (Draft.ofBody sparseBody).build = .ok sparseBody) ∧
    (∃ d r, (Draft.ofBody sparseBody).setAll renumbering = .ok d ∧ d.build = .ok r ∧
      sparseBody.Rebuilt renumbering r ∧ r.nonce = 8 ∧ r.dependsOn = sparseBody.dependsOn ∧
      (∀ p : Part, p.among renumbering = p.among reordered) ∧
      (Draft.ofBody sparseBody).setAll reordered = .ok d) ∧
    (Setting.nonce 7).part ≠ (Setting.delegated true).part ∧
    ∀ d d' : Draft, d.setAll [.nonce 7, .delegated true] = .ok d' ↔
      d.setAll [.delegated true, .nonce 7] = .ok d' := by
  obtain ⟨hsame, hrebuilt, horder, hswap, -⟩ := rebuilding_changes_parts
  have hset : ∃ d, (Draft.ofBody sparseBody).setAll renumbering = .ok d := ⟨_, rfl⟩
  obtain ⟨d, hset⟩ := hset
  obtain ⟨r, hbuild, hparts⟩ := hrebuilt sparseBody renumbering d sparseBody_reachable hset
  have hnonce : r.nonce = 8 := hparts.get_last .nonce (by decide) (.nonce 8) rfl 0
  have hkept : r.dependsOn = sparseBody.dependsOn := hparts.get_kept .dependsOn (by decide)
  have hamong : ∀ p : Part, p.among renumbering = p.among reordered := by
    intro p
    cases p <;> rfl
  have hpart : (Setting.nonce 7).part ≠ (Setting.delegated true).part := by decide
  exact ⟨⟨sparseBody_reachable, hsame sparseBody sparseBody_reachable⟩,
    ⟨d, r, hset, hbuild, hparts, hnonce, hkept, hamong,
      (horder _ d renumbering reordered hamong).mp hset⟩,
    hpart, fun d d' => hswap d d' _ _ hpart⟩

end ClauseTx
