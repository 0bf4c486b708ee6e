import ClauseTx.Proofs.Transaction.RoundTrip

/-!
# The bodies that can arise are the valid ones

`Body.Reachable.valid` says that nothing else arises.  This module proves the
converse: no rule is stricter than `Body.Valid`, neither that of a setting nor
that of the reader.

* `Draft.settingsOf` lists settings that make a body from an empty draft.
  Whether a draft takes them does not depend on what it already holds
  (`Draft.Fits`), so a run over those that fit is a fold of changes
  (`Draft.setAll_append_of_fits`), and the first that does not fit decides
  (`Draft.setAll_cons_of_error`).
* Settings refuse a body for the reason for which `Body.check` refuses it
  (`Draft.build_settingsOf`).  So it makes no difference whether a body is
  checked as a whole, as the reader does, or made step by step.
-/

namespace ClauseTx

namespace Draft

/-! ## Settings that do not depend on the draft -/

/-- A value that every draft takes. -/
def Fits (s : Setting) : Prop :=
  ∀ d : Draft, d.Accepts s

/-- What fits is put into the draft. -/
theorem setAll_cons_of_fits {s : Setting} (h : Fits s) (d : Draft) (settings : List Setting) :
    d.setAll (s :: settings) = (d.put s).setAll settings :=
  setAll_cons_of_accepts (h d) settings

theorem setAll_append_of_fits {first : List Setting} (h : ∀ s ∈ first, Fits s) (d : Draft)
    (settings : List Setting) :
    d.setAll (first ++ settings) = (first.foldl put d).setAll settings := by
  induction first generalizing d with
  | nil => rfl
  | cons s first ih =>
    obtain ⟨hs, hfirst⟩ := List.forall_mem_cons.mp h
    rw [List.cons_append, setAll_cons_of_fits hs, ih hfirst, List.foldl_cons]

/-- The first value that is refused decides. -/
theorem setAll_cons_of_error {d : Draft} {s : Setting} {e : Error} (h : d.set s = .error e)
    (settings : List Setting) : d.setAll (s :: settings) = .error e := by
  rw [setAll, List.foldlM_cons, h]
  rfl

theorem fits_clauses {clauses : List Clause} (h : clauses ≠ []) : Fits (.clauses clauses) :=
  fun _ => h

theorem set_clauses_eq_error {clauses : List Clause} (h : clauses = []) (d : Draft) :
    d.set (.clauses clauses) = .error (.illegalArgument .noClauses) := by
  subst h
  rfl

theorem fits_gas {gas : UInt64} (h : gas ≠ 0) : Fits (.gas gas.toNat) := by
  intro d
  have hne : gas.toNat ≠ 0 := fun h0 => h (UInt64.toNat_inj.mp h0)
  exact ⟨inRange_of_lt gas.toNat_lt, by omega⟩

theorem set_gas_eq_error {gas : UInt64} (h : gas = 0) (d : Draft) :
    d.set (.gas gas.toNat) = .error (.illegalArgument .zeroGas) := by
  subst h
  rfl

theorem fits_fee {fee fee' : Fee} (h : fee.checked = .ok fee') : Fits (.fee fee) :=
  fun _ => (Fee.checked_eq_ok_iff.mp h).2

theorem set_fee_eq_error {fee : Fee} {e : Error} (h : fee.checked = .error e) (d : Draft) :
    d.set (.fee fee) = .error e := by
  rw [set, h]
  rfl

theorem fits_reserved {r : Reserved} (h : r.isTrimmed = true) : Fits (.reserved r) :=
  fun _ => h

/-! ## The settings of a body -/

/-- The settings of a body about which there is no rule. -/
def freeSettings (b : Body) : List Setting :=
  [.chainTag b.chainTag.toNat, .blockRef b.blockRef.bytes, .expiration b.expiration.toNat,
    .nonce b.nonce.toNat] ++ (b.dependsOn.map fun id => Setting.dependsOn id.bytes).toList

/-- Settings that make a body from an empty draft. -/
def settingsOf (b : Body) : List Setting :=
  freeSettings b ++ [.clauses b.clauses, .gas b.gas.toNat, .fee b.fee, .reserved b.reserved]

theorem fits_freeSettings (b : Body) : ∀ s ∈ freeSettings b, Fits s := by
  intro s hs d
  have hdepends : ∀ id : Blob 32, d.Accepts (.dependsOn id.bytes) := fun id => id.length_eq
  simp only [freeSettings, List.mem_append, List.mem_cons, List.not_mem_nil, or_false,
    Option.mem_toList, Option.map_eq_some_iff] at hs
  rcases hs with (rfl | rfl | rfl | rfl) | ⟨id, -, rfl⟩
  · exact inRange_of_lt b.chainTag.toNat_lt
  · exact b.blockRef.length_eq
  · exact inRange_of_lt b.expiration.toNat_lt
  · exact inRange_of_lt b.nonce.toNat_lt
  · exact hdepends id

/-- The settings of a body put all of it into a draft. -/
theorem foldl_put_settingsOf (b : Body) : (settingsOf b).foldl put empty = ofBody b := by
  have hbytes : ∀ {n : Nat} (a : Blob n), (Blob.ofBytes? a.bytes : Option (Blob n)) = some a :=
    fun a => Blob.ofBytes?_eq_some_iff.mpr rfl
  obtain ⟨chainTag, blockRef, expiration, clauses, gas, dependsOn, nonce, fee, reserved⟩ := b
  cases dependsOn <;> cases fee <;>
    simp [settingsOf, freeSettings, put, setFee, ofBody, empty, hbytes]

/-- The draft of a body describes it. -/
theorem body_ofBody (b : Body) : (ofBody b).body = b := by
  obtain ⟨chainTag, blockRef, expiration, clauses, gas, dependsOn, nonce, fee, reserved⟩ := b
  cases fee <;> rfl

/-- A valid body is built from its own draft. -/
theorem build_ofBody {b : Body} (h : b.Valid) : (ofBody b).build = .ok b := by
  rw [build, body_ofBody]
  exact Body.check_eq_ok_iff.mpr ⟨rfl, h.clauses_ne_nil, h.gas_ne_zero, h.fee_valid⟩

/-- To make a body by settings is to check it. -/
theorem build_settingsOf {b : Body} (htrimmed : b.reserved.isTrimmed = true) :
    (empty.setAll (settingsOf b) >>= build) = b.check := by
  have hdraft := foldl_put_settingsOf b
  rw [settingsOf, List.foldl_append] at hdraft
  simp only [List.foldl_cons, List.foldl_nil] at hdraft
  rw [settingsOf, setAll_append_of_fits (fits_freeSettings b), Body.check]
  -- The rules are checked in the order in which the settings come.
  by_cases hclauses : b.clauses = []
  · rw [setAll_cons_of_error (set_clauses_eq_error hclauses _),
      if_pos (List.isEmpty_iff.mpr hclauses)]
    rfl
  rw [setAll_cons_of_fits (fits_clauses hclauses), if_neg (mt List.isEmpty_iff.mp hclauses)]
  by_cases hgas : b.gas = 0
  · rw [setAll_cons_of_error (set_gas_eq_error hgas _), if_pos hgas]
    rfl
  rw [setAll_cons_of_fits (fits_gas hgas), if_neg hgas]
  cases hfee : b.fee.checked with
  | error e =>
    rw [setAll_cons_of_error (set_fee_eq_error hfee _)]
    rfl
  | ok fee =>
    rw [setAll_cons_of_fits (fits_fee hfee), setAll_cons_of_fits (fits_reserved htrimmed), hdraft]
    exact build_ofBody ⟨hclauses, hgas, (Fee.checked_eq_ok_iff.mp hfee).2, htrimmed⟩

end Draft

/-! ## Validity and reachability -/

/-- A valid body is built from nothing. -/
theorem Body.Valid.exists_build {b : Body} (h : b.Valid) :
    ∃ settings d, Draft.empty.setAll settings = .ok d ∧ d.build = .ok b := by
  obtain ⟨hchecked, htrimmed⟩ := Body.valid_iff.mp h
  have hbuilt := Draft.build_settingsOf htrimmed
  rw [Body.check_eq_ok_iff.mpr ⟨rfl, hchecked⟩, bind_eq_ok_iff] at hbuilt
  exact ⟨Draft.settingsOf b, hbuilt⟩

/-- The rules one by one. -/
theorem Body.valid_iff_rules {b : Body} :
    b.Valid ↔
      b.clauses ≠ [] ∧ 0 < b.gas ∧ (∀ cap tip, b.fee = .dynamic cap tip → tip ≤ cap) ∧
        b.reserved.unused.getLast? ≠ some [] := by
  have hgas : b.gas ≠ 0 ↔ 0 < b.gas := UInt64.pos_iff_ne_zero.symm
  have hfee : b.fee.Valid ↔ ∀ cap tip, b.fee = .dynamic cap tip → tip ≤ cap := by
    cases b.fee <;> simp [Fee.Valid]
  rw [valid_iff, Reserved.isTrimmed_iff, hgas, hfee]
  simp only [and_assoc]

/-- The bodies that can arise are those that keep the four rules.  Each of them
is built by some settings, and is read from its encoding. -/
theorem reachable_iff_valid :
    (∀ b : Body, b.Reachable ↔
      b.clauses ≠ [] ∧ 0 < b.gas ∧ (∀ cap tip, b.fee = .dynamic cap tip → tip ≤ cap) ∧
        b.reserved.unused.getLast? ≠ some []) ∧
    (∀ b : Body, b.Valid →
      ∃ settings d, Draft.empty.setAll settings = .ok d ∧ d.build = .ok b) ∧
    ∀ b : Body, b.Valid → b.encode.length < UInt32.size → Body.decode b.encode = .ok b.plain := by
  refine ⟨?_, ?_, ?_⟩
  · intro b
    rw [← Body.valid_iff_rules]
    constructor
    · intro h
      exact h.valid
    · intro h
      obtain ⟨settings, d, hset, hbuild⟩ := h.exists_build
      exact .built hset hbuild
  · intro b h
    exact h.exists_build
  · intro b h hlen
    exact Body.decode_encode h hlen

theorem reachable_iff_valid_sparse :
    sparseBody.Reachable ∧ sparseBody.Valid ∧ sparseBody.encode.length < UInt32.size ∧
      sparseBody.reserved.unused.getLast? ≠ some [] ∧
      (∃ settings d, Draft.empty.setAll settings = .ok d ∧ d.build = .ok sparseBody) ∧
      Body.decode sparseBody.encode = .ok sparseBody.plain := by
  have hvalid : sparseBody.Valid := sparseBody_reachable.valid
  have hlen : sparseBody.encode.length < UInt32.size := by decide
  obtain ⟨hrules, hbuilt, hread⟩ := reachable_iff_valid
  obtain ⟨-, -, -, htrimmed⟩ := (hrules sparseBody).mp sparseBody_reachable
  exact ⟨sparseBody_reachable, hvalid, hlen, htrimmed, hbuilt sparseBody hvalid,
    hread sparseBody hvalid hlen⟩

end ClauseTx
