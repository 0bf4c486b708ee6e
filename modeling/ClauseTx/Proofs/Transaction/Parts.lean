import ClauseTx.Proofs.Transaction.Draft

/-!
# The parts of a draft

A setting is about one part of a draft (`Setting.part`).  It neither looks at
the other parts nor touches them.

* One setting.  `Draft.get_put_of_ne` says that it leaves the other parts, and
  `Draft.get_put_congr` and `Draft.accepts_congr` that they do not matter to
  it.
* The settings of one part.  They can be put without the others
  (`Draft.exists_setAll_among`), and runs for all parts make a run for all
  settings (`Draft.exists_setAll_of_among`).  So only the order within each part
  counts (`Draft.setAll_eq_ok_iff_of_among_eq`).
-/

namespace ClauseTx

/-! ## Parts -/

/-- The parts of a body. -/
inductive Part where
  | chainTag
  | blockRef
  | expiration
  | clauses
  | gas
  | dependsOn
  | nonce
  | fee
  | reserved
deriving DecidableEq

/-- The part that a setting is about. -/
def Setting.part : Setting → Part
  | .chainTag _ => .chainTag
  | .blockRef _ => .blockRef
  | .expiration _ => .expiration
  | .clause _ | .clauses _ => .clauses
  | .gas _ => .gas
  | .dependsOn _ => .dependsOn
  | .nonce _ => .nonce
  | .coef _ | .maxFee _ | .maxPriority _ | .fee _ => .fee
  | .reserved _ | .delegated _ => .reserved

namespace Part

/-- What a part holds, where the fee is held as `F`. -/
abbrev Value (F : Type) : Part → Type
  | .chainTag => UInt8
  | .blockRef => Blob 8
  | .expiration => UInt32
  | .clauses => List Clause
  | .gas => UInt64
  | .dependsOn => Option (Blob 32)
  | .nonce => UInt64
  | .fee => F
  | .reserved => Reserved

/-- The settings of a part among others, in their order. -/
def among (p : Part) (settings : List Setting) : List Setting :=
  settings.filter (·.part = p)

variable {p q : Part} {s : Setting}

theorem among_cons_of_eq (h : s.part = p) (settings : List Setting) :
    p.among (s :: settings) = s :: p.among settings :=
  List.filter_cons_of_pos (decide_eq_true h)

theorem among_cons_of_ne (h : s.part ≠ p) (settings : List Setting) :
    p.among (s :: settings) = p.among settings :=
  List.filter_cons_of_neg (by simpa using h)

@[simp]
theorem among_among (p : Part) (settings : List Setting) :
    p.among (p.among settings) = p.among settings := by
  simp [among]

theorem among_among_of_ne (h : q ≠ p) (settings : List Setting) :
    q.among (p.among settings) = [] := by
  rw [among, among, List.filter_filter, List.filter_eq_nil_iff]
  intro s _ hs
  simp only [Bool.and_eq_true, decide_eq_true_eq] at hs
  exact h (hs.1.symm.trans hs.2)

theorem among_eq_nil {settings : List Setting} (h : ∀ s ∈ settings, s.part ≠ p) :
    p.among settings = [] := by
  rw [among, List.filter_eq_nil_iff]
  intro s hs hpart
  exact h s hs (of_decide_eq_true hpart)

end Part

namespace Draft

/-- A part of a draft.  The fee is held in three slots. -/
def get (d : Draft) : (p : Part) → p.Value (Option UInt8 × Option UInt256 × Option UInt256)
  | .chainTag => d.chainTag
  | .blockRef => d.blockRef
  | .expiration => d.expiration
  | .clauses => d.clauses
  | .gas => d.gas
  | .dependsOn => d.dependsOn
  | .nonce => d.nonce
  | .fee => (d.coef, d.maxFee, d.maxPriority)
  | .reserved => d.reserved

variable {d d' e : Draft} {s t : Setting} {p q : Part} {settings settings' : List Setting}

theorem get_fee_eq_iff : d.get .fee = e.get .fee ↔
    d.coef = e.coef ∧ d.maxFee = e.maxFee ∧ d.maxPriority = e.maxPriority := by
  simp [get]

/-- A draft is all of its parts. -/
theorem ext_get (h : ∀ p, d.get p = e.get p) : d = e := by
  obtain ⟨hcoef, hmaxFee, hmaxPriority⟩ := get_fee_eq_iff.mp (h .fee)
  cases d
  cases e
  rw [mk.injEq]
  exact ⟨h .chainTag, h .blockRef, h .expiration, h .clauses, h .gas, h .dependsOn, h .nonce,
    hcoef, hmaxFee, hmaxPriority, h .reserved⟩

/-! ## One setting -/

/-- A setting leaves the parts that it is not about. -/
theorem get_put_of_ne (h : s.part ≠ p) : (d.put s).get p = d.get p := by
  cases s with
  | fee fee => cases fee <;> cases p <;> first | rfl | exact absurd rfl h
  | _ => cases p <;> first | rfl | exact absurd rfl h

/-- What a setting makes of its part depends on that part only. -/
theorem get_put_congr (h : d.get s.part = e.get s.part) :
    (d.put s).get s.part = (e.put s).get s.part := by
  cases s with
  | blockRef bytes =>
    have hpart : d.blockRef = e.blockRef := h
    simp [put, get, Setting.part, hpart]
  | clause clause =>
    have hpart : d.clauses = e.clauses := h
    simp [put, get, Setting.part, hpart]
  | delegated on =>
    have hpart : d.reserved = e.reserved := h
    simp [put, get, Setting.part, hpart]
  | coef _ | maxFee _ | maxPriority _ =>
    obtain ⟨hcoef, hmaxFee, hmaxPriority⟩ := get_fee_eq_iff.mp h
    simp [put, get, Setting.part, hcoef, hmaxFee, hmaxPriority]
  | fee fee => cases fee <;> rfl
  | _ => rfl

/-- Whether a value is taken depends on the part that it is for. -/
theorem accepts_congr (h : d.get s.part = e.get s.part) : d.Accepts s ↔ e.Accepts s := by
  cases s with
  | coef _ | maxFee _ | maxPriority _ =>
    obtain ⟨hcoef, hmaxFee, hmaxPriority⟩ := get_fee_eq_iff.mp h
    simp [Accepts, hcoef, hmaxFee, hmaxPriority]
  | _ => exact Iff.rfl

/-! ## The settings of one part -/

/-- What is put into a part does not depend on what is put elsewhere: its
settings alone make the same of it, and leave the rest. -/
theorem exists_setAll_among (h : d.setAll settings = .ok d') (hp : d.get p = e.get p) :
    ∃ e', e.setAll (p.among settings) = .ok e' ∧ e'.get p = d'.get p ∧
      ∀ q, q ≠ p → e'.get q = e.get q := by
  -- The two runs have nothing but the part in common, which each step keeps.
  induction settings generalizing d e with
  | nil =>
    cases h
    exact ⟨e, rfl, hp.symm, fun _ _ => rfl⟩
  | cons s settings ih =>
    obtain ⟨haccepts, hrest⟩ := setAll_cons_eq_ok_iff.mp h
    by_cases hpart : s.part = p
    · subst hpart
      obtain ⟨e', he', hsame, hothers⟩ := ih hrest (get_put_congr hp)
      rw [Part.among_cons_of_eq rfl, setAll_cons_of_accepts ((accepts_congr hp).mp haccepts)]
      refine ⟨e', he', hsame, ?_⟩
      intro q hq
      rw [hothers q hq, get_put_of_ne (Ne.symm hq)]
    · rw [Part.among_cons_of_ne hpart]
      exact ih hrest ((get_put_of_ne hpart).trans hp)

/-- Settings that are taken part by part are taken together. -/
theorem exists_setAll_of_among (h : ∀ p : Part, ∃ e, d.setAll (p.among settings) = .ok e) :
    ∃ d', d.setAll settings = .ok d' := by
  induction settings generalizing d with
  | nil => exact ⟨d, rfl⟩
  | cons s settings ih =>
    obtain ⟨e, he⟩ := h s.part
    rw [Part.among_cons_of_eq rfl] at he
    obtain ⟨haccepts, hrest⟩ := setAll_cons_eq_ok_iff.mp he
    rw [setAll_cons_of_accepts haccepts]
    apply ih
    intro p
    by_cases hpart : s.part = p
    · subst hpart
      exact ⟨e, hrest⟩
    · -- The settings of another part do not notice the one in front.
      obtain ⟨e, he⟩ := h p
      rw [Part.among_cons_of_ne hpart] at he
      obtain ⟨e', he', -⟩ := exists_setAll_among (e := d.put s) he (get_put_of_ne hpart).symm
      rw [Part.among_among] at he'
      exact ⟨e', he'⟩

/-- Settings with the same order in each part make the same draft. -/
theorem setAll_of_among_eq (h : ∀ p : Part, p.among settings = p.among settings')
    (hset : d.setAll settings = .ok d') : d.setAll settings' = .ok d' := by
  have halone (p : Part) := exists_setAll_among (p := p) hset rfl
  obtain ⟨e, he⟩ : ∃ e, d.setAll settings' = .ok e := by
    apply exists_setAll_of_among
    intro p
    obtain ⟨e, he, -⟩ := halone p
    rw [h p] at he
    exact ⟨e, he⟩
  -- In each part both drafts are what its settings alone make of it.
  rw [he]
  congr 1
  apply ext_get
  intro p
  obtain ⟨f, hf, hsame, -⟩ := halone p
  obtain ⟨f', hf', hsame', -⟩ := exists_setAll_among (p := p) he rfl
  rw [← h p, hf] at hf'
  cases hf'
  rw [← hsame, hsame']

/-- Only the order within each part counts. -/
theorem setAll_eq_ok_iff_of_among_eq (h : ∀ p : Part, p.among settings = p.among settings') :
    d.setAll settings = .ok d' ↔ d.setAll settings' = .ok d' :=
  ⟨setAll_of_among_eq h, setAll_of_among_eq fun p => (h p).symm⟩

/-- Two settings of different parts come in either order. -/
theorem among_swap (h : s.part ≠ t.part) (p : Part) : p.among [s, t] = p.among [t, s] := by
  by_cases hs : s.part = p
  · have ht : t.part ≠ p := fun ht => h (hs.trans ht.symm)
    rw [Part.among_cons_of_eq hs, Part.among_cons_of_ne ht, Part.among_cons_of_ne ht,
      Part.among_cons_of_eq hs]
  · rw [Part.among_cons_of_ne hs]
    by_cases ht : t.part = p
    · rw [Part.among_cons_of_eq ht, Part.among_cons_of_eq ht, Part.among_cons_of_ne hs]
    · rw [Part.among_cons_of_ne ht, Part.among_cons_of_ne ht, Part.among_cons_of_ne hs]

end Draft

end ClauseTx
