import ClauseTx.Proofs.Rlp.Scalar
import ClauseTx.Transaction.Wire

/-!
# The fields of a transaction

Each part of a transaction is read exactly when it was written: a clause, a
reserved section, a fee, and the body that holds them.

Two things are not written.  A clause is written without its remark, so only
plain clauses come back (`Clause.ofItem_eq_ok_iff`).  Empty entries at the end
of a reserved section are trimmed, so only trimmed sections come back
(`Reserved.ofItem_eq_ok_iff`).  `Body.ofItems_eq_ok_iff` carries both
conditions.
-/

namespace ClauseTx

open Rlp

/-! ## Clauses -/

theorem UInt256.toNat_lt_pow (v : UInt256) : v.toNat < 256 ^ 32 :=
  v.toNat_lt

@[simp]
theorem Clause.plain_plain (c : Clause) : c.plain.plain = c.plain := rfl

@[simp]
theorem Clause.item_plain (c : Clause) : c.plain.item = c.item := rfl

theorem Clause.ofItem_eq_ok_iff {item : Item} {c : Clause} :
    Clause.ofItem item = .ok c ↔ item = c.item ∧ c.plain = c := by
  rw [Clause.ofItem, bind_eq_ok_iff]
  constructor
  · intro h
    obtain ⟨entries, hentries, h⟩ := h
    rw [asList_eq_ok_iff] at hentries
    subst hentries
    split at h
    · rename_i recipientItem valueItem dataItem
      obtain ⟨recipient, hrecipient, h⟩ := bind_eq_ok_iff.mp h
      obtain ⟨value, hvalue, h⟩ := bind_eq_ok_iff.mp h
      obtain ⟨data, hdata, h⟩ := bind_eq_ok_iff.mp h
      rw [pure_eq_ok_iff] at h
      subst h
      rw [decodeOptional_eq_ok_iff (by decide)] at hrecipient
      rw [decodeUInt_eq_ok_iff (by decide)] at hvalue
      rw [asBytes_eq_ok_iff] at hdata
      refine ⟨?_, rfl⟩
      rw [Clause.item, Option.map_map, hrecipient, hvalue.1, hdata]
      rfl
    · cases h
  · intro h
    obtain ⟨rfl, hplain⟩ := h
    have hrecipient :
        decodeOptional 20 "clause.to" (encodeOptional (c.recipient.map Address.bytes)) =
          .ok (c.recipient.map Address.blob) := by
      rw [decodeOptional_eq_ok_iff (by decide), Option.map_map]
      rfl
    have hvalue : decodeUInt "clause.value" 32 (encodeUInt c.value) = .ok c.value :=
      (decodeUInt_eq_ok_iff (by decide)).mpr ⟨rfl, c.value.toNat_lt_pow⟩
    refine ⟨_, rfl, ?_⟩
    refine bind_eq_ok_iff.mpr ⟨_, hrecipient, ?_⟩
    refine bind_eq_ok_iff.mpr ⟨_, hvalue, ?_⟩
    refine bind_eq_ok_iff.mpr ⟨c.data, rfl, ?_⟩
    have hmap : (c.recipient.map Address.blob).map Address.mk = c.recipient := by
      rw [Option.map_map]
      exact Option.map_id_fun ▸ rfl
    rw [hmap, pure_eq_ok_iff, ← hplain]
    rfl

/-! ## Reserved sections -/

/-- A list with a full last entry has nothing to trim. -/
theorem trimItems_cons {first : Item} {rest : List Item}
    (h : (rest.getLast?.getD first).isEmpty = false) :
    trimItems (first :: rest) = first :: rest := by
  have hlast : (first :: rest).reverse.head? = some (rest.getLast?.getD first) := by
    rw [List.head?_reverse, List.getLast?_cons]
  rw [trimItems]
  cases hrev : (first :: rest).reverse with
  | nil => simp at hrev
  | cons last others =>
    rw [hrev, List.head?_cons, Option.some.injEq] at hlast
    rw [List.dropWhile_cons_of_neg (by simpa [hlast] using h), ← hrev, List.reverse_reverse]

theorem encodeUInt64_isEmpty {value : UInt64} (h : value ≠ 0) :
    (encodeUInt64 value).isEmpty = false := by
  rw [encodeUInt64, Item.isEmpty, List.isEmpty_eq_false_iff]
  intro hnil
  apply h
  have hval : (minimalBytes value).toNat = value.toNat := by
    rw [minimalBytes, Bytes.toNat_stripZeros, Bytes.toNat_ofNat_of_lt value.toNat_lt]
  rw [hnil, Bytes.toNat_nil] at hval
  exact UInt64.toNat_inj.mp hval.symm

namespace Reserved

/-- The items of a reserved section before they are trimmed. -/
def rawItems (r : Reserved) : List Item :=
  encodeUInt64 r.features.toUInt64 :: r.unused.map Item.bytes

theorem isTrimmed_iff (r : Reserved) : r.isTrimmed = true ↔ r.unused.getLast? ≠ some [] := by
  simp [isTrimmed]

/-- A trimmed section without any content is the default one.  Any other has a
full last entry. -/
theorem eq_default_or_full {r : Reserved} (h : r.isTrimmed = true) :
    r = {} ∨
      ((r.unused.map Item.bytes).getLast?.getD (encodeUInt64 r.features.toUInt64)).isEmpty =
        false := by
  rw [isTrimmed_iff] at h
  obtain ⟨features, unused⟩ := r
  rw [List.getLast?_map]
  cases hlast : unused.getLast? with
  | none =>
    rw [List.getLast?_eq_none_iff] at hlast
    subst hlast
    by_cases hf : features = 0
    · left
      rw [hf]
    · right
      refine encodeUInt64_isEmpty fun he => hf ?_
      rw [← UInt32.toNat_inj, ← UInt32.toNat_toUInt64, he]
      rfl
  | some last =>
    right
    rw [hlast] at h
    show last.isEmpty = false
    rw [List.isEmpty_eq_false_iff]
    intro hnil
    exact h (by rw [hnil])

theorem ofItem_eq_ok_iff {item : Item} {r : Reserved} :
    Reserved.ofItem item = .ok r ↔ item = r.item ∧ r.isTrimmed = true := by
  rw [Reserved.ofItem, bind_eq_ok_iff]
  have unused_iff {items : List Item} {unused : List Bytes} :
      items.mapM (Item.asBytes "reserved.unused") = .ok unused ↔
        items = unused.map Item.bytes ∧ ∀ entry ∈ unused, True :=
    mapM_eq_ok_iff fun item content => by rw [asBytes_eq_ok_iff, and_true]
  constructor
  · intro h
    obtain ⟨entries, hentries, h⟩ := h
    rw [asList_eq_ok_iff] at hentries
    subst hentries
    split at h
    · rw [pure_eq_ok_iff] at h
      subst h
      exact ⟨rfl, rfl⟩
    rename_i featuresItem unusedItems
    split at h
    · cases h
    rename_i hfull
    rw [Bool.not_eq_true] at hfull
    obtain ⟨features, hfeatures, h⟩ := bind_eq_ok_iff.mp h
    obtain ⟨unused, hunused, h⟩ := bind_eq_ok_iff.mp h
    rw [pure_eq_ok_iff] at h
    subst h
    have hfeatures := (decodeUInt64_toUInt32_iff _).mp ⟨features, hfeatures, rfl⟩
    obtain ⟨hunused, -⟩ := unused_iff.mp hunused
    subst hfeatures hunused
    refine ⟨by rw [Reserved.item, trimItems_cons hfull], ?_⟩
    rw [isTrimmed_iff]
    intro hlast
    dsimp only at hlast
    rw [List.getLast?_map, hlast] at hfull
    cases hfull
  · intro h
    obtain ⟨rfl, htrimmed⟩ := h
    rcases eq_default_or_full htrimmed with rfl | hfull
    · exact ⟨[], rfl, rfl⟩
    · refine ⟨r.rawItems, ?_, ?_⟩
      · rw [Reserved.item, trimItems_cons hfull]
        rfl
      · obtain ⟨features, hfeatures, htoUInt32⟩ :=
          (decodeUInt64_toUInt32_iff "reserved.features").mpr
            (rfl : encodeUInt64 r.features.toUInt64 = _)
        show (if _ then _ else _) = _
        rw [if_neg (by rw [hfull]; decide)]
        refine bind_eq_ok_iff.mpr ⟨features, hfeatures, ?_⟩
        refine bind_eq_ok_iff.mpr ⟨r.unused, unused_iff.mpr ⟨rfl, fun _ _ => trivial⟩, ?_⟩
        rw [htoUInt32]
        rfl

end Reserved

/-! ## Fees -/

namespace Fee

theorem ofCoefItem_eq_ok_iff {item : Item} {fee : Fee} :
    Fee.ofCoefItem item = .ok fee ↔ fee.isDynamic = false ∧ [item] = fee.items := by
  rw [Fee.ofCoefItem, bind_eq_ok_iff]
  constructor
  · intro h
    obtain ⟨n, hn, hfee⟩ := h
    rw [pure_eq_ok_iff] at hfee
    subst hfee
    have hitem := (decodeUInt64_toUInt8_iff _).mp ⟨n, hn, rfl⟩
    exact ⟨rfl, by rw [Fee.items, hitem]⟩
  · intro h
    obtain ⟨hkind, hitems⟩ := h
    cases fee with
    | dynamic maxFee maxPriority => cases hkind
    | legacy coef =>
      rw [Fee.items, List.cons.injEq] at hitems
      obtain ⟨n, hn, hcoef⟩ :=
        (decodeUInt64_toUInt8_iff "gasPriceCoef").mpr hitems.1
      refine ⟨n, hn, ?_⟩
      rw [hcoef]
      rfl

theorem ofAmountItems_eq_ok_iff {tip cap : Item} {fee : Fee} :
    Fee.ofAmountItems tip cap = .ok fee ↔ fee.isDynamic = true ∧ [tip, cap] = fee.items := by
  rw [Fee.ofAmountItems, bind_eq_ok_iff]
  constructor
  · intro h
    obtain ⟨maxPriority, htip, h⟩ := h
    obtain ⟨maxFee, hcap, hfee⟩ := bind_eq_ok_iff.mp h
    rw [pure_eq_ok_iff] at hfee
    subst hfee
    rw [decodeUInt_eq_ok_iff (by decide)] at htip hcap
    exact ⟨rfl, by rw [Fee.items, htip.1, hcap.1]⟩
  · intro h
    obtain ⟨hkind, hitems⟩ := h
    cases fee with
    | legacy coef => cases hkind
    | dynamic maxFee maxPriority =>
      rw [Fee.items, List.cons.injEq, List.cons.injEq] at hitems
      obtain ⟨htip, hcap, -⟩ := hitems
      subst htip hcap
      have hreads (field : String) (v : UInt256) : decodeUInt field 32 (encodeUInt v) = .ok v :=
        (decodeUInt_eq_ok_iff (by decide)).mpr ⟨rfl, v.toNat_lt_pow⟩
      refine ⟨maxPriority, hreads _ _, ?_⟩
      exact bind_eq_ok_iff.mpr ⟨maxFee, hreads _ _, rfl⟩

end Fee

/-! ## Bodies -/

namespace Body

@[simp]
theorem plain_plain (b : Body) : b.plain.plain = b.plain := by
  simp [plain]

/-- A body is plain when its clauses are. -/
theorem plain_eq_self_iff {b : Body} : b.plain = b ↔ ∀ c ∈ b.clauses, c.plain = c := by
  constructor
  · intro h c hc
    have hclauses : b.clauses.map Clause.plain = b.clauses := congrArg Body.clauses h
    rw [← hclauses, List.mem_map] at hc
    obtain ⟨c', -, hc'⟩ := hc
    rw [← hc', Clause.plain_plain]
  · intro h
    have hclauses : b.clauses.map Clause.plain = b.clauses :=
      (List.map_congr_left h).trans (List.map_id b.clauses)
    show { b with clauses := b.clauses.map Clause.plain } = b
    rw [hclauses]

/-- The items of a body do not tell its remarks. -/
@[simp]
theorem items_plain (b : Body) : b.plain.items = b.items := by
  simp [items, plain]

/-- A body is read exactly when its fields were written one by one. -/
theorem ofItems_eq_ok_iff {tag block expiration clauses gas depends nonce reserved : Item}
    {fee : Except Rlp.Error Fee} {b : Body} :
    Body.ofItems tag block expiration clauses fee gas depends nonce reserved = .ok b ↔
      (tag = encodeUInt64 b.chainTag.toUInt64 ∧
        block = encodeCompact b.blockRef.bytes ∧
        expiration = encodeUInt64 b.expiration.toUInt64 ∧
        clauses = .list (b.clauses.map Clause.item)) ∧
      fee = .ok b.fee ∧
      (gas = encodeUInt64 b.gas ∧
        depends = encodeOptional (b.dependsOn.map Blob.bytes) ∧
        nonce = encodeUInt64 b.nonce ∧
        reserved = b.reserved.item) ∧
      b.plain = b ∧ b.reserved.isTrimmed = true := by
  have clauses_iff {items : List Item} {cs : List Clause} :
      items.mapM Clause.ofItem = .ok cs ↔ items = cs.map Clause.item ∧ ∀ c ∈ cs, c.plain = c :=
    mapM_eq_ok_iff fun item c => Clause.ofItem_eq_ok_iff
  rw [Body.ofItems, bind_eq_ok_iff]
  constructor
  · intro h
    obtain ⟨chainTag, htag, h⟩ := h
    obtain ⟨blockRef, hblock, h⟩ := bind_eq_ok_iff.mp h
    obtain ⟨expires, hexpiration, h⟩ := bind_eq_ok_iff.mp h
    obtain ⟨clauseItems, hlist, h⟩ := bind_eq_ok_iff.mp h
    obtain ⟨cs, hclauses, h⟩ := bind_eq_ok_iff.mp h
    obtain ⟨f, hfee, h⟩ := bind_eq_ok_iff.mp h
    obtain ⟨gas', hgas, h⟩ := bind_eq_ok_iff.mp h
    obtain ⟨dependsOn, hdepends, h⟩ := bind_eq_ok_iff.mp h
    obtain ⟨nonce', hnonce, h⟩ := bind_eq_ok_iff.mp h
    obtain ⟨r, hreserved, h⟩ := bind_eq_ok_iff.mp h
    rw [pure_eq_ok_iff] at h
    subst h
    rw [asList_eq_ok_iff] at hlist
    rw [clauses_iff] at hclauses
    rw [Reserved.ofItem_eq_ok_iff] at hreserved
    refine ⟨⟨?_, ?_, ?_, ?_⟩, hfee, ⟨?_, ?_, ?_, hreserved.1⟩, ?_, hreserved.2⟩
    · exact (decodeUInt64_toUInt8_iff _).mp ⟨chainTag, htag, rfl⟩
    · exact decodeCompact_eq_ok_iff.mp hblock
    · exact (decodeUInt64_toUInt32_iff _).mp ⟨expires, hexpiration, rfl⟩
    · rw [hlist, hclauses.1]
    · exact ((decodeUInt64_eq_ok_iff (by decide)).mp hgas).1
    · exact (decodeOptional_eq_ok_iff (by decide)).mp hdepends
    · exact ((decodeUInt64_eq_ok_iff (by decide)).mp hnonce).1
    · exact plain_eq_self_iff.mpr hclauses.2
  · intro h
    obtain ⟨⟨htag, hblock, hexpiration, hclauses⟩, hfee, ⟨hgas, hdepends, hnonce, hreserved⟩,
      hplain, htrimmed⟩ := h
    have hword (field : String) (v : UInt64) : decodeUInt64 field 8 (encodeUInt64 v) = .ok v :=
      (decodeUInt64_eq_ok_iff (by decide)).mpr ⟨rfl, v.toNat_lt⟩
    obtain ⟨tag', htag, htag'⟩ := (decodeUInt64_toUInt8_iff "chainTag").mpr htag
    obtain ⟨expires, hexpiration, hexpires⟩ :=
      (decodeUInt64_toUInt32_iff "expiration").mpr hexpiration
    refine ⟨tag', htag, ?_⟩
    refine bind_eq_ok_iff.mpr ⟨b.blockRef, decodeCompact_eq_ok_iff.mpr hblock, ?_⟩
    refine bind_eq_ok_iff.mpr ⟨expires, hexpiration, ?_⟩
    refine bind_eq_ok_iff.mpr ⟨_, asList_eq_ok_iff.mpr hclauses, ?_⟩
    refine bind_eq_ok_iff.mpr
      ⟨b.clauses, clauses_iff.mpr ⟨rfl, plain_eq_self_iff.mp hplain⟩, ?_⟩
    refine bind_eq_ok_iff.mpr ⟨b.fee, hfee, ?_⟩
    refine bind_eq_ok_iff.mpr ⟨b.gas, by rw [hgas, hword], ?_⟩
    refine bind_eq_ok_iff.mpr
      ⟨b.dependsOn, (decodeOptional_eq_ok_iff (by decide)).mpr hdepends, ?_⟩
    refine bind_eq_ok_iff.mpr ⟨b.nonce, by rw [hnonce, hword], ?_⟩
    refine bind_eq_ok_iff.mpr
      ⟨b.reserved, Reserved.ofItem_eq_ok_iff.mpr ⟨hreserved, htrimmed⟩, ?_⟩
    rw [htag', hexpires]
    rfl

end Body

end ClauseTx
