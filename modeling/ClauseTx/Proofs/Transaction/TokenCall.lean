import ClauseTx.Proofs.Transaction.ReadBack
import ClauseTx.Proofs.Transaction.Reachable

/-!
# Calls of token contracts

The data of a call is a selector of four bytes and words of 32 bytes.  It is
cut into them again, and each word is read back to the argument that it stands
for.  So a clause tells which call it makes, and different calls are made by
different clauses.

* Call data.  `CallData.eq_append_iff` says that the selector and the words
  are all there is to call data, with nothing between them or behind.
* Words.  An address stands at the end of its word behind twelve zero bytes,
  and an amount fills its word.  `Address.ofWord?_eq_some_iff` and
  `UInt256.ofWord?_eq_some_iff` read exactly these.
* Calls.  `TokenCall` has one constructor for each kind of call.
  `Clause.tokenCall?_eq_some_iff` is the equivalence from which the rest
  follows: a call is read from the clauses that make it and from no other.

Zero bytes are dropped in front of the amount that a clause sends, but its data
is encoded as it is.  So leading zeros of an argument come back
(`token_calls_read_back`).
-/

namespace ClauseTx

/-! ## Call data -/

namespace CallData

/-- The selector in front of call data. -/
def selector (data : Bytes) : Bytes :=
  data.take 4

/-- Cuts a number of words off a byte string. -/
def cut : (count : Nat) → Bytes → List Bytes
  | 0, _ => []
  | count + 1, bs => bs.take 32 :: cut count (bs.drop 32)

/-- The words behind the selector.  Only the last one can be shorter than 32
bytes. -/
def words (data : Bytes) : List Bytes :=
  cut (((data.drop 4).length + 31) / 32) (data.drop 4)

/-- Nothing is lost if there are enough cuts. -/
theorem flatten_cut {count : Nat} {bs : Bytes} (h : bs.length ≤ 32 * count) :
    (cut count bs).flatten = bs := by
  induction count generalizing bs with
  | zero =>
    have hnil : bs = [] := List.length_eq_zero_iff.mp (by omega)
    rw [hnil]
    rfl
  | succ count ih =>
    rw [cut, List.flatten_cons, ih (by simp; omega), List.take_append_drop]

section

variable {ws : List Bytes} (hws : ∀ w ∈ ws, w.length = 32)

include hws

theorem length_flatten : ws.flatten.length = 32 * ws.length := by
  rw [List.length_flatten, List.map_eq_replicate_iff.mpr hws, List.sum_replicate_nat]
  omega

theorem cut_flatten : cut ws.length ws.flatten = ws := by
  induction ws with
  | nil => rfl
  | cons w ws ih =>
    have hw : w.length = 32 := hws w (List.mem_cons_self ..)
    rw [List.length_cons, List.flatten_cons, cut, List.take_left' hw, List.drop_left' hw, ih]
    intro w' hw'
    exact hws w' (List.mem_cons_of_mem w hw')

/-- Call data is its selector and its words. -/
theorem eq_append_iff {data s : Bytes} (hs : s.length = 4) :
    data = s ++ ws.flatten ↔ selector data = s ∧ words data = ws := by
  constructor
  · rintro rfl
    refine ⟨List.take_left' hs, ?_⟩
    rw [words, List.drop_left' hs, length_flatten hws,
      show (32 * ws.length + 31) / 32 = ws.length by omega, cut_flatten hws]
  · rintro ⟨rfl, rfl⟩
    rw [words, flatten_cut (by omega), selector, List.take_append_drop]

end

end CallData

/-! ## Words -/

namespace Clause

@[simp]
theorem length_addressWord (a : Address) : (addressWord a).length = 32 := by
  simp [addressWord, Address.bytes, a.blob.length_eq]

@[simp]
theorem length_amountWord (v : UInt256) : (amountWord v).length = 32 :=
  Bytes.length_ofNat 32 v.toNat

@[simp]
theorem toNat_addressWord (a : Address) : (addressWord a).toNat = a.blob.toNat :=
  Bytes.toNat_replicate_zero_append 12 a.bytes

@[simp]
theorem toNat_amountWord (v : UInt256) : (amountWord v).toNat = v.toNat :=
  Bytes.toNat_ofNat_of_lt v.toNat_lt

end Clause

/-- The address that a word stands for. -/
def Address.ofWord? (w : Bytes) : Option Address :=
  if w.take 12 = List.replicate 12 0 then (Blob.ofBytes? (w.drop 12)).map Address.mk else none

/-- The amount that a word stands for. -/
def UInt256.ofWord? (w : Bytes) : Option UInt256 :=
  if w.length = 32 then ofNat? w.toNat else none

theorem Address.ofWord?_eq_some_iff {w : Bytes} {a : Address} :
    ofWord? w = some a ↔ w = Clause.addressWord a := by
  rw [ofWord?]
  constructor
  · intro h
    split_ifs at h with hzeros
    obtain ⟨blob, hblob, rfl⟩ := Option.map_eq_some_iff.mp h
    rw [Blob.ofBytes?_eq_some_iff] at hblob
    rw [Clause.addressWord, Address.bytes, ← hblob, ← hzeros, List.take_append_drop]
  · rintro rfl
    have htake : (Clause.addressWord a).take 12 = List.replicate 12 0 := List.take_left' rfl
    have hdrop : (Clause.addressWord a).drop 12 = a.blob.bytes := List.drop_left' rfl
    rw [if_pos htake, hdrop, Blob.ofBytes?_eq_some_iff.mpr rfl]
    rfl

theorem UInt256.ofWord?_eq_some_iff {w : Bytes} {v : UInt256} :
    ofWord? w = some v ↔ w = Clause.amountWord v := by
  rw [ofWord?]
  constructor
  · intro h
    split_ifs at h with hlen
    rw [ofNat?_eq_some_iff] at h
    rw [Clause.amountWord, h, ← hlen, Bytes.ofNat_toNat]
  · intro h
    rw [h, if_pos (Clause.length_amountWord v), ofNat?_eq_some_iff, Clause.toNat_amountWord]

/-! ## Calls -/

/-- A call of a token contract. -/
inductive TokenCall where
  /-- Sends an amount of a token. -/
  | transfer (token recipient : Address) (amount : UInt256)
  /-- Passes a token with an id of its own from one account to another. -/
  | transferUnique (contract owner recipient : Address) (id : UInt256)
deriving DecidableEq

namespace TokenCall

/-- The clause that makes a call. -/
def clause : TokenCall → Clause
  | .transfer token recipient amount => Clause.transferToken token recipient amount
  | .transferUnique contract owner recipient id =>
    Clause.transferUnique contract owner recipient id

/-- The contract that is called. -/
def contract : TokenCall → Address
  | .transfer token _ _ => token
  | .transferUnique contract _ _ _ => contract

/-- The selector of a call. -/
def selector : TokenCall → Bytes
  | .transfer .. => Clause.transferSelector
  | .transferUnique .. => Clause.transferFromSelector

/-- The words of a call, one for each argument in its order. -/
def words : TokenCall → List Bytes
  | .transfer _ recipient amount => [Clause.addressWord recipient, Clause.amountWord amount]
  | .transferUnique _ owner recipient id =>
    [Clause.addressWord owner, Clause.addressWord recipient, Clause.amountWord id]

/-- The arguments of a call as numbers. -/
def numbers : TokenCall → List Nat
  | .transfer _ recipient amount => [recipient.blob.toNat, amount.toNat]
  | .transferUnique _ owner recipient id => [owner.blob.toNat, recipient.blob.toNat, id.toNat]

/-- The call that a contract, a selector and words stand for. -/
def ofWords? (contract : Address) (selector : Bytes) : List Bytes → Option TokenCall
  | [recipient, amount] =>
    if selector = Clause.transferSelector then do
      return .transfer contract (← Address.ofWord? recipient) (← UInt256.ofWord? amount)
    else none
  | [owner, recipient, id] =>
    if selector = Clause.transferFromSelector then do
      return .transferUnique contract (← Address.ofWord? owner) (← Address.ofWord? recipient)
        (← UInt256.ofWord? id)
    else none
  | _ => none

/-- The function of the contract, as it is declared. -/
def declaration : TokenCall → String
  | .transfer .. => "transfer(address,uint256)"
  | .transferUnique .. => "transferFrom(address,address,uint256)"

/-- Contracts find a function by the start of the digest of its declaration. -/
theorem selector_eq_digest (call : TokenCall) :
    call.selector = (Hash.keccak256 (Bytes.ofText call.declaration)).bytes.take 4 := by
  cases call with
  | transfer =>
    show Clause.transferSelector =
      (Hash.keccak256 (Bytes.ofText "transfer(address,uint256)")).bytes.take 4
    decide +kernel
  | transferUnique =>
    show Clause.transferFromSelector =
      (Hash.keccak256 (Bytes.ofText "transferFrom(address,address,uint256)")).bytes.take 4
    decide +kernel

theorem length_selector (call : TokenCall) : call.selector.length = 4 := by
  cases call <;> rfl

theorem length_of_mem_words (call : TokenCall) : ∀ w ∈ call.words, w.length = 32 := by
  cases call <;> simp [words]

theorem map_toNat_words (call : TokenCall) : call.words.map Bytes.toNat = call.numbers := by
  cases call <;> simp [words, numbers]

theorem clause_eq_call (call : TokenCall) :
    call.clause = Clause.call call.contract (call.selector ++ call.words.flatten) 0 := by
  cases call <;>
    simp [clause, contract, selector, words, Clause.transferToken, Clause.transferUnique]

theorem ofWords?_eq_some_iff {contract : Address} {selector : Bytes} {ws : List Bytes}
    {call : TokenCall} :
    ofWords? contract selector ws = some call ↔
      contract = call.contract ∧ selector = call.selector ∧ ws = call.words := by
  constructor
  · intro h
    unfold ofWords? at h
    -- The number of words tells which of the selectors has to stand in front of them.
    split at h
    · split_ifs at h with hselector
      obtain ⟨recipient, hrecipient, h⟩ := Option.bind_eq_some_iff.mp h
      obtain ⟨amount, hamount, h⟩ := Option.bind_eq_some_iff.mp h
      cases h
      rw [Address.ofWord?_eq_some_iff] at hrecipient
      rw [UInt256.ofWord?_eq_some_iff] at hamount
      exact ⟨rfl, hselector, by rw [hrecipient, hamount]; rfl⟩
    · split_ifs at h with hselector
      obtain ⟨owner, howner, h⟩ := Option.bind_eq_some_iff.mp h
      obtain ⟨recipient, hrecipient, h⟩ := Option.bind_eq_some_iff.mp h
      obtain ⟨id, hid, h⟩ := Option.bind_eq_some_iff.mp h
      cases h
      rw [Address.ofWord?_eq_some_iff] at howner hrecipient
      rw [UInt256.ofWord?_eq_some_iff] at hid
      exact ⟨rfl, hselector, by rw [howner, hrecipient, hid]; rfl⟩
    · cases h
  · rintro ⟨rfl, rfl, rfl⟩
    have haddress (a : Address) : Address.ofWord? (Clause.addressWord a) = some a :=
      Address.ofWord?_eq_some_iff.mpr rfl
    have hamount (v : UInt256) : UInt256.ofWord? (Clause.amountWord v) = some v :=
      UInt256.ofWord?_eq_some_iff.mpr rfl
    cases call <;> simp [ofWords?, TokenCall.contract, TokenCall.selector, words, haddress, hamount]

end TokenCall

namespace Clause

/-- The call that a clause makes, if it sends no amount and calls a contract
with the data of a call. -/
def tokenCall? (c : Clause) : Option TokenCall :=
  if c.value = 0 then
    c.recipient.bind fun contract =>
      TokenCall.ofWords? contract (CallData.selector c.data) (CallData.words c.data)
  else none

@[simp]
theorem agrees_self (c : Clause) : c.agrees c = true :=
  decide_eq_true rfl

theorem agrees_iff {c c' : Clause} :
    c.agrees c' = true ↔ c.recipient = c'.recipient ∧ c.value = c'.value ∧ c.data = c'.data := by
  simp [agrees, plain]

/-- Remarks are not part of a call. -/
@[simp]
theorem tokenCall?_plain (c : Clause) : c.plain.tokenCall? = c.tokenCall? := rfl

/-- A clause makes a call exactly if its parts are those of the call. -/
theorem agrees_clause_iff {c : Clause} {call : TokenCall} :
    c.agrees call.clause = true ↔
      c.recipient = some call.contract ∧ c.value = 0 ∧
        CallData.selector c.data = call.selector ∧ CallData.words c.data = call.words := by
  rw [agrees_iff, call.clause_eq_call, Clause.call,
    CallData.eq_append_iff call.length_of_mem_words call.length_selector]

/-- A call is read from the clauses that make it, and from no other. -/
theorem tokenCall?_eq_some_iff {c : Clause} {call : TokenCall} :
    c.tokenCall? = some call ↔ c.agrees call.clause = true := by
  rw [agrees_clause_iff, tokenCall?]
  constructor
  · intro h
    split_ifs at h with hvalue
    obtain ⟨contract, hcontract, h⟩ := Option.bind_eq_some_iff.mp h
    obtain ⟨rfl, hselector, hwords⟩ := TokenCall.ofWords?_eq_some_iff.mp h
    exact ⟨hcontract, hvalue, hselector, hwords⟩
  · rintro ⟨hcontract, hvalue, hselector, hwords⟩
    rw [if_pos hvalue, hcontract, Option.bind_some]
    exact TokenCall.ofWords?_eq_some_iff.mpr ⟨rfl, hselector, hwords⟩

/-- A clause calls a contract and does nothing else.  It sends no amount, and
its data has a known length and is cut into a selector and words, which spell
numbers. -/
structure CarriesCall (c : Clause) (contract : Address) (length : Nat) (selector : Bytes)
    (words : List Bytes) (numbers : List Nat) : Prop where
  recipient_eq : c.recipient = some contract
  value_eq : c.value = 0
  length_data : c.data.length = length
  selector_eq : CallData.selector c.data = selector
  words_eq : CallData.words c.data = words
  numbers_eq : (CallData.words c.data).map Bytes.toNat = numbers

end Clause

namespace TokenCall

theorem carriesCall (call : TokenCall) :
    call.clause.CarriesCall call.contract (4 + 32 * call.words.length) call.selector call.words
      call.numbers := by
  obtain ⟨hcontract, hvalue, hselector, hwords⟩ :=
    Clause.agrees_clause_iff.mp (Clause.agrees_self call.clause)
  refine ⟨hcontract, hvalue, ?_, hselector, hwords, by rw [hwords, call.map_toNat_words]⟩
  rw [call.clause_eq_call, Clause.call, List.length_append, call.length_selector,
    CallData.length_flatten call.length_of_mem_words]

/-- Different calls are made by different clauses. -/
theorem clause_agrees_clause_iff {call call' : TokenCall} :
    call.clause.agrees call'.clause = true ↔ call = call' := by
  have hread : call.clause.tokenCall? = some call :=
    Clause.tokenCall?_eq_some_iff.mpr (Clause.agrees_self call.clause)
  rw [← Clause.tokenCall?_eq_some_iff, hread, Option.some.injEq]

end TokenCall

/-! ## Calls in encodings -/

/-- The calls of a body are those of the body that is read from its
encoding. -/
theorem Body.map_tokenCall?_of_decode_encode {b b' : Body} (hvalid : b.Valid)
    (h : decode b.encode = .ok b') :
    b'.clauses.map Clause.tokenCall? = b.clauses.map Clause.tokenCall? := by
  obtain ⟨-, rfl⟩ := (decode_encode_iff hvalid).mp h
  show (b.clauses.map Clause.plain).map Clause.tokenCall? = _
  rw [List.map_map]
  exact List.map_congr_left fun c _ => c.tokenCall?_plain

/-- The data of a token call is exact and has one meaning.  It is cut into the
selector and the arguments in their order, an address behind twelve zero
bytes.  A call is read from the clauses that make it and from no other, so
calls that differ in their kind or in an argument are never made by the same
clause.  All clauses come back from an encoding with their calls. -/
theorem token_calls_read_back :
    (∀ token recipient amount,
      (Clause.transferToken token recipient amount).CarriesCall token 68 Clause.transferSelector
        [List.replicate 12 0 ++ recipient.bytes, Bytes.ofNat 32 amount.toNat]
        [recipient.blob.toNat, amount.toNat]) ∧
    (∀ contract owner recipient id,
      (Clause.transferUnique contract owner recipient id).CarriesCall contract 100
        Clause.transferFromSelector
        [List.replicate 12 0 ++ owner.bytes, List.replicate 12 0 ++ recipient.bytes,
          Bytes.ofNat 32 id.toNat]
        [owner.blob.toNat, recipient.blob.toNat, id.toNat]) ∧
    (∀ (c : Clause) (call : TokenCall),
      c.tokenCall? = some call ↔ c.agrees call.clause = true) ∧
    (∀ call call' : TokenCall, call.clause.agrees call'.clause = true ↔ call = call') ∧
    ∀ b : Body, b.Reachable →
      (∀ b', Body.decode b.encode = .ok b' →
        b'.clauses = b.clauses.map Clause.plain ∧
          b'.clauses.map Clause.tokenCall? = b.clauses.map Clause.tokenCall?) ∧
      (b.encode.length < UInt32.size → ∃ b', Body.decode b.encode = .ok b') := by
  refine ⟨?_, ?_, ?_, ?_, ?_⟩
  · intro token recipient amount
    exact (TokenCall.transfer token recipient amount).carriesCall
  · intro contract owner recipient id
    exact (TokenCall.transferUnique contract owner recipient id).carriesCall
  · intro c call
    exact Clause.tokenCall?_eq_some_iff
  · intro call call'
    exact TokenCall.clause_agrees_clause_iff
  · intro b hreachable
    constructor
    · intro b' h
      obtain ⟨-, hplain⟩ := (Body.decode_encode_iff hreachable.valid).mp h
      refine ⟨?_, Body.map_tokenCall?_of_decode_encode hreachable.valid h⟩
      rw [hplain]
      rfl
    · intro hlen
      exact ⟨b.plain, Body.decode_encode hreachable.valid hlen⟩

/-- An amount and an id with many leading zeros, an address that ends with
zeros, and a remark. -/
def tokenCalls : List TokenCall :=
  [.transfer Clause.energyContract Address.zero 0x0100,
    .transferUnique ⟨Blob.ofNat 20 0xFF00⟩ Address.zero Clause.energyContract 0]

/-- What makes a body with the calls. -/
def tokenSettings : List Setting :=
  [.clauses (tokenCalls.map fun call => call.clause.withComment "payment"), .gas 1]

/-- A body with the calls. -/
def tokenBody : Body where
  chainTag := 0
  blockRef := Blob.zero 8
  expiration := 0
  clauses := tokenCalls.map fun call => call.clause.withComment "payment"
  gas := 1
  dependsOn := none
  nonce := 0
  fee := .legacy 0
  reserved := {}

theorem tokenBody_reachable : tokenBody.Reachable := by
  have hmade : ∃ d, Draft.empty.setAll tokenSettings = .ok d ∧ d.build = .ok tokenBody :=
    ⟨_, rfl, rfl⟩
  obtain ⟨d, hset, hbuild⟩ := hmade
  exact .built hset hbuild

theorem token_calls_read_back_two :
    tokenBody.Reachable ∧ tokenBody.encode.length < UInt32.size ∧
      ∃ b', Body.decode tokenBody.encode = .ok b' ∧
        b'.clauses.map Clause.tokenCall? = tokenCalls.map some := by
  obtain ⟨-, -, hread, -, hencoded⟩ := token_calls_read_back
  obtain ⟨hback, hdecode⟩ := hencoded tokenBody tokenBody_reachable
  have hlen : tokenBody.encode.length < UInt32.size := by decide +kernel
  obtain ⟨b', hb'⟩ := hdecode hlen
  refine ⟨tokenBody_reachable, hlen, b', hb', ?_⟩
  rw [(hback b' hb').2]
  show (tokenCalls.map fun call => call.clause.withComment "payment").map Clause.tokenCall? = _
  rw [List.map_map]
  refine List.map_congr_left ?_
  intro call _
  exact (hread _ call).mpr (decide_eq_true rfl)

end ClauseTx
