import ClauseTx.Fee.Client
import ClauseTx.Proofs.Http.Exchange
import ClauseTx.Proofs.Json.Record

/-!
# How a tip comes about

A client asks a node for past fees, and for the node's own suggestion if no
tips were paid.  A server is free to do anything with either request.

There are four groups.

* Histories without tips.  These are the ones without a suggestion
  (`FeeHistory.suggestion_eq_none_iff`).
* One question to the node.  It takes one request (`run_get_read`), and
  `Gives` and `Fails` tell all ways in which the reply can end it
  (`reading_eq_ok_iff`, `reading_eq_error_iff`).
* The whole run.  There are three courses: the first question fails, it brings
  a tip, or it brings none and a second question is put
  (`run_suggest_of_error`, `run_suggest_of_tip`, `run_suggest_of_no_tips`).
* Where a tip comes from.  `Suggests` says of the log and of the result what
  the replies make of them, and `suggestion_run_decided` that every run is so.
-/

namespace ClauseTx

open Http Json

/-! ## Histories without tips -/

namespace FeeHistory

/-- No block of a history reports a tip. -/
def HasNoTips (history : FeeHistory) : Prop :=
  ∀ row ∈ history.rewards.getD [], row = []

theorem samples_eq_nil_iff {history : FeeHistory} : history.samples = [] ↔ history.HasNoTips := by
  unfold samples HasNoTips
  rw [List.filterMap_eq_nil_iff]
  simp only [List.getLast?_eq_none_iff]

theorem suggestion_eq_none_iff {history : FeeHistory} {base : UInt256} :
    history.suggestion base = none ↔ history.HasNoTips := by
  rw [← samples_eq_nil_iff, suggestion]
  split <;> simp [*]

theorem suggestion_le {history : FeeHistory} {base tip : UInt256}
    (h : history.suggestion base = some tip) : tip ≤ Fee.priorityCap base := by
  unfold suggestion at h
  split at h
  · exact nomatch h
  · injection h with h
    rw [← h]
    exact UInt256.min_le_right ..

end FeeHistory

namespace FeeClient

/-! ## One question to the node -/

section Question

variable {α : Type}

/-- A reply gives a value: it comes in time, with a status of success, and its
response is read as that value. -/
structure Gives (c : FeeClient) (read : Response → Except Error α) (reply : Reply) (a : α) :
    Prop where
  exists_response : ∃ response, reply.Brings c.limit response ∧
    (200 ≤ response.status ∧ response.status < 300) ∧ read response = .ok a

/-- The ways in which a reply gives no value, each with the error that tells
it. -/
inductive Fails (c : FeeClient) (path : String) (read : Response → Except Error α)
    (reply : Reply) : Error → Prop
  /-- What comes too late counts as silence. -/
  | late (h : c.limit.millis < reply.delay.millis) :
      Fails c path read reply (.network (.nodeSilent path c.limit))
  /-- The connection fails with an error of its own. -/
  | connection {fault : Error} (htime : reply.delay.millis ≤ c.limit.millis)
      (hresult : reply.result = .error fault) : Fails c path read reply fault
  /-- The status tells no success. -/
  | status {response : Response} (hbrings : reply.Brings c.limit response)
      (hstatus : ¬ (200 ≤ response.status ∧ response.status < 300)) :
      Fails c path read reply
        (.network (.nodeStatus path response.status.toNat (Text.Utf8.decodeLossy response.body)))
  /-- The response is of another form. -/
  | unreadable {response : Response} {fault : Error} (hbrings : reply.Brings c.limit response)
      (hstatus : 200 ≤ response.status ∧ response.status < 300)
      (hread : read response = .error fault) : Fails c path read reply fault

/-- What a client makes of a response. -/
def readSuccess (path : String) (read : Response → Except Error α) (response : Response) :
    Except Error α :=
  if response.isSuccess then read response
  else .error (.network (.nodeStatus path response.status.toNat response.text))

/-- What a client makes of a reply. -/
def reading (c : FeeClient) (path : String) (read : Response → Except Error α) (reply : Reply) :
    Except Error α :=
  reply.within c.limit (.nodeSilent path c.limit) >>= readSuccess path read

/-- A question takes one request, and the reply to it is read. -/
theorem run_get_read (c : FeeClient) (path : String) (query : List (String × String))
    (read : Response → Except Error α) (server : Server) (log : List Request) :
    (c.get path query >>= fun response => (liftM (read response) : Exchange α)).run server log =
      (c.reading path read (server log (.get path query)), log ++ [.get path query]) := by
  have hget : c.get path query =
      Exchange.send (.get path query) c.limit (.nodeSilent path c.limit) >>= fun response =>
        (liftM (readSuccess path .ok response) : Exchange Response) := by
    unfold get readSuccess
    congr 1
    funext response
    split <;> rfl
  rw [Exchange.run_bind_lift, hget, Exchange.run_bind_lift, Exchange.run_send]
  show ((Reply.within _ _ _ >>= readSuccess path .ok) >>= read, _) = _
  unfold reading
  rcases (server log (.get path query)).within c.limit (.nodeSilent path c.limit) with
    fault | response
  · rfl
  · simp only [ok_bind, readSuccess]
    split <;> rfl

variable {c : FeeClient} {path : String} {read : Response → Except Error α} {reply : Reply}

theorem readSuccess_of_success {response : Response}
    (h : 200 ≤ response.status ∧ response.status < 300) :
    readSuccess path read response = read response :=
  if_pos (Response.isSuccess_iff.mpr h)

theorem readSuccess_of_not_success {response : Response}
    (h : ¬ (200 ≤ response.status ∧ response.status < 300)) :
    readSuccess path read response =
      .error (.network (.nodeStatus path response.status.toNat response.text)) :=
  if_neg fun hsuccess => h (Response.isSuccess_iff.mp hsuccess)

/-- A value is read exactly if the reply gives it. -/
theorem reading_eq_ok_iff {a : α} : c.reading path read reply = .ok a ↔ c.Gives read reply a := by
  unfold reading
  rw [bind_eq_ok_iff]
  simp only [Reply.within_eq_ok_iff]
  constructor
  · intro ⟨response, hbrings, hread⟩
    by_cases hstatus : 200 ≤ response.status ∧ response.status < 300
    · rw [readSuccess_of_success hstatus] at hread
      exact ⟨response, hbrings, hstatus, hread⟩
    · rw [readSuccess_of_not_success hstatus] at hread
      exact nomatch hread
  · intro ⟨response, hbrings, hstatus, hread⟩
    refine ⟨response, hbrings, ?_⟩
    rwa [readSuccess_of_success hstatus]

/-- A reply gives one value at most. -/
theorem Gives.eq {a b : α} (ha : c.Gives read reply a) (hb : c.Gives read reply b) : a = b := by
  obtain ⟨response, hbrings, -, hread⟩ := ha.exists_response
  obtain ⟨response', hbrings', -, hread'⟩ := hb.exists_response
  have hresponse := hbrings.result_eq.symm.trans hbrings'.result_eq
  injection hresponse with hresponse
  rw [← hresponse, hread] at hread'
  injection hread'

theorem Fails.reading_eq {e : Error} (h : c.Fails path read reply e) :
    c.reading path read reply = .error e := by
  unfold reading
  cases h with
  | late hlate => rw [Reply.within_of_late hlate, error_bind]
  | connection htime hresult => rw [Reply.within_of_inTime htime, hresult, error_bind]
  | status hbrings hstatus =>
    rw [Reply.within_eq_ok_iff.mpr hbrings, ok_bind, readSuccess_of_not_success hstatus]
    rfl
  | unreadable hbrings hstatus hread =>
    rw [Reply.within_eq_ok_iff.mpr hbrings, ok_bind, readSuccess_of_success hstatus, hread]

/-- There is no other way to fail. -/
theorem fails_of_reading_eq {e : Error} (h : c.reading path read reply = .error e) :
    c.Fails path read reply e := by
  unfold reading at h
  by_cases hlate : c.limit.millis < reply.delay.millis
  · rw [Reply.within_of_late hlate, error_bind] at h
    cases h
    exact .late hlate
  · have htime := Nat.le_of_not_lt hlate
    rw [Reply.within_of_inTime htime] at h
    cases hresult : reply.result with
    | error fault =>
      rw [hresult, error_bind] at h
      cases h
      exact .connection htime hresult
    | ok response =>
      rw [hresult, ok_bind] at h
      by_cases hstatus : 200 ≤ response.status ∧ response.status < 300
      · rw [readSuccess_of_success hstatus] at h
        exact .unreadable ⟨htime, hresult⟩ hstatus h
      · rw [readSuccess_of_not_success hstatus] at h
        cases h
        exact .status ⟨htime, hresult⟩ hstatus

/-- An error is read exactly if the reply fails with it. -/
theorem reading_eq_error_iff {e : Error} :
    c.reading path read reply = .error e ↔ c.Fails path read reply e :=
  ⟨fails_of_reading_eq, Fails.reading_eq⟩

end Question

/-! ## The whole run -/

/-- What a suggestion asks first. -/
def historyRequest : Request :=
  .get historyPath sampleOptions.query

/-- What a suggestion asks for want of tips. -/
def priorityRequest : Request :=
  .get priorityPath []

/-- Reads past fees. -/
def pastFees (response : Response) : Except Error FeeHistory :=
  FeeHistory.parse response.body

theorem validate_sampleOptions : sampleOptions.validate = .ok () := rfl

/-- Past fees take one request. -/
theorem run_history (c : FeeClient) {options : HistoryOptions} (h : options.validate = .ok ())
    (server : Server) (log : List Request) :
    (c.history options).run server log =
      (c.reading historyPath pastFees (server log (.get historyPath options.query)),
        log ++ [.get historyPath options.query]) := by
  unfold history
  rw [h]
  exact c.run_get_read historyPath options.query pastFees server log

theorem run_history_sampleOptions (c : FeeClient) (server : Server) (log : List Request) :
    (c.history sampleOptions).run server log =
      (c.reading historyPath pastFees (server log historyRequest), log ++ [historyRequest]) :=
  c.run_history validate_sampleOptions server log

/-- The node's suggestion takes one request. -/
theorem run_nodePriority (c : FeeClient) (server : Server) (log : List Request) :
    c.nodePriority.run server log =
      (c.reading priorityPath priority (server log priorityRequest), log ++ [priorityRequest]) :=
  c.run_get_read priorityPath [] priority server log

variable {c : FeeClient} {base : UInt256} {server : Server} {log : List Request}

/-- A failure of the first question is the end. -/
theorem run_suggest_of_error {e : Error}
    (h : c.reading historyPath pastFees (server log historyRequest) = .error e) :
    (c.suggest base).run server log = (.error e, log ++ [historyRequest]) := by
  have hrun := run_history_sampleOptions c server log
  rw [h] at hrun
  unfold suggest
  exact Exchange.run_bind_of_error hrun

/-- With past tips there is no second question. -/
theorem run_suggest_of_tip {history : FeeHistory} {tip : UInt256}
    (h : c.reading historyPath pastFees (server log historyRequest) = .ok history)
    (htip : history.suggestion base = some tip) :
    (c.suggest base).run server log = (.ok tip, log ++ [historyRequest]) := by
  have hrun := run_history_sampleOptions c server log
  rw [h] at hrun
  unfold suggest
  rw [Exchange.run_bind_of_ok hrun, htip]
  rfl

/-- Without past tips the node is asked for its own suggestion. -/
theorem run_suggest_of_no_tips {history : FeeHistory}
    (h : c.reading historyPath pastFees (server log historyRequest) = .ok history)
    (hnone : history.HasNoTips) :
    (c.suggest base).run server log =
      ((c.reading priorityPath priority (server (log ++ [historyRequest]) priorityRequest)).map
        fun fee => min fee (Fee.priorityCap base), log ++ [historyRequest, priorityRequest]) := by
  have hrun := run_history_sampleOptions c server log
  rw [h] at hrun
  unfold suggest
  rw [Exchange.run_bind_of_ok hrun, FeeHistory.suggestion_eq_none_iff.mpr hnone]
  show (c.nodePriority >>= fun fee =>
    (liftM (.ok (min fee (Fee.priorityCap base)) : Except Error UInt256) : Exchange _)).run
      server (log ++ [historyRequest]) = _
  rw [Exchange.run_bind_lift, run_nodePriority, List.append_assoc]
  rfl

/-! ## The node's own suggestion -/

/-- The node's suggestion is read from an object of one text. -/
theorem priorityText?_of_hasField {body : Bytes} {record : Syntax} {pieces : List Piece}
    {text : String} (hparse : Syntax.parse? body = some record)
    (hfield : Syntax.HasField "maxPriorityFeePerGas" record (.string pieces))
    (htext : text? pieces = some text) : priorityText? body = some (some text) := by
  have hrecord : record.nullable? (Syntax.fields? priorityShape) =
      some (some [some (.string pieces)]) := by
    rw [Syntax.nullable?]
    · rw [priorityShape, Syntax.fields?_singleton_iff.mpr hfield, Option.map_some]
    · rintro rfl
      cases hfield
  unfold priorityText?
  rw [hparse]
  simp only [Option.bind_eq_bind, Option.bind_some, hrecord]
  exact Syntax.optional?_string?_iff.mpr ⟨pieces, rfl, htext⟩

theorem priority_eq_ok {response : Response} {text : String} {fee : UInt256}
    (h : (Syntax.parse? response.body).bind Syntax.texts? = some [("maxPriorityFeePerGas", text)])
    (hfee : Quantity.parse "maxPriorityFeePerGas" text = .ok fee) :
    priority response = .ok fee := by
  obtain ⟨record, hparse, htexts⟩ := Option.bind_eq_some_iff.mp h
  obtain ⟨pieces, hfield, htext⟩ := Syntax.exists_hasField_of_texts? htexts
  have hnonempty : text.isEmpty = false := by
    rw [Bool.eq_false_iff]
    intro hempty
    rw [String.isEmpty_iff] at hempty
    subst hempty
    exact nomatch hfee
  unfold priority
  rw [priorityText?_of_hasField hparse hfield htext]
  simp only [hnonempty]
  exact hfee

/-! ## Where a tip comes from -/

/-- How the replies to a first and a second question decide a suggestion, and
which questions are put on a log. -/
structure Suggests (c : FeeClient) (base : UInt256) (first second : Reply) (log : List Request)
    (result : Except Error UInt256) (log' : List Request) : Prop where
  /-- There is a first question, and at most a second. -/
  requests : log' = log ++ [historyRequest] ∨ log' = log ++ [historyRequest, priorityRequest]
  /-- The second is put if the first is answered by a history without tips. -/
  asks_again_iff : log' = log ++ [historyRequest, priorityRequest] ↔
    ∃ history, c.Gives pastFees first history ∧ history.HasNoTips
  /-- No tip is above the cap. -/
  tip_le : ∀ tip, result = .ok tip → tip ≤ Fee.priorityCap base
  /-- After one question a tip is the suggestion of the history. -/
  tip_of_one : log' = log ++ [historyRequest] → ∀ tip, result = .ok tip ↔
    ∃ history, c.Gives pastFees first history ∧ history.suggestion base = some tip
  /-- After two questions a tip is the node's suggestion with the cap. -/
  tip_of_two : log' = log ++ [historyRequest, priorityRequest] → ∀ tip, result = .ok tip ↔
    ∃ fee, c.Gives priority second fee ∧ tip = min fee (Fee.priorityCap base)
  /-- A failure of the first question is the end, and it is passed on. -/
  first_failed : ∀ e, c.Fails historyPath pastFees first e →
    result = .error e ∧ log' = log ++ [historyRequest]
  /-- Nothing else fails but the questions that are put. -/
  error_iff : ∀ e, result = .error e ↔ c.Fails historyPath pastFees first e ∨
    log' = log ++ [historyRequest, priorityRequest] ∧ c.Fails priorityPath priority second e

namespace Suggests

variable {first second : Reply}

theorem one_ne_two : log ++ [historyRequest] ≠ log ++ [historyRequest, priorityRequest] := by
  intro h
  simpa using congrArg List.length h

theorem of_error {e : Error} (h : c.reading historyPath pastFees first = .error e) :
    c.Suggests base first second log (.error e) (log ++ [historyRequest]) := by
  have hgives (history : FeeHistory) : ¬ c.Gives pastFees first history := by
    rw [← reading_eq_ok_iff, h]
    nofun
  have hfails (e' : Error) : c.Fails historyPath pastFees first e' ↔ e = e' := by
    rw [← reading_eq_error_iff, h, Except.error.injEq]
  apply Suggests.mk
  case requests => exact Or.inl rfl
  case asks_again_iff => simp [hgives]
  case tip_le => nofun
  case tip_of_one => simp [hgives]
  case tip_of_two => exact fun heq => absurd heq one_ne_two
  case first_failed => simp [hfails]
  case error_iff => simp [hfails]

theorem of_tip {history : FeeHistory} {tip : UInt256}
    (h : c.reading historyPath pastFees first = .ok history)
    (htip : history.suggestion base = some tip) :
    c.Suggests base first second log (.ok tip) (log ++ [historyRequest]) := by
  have hgives (history' : FeeHistory) : c.Gives pastFees first history' ↔ history = history' := by
    rw [← reading_eq_ok_iff, h, Except.ok.injEq]
  have hfails (e : Error) : ¬ c.Fails historyPath pastFees first e := by
    rw [← reading_eq_error_iff, h]
    nofun
  have hsome : ¬ history.HasNoTips := by
    intro hnone
    rw [FeeHistory.suggestion_eq_none_iff.mpr hnone] at htip
    exact nomatch htip
  apply Suggests.mk
  case requests => exact Or.inl rfl
  case asks_again_iff => simp [hgives, hsome]
  case tip_le =>
    intro tip' heq
    injection heq with heq
    rw [← heq]
    exact FeeHistory.suggestion_le htip
  case tip_of_one => simp [hgives, htip]
  case tip_of_two => exact fun heq => absurd heq one_ne_two
  case first_failed => simp [hfails]
  case error_iff => simp [hfails]

theorem of_no_tips {history : FeeHistory}
    (h : c.reading historyPath pastFees first = .ok history) (hnone : history.HasNoTips) :
    c.Suggests base first second log
      ((c.reading priorityPath priority second).map fun fee => min fee (Fee.priorityCap base))
      (log ++ [historyRequest, priorityRequest]) := by
  have hfails (e : Error) : ¬ c.Fails historyPath pastFees first e := by
    rw [← reading_eq_error_iff, h]
    nofun
  have hmap (tip : UInt256) :
      (c.reading priorityPath priority second).map (fun fee => min fee (Fee.priorityCap base)) =
        .ok tip ↔ ∃ fee, c.Gives priority second fee ∧ min fee (Fee.priorityCap base) = tip := by
    simp only [map_eq_ok_iff, reading_eq_ok_iff]
  apply Suggests.mk
  case requests => exact Or.inr rfl
  case asks_again_iff => exact iff_of_true rfl ⟨history, reading_eq_ok_iff.mp h, hnone⟩
  case tip_le =>
    intro tip heq
    obtain ⟨fee, -, rfl⟩ := (hmap tip).mp heq
    exact UInt256.min_le_right ..
  case tip_of_one => exact fun heq => absurd heq.symm one_ne_two
  case tip_of_two =>
    intro _ tip
    simp only [hmap, eq_comm (b := tip)]
  case first_failed => exact fun e hfailed => absurd hfailed (hfails e)
  case error_iff =>
    intro e
    simp only [hfails, false_or, true_and, ← reading_eq_error_iff]
    rcases c.reading priorityPath priority second with fault | fee <;> simp [Except.map]

end Suggests

/-- A suggestion asks for past fees, and for the node's own suggestion exactly
if these are given without a tip.  Its result is decided by the replies: past
tips or else the node's, never above the cap, or the error of the question
that failed. -/
theorem suggestion_run_decided (c : FeeClient) (base : UInt256) (server : Server)
    (log : List Request) :
    ∃ result log', (c.suggest base).run server log = (result, log') ∧
      c.Suggests base (server log historyRequest)
        (server (log ++ [historyRequest]) priorityRequest) log result log' := by
  cases h : c.reading historyPath pastFees (server log historyRequest) with
  | error e => exact ⟨_, _, run_suggest_of_error h, .of_error h⟩
  | ok history =>
    cases hsuggestion : history.suggestion base with
    | some tip => exact ⟨_, _, run_suggest_of_tip h hsuggestion, .of_tip h hsuggestion⟩
    | none =>
      have hnone := FeeHistory.suggestion_eq_none_iff.mp hsuggestion
      exact ⟨_, _, run_suggest_of_no_tips h hnone, .of_no_tips h hnone⟩

/-- The history `[0,[],[]]`. -/
def noTips : Bytes :=
  [0x5B, 0x30, 0x2C, 0x5B, 0x5D, 0x2C, 0x5B, 0x5D, 0x5D]

/-- The history `[0,[],[],[["0x5"]]]`. -/
def oneTip : Bytes :=
  [0x5B, 0x30, 0x2C, 0x5B, 0x5D, 0x2C, 0x5B, 0x5D, 0x2C, 0x5B, 0x5B, 0x22, 0x30, 0x78, 0x35, 0x22,
    0x5D, 0x5D, 0x5D]

theorem parse_noTips : FeeHistory.parse noTips = .ok ⟨0, [], [], none⟩ := rfl

theorem parse_oneTip : FeeHistory.parse oneTip = .ok ⟨0, [], [], some [[5]]⟩ := by
  have hparse : Syntax.parse? oneTip = some (.array [.number ⟨false, ['0'], [], none⟩, .array [],
      .array [], .array [.array [.string [.byte 0x30, .byte 0x78, .byte 0x35]]]]) := rfl
  have hutf8 : utf8? [.byte 0x30, .byte 0x78, .byte 0x35] =
      some (['0', 'x', '5'].flatMap String.utf8EncodeChar) := rfl
  have htext : text? [.byte 0x30, .byte 0x78, .byte 0x35] = some "0x5" := by
    rw [text?, hutf8, Option.bind_eq_bind, Option.bind_some, Text.Utf8.decode?_encode]
    rfl
  have hrewards : Syntax.optional? (Syntax.list? (Syntax.list? Syntax.string?))
      (some (.array [.array [.string [.byte 0x30, .byte 0x78, .byte 0x35]]])) =
        some (some [["0x5"]]) := by
    simp [Syntax.optional?, Syntax.nullable?, Syntax.list?, Syntax.string?, htext]
  have hraw : FeeHistory.raw? oneTip =
      some ⟨.number (.natural 0), [], [], some [["0x5"]]⟩ := by
    unfold FeeHistory.raw?
    rw [hparse]
    show (Syntax.optional? (Syntax.list? (Syntax.list? Syntax.string?)) _).bind _ = _
    rw [hrewards]
    rfl
  unfold FeeHistory.parse
  rw [hraw]
  rfl

/-- A node that answers in time, with a history and with a suggestion of its
own. -/
def node (history : Bytes) : Server := fun _ request =>
  if request.path = historyPath then ⟨⟨1000⟩, .ok ⟨200, history⟩⟩
  else ⟨⟨1000⟩, .ok ⟨200, Bytes.ofText (ofTexts [("maxPriorityFeePerGas", "0x64")]).render⟩⟩

theorem success_200 : 200 ≤ (200 : UInt16) ∧ (200 : UInt16) < 300 := by decide

theorem node_gives_history {bytes : Bytes} {history : FeeHistory}
    (h : FeeHistory.parse bytes = .ok history) (log : List Request) :
    Gives ⟨⟨1000⟩⟩ pastFees (node bytes log historyRequest) history :=
  ⟨⟨200, bytes⟩, ⟨Nat.le_refl _, rfl⟩, success_200, h⟩

theorem node_gives_fee (bytes : Bytes) (log : List Request) :
    Gives ⟨⟨1000⟩⟩ priority (node bytes log priorityRequest) 100 := by
  have htexts := texts?_render [("maxPriorityFeePerGas", "0x64")]
  unfold node
  -- The text of the answer is kept from being computed.
  generalize Bytes.ofText (ofTexts [("maxPriorityFeePerGas", "0x64")]).render = body at htexts ⊢
  rw [if_neg (by decide)]
  exact ⟨⟨200, body⟩, ⟨Nat.le_refl _, rfl⟩, success_200, priority_eq_ok htexts rfl⟩

/-- A node with a tip in its history, one without, and one that answers too
late. -/
theorem suggestion_run_decided_three :
    (suggest ⟨⟨1000⟩⟩ 1000).run (node oneTip) [] = (.ok 5, [historyRequest]) ∧
    (suggest ⟨⟨1000⟩⟩ 1000).run (node noTips) [] =
      (.ok 46, [historyRequest, priorityRequest]) ∧
    (suggest ⟨⟨999⟩⟩ 1000).run (node noTips) [] =
      (.error (.network (.nodeSilent historyPath ⟨999⟩)), [historyRequest]) := by
  refine ⟨?_, ?_, ?_⟩
  · obtain ⟨result, log', hrun, h⟩ := suggestion_run_decided ⟨⟨1000⟩⟩ 1000 (node oneTip) []
    have hgives := node_gives_history parse_oneTip []
    have hone : log' = [historyRequest] := by
      refine h.requests.resolve_right ?_
      intro htwo
      obtain ⟨history, hgives', hnone⟩ := h.asks_again_iff.mp htwo
      rw [← hgives.eq hgives'] at hnone
      exact absurd (hnone [5] (List.mem_singleton_self _)) (by decide)
    rw [hrun, (h.tip_of_one hone 5).mpr ⟨_, hgives, rfl⟩, hone]
  · obtain ⟨result, log', hrun, h⟩ := suggestion_run_decided ⟨⟨1000⟩⟩ 1000 (node noTips) []
    have hnone : FeeHistory.HasNoTips ⟨0, [], [], none⟩ := by
      intro row hrow
      exact nomatch hrow
    have htwo : log' = [historyRequest, priorityRequest] :=
      h.asks_again_iff.mpr ⟨_, node_gives_history parse_noTips [], hnone⟩
    rw [hrun, (h.tip_of_two htwo 46).mpr ⟨100, node_gives_fee _ _, rfl⟩, htwo]
  · obtain ⟨result, log', hrun, h⟩ := suggestion_run_decided ⟨⟨999⟩⟩ 1000 (node noTips) []
    obtain ⟨hresult, hlog⟩ := h.first_failed _ (.late (Nat.lt_succ_self 999))
    rw [hrun, hresult, hlog]
    rfl

end FeeClient

end ClauseTx
