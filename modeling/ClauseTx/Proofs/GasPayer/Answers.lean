import ClauseTx.GasPayer.Remote
import ClauseTx.Proofs.Address.Text
import ClauseTx.Proofs.Http.Exchange
import ClauseTx.Proofs.Json.Record

/-!
# Answers of a gas payer service

A response carries a signature (`Carries`) if its status says that all went
well and its body is a record of one text that spells the signature.  It is
read as a signature exactly then (`signature_eq_ok_iff`).

Asking a service takes one request whatever comes back, and the reply to it
decides the result (`service_reply_decides`).
-/

namespace ClauseTx

/-! ## Texts of bytes -/

namespace Hex

/-- A text spells bytes with or without a mark in front. -/
def SpellsMarked (cs : List Char) (bs : Bytes) : Prop :=
  ∃ digits, Spells digits bs ∧ (cs = digits ∨ cs = '0' :: 'x' :: digits)

/-- Digits are not taken for a mark. -/
theorem Spells.stripHexMark_eq {cs : List Char} {bs : Bytes} (h : Spells cs bs) :
    Text.stripHexMark cs = cs := by
  unfold Text.stripHexMark
  split
  case h_1 rest =>
    have hx : Text.isHexDigit 'x' = true :=
      h.isHexDigit 'x' (List.mem_cons_of_mem _ (List.mem_cons_self ..))
    exact absurd hx (by decide)
  case h_2 => rfl

theorem spells_stripHexMark_iff {cs : List Char} {bs : Bytes} :
    Spells (Text.stripHexMark cs) bs ↔ SpellsMarked cs bs := by
  constructor
  · intro h
    refine ⟨_, h, ?_⟩
    unfold Text.stripHexMark
    split
    case h_1 => exact Or.inr rfl
    case h_2 => exact Or.inl rfl
  · rintro ⟨digits, hspells, rfl | rfl⟩
    · rwa [hspells.stripHexMark_eq]
    · exact hspells

end Hex

namespace RemoteGasPayer

open Http Json

/-! ## Responses with a signature -/

/-- A response carries a signature: its status says that all went well, and
its body is a record whose field of that name has a text that spells it. -/
structure Carries (response : Response) (signature : Ecdsa.Signature) : Prop where
  success : 200 ≤ response.status ∧ response.status < 300
  exists_text : ∃ record pieces text, Syntax.parse? response.body = some record ∧
    Syntax.HasField "signature" record (.string pieces) ∧ text? pieces = some text ∧
      Hex.SpellsMarked text.toList signature.bytes

theorem signatureText?_eq_some_iff {body : Bytes} {text : String} :
    signatureText? body = some (some text) ↔
      ∃ record pieces, Syntax.parse? body = some record ∧
        Syntax.HasField "signature" record (.string pieces) ∧ text? pieces = some text := by
  simp only [signatureText?, Option.bind_eq_bind, Option.bind_eq_some_iff]
  constructor
  · intro ⟨record, hparse, fields, hfields, h⟩
    split at h
    case h_1 field =>
      obtain ⟨pieces, rfl, htext⟩ := Syntax.optional?_string?_iff.mp h
      exact ⟨record, pieces, hparse, Syntax.fields?_singleton_iff.mp hfields, htext⟩
    case h_2 => exact nomatch h
  · intro ⟨record, pieces, hparse, hfield, htext⟩
    exact ⟨record, hparse, _, Syntax.fields?_singleton_iff.mpr hfield,
      Syntax.optional?_string?_iff.mpr ⟨pieces, rfl, htext⟩⟩

/-- Reading succeeds if each of its steps does. -/
theorem signature_eq_ok_iff_steps {response : Response} {σ : Ecdsa.Signature} :
    signature response = .ok σ ↔ response.isSuccess = true ∧
      ∃ text, signatureText? response.body = some (some text) ∧
        Hex.decode (Text.stripHexMark text.toList) = .ok σ.bytes := by
  unfold signature
  by_cases hsuccess : response.isSuccess = true
  · rw [hsuccess, if_neg (by decide)]
    rcases signatureText? response.body with _ | _ | text
    · simp
    · simp
    · simp only [Option.some.injEq, exists_eq_left', true_and]
      rcases Hex.decode (Text.stripHexMark text.toList) with fault | bytes
      · simp
      · rw [Except.ok.injEq, ← Blob.ofBytes?_eq_some_iff]
        cases hlen : (Blob.ofBytes? bytes : Option Ecdsa.Signature) with
        | none => simp [hlen]
        | some signature => simp [hlen]
  · simp [hsuccess]

/-- A response is read as the signature that it carries. -/
theorem signature_eq_ok_iff {response : Response} {σ : Ecdsa.Signature} :
    signature response = .ok σ ↔ Carries response σ := by
  rw [signature_eq_ok_iff_steps, Response.isSuccess_iff]
  simp only [signatureText?_eq_some_iff, Hex.decode_eq_ok_iff, Hex.spells_stripHexMark_iff]
  constructor
  · intro ⟨hsuccess, text, ⟨record, pieces, hparse, hfield, htext⟩, hspells⟩
    exact ⟨hsuccess, record, pieces, text, hparse, hfield, htext, hspells⟩
  · intro ⟨hsuccess, record, pieces, text, hparse, hfield, htext, hspells⟩
    exact ⟨hsuccess, text, ⟨record, pieces, hparse, hfield, htext⟩, hspells⟩

/-! ## Answers without anything else -/

/-- Whether a body is an object with a signature in hexadecimal digits and
nothing else, however it is spelt. -/
def IsAnswer (body : Bytes) (signature : Ecdsa.Signature) : Prop :=
  (Syntax.parse? body).bind Syntax.texts? =
    some [("signature", "0x" ++ Hex.encode signature.bytes)]

/-- The answer without blanks. -/
def answer (signature : Ecdsa.Signature) : Json :=
  ofTexts [("signature", "0x" ++ Hex.encode signature.bytes)]

theorem isAnswer_answer (signature : Ecdsa.Signature) :
    IsAnswer (Bytes.ofText (answer signature).render) signature :=
  texts?_render _

theorem toList_mark_encode (bs : Bytes) :
    ("0x" ++ Hex.encode bs).toList = '0' :: 'x' :: Hex.digits bs := by
  rw [String.toList_append, Hex.encode, String.toList_ofList, String.toList_ofList]
  rfl

/-- An answer carries its signature. -/
theorem IsAnswer.carries {response : Response} {signature : Ecdsa.Signature}
    (h : IsAnswer response.body signature)
    (hsuccess : 200 ≤ response.status ∧ response.status < 300) : Carries response signature := by
  obtain ⟨record, hparse, htexts⟩ := Option.bind_eq_some_iff.mp h
  obtain ⟨pieces, hfield, htext⟩ := Syntax.exists_hasField_of_texts? htexts
  have hspells : Hex.Spells (Hex.digits signature.bytes) signature.bytes :=
    Hex.decode_eq_ok_iff.mp (Hex.decode_digits _)
  exact ⟨hsuccess, record, pieces, _, hparse, hfield, htext, _, hspells,
    Or.inr (toList_mark_encode _)⟩

/-! ## Asking -/

/-- The request of a gas payer. -/
def request (p : RemoteGasPayer) (encoding : Bytes) (sender : Address) : Request :=
  .post p.url (requestBody encoding sender).render

/-- What a gas payer makes of a reply. -/
def read (p : RemoteGasPayer) (reply : Reply) : Except Error Ecdsa.Signature :=
  reply.within p.limit (.payerSilent p.url p.limit) >>= fun response =>
    (signature response).mapError fun fault => .remoteGasSigner fault response.text

/-- Asking takes one request, and the reply to it is read. -/
theorem run_sign (p : RemoteGasPayer) (encoding : Bytes) (sender : Address) (server : Server)
    (log : List Request) :
    (p.sign encoding sender).run server log =
      (p.read (server log (p.request encoding sender)), log ++ [p.request encoding sender]) := by
  unfold sign
  rw [Exchange.run_bind_lift, Exchange.run_send]
  rfl

variable {p : RemoteGasPayer} {reply : Reply} {response : Response}

theorem read_of_late (h : p.limit.millis < reply.delay.millis) :
    p.read reply = .error (.network (.payerSilent p.url p.limit)) := by
  rw [read, Reply.within_of_late h, error_bind]

theorem read_of_failed {fault : Error} (htime : reply.delay.millis ≤ p.limit.millis)
    (hresult : reply.result = .error fault) : p.read reply = .error fault := by
  rw [read, Reply.within_of_inTime htime, hresult, error_bind]

theorem read_eq_ok_iff {σ : Ecdsa.Signature} :
    p.read reply = .ok σ ↔
      ∃ response, reply.Brings p.limit response ∧ Carries response σ := by
  unfold read
  simp only [bind_eq_ok_iff, Reply.within_eq_ok_iff, mapError_eq_ok_iff, signature_eq_ok_iff]

/-- A response without a signature is refused with its text. -/
theorem exists_read_eq_error (h : reply.Brings p.limit response)
    (hnone : ∀ signature, ¬ Carries response signature) :
    ∃ fault, p.read reply = .error (.remoteGasSigner fault response.text) := by
  rw [read, Reply.within_eq_ok_iff.mpr h, ok_bind]
  cases hsignature : signature response with
  | error fault => exact ⟨fault, rfl⟩
  | ok σ => exact absurd (signature_eq_ok_iff.mp hsignature) (hnone σ)

/-- How a reply decides the result of asking. -/
structure Decides (p : RemoteGasPayer) (reply : Reply) (result : Except Error Ecdsa.Signature) :
    Prop where
  /-- The result is a signature exactly if a response brings it in time. -/
  ok_iff : ∀ signature, result = .ok signature ↔
    ∃ response, reply.Brings p.limit response ∧ Carries response signature
  /-- What comes too late counts as silence. -/
  late : p.limit.millis < reply.delay.millis →
    result = .error (.network (.payerSilent p.url p.limit))
  /-- A failure of the connection is passed on as it is. -/
  failed : ∀ fault, reply.delay.millis ≤ p.limit.millis → reply.result = .error fault →
    result = .error fault
  /-- A response without a signature is kept as a text, and asking again is no
  help. -/
  refused : ∀ response, reply.Brings p.limit response →
    (∀ signature, ¬ Carries response signature) →
      ∃ fault, result = .error (.remoteGasSigner fault (Text.Utf8.decodeLossy response.body)) ∧
        ∀ e, result = .error e → e.isRetryable = false
  /-- An answer gives its signature with every status of success. -/
  answered : ∀ status body signature, 200 ≤ status ∧ status < 300 → IsAnswer body signature →
    reply.Brings p.limit ⟨status, body⟩ → result = .ok signature

/-- Asking a service takes one request to its address, whatever the service
does, and the reply to that request decides the result. -/
theorem service_reply_decides (p : RemoteGasPayer) (encoding : Bytes) (sender : Address)
    (server : Server) (log : List Request) :
    ∃ result, (p.sign encoding sender).run server log =
        (result, log ++ [.post p.url (requestBody encoding sender).render]) ∧
      p.Decides (server log (.post p.url (requestBody encoding sender).render)) result := by
  refine ⟨_, p.run_sign encoding sender server log, ?_⟩
  show p.Decides (server log (p.request encoding sender)) _
  generalize server log (p.request encoding sender) = reply
  apply Decides.mk
  case ok_iff => exact fun _ => read_eq_ok_iff
  case late => exact read_of_late
  case failed => exact fun _ => read_of_failed
  case refused =>
    intro response hbrings hnone
    obtain ⟨fault, hfault⟩ := exists_read_eq_error hbrings hnone
    refine ⟨fault, hfault, ?_⟩
    intro e he
    rw [hfault] at he
    cases he
    rfl
  case answered =>
    intro status body signature hstatus hanswer hbrings
    exact read_eq_ok_iff.mpr ⟨_, hbrings, hanswer.carries hstatus⟩

/-- A service that answers in time with status 299, one that answers too late,
one that hangs up, and one that refuses with status 403. -/
theorem service_reply_decides_four :
    (sign ⟨"sponsor", ⟨1000⟩⟩ [0xC0] .zero).run
        (fun _ _ => ⟨⟨1000⟩, .ok ⟨299, Bytes.ofText (answer (.zero 65)).render⟩⟩) [] =
      (.ok (.zero 65), [.post "sponsor" (requestBody [0xC0] .zero).render]) ∧
    (sign ⟨"sponsor", ⟨1000⟩⟩ [0xC0] .zero).run
        (fun _ _ => ⟨⟨1001⟩, .ok ⟨299, Bytes.ofText (answer (.zero 65)).render⟩⟩) [] =
      (.error (.network (.payerSilent "sponsor" ⟨1000⟩)),
        [.post "sponsor" (requestBody [0xC0] .zero).render]) ∧
    (sign ⟨"sponsor", ⟨1000⟩⟩ [0xC0] .zero).run
        (fun _ _ => ⟨⟨0⟩, .error (.network (.transport "closed"))⟩) [] =
      (.error (.network (.transport "closed")),
        [.post "sponsor" (requestBody [0xC0] .zero).render]) ∧
    ∃ fault, (sign ⟨"sponsor", ⟨1000⟩⟩ [0xC0] .zero).run
        (fun _ _ => ⟨⟨0⟩, .ok ⟨403, [0xFF]⟩⟩) [] =
      (.error (.remoteGasSigner fault (Text.Utf8.decodeLossy [0xFF])),
        [.post "sponsor" (requestBody [0xC0] .zero).render]) := by
  have hanswer := isAnswer_answer (.zero 65)
  -- The text of the answer is kept from being computed.
  generalize Bytes.ofText (answer (.zero 65)).render = body at hanswer ⊢
  refine ⟨?_, ?_, ?_, ?_⟩
  · obtain ⟨result, hrun, hdecides⟩ := service_reply_decides ⟨"sponsor", ⟨1000⟩⟩ [0xC0] .zero
      (fun _ _ => ⟨⟨1000⟩, .ok ⟨299, body⟩⟩) []
    have hstatus : 200 ≤ (299 : UInt16) ∧ (299 : UInt16) < 300 := by decide
    rw [hrun, hdecides.answered 299 body (.zero 65) hstatus hanswer ⟨Nat.le_refl _, rfl⟩]
    rfl
  · obtain ⟨result, hrun, hdecides⟩ := service_reply_decides ⟨"sponsor", ⟨1000⟩⟩ [0xC0] .zero
      (fun _ _ => ⟨⟨1001⟩, .ok ⟨299, body⟩⟩) []
    rw [hrun, hdecides.late (Nat.lt_succ_self _)]
    rfl
  · obtain ⟨result, hrun, hdecides⟩ := service_reply_decides ⟨"sponsor", ⟨1000⟩⟩ [0xC0] .zero
      (fun _ _ => ⟨⟨0⟩, .error (.network (.transport "closed"))⟩) []
    rw [hrun, hdecides.failed _ (Nat.zero_le _) rfl]
    rfl
  · obtain ⟨result, hrun, hdecides⟩ := service_reply_decides ⟨"sponsor", ⟨1000⟩⟩ [0xC0] .zero
      (fun _ _ => ⟨⟨0⟩, .ok ⟨403, [0xFF]⟩⟩) []
    have hnone : ∀ signature, ¬ Carries ⟨403, [0xFF]⟩ signature := by
      intro signature hcarries
      exact absurd hcarries.success.2 (by decide)
    obtain ⟨fault, hfault, -⟩ := hdecides.refused _ ⟨Nat.zero_le _, rfl⟩ hnone
    exact ⟨fault, by rw [hrun, hfault]; rfl⟩

end RemoteGasPayer

end ClauseTx
