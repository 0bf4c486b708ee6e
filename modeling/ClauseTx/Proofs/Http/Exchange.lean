import ClauseTx.Proofs.Outcome
import ClauseTx.Http.Exchange

/-!
# Runs of exchanges

A run of one exchange after another is a run of the first, and from the log
at its end a run of the second (`run_bind_eq_ok_iff`).  Sending a request puts
it on the log, and what it brings is a matter of the reply and of the time that
the client waits (`run_send`, `Reply.within_eq_ok_iff`).
-/

namespace ClauseTx.Http

theorem Response.isSuccess_iff {response : Response} :
    response.isSuccess = true ↔ 200 ≤ response.status ∧ response.status < 300 := by
  rw [isSuccess, Bool.and_eq_true, decide_eq_true_eq, decide_eq_true_eq]

/-! ## Waiting for a limited time -/

namespace Reply

/-- A reply brings a response to a client that waits for a limited time. -/
structure Brings (reply : Reply) (limit : Duration) (response : Response) : Prop where
  inTime : reply.delay.millis ≤ limit.millis
  result_eq : reply.result = .ok response

/-- What a client that waits for a limited time has of a reply. -/
def within (reply : Reply) (limit : Duration) (silent : NetworkFault) : Except Error Response :=
  if limit.millis < reply.delay.millis then .error (.network silent) else reply.result

variable {reply : Reply} {limit : Duration} {silent : NetworkFault}

theorem within_of_late (h : limit.millis < reply.delay.millis) :
    reply.within limit silent = .error (.network silent) :=
  if_pos h

theorem within_of_inTime (h : reply.delay.millis ≤ limit.millis) :
    reply.within limit silent = reply.result :=
  if_neg (Nat.not_lt_of_le h)

theorem within_eq_ok_iff {response : Response} :
    reply.within limit silent = .ok response ↔ reply.Brings limit response := by
  constructor
  · intro h
    by_cases hlate : limit.millis < reply.delay.millis
    · rw [within_of_late hlate] at h
      exact nomatch h
    · have htime := Nat.le_of_not_lt hlate
      rw [within_of_inTime htime] at h
      exact ⟨htime, h⟩
  · intro h
    rw [within_of_inTime h.inTime]
    exact h.result_eq

end Reply

/-! ## Runs -/

namespace Exchange

variable {α β : Type} {server : Server} {log log' : List Request}

@[simp]
theorem run_lift (x : Except Error α) :
    (liftM x : Exchange α).run server log = (x, log) := rfl

@[simp]
theorem run_pure (a : α) : (pure a : Exchange α).run server log = (.ok a, log) := rfl

theorem run_bind_of_ok {e : Exchange α} {f : α → Exchange β} {a : α}
    (h : e.run server log = (.ok a, log')) :
    (e >>= f).run server log = (f a).run server log' := by
  show (e.andThen f).run server log = _
  rw [run_andThen, h]

theorem run_bind_of_error {e : Exchange α} {f : α → Exchange β} {fault : Error}
    (h : e.run server log = (.error fault, log')) :
    (e >>= f).run server log = (.error fault, log') := by
  show (e.andThen f).run server log = _
  rw [run_andThen, h]

theorem run_bind_eq_ok_iff {e : Exchange α} {f : α → Exchange β} {b : β} :
    (e >>= f).run server log = (.ok b, log') ↔
      ∃ a log₁, e.run server log = (.ok a, log₁) ∧ (f a).run server log₁ = (.ok b, log') := by
  rcases hrun : e.run server log with ⟨fault | a, log₁⟩
  · rw [run_bind_of_error hrun]
    simp
  · rw [run_bind_of_ok hrun]
    constructor
    · intro h
      exact ⟨a, log₁, rfl, h⟩
    · intro h
      obtain ⟨a', log₂, heq, h⟩ := h
      injection heq with ha hlog
      injection ha with ha
      rwa [ha, hlog]

/-- What needs no request after a run may be done with its result. -/
theorem run_bind_lift (e : Exchange α) (g : α → Except Error β) :
    (e >>= fun a => (liftM (g a) : Exchange β)).run server log =
      ((e.run server log).1 >>= g, (e.run server log).2) := by
  rcases hrun : e.run server log with ⟨fault | a, log₁⟩
  · exact run_bind_of_error hrun
  · exact run_bind_of_ok hrun

/-- What needs no request may be done outside. -/
theorem run_lift_bind {x : Except Error α} {f : α → Exchange β} {g : α → Except Error β}
    (h : ∀ a, (f a).run server log = (g a, log)) :
    ((liftM x : Exchange α) >>= f).run server log = (x >>= g, log) := by
  cases x with
  | error fault => rfl
  | ok a => exact h a

/-- A run that starts with a result from elsewhere. -/
theorem run_lift_bind_eq_ok_iff {x : Except Error α} {f : α → Exchange β} {b : β} :
    ((liftM x : Exchange α) >>= f).run server log = (.ok b, log') ↔
      ∃ a, x = .ok a ∧ (f a).run server log = (.ok b, log') := by
  rw [run_bind_eq_ok_iff]
  simp

/-- Sending a request puts it on the log and brings what the reply has. -/
theorem run_send (request : Request) (limit : Duration) (silent : NetworkFault) :
    (send request limit silent).run server log =
      ((server log request).within limit silent, log ++ [request]) := rfl

end Exchange

end ClauseTx.Http
