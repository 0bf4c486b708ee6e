import ClauseTx.Error
import ClauseTx.Http.Message

/-!
# Exchanges with a service

An exchange is a value: it ends with a result, or it sends a request and goes
on with the reply.  It runs against a server, which may reply to each request
in a way that depends on all requests before it.  A run tells the result and
the log of requests, so what an exchange sends can be stated for all servers.

Time is part of a reply.  A client that waits for a limited time treats a
reply that comes later as silence.
-/

namespace ClauseTx.Http

/-- What a server does with a request: a response or a failure of the
connection, after some time. -/
structure Reply where
  delay : Duration
  result : Except Error Response

/-- A server replies to a request after the requests in a log. -/
abbrev Server := (log : List Request) → Request → Reply

/-- A program that talks to a server. -/
inductive Exchange (α : Type) where
  | done (result : Except Error α)
  | ask (request : Request) (next : Reply → Exchange α)

namespace Exchange

variable {α β : Type}

/-- One exchange after another.  An error ends both. -/
def andThen (e : Exchange α) (f : α → Exchange β) : Exchange β :=
  match e with
  | .done (.ok a) => f a
  | .done (.error e) => .done (.error e)
  | .ask request next => .ask request fun reply => (next reply).andThen f

instance : Monad Exchange where
  pure a := .done (.ok a)
  bind := andThen

/-- A result that needs no request. -/
instance : MonadLift (Except Error) Exchange := ⟨.done⟩

/-- Sends a request and waits for the response for a limited time. -/
def send (request : Request) (limit : Duration) (silent : NetworkFault) : Exchange Response :=
  .ask request fun reply =>
    .done (if limit.millis < reply.delay.millis then .error (.network silent) else reply.result)

/-- Runs an exchange against a server that has seen the requests of a log.
The second part of the answer is the log at the end. -/
def run (server : Server) (log : List Request) : Exchange α → Except Error α × List Request
  | .done result => (result, log)
  | .ask request next => run server (log ++ [request]) (next (server log request))

/-- Running one exchange after another: the second goes on with the log of the
first, and an error of the first is the end. -/
theorem run_andThen (server : Server) (log : List Request) (e : Exchange α)
    (f : α → Exchange β) :
    (e.andThen f).run server log =
      match e.run server log with
      | (.ok a, log) => (f a).run server log
      | (.error e, log) => (.error e, log) := by
  induction e generalizing log with
  | done result => cases result <;> rfl
  | ask request next ih => exact ih (server log request) (log ++ [request])

/-- The result against a server. -/
def result (server : Server) (e : Exchange α) : Except Error α :=
  (e.run server []).1

/-- The requests that a server receives. -/
def requests (server : Server) (e : Exchange α) : List Request :=
  (e.run server []).2

/-- Runs exchanges one after another, whatever their results. -/
def runAll (server : Server) (log : List Request) :
    List (Exchange α) → List (Except Error α) × List Request
  | [] => ([], log)
  | e :: es =>
    let (result, log) := e.run server log
    let (results, log) := runAll server log es
    (result :: results, log)

end Exchange

end ClauseTx.Http
