import ClauseTx.Http.Exchange

/-!
# Servers with prepared replies

A script lists replies with the paths that they are for.  Each reply is given
once, in order; a path without a reply left has no route.
-/

namespace ClauseTx.Http

/-- A prepared reply. -/
structure Route where
  path : String
  reply : Reply

/-- The prepared replies of a server. -/
abbrev Script := List Route

namespace Script

/-- The replies that are left for a path after the requests in a log. -/
def left (script : Script) (log : List Request) (path : String) : List Route :=
  (script.filter (·.path = path)).drop (log.countP (·.path = path))

/-- The failure of a request without a route. -/
def noRoute (path : String) : Reply :=
  ⟨⟨0⟩, .error (.network (.transport ("no route for " ++ path)))⟩

/-- The server of a script. -/
def server (script : Script) : Server := fun log request =>
  match script.left log request.path with
  | route :: _ => route.reply
  | [] => noRoute request.path

end Script

end ClauseTx.Http
