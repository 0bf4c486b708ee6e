import ClauseTx.Bytes
import ClauseTx.Text.Split
import ClauseTx.Text.Utf8

/-!
# Requests and responses

What is sent to a service and what comes back.  The path of a request is a
full address, or it is joined to the address of the service by
`BaseUrl.resolve`.
-/

namespace ClauseTx.Http

/-- What is sent to a service. -/
inductive Request where
  | get (path : String) (query : List (String × String))
  /-- Sends a text in JSON. -/
  | post (path body : String)
deriving DecidableEq

/-- The path of a request. -/
def Request.path : Request → String
  | .get path _ => path
  | .post path _ => path

/-- What comes back. -/
structure Response where
  status : UInt16
  body : Bytes
deriving DecidableEq

namespace Response

/-- Whether the status says that all went well. -/
def isSuccess (r : Response) : Bool :=
  200 ≤ r.status && r.status < 300

/-- The body as a text.  What is not UTF-8 shows as replacement
characters. -/
def text (r : Response) : String :=
  Text.Utf8.decodeLossy r.body

end Response

/-! ## Addresses of services -/

/-- The address of a service, without slashes at its end. -/
structure BaseUrl where
  text : String
deriving DecidableEq

namespace BaseUrl

/-- A text as the address of a service. -/
def ofText (text : String) : BaseUrl :=
  ⟨String.ofList (text.toList.reverse.dropWhile (· = '/')).reverse⟩

/-- Whether a path is a full address. -/
def isAbsolute (path : List Char) : Bool :=
  (Text.stripPrefix? "http://".toList path).isSome ||
    (Text.stripPrefix? "https://".toList path).isSome

/-- The full address of a path. -/
def resolve (base : BaseUrl) (path : String) : String :=
  if isAbsolute path.toList then path
  else if path.isEmpty then base.text
  else base.text ++ "/" ++ String.ofList (path.toList.dropWhile (· = '/'))

end BaseUrl

end ClauseTx.Http
