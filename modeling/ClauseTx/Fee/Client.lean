import ClauseTx.Fee.Suggestion
import ClauseTx.Http.Exchange

/-!
# Asking a node for fees

A node reports past fees and the tip that it suggests itself.  The client
prefers a suggestion from past fees, and asks for the node's only when no
past tips are reported.
-/

namespace ClauseTx

open Http Json

/-- How a node is asked for fees. -/
structure FeeClient where
  /-- For how long to wait for a response. -/
  limit : Duration
deriving DecidableEq

namespace FeeClient

/-- The path of past fees. -/
def historyPath : String := "/fees/history"

/-- The path of the node's suggestion. -/
def priorityPath : String := "/fees/priority"

/-- What is shown of a client. -/
def shown (c : FeeClient) : String :=
  "FeesClient \x7b timeout: " ++ c.limit.text ++ ", .. \x7d"

/-- Asks for a path.  A response without success is an error. -/
def get (c : FeeClient) (path : String) (query : List (String × String)) :
    Exchange Response := do
  let response ← Exchange.send (.get path query) c.limit (.nodeSilent path c.limit)
  if response.isSuccess then return response
  else
    .done (.error (.network (.nodeStatus path response.status.toNat response.text)))

/-! ## Past fees -/

/-- The fees of past blocks.  Options are checked before anything is
sent. -/
def history (c : FeeClient) (options : HistoryOptions) : Exchange FeeHistory := do
  options.validate
  let response ← c.get historyPath options.query
  FeeHistory.parse response.body

/-- The base fee of the next block, if the node tells one. -/
def nextBaseFee (c : FeeClient) : Exchange (Option UInt256) := do
  let history ← c.history ⟨1, "next", none⟩
  return history.baseFees.head?

/-! ## Tips -/

/-- The fields of the node's suggestion. -/
def priorityShape : List Field := [⟨"maxPriorityFeePerGas", false⟩]

/-- The text of the node's suggestion, which may be missing. -/
def priorityText? (body : Bytes) : Option (Option String) := do
  let record ← (← Syntax.parse? body).nullable? (Syntax.fields? priorityShape)
  match record with
  | some [field] => Syntax.optional? Syntax.string? field
  | _ => some none

/-- Reads the node's suggestion. -/
def priority (response : Response) : Except Error UInt256 :=
  match priorityText? response.body with
  | none => .error (.invalidDataType .priorityFeeJson)
  | some none => .error (.invalidDataType (.noPriorityFee response.text))
  | some (some text) =>
    if text.isEmpty then .error (.invalidDataType (.noPriorityFee response.text))
    else Quantity.parse "maxPriorityFeePerGas" text

/-- The tip that the node suggests. -/
def nodePriority (c : FeeClient) : Exchange UInt256 := do
  priority (← c.get priorityPath [])

/-- The number of past blocks that a suggestion looks at. -/
def sampleBlocks : UInt32 := 10

/-- The percentiles that a suggestion asks for.  The last one counts. -/
def samplePercentiles : List UInt8 := [25, 50, 75]

/-- What a suggestion asks of the past. -/
def sampleOptions : HistoryOptions :=
  ⟨sampleBlocks, "best", some samplePercentiles⟩

/-- The tip to offer at a base fee, never above `Fee.priorityCap`. -/
def suggest (c : FeeClient) (base : UInt256) : Exchange UInt256 := do
  let history ← c.history sampleOptions
  match history.suggestion base with
  | some tip => return tip
  | none => return min (← c.nodePriority) (Fee.priorityCap base)

end FeeClient

end ClauseTx
