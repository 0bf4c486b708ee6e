import ClauseTx.Fee.Quantity
import ClauseTx.Json.Record

/-!
# Fee histories

A node reports the fees of past blocks: the base fee of each block, how full
it was, and on request what tips were paid.  This module has the options of
such a request, with the check that comes before sending it, and the reader
of the answer.
-/

namespace ClauseTx

/-! ## Options -/

/-- What to ask of the past. -/
structure HistoryOptions where
  /-- How many blocks to report. -/
  blockCount : UInt32
  /-- The block that comes last. -/
  newestBlock : String
  /-- For each block the tips at these percentiles are reported. -/
  percentiles : Option (List UInt8)
deriving DecidableEq

namespace HistoryOptions

/-- The blocks that have a name. -/
def namedRevisions : List String := ["best", "next", "finalized", "justified"]

/-- Whether a text is the id or the number of a block. -/
def isNumbered : List Char → Bool
  | '0' :: 'x' :: digits => digits.length = 64 && digits.all Text.isHexDigit
  | digits =>
    match Text.signedDecimal? digits with
    | some n => n < UInt32.size
    | none => false

/-- Whether a text tells a block: a name, an id of 64 hexadecimal digits after
`0x`, or a number of 32 bits. -/
def isRevision (text : String) : Bool :=
  namedRevisions.contains text || isNumbered text.toList

/-- Refuses options that a node would refuse. -/
def validate (options : HistoryOptions) : Except Error Unit :=
  if options.blockCount = 0 then .error (.invalidDataType .zeroBlockCount)
  else if !isRevision options.newestBlock then
    .error (.invalidDataType (.revision options.newestBlock))
  else
    match (options.percentiles.getD []).find? (· > 100) with
    | some p => .error (.invalidDataType (.percentile p.toNat))
    | none => .ok ()

/-- Options as the parameters of a request. -/
def query (options : HistoryOptions) : List (String × String) :=
  [("blockCount", Nat.repr options.blockCount.toNat), ("newestBlock", options.newestBlock)] ++
    match options.percentiles with
    | some ps => [("rewardPercentiles", ",".intercalate (ps.map fun p => Nat.repr p.toNat))]
    | none => []

end HistoryOptions

/-! ## Answers -/

/-- The fees of past blocks. -/
structure FeeHistory where
  oldestBlock : UInt64
  baseFees : List UInt256
  gasUsedRatios : List Float
  /-- For each block the tips at the percentiles, if any were asked for. -/
  rewards : Option (List (List UInt256))

namespace FeeHistory

open Json

/-- The fields of an answer. -/
def shape : List Field :=
  [⟨"oldestBlock", false⟩, ⟨"baseFeePerGas", false⟩, ⟨"gasUsedRatio", false⟩, ⟨"reward", true⟩]

/-- An answer whose amounts are not yet read. -/
structure Raw where
  oldestBlock : Json
  baseFees : List String
  gasUsedRatios : List Float
  rewards : Option (List (List String))

/-- Reads an answer up to its amounts. -/
def raw? (body : Bytes) : Option Raw := do
  let record ← Syntax.parse? body
  match ← record.fields? shape with
  | [some oldest, some fees, some ratios, rewards] =>
    return {
      oldestBlock := ← oldest.toJson? (maxLevels - 1)
      baseFees := ← fees.list? Syntax.string?
      gasUsedRatios := ← ratios.list? Syntax.float?
      rewards := ← Syntax.optional? (Syntax.list? (Syntax.list? Syntax.string?)) rewards }
  | _ => none

/-- Reads a block's number, which is a number or a quantity of 64 bits. -/
def blockNumber (value : Json) : Except Error UInt64 := do
  let number? ← match value with
    | .number (.natural n) => pure (some n)
    | .string text => do
      let amount ← Quantity.parse "oldestBlock" text
      pure (if amount.toNat < UInt64.size then some amount.toNat else none)
    | _ => pure none
  match number? with
  | some n => .ok (UInt64.ofNat n)
  | none => .error (.invalidDataType (.notBlockNumber value.render))

/-- Reads an answer. -/
def parse (body : Bytes) : Except Error FeeHistory := do
  match raw? body with
  | none => .error (.invalidDataType .feeHistoryJson)
  | some raw =>
    let oldestBlock ← blockNumber raw.oldestBlock
    let baseFees ← raw.baseFees.mapM (Quantity.parse "baseFeePerGas")
    let rewards ← raw.rewards.mapM fun rows => rows.mapM (·.mapM (Quantity.parse "reward"))
    return ⟨oldestBlock, baseFees, raw.gasUsedRatios, rewards⟩

end FeeHistory

end ClauseTx
