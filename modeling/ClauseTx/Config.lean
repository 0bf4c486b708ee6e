import ClauseTx.Fee.Client
import ClauseTx.GasPayer.Remote

/-!
# Configuration

Where the services are and how long to wait for them.  All of it has a value
without being configured, apart from the gas payer's service.
-/

namespace ClauseTx

open Http Json

/-- For how long to wait when nothing else is said. -/
def defaultLimit : Duration := .seconds 10

/-- Where the services are. -/
structure ClientConfig where
  nodeUrl : String := "http://localhost:8669"
  gasPayerUrl : Option String := none
  /-- For how long to wait for a response. -/
  limit : Duration := defaultLimit
deriving DecidableEq, Inhabited

namespace ClientConfig

/-- The fields of a configuration.  Any of them may be missing. -/
def shape : List Field :=
  [⟨"node_url", true⟩, ⟨"gas_payer_url", true⟩, ⟨"request_timeout", true⟩]

/-- Reads a field, or takes its value when it is missing. -/
def orElse {α : Type} (read : Syntax → Option α) (missing : α) : Option Syntax → Option α
  | some value => read value
  | none => some missing

/-- Reads a configuration from JSON.  Times are in milliseconds. -/
def parse? (text : Bytes) : Option ClientConfig := do
  let record ← Syntax.parse? text
  let defaults : ClientConfig := {}
  match ← record.fields? shape with
  | [node, payer, limit] =>
    return {
      nodeUrl := ← orElse Syntax.string? defaults.nodeUrl node
      gasPayerUrl := ← Syntax.optional? Syntax.string? payer
      limit := ← orElse (fun s => s.natural?.map Duration.mk) defaults.limit limit }
  | _ => none

/-- The address of the node. -/
def node (config : ClientConfig) : BaseUrl :=
  .ofText config.nodeUrl

/-- How the node is asked for fees. -/
def feeClient (config : ClientConfig) : FeeClient :=
  ⟨config.limit⟩

/-- The gas payer, if one is configured. -/
def gasPayer (config : ClientConfig) : Except Error RemoteGasPayer :=
  match config.gasPayerUrl with
  | some url => .ok ⟨url, config.limit⟩
  | none => .error (.illegalArgument .noGasPayerUrl)

end ClientConfig

/-- The gas payer behind an address. -/
def RemoteGasPayer.ofUrl (url : String) : RemoteGasPayer :=
  ⟨url, defaultLimit⟩

end ClauseTx
