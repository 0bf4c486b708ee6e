import ClauseTx.Address.Basic
import ClauseTx.Duration
import ClauseTx.Ecdsa.Error
import ClauseTx.Rlp.Error
import ClauseTx.Text.Quoted
import ClauseTx.UInt256

/-!
# Errors

Every operation on transactions, fees, keys and services fails with an
`Error`.  The constructors are the causes.  `Error.message` is the only place
that words them.
-/

namespace ClauseTx

/-! ## Values that are refused -/

/-- The fields of a transaction that are set from an integer. -/
inductive IntegerField where
  | chainTag
  | expiration
  | gas
  | nonce
  | gasPriceCoef
deriving DecidableEq

/-- The name of a field. -/
def IntegerField.name : IntegerField → String
  | .chainTag => "chain_tag"
  | .expiration => "expiration"
  | .gas => "gas"
  | .nonce => "nonce"
  | .gasPriceCoef => "gas_price_coef"

/-- The two amounts of a dynamic fee. -/
inductive FeeField where
  | maxFee
  | maxPriority
deriving DecidableEq

/-- The name of a field. -/
def FeeField.name : FeeField → String
  | .maxFee => "max_fee_per_gas"
  | .maxPriority => "max_priority_fee_per_gas"

/-- Why a value is refused where it is given. -/
inductive ArgumentError where
  | addressText
  | addressLength (length : Nat)
  | blockRefLength (length : Nat)
  | dependsOnLength (length : Nat)
  | outOfRange (field : IntegerField)
  | noClauses
  | zeroGas
  /-- A coefficient while an amount of a dynamic fee is set. -/
  | coefWithDynamicFee
  /-- An amount of a dynamic fee while a coefficient is set. -/
  | dynamicFeeWithCoef (field : FeeField)
  | tipAboveCap (tip cap : UInt256)
  | trailingReserved
  | zeroBaseFee
  | mnemonicWords
  | wordCount (count : Nat)
  | pathText (path : String)
  | pathDerivation
  | seedLength
  | indexRange (index : Nat)
  | childDerivation (index : Nat)
  /-- A delegated transaction where only the sender signs. -/
  | needsGasPayer
  | noExpectedGasPayer
  | noGasPayerUrl
deriving DecidableEq

/-- The name of the value that is refused. -/
def ArgumentError.field : ArgumentError → String
  | .addressText | .addressLength _ => "address"
  | .blockRefLength _ => "block_ref"
  | .dependsOnLength _ => "depends_on"
  | .outOfRange field => field.name
  | .noClauses => "clauses"
  | .zeroGas => IntegerField.gas.name
  | .coefWithDynamicFee => IntegerField.gasPriceCoef.name
  | .dynamicFeeWithCoef field => field.name
  | .tipAboveCap _ _ => FeeField.maxPriority.name
  | .trailingReserved => "reserved.unused"
  | .zeroBaseFee => "base_fee"
  | .mnemonicWords => "mnemonic"
  | .wordCount _ => "word_count"
  | .pathText _ | .pathDerivation => "path"
  | .seedLength => "seed"
  | .indexRange _ | .childDerivation _ => "index"
  | .needsGasPayer => "reserved.features"
  | .noExpectedGasPayer => "expected_gas_payer"
  | .noGasPayerUrl => "gas_payer_url"

/-- What is wrong with the value. -/
def ArgumentError.reason : ArgumentError → String
  | .addressText => "expected 40 hex digits with optional 0x prefix"
  | .addressLength length => "expected 20 bytes, got " ++ Nat.repr length
  | .blockRefLength length => "expected 8 bytes, got " ++ Nat.repr length
  | .dependsOnLength length => "expected 32 bytes, got " ++ Nat.repr length
  | .outOfRange _ => "value is negative or out of range"
  | .noClauses => "at least one clause is required"
  | .zeroGas | .zeroBaseFee => "must be greater than zero"
  | .coefWithDynamicFee => "cannot be combined with dynamic fee fields"
  | .dynamicFeeWithCoef _ => "cannot be combined with gas_price_coef"
  | .tipAboveCap tip cap => tip.text ++ " exceeds max_fee_per_gas " ++ cap.text
  | .trailingReserved => "trailing empty entry must be trimmed"
  | .mnemonicWords => "invalid mnemonic words"
  | .wordCount count => Nat.repr count ++ " is not one of 12, 15, 18, 21, 24"
  | .pathText path => "`" ++ path ++ "` is not a derivation path"
  | .pathDerivation => "derivation failed for the given path"
  | .seedLength => "seed must be 16 to 64 bytes"
  | .indexRange index => Nat.repr index ++ " is out of range"
  | .childDerivation index => "cannot derive child " ++ Nat.repr index
  | .needsGasPayer => "delegated transaction needs a gas payer signature"
  | .noExpectedGasPayer => "delegated transaction needs an expected gas payer"
  | .noGasPayerUrl => "no gas payer configured"

/-! ## Signatures that do not fit their transaction -/

/-- What is wrong with the signature of a transaction. -/
inductive SignatureError where
  /-- A single signature is unusable. -/
  | single (fault : Ecdsa.SignatureFault)
  /-- The transaction asks for a signature of another length. -/
  | transactionLength (expected length : Nat)
  | sender (recovered expected : Address)
  | gasPayer (recovered expected : Address)
deriving DecidableEq

/-- The wording of a signature error. -/
def SignatureError.message : SignatureError → String
  | .single fault => fault.message
  | .transactionLength expected length =>
    "expected " ++ Nat.repr expected ++ " bytes for this transaction, got " ++ Nat.repr length
  | .sender recovered expected =>
    "sender signature recovers " ++ recovered.checksummed ++ ", expected " ++ expected.checksummed
  | .gasPayer recovered expected =>
    "gas payer signature recovers " ++ recovered.checksummed ++ ", expected " ++
      expected.checksummed

/-! ## Services that answer badly or not at all -/

/-- The wording of a fault in hexadecimal text. -/
def Hex.DecodeError.message : Hex.DecodeError → String
  | .oddLength => "Odd number of digits"
  | .invalidDigit byte position =>
    "Invalid character " ++ Text.Quoted.char (Char.ofUInt8 byte) ++ " at position " ++
      Nat.repr position

/-- What is wrong with the answer of a gas payer service. -/
inductive PayerFault where
  | status (code : Nat)
  | notJson
  | noSignature
  | notHex (fault : Hex.DecodeError)
  | signatureLength (length : Nat)
deriving DecidableEq

/-- The wording of a fault. -/
def PayerFault.message : PayerFault → String
  | .status code => "status " ++ Nat.repr code
  | .notJson => "response is not valid JSON"
  | .noSignature => "response has no `signature` field"
  | .notHex fault => "signature is not hex: " ++ fault.message
  | .signatureLength length => "signature is " ++ Nat.repr length ++ " bytes, expected 65"

/-- Why a service could not be asked. -/
inductive NetworkFault where
  /-- The connection failed, with a text of its own. -/
  | transport (text : String)
  /-- The node did not answer in time. -/
  | nodeSilent (path : String) (limit : Duration)
  /-- The node answered with an error status. -/
  | nodeStatus (path : String) (code : Nat) (text : String)
  /-- The gas payer service did not answer in time. -/
  | payerSilent (url : String) (limit : Duration)
deriving DecidableEq

/-- The wording of a fault. -/
def NetworkFault.message : NetworkFault → String
  | .transport text => text
  | .nodeSilent path limit => path ++ " timed out after " ++ limit.text
  | .nodeStatus path code text =>
    path ++ " returned status " ++ Nat.repr code ++ ": " ++ text
  | .payerSilent url limit =>
    "gas payer at " ++ url ++ " did not answer within " ++ limit.text

/-- Why the data of a node, or an option sent to it, is refused. -/
inductive DataFault where
  | feeHistoryJson
  | priorityFeeJson
  | noPriorityFee (response : String)
  | notQuantity (field text : String)
  | notBlockNumber (shown : String)
  | zeroBlockCount
  | revision (text : String)
  | percentile (p : Nat)
deriving DecidableEq

/-- The wording of a fault. -/
def DataFault.message : DataFault → String
  | .feeHistoryJson => "malformed fee history"
  | .priorityFeeJson => "malformed priority fee"
  | .noPriorityFee response => "priority fee response has no maxPriorityFeePerGas: " ++ response
  | .notQuantity field text => field ++ " `" ++ text ++ "` is not a quantity"
  | .notBlockNumber shown => "oldestBlock `" ++ shown ++ "` is not a block number"
  | .zeroBlockCount => "block_count must be a positive integer"
  | .revision text => "newest_block `" ++ text ++ "` is not a valid revision"
  | .percentile p => "reward percentile " ++ Nat.repr p ++ " is outside 0..=100"

/-! ## All errors -/

/-- Why an operation fails. -/
inductive Error where
  /-- A value was refused where it was given. -/
  | illegalArgument (cause : ArgumentError)
  /-- Bytes are not the encoding of anything. -/
  | malformedEncoding (cause : Rlp.Error)
  | invalidPrivateKey
  | invalidMessageHash (length : Nat)
  | invalidSignature (cause : SignatureError)
  | invalidPublicKey (fault : Ecdsa.PublicKeyFault)
  /-- The gas payer service refused, or its answer is unusable.  The text of
  the answer is kept. -/
  | remoteGasSigner (fault : PayerFault) (response : String)
  /-- A service could not be reached in time. -/
  | network (fault : NetworkFault)
  /-- A service sent data of another form. -/
  | invalidDataType (fault : DataFault)
  /-- A delegated transaction was needed. -/
  | notDelegated
  /-- A signed transaction was needed. -/
  | unsigned
deriving DecidableEq

namespace Error

/-- An error of keys or signatures. -/
def ofEcdsa : Ecdsa.Error → Error
  | .invalidPrivateKey => .invalidPrivateKey
  | .invalidMessageHash length => .invalidMessageHash length
  | .invalidSignature fault => .invalidSignature (.single fault)
  | .invalidPublicKey fault => .invalidPublicKey fault

/-- The wording of an error. -/
def message : Error → String
  | .illegalArgument cause => "illegal argument `" ++ cause.field ++ "`: " ++ cause.reason
  | .malformedEncoding cause => "malformed encoding: " ++ cause.message
  | .invalidPrivateKey => "invalid private key"
  | .invalidMessageHash length =>
    "invalid message hash: expected 32 bytes, got " ++ Nat.repr length
  | .invalidSignature cause => "invalid signature: " ++ cause.message
  | .invalidPublicKey fault => "invalid public key: " ++ fault.message
  | .remoteGasSigner fault _ => "remote gas signer error: " ++ fault.message
  | .network fault => "network error: " ++ fault.message
  | .invalidDataType fault => "invalid data type: " ++ fault.message
  | .notDelegated => "transaction is not delegated"
  | .unsigned => "transaction is not signed"

/-- Whether trying again may help. -/
def isRetryable : Error → Bool
  | .network _ => true
  | _ => false

end Error

end ClauseTx
