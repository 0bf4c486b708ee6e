import ClauseTx.Hash.Keccak
import ClauseTx.Rlp.Decode
import ClauseTx.Rlp.Scalar
import ClauseTx.Transaction.Body

/-!
# Encodings of transactions

A transaction is encoded as the list of its fields, with the signature at the
end if there is one:

| fee     | fields                                                            |
|---------|-------------------------------------------------------------------|
| legacy  | tag, block, expiration, clauses, coefficient, gas, ...            |
| dynamic | tag, block, expiration, clauses, tip, cap, gas, ...               |
| both    | ..., transaction to depend on, nonce, reserved section, signature |

With a dynamic fee the byte `51` comes first, which starts no list.

A `Layout` is all that an encoding says.  `Layout.encode` writes one, and
`Layout.decode` reads what fits the widths of the fields, whether or not the
body is valid.
-/

namespace ClauseTx

/-- What an encoding says. -/
structure Layout where
  body : Body
  signature : Option Bytes
deriving DecidableEq

/-- The byte before a transaction with a dynamic fee. -/
def dynamicMark : UInt8 := 0x51

/-! ## Writing -/

/-- The item of a clause. -/
def Clause.item (c : Clause) : Rlp.Item :=
  .list [Rlp.encodeOptional (c.recipient.map Address.bytes), Rlp.encodeUInt c.value, .bytes c.data]

/-- A list without the empty items at its end. -/
def trimItems (items : List Rlp.Item) : List Rlp.Item :=
  (items.reverse.dropWhile Rlp.Item.isEmpty).reverse

/-- The item of a reserved section. -/
def Reserved.item (r : Reserved) : Rlp.Item :=
  .list (trimItems (Rlp.encodeUInt64 r.features.toUInt64 :: r.unused.map Rlp.Item.bytes))

/-- The items of a fee. -/
def Fee.items : Fee → List Rlp.Item
  | .legacy coef => [Rlp.encodeUInt64 coef.toUInt64]
  | .dynamic maxFee maxPriority => [Rlp.encodeUInt maxPriority, Rlp.encodeUInt maxFee]

/-- The items of a body. -/
def Body.items (b : Body) : List Rlp.Item :=
  [Rlp.encodeUInt64 b.chainTag.toUInt64, Rlp.encodeCompact b.blockRef.bytes,
    Rlp.encodeUInt64 b.expiration.toUInt64, .list (b.clauses.map Clause.item)] ++
  b.fee.items ++
  [Rlp.encodeUInt64 b.gas, Rlp.encodeOptional (b.dependsOn.map Blob.bytes),
    Rlp.encodeUInt64 b.nonce, b.reserved.item]

namespace Layout

/-- The items of a layout. -/
def items (l : Layout) : List Rlp.Item :=
  l.body.items ++ (l.signature.map Rlp.Item.bytes).toList

/-- The encoding of a layout. -/
def encode (l : Layout) : Bytes :=
  let list := Rlp.encode (.list l.items)
  if l.body.fee.isDynamic then dynamicMark :: list else list

end Layout

/-! ## Reading -/

/-- Reads a clause. -/
def Clause.ofItem (item : Rlp.Item) : Except Rlp.Error Clause := do
  match ← item.asList "clause" with
  | [recipient, value, data] =>
    let recipient ← Rlp.decodeOptional 20 "clause.to" recipient
    let value ← Rlp.decodeUInt "clause.value" 32 value
    let data ← data.asBytes "clause.data"
    return { recipient := recipient.map Address.mk, value, data }
  | entries => .error (.invalidField "clause" (.entryCount entries.length))

/-- Reads a reserved section. -/
def Reserved.ofItem (item : Rlp.Item) : Except Rlp.Error Reserved := do
  match ← item.asList "reserved" with
  | [] => return {}
  | features :: unused =>
    if (unused.getLast?.getD features).isEmpty then
      .error (.invalidField "reserved" .trailingEmptyEntry)
    else
      let features ← Rlp.decodeUInt64 "reserved.features" 4 features
      let unused ← unused.mapM (Rlp.Item.asBytes "reserved.unused")
      return { features := features.toUInt32, unused }

/-- Reads a legacy fee. -/
def Fee.ofCoefItem (coef : Rlp.Item) : Except Rlp.Error Fee := do
  return .legacy (← Rlp.decodeUInt64 "gasPriceCoef" 1 coef).toUInt8

/-- Reads a dynamic fee. -/
def Fee.ofAmountItems (maxPriority maxFee : Rlp.Item) : Except Rlp.Error Fee := do
  let maxPriority ← Rlp.decodeUInt "maxPriorityFeePerGas" 32 maxPriority
  let maxFee ← Rlp.decodeUInt "maxFeePerGas" 32 maxFee
  return .dynamic maxFee maxPriority

/-- Reads a body from the items around its fee. -/
def Body.ofItems (chainTag blockRef expiration clauses : Rlp.Item) (fee : Except Rlp.Error Fee)
    (gas dependsOn nonce reserved : Rlp.Item) : Except Rlp.Error Body := do
  let chainTag ← Rlp.decodeUInt64 "chainTag" 1 chainTag
  let blockRef ← Rlp.decodeCompact 8 "blockRef" blockRef
  let expiration ← Rlp.decodeUInt64 "expiration" 4 expiration
  let clauses ← (← clauses.asList "clauses").mapM Clause.ofItem
  let fee ← fee
  let gas ← Rlp.decodeUInt64 "gas" 8 gas
  let dependsOn ← Rlp.decodeOptional 32 "dependsOn" dependsOn
  let nonce ← Rlp.decodeUInt64 "nonce" 8 nonce
  let reserved ← Reserved.ofItem reserved
  return {
    chainTag := chainTag.toUInt8
    blockRef
    expiration := expiration.toUInt32
    clauses
    gas
    dependsOn
    nonce
    fee
    reserved }

/-- Reads a signature, if there is one item left for it. -/
def signatureOfItems : List Rlp.Item → Except Rlp.Error (Option Bytes)
  | [] => .ok none
  | item :: _ => (item.asBytes "signature").map some

namespace Layout

/-- The number of fields without a signature. -/
def fieldCount (isDynamic : Bool) : Nat :=
  if isDynamic then 10 else 9

/-- Reads a layout from its items.  Their number comes first, and then the
signature before the body. -/
def ofItems (isDynamic : Bool) (items : List Rlp.Item) : Except Rlp.Error Layout := do
  let count := fieldCount isDynamic
  if items.length = count ∨ items.length = count + 1 then
    let signature ← signatureOfItems (items.drop count)
    match isDynamic, items with
    | false, tag :: block :: expiration :: clauses :: coef :: gas :: depends :: nonce ::
        reserved :: _ =>
      return ⟨← Body.ofItems tag block expiration clauses (Fee.ofCoefItem coef)
        gas depends nonce reserved, signature⟩
    | true, tag :: block :: expiration :: clauses :: maxPriority :: maxFee :: gas :: depends ::
        nonce :: reserved :: _ =>
      return ⟨← Body.ofItems tag block expiration clauses (Fee.ofAmountItems maxPriority maxFee)
        gas depends nonce reserved, signature⟩
    | _, _ => .error .truncated
  else .error (.invalidField "transaction" (.fieldCount count items.length))

/-- Reads a layout from the encoding of its list. -/
def ofList (isDynamic : Bool) (bs : Bytes) : Except Rlp.Error Layout := do
  ofItems isDynamic (← (← Rlp.decode bs).asList "transaction")

/-- Reads a layout. -/
def decode : Bytes → Except Rlp.Error Layout
  | [] => ofList false []
  | b :: bs => if b = dynamicMark then ofList true bs else ofList false (b :: bs)

/-- Reads a layout and checks its body. -/
def decodeValid (bs : Bytes) : Except Error Layout := do
  let layout ← (decode bs).mapError .malformedEncoding
  let body ← layout.body.check
  return { layout with body }

end Layout

/-! ## Unsigned transactions -/

namespace Body

/-- The encoding of a body without a signature. -/
def encode (b : Body) : Bytes :=
  Layout.encode ⟨b, none⟩

/-- Reads the encoding of a valid body without a signature. -/
def decode (bs : Bytes) : Except Error Body := do
  let layout ← Layout.decodeValid bs
  match layout.signature with
  | none => return layout.body
  | some _ => .error (.malformedEncoding (.invalidField "signature" .unexpectedSignature))

/-- The digest that the sender signs. -/
def signingHash (b : Body) : Hash.Digest :=
  Hash.keccak256 b.encode

end Body

/-- The digest that a gas payer signs.  It is made from the sender's digest
and from the sender, so that the gas payer pays for this sender alone. -/
def delegationHash (signingHash : Hash.Digest) (sender : Address) : Hash.Digest :=
  Hash.keccak256 (signingHash.bytes ++ sender.bytes)

/-- The digest that a gas payer signs for a body. -/
def Body.delegationHash (b : Body) (sender : Address) : Hash.Digest :=
  ClauseTx.delegationHash b.signingHash sender

end ClauseTx
