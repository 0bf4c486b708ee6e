import ClauseTx.Fee.Basic
import ClauseTx.Transaction.Gas

/-!
# Bodies of transactions

A body is what a transaction says before anyone has signed it.  It is valid
if it has a clause and some gas, its tip is within its cap, and its reserved
section is trimmed (`Body.Valid`).

`Body.check` refuses what breaks one of the first three rules, in this order.
The fourth is kept by all that puts a reserved section into a body.
-/

namespace ClauseTx

/-! ## The reserved section -/

/-- The part of a body that is kept for extensions. -/
structure Reserved where
  /-- A set of flags.  The lowest one asks for a gas payer. -/
  features : UInt32 := 0
  /-- Entries without a meaning so far. -/
  unused : List Bytes := []
deriving DecidableEq, Inhabited

namespace Reserved

/-- The flag that asks for a gas payer. -/
def delegationFeature : UInt32 := 1

/-- Whether a gas payer is asked for. -/
def isDelegated (r : Reserved) : Bool :=
  r.features &&& delegationFeature = delegationFeature

/-- Asks for a gas payer, or no longer asks.  All else stays. -/
def setDelegated (r : Reserved) (on : Bool) : Reserved :=
  { r with
    features :=
      if on then r.features ||| delegationFeature else r.features &&& ~~~delegationFeature }

/-- Whether the last entry is not empty.  An empty one would be lost in the
encoding. -/
def isTrimmed (r : Reserved) : Bool :=
  r.unused.getLast? ≠ some []

end Reserved

/-! ## Bodies -/

/-- What a transaction says before it is signed. -/
structure Body where
  /-- The last byte of the id of the first block of the chain. -/
  chainTag : UInt8
  /-- The first bytes of the id of the block after which the transaction may
  run. -/
  blockRef : Blob 8
  /-- For how many blocks it may run. -/
  expiration : UInt32
  clauses : List Clause
  /-- The most gas that it may use. -/
  gas : UInt64
  /-- The id of a transaction that must run before. -/
  dependsOn : Option (Blob 32)
  nonce : UInt64
  fee : Fee
  reserved : Reserved
deriving DecidableEq

namespace Body

/-- The length of a block reference. -/
def blockRefLength : Nat := 8

/-- The length of the id of a transaction. -/
def idLength : Nat := 32

/-- A body without the remarks of its clauses. -/
def plain (b : Body) : Body :=
  { b with clauses := b.clauses.map Clause.plain }

/-- Whether two bodies say the same.  Remarks do not count. -/
def agrees (a b : Body) : Bool :=
  a.plain = b.plain

/-- Whether a gas payer is asked for. -/
def isDelegated (b : Body) : Bool :=
  b.reserved.isDelegated

/-- The gas that is used up before the clauses run. -/
def intrinsicGas (b : Body) : UInt64 :=
  Gas.intrinsic b.clauses

/-! ## Validity -/

/-- The rules that hold for every body that is built or decoded. -/
structure Valid (b : Body) : Prop where
  clauses_ne_nil : b.clauses ≠ []
  gas_ne_zero : b.gas ≠ 0
  fee_valid : b.fee.Valid
  reserved_isTrimmed : b.reserved.isTrimmed = true

/-- Refuses a body without clauses, without gas, or with a tip above its
cap. -/
def check (b : Body) : Except Error Body :=
  if b.clauses.isEmpty then .error (.illegalArgument .noClauses)
  else if b.gas = 0 then .error (.illegalArgument .zeroGas)
  else
    match b.fee.checked with
    | .ok _ => .ok b
    | .error e => .error e

end Body

end ClauseTx
