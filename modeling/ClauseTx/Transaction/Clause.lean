import ClauseTx.Address.Basic
import ClauseTx.UInt256

/-!
# Clauses

A clause is one step of a transaction.  It sends an amount and data to an
account, or creates a contract when it names no account.

The calls of token contracts have data in a fixed layout: a selector of four
bytes, and each argument as a word of 32 bytes.
-/

namespace ClauseTx

/-- One step of a transaction. -/
structure Clause where
  /-- The account that receives the amount and the data. -/
  recipient : Option Address := none
  value : UInt256 := 0
  data : Bytes := []
  /-- A remark for people.  It is not part of the transaction. -/
  comment : Option String := none
deriving DecidableEq, Inhabited

namespace Clause

/-- A clause without its remark. -/
def plain (c : Clause) : Clause :=
  { c with comment := none }

/-- Whether two clauses do the same.  Remarks do not count. -/
def agrees (a b : Clause) : Bool :=
  a.plain = b.plain

/-- Whether a clause creates a contract. -/
def isCreation (c : Clause) : Bool :=
  c.recipient.isNone

/-! ## Plain clauses -/

/-- Sends an amount. -/
def transfer (recipient : Address) (value : UInt256) : Clause :=
  { recipient := some recipient, value }

/-- Calls a contract with data, and sends an amount along. -/
def call (contract : Address) (data : Bytes) (value : UInt256) : Clause :=
  { recipient := some contract, value, data }

/-- Creates a contract from its code. -/
def deploy (code : Bytes) : Clause :=
  { data := code }

/-- Creates a contract from its code and the encoded arguments of its
constructor. -/
def deployWithArgs (code args : Bytes) : Clause :=
  deploy (code ++ args)

/-- A clause with a remark. -/
def withComment (c : Clause) (comment : String) : Clause :=
  { c with comment := some comment }

/-! ## Calls of token contracts -/

/-- The selector of `transfer(address,uint256)`. -/
def transferSelector : Bytes := [0xA9, 0x05, 0x9C, 0xBB]

/-- The selector of `transferFrom(address,address,uint256)`. -/
def transferFromSelector : Bytes := [0x23, 0xB8, 0x72, 0xDD]

/-- The contract of the built-in energy token.  Its address ends with the
letters of `Energy`. -/
def energyContract : Address :=
  ⟨(Blob.zero 14).append ⟨Bytes.ofText "Energy", by rfl⟩⟩

/-- An address as an argument. -/
def addressWord (a : Address) : Bytes :=
  List.replicate 12 0 ++ a.bytes

/-- An amount as an argument. -/
def amountWord (v : UInt256) : Bytes :=
  Bytes.ofNat 32 v.toNat

/-- Sends an amount of a token. -/
def transferToken (token recipient : Address) (amount : UInt256) : Clause :=
  call token (transferSelector ++ addressWord recipient ++ amountWord amount) 0

/-- Sends an amount of energy. -/
def transferEnergy (recipient : Address) (amount : UInt256) : Clause :=
  transferToken energyContract recipient amount

/-- Passes a token with an id of its own from one account to another. -/
def transferUnique (contract owner recipient : Address) (id : UInt256) : Clause :=
  call contract
    (transferFromSelector ++ addressWord owner ++ addressWord recipient ++ amountWord id) 0

end Clause

end ClauseTx
