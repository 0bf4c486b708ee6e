import ClauseTx.Transaction.Clause

/-!
# Intrinsic gas

Every transaction costs gas before any of its clauses runs: a fixed part, a
part for each clause, and a part for each byte of data.  Sums stop at the
largest number of 64 bits.
-/

namespace ClauseTx.Gas

/-- The cost of a transaction. -/
def transaction : UInt64 := 5000

/-- The cost of a clause that names an account. -/
def clause : UInt64 := 16000

/-- The cost of a clause that creates a contract. -/
def creation : UInt64 := 48000

/-- The cost of a zero byte. -/
def zeroByte : UInt64 := 4

/-- The cost of any other byte. -/
def otherByte : UInt64 := 68

/-- A sum that stops at the largest number of 64 bits. -/
def satAdd (a b : UInt64) : UInt64 :=
  UInt64.ofNat (min (a.toNat + b.toNat) (UInt64.size - 1))

/-- The cost of a byte of data. -/
def ofByte (b : UInt8) : UInt64 :=
  if b = 0 then zeroByte else otherByte

/-- The cost of data. -/
def ofData (data : Bytes) : UInt64 :=
  data.foldl (fun total b => satAdd total (ofByte b)) 0

/-- The cost of a clause without its data. -/
def ofKind (c : Clause) : UInt64 :=
  if c.isCreation then creation else clause

/-- The gas that a transaction with given clauses uses up before they run.
Having none costs as much as one empty clause. -/
def intrinsic (clauses : List Clause) : UInt64 :=
  if clauses.isEmpty then transaction + clause
  else clauses.foldl (fun total c => satAdd (satAdd total (ofKind c)) (ofData c.data)) transaction

end ClauseTx.Gas
