import ClauseTx.Transaction.Body

/-!
# Drafts of transactions

A draft is a body in the making.  `Draft.set` puts one value into it and
refuses a value that does not fit, so that a mistake shows where it is made.
`Draft.build` turns a draft into a body.

A draft has a coefficient or amounts of a dynamic fee, never both.  Setting a
whole fee replaces either.
-/

namespace ClauseTx

/-- A body in the making. -/
structure Draft where
  chainTag : UInt8 := 0
  blockRef : Blob 8 := Blob.zero 8
  expiration : UInt32 := 0
  clauses : List Clause := []
  gas : UInt64 := 0
  dependsOn : Option (Blob 32) := none
  nonce : UInt64 := 0
  coef : Option UInt8 := none
  maxFee : Option UInt256 := none
  maxPriority : Option UInt256 := none
  reserved : Reserved := {}
deriving DecidableEq, Inhabited

/-- A value that is put into a draft. -/
inductive Setting where
  | chainTag (value : Int)
  | blockRef (bytes : Bytes)
  | expiration (value : Int)
  /-- One more clause. -/
  | clause (clause : Clause)
  /-- All clauses. -/
  | clauses (clauses : List Clause)
  | gas (value : Int)
  | dependsOn (id : Bytes)
  | nonce (value : Int)
  | coef (value : Int)
  | maxFee (amount : UInt256)
  | maxPriority (amount : UInt256)
  /-- The fee as a whole. -/
  | fee (fee : Fee)
  | reserved (reserved : Reserved)
  | delegated (on : Bool)

namespace Draft

/-- The draft from which all others are made. -/
def empty : Draft := {}

/-- The values of a field lie below this number. -/
def bound : IntegerField → Nat
  | .chainTag => UInt8.size
  | .expiration => UInt32.size
  | .gas => UInt64.size
  | .nonce => UInt64.size
  | .gasPriceCoef => UInt8.size

/-- An integer as the value of a field. -/
def narrow (field : IntegerField) (value : Int) : Except Error Nat :=
  if 0 ≤ value ∧ value.toNat < bound field then .ok value.toNat
  else .error (.illegalArgument (.outOfRange field))

/-- Refuses an amount of a dynamic fee beside a coefficient. -/
def checkNoCoef (d : Draft) (field : FeeField) : Except Error Unit :=
  if d.coef.isSome then .error (.illegalArgument (.dynamicFeeWithCoef field)) else .ok ()

/-- Refuses a tip above a cap, where both are there. -/
def checkTip : (maxFee maxPriority : Option UInt256) → Except Error Unit
  | some cap, some tip => (Fee.ofDynamic cap tip).map fun _ => ()
  | _, _ => .ok ()

/-- A draft with another fee. -/
def setFee (d : Draft) : Fee → Draft
  | .legacy coef => { d with coef := some coef, maxFee := none, maxPriority := none }
  | .dynamic maxFee maxPriority =>
    { d with coef := none, maxFee := some maxFee, maxPriority := some maxPriority }

/-- Puts a value into a draft. -/
def set (d : Draft) : Setting → Except Error Draft
  | .chainTag value => do
    return { d with chainTag := UInt8.ofNat (← narrow .chainTag value) }
  | .blockRef bytes =>
    match Blob.ofBytes? bytes with
    | some blockRef => .ok { d with blockRef }
    | none => .error (.illegalArgument (.blockRefLength bytes.length))
  | .expiration value => do
    return { d with expiration := UInt32.ofNat (← narrow .expiration value) }
  | .clause clause => .ok { d with clauses := d.clauses ++ [clause] }
  | .clauses clauses =>
    if clauses.isEmpty then .error (.illegalArgument .noClauses)
    else .ok { d with clauses }
  | .gas value => do
    let gas ← narrow .gas value
    if gas = 0 then .error (.illegalArgument .zeroGas)
    else .ok { d with gas := UInt64.ofNat gas }
  | .dependsOn id =>
    match Blob.ofBytes? id with
    | some blob => .ok { d with dependsOn := some blob }
    | none => .error (.illegalArgument (.dependsOnLength id.length))
  | .nonce value => do
    return { d with nonce := UInt64.ofNat (← narrow .nonce value) }
  | .coef value => do
    let coef ← narrow .gasPriceCoef value
    if d.maxFee.isSome || d.maxPriority.isSome then .error (.illegalArgument .coefWithDynamicFee)
    else .ok { d with coef := some (UInt8.ofNat coef) }
  | .maxFee amount => do
    d.checkNoCoef .maxFee
    checkTip (some amount) d.maxPriority
    return { d with maxFee := some amount }
  | .maxPriority amount => do
    d.checkNoCoef .maxPriority
    checkTip d.maxFee (some amount)
    return { d with maxPriority := some amount }
  | .fee fee => do return d.setFee (← fee.checked)
  | .reserved reserved =>
    if reserved.isTrimmed then .ok { d with reserved }
    else .error (.illegalArgument .trailingReserved)
  | .delegated on => .ok { d with reserved := d.reserved.setDelegated on }

/-- Puts values into a draft one after another. -/
def setAll (d : Draft) (settings : List Setting) : Except Error Draft :=
  settings.foldlM set d

/-! ## Drafts and bodies -/

/-- The fee of a draft.  A missing amount of a dynamic fee is zero. -/
def fee (d : Draft) : Fee :=
  if d.maxFee.isSome || d.maxPriority.isSome then
    .dynamic (d.maxFee.getD 0) (d.maxPriority.getD 0)
  else .legacy (d.coef.getD 0)

/-- The body that a draft describes, valid or not. -/
def body (d : Draft) : Body where
  chainTag := d.chainTag
  blockRef := d.blockRef
  expiration := d.expiration
  clauses := d.clauses
  gas := d.gas
  dependsOn := d.dependsOn
  nonce := d.nonce
  fee := d.fee
  reserved := d.reserved

/-- Turns a draft into a body. -/
def build (d : Draft) : Except Error Body :=
  d.body.check

/-- The draft of a body, to change it. -/
def ofBody (b : Body) : Draft :=
  setFee
    { chainTag := b.chainTag
      blockRef := b.blockRef
      expiration := b.expiration
      clauses := b.clauses
      gas := b.gas
      dependsOn := b.dependsOn
      nonce := b.nonce
      reserved := b.reserved }
    b.fee

end Draft

end ClauseTx
