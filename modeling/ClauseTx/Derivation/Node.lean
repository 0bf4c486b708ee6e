import ClauseTx.Address.Text
import ClauseTx.Derivation.Path
import ClauseTx.Mnemonic.Phrase

/-!
# Derived keys

A node of a wallet holds a private key and a chain code (BIP-32).  A child is
the key plus a number drawn from the chain code and the index, and for a
hardened child from the private key.

`Node.deriveAlong` follows a list of indices; all other derivations are made
of it.
-/

namespace ClauseTx

/-- A node of a wallet. -/
structure Node where
  key : PrivateKey
  chainCode : Bytes
  /-- How many steps the node is away from the start. -/
  depth : Nat

namespace Node

/-- No node is further from the start than this. -/
def maxDepth : Nat := 255

/-- The two halves of a digest, the first one as a private key. -/
def split (digest : Blob 64) : Option (PrivateKey × Bytes) :=
  match Ecdsa.PrivateKey.ofNat? secp256k1 (Bytes.toNat (digest.bytes.take 32)) with
  | some key => some (key, digest.bytes.drop 32)
  | none => none

/-- The number of a child in derivations. -/
def childNumber (child : ChildIndex) : Nat :=
  if child.isHardened then Path.indexBound + child.index else child.index

/-- What the digest for a child is taken of. -/
def childData (node : Node) (child : ChildIndex) : Bytes :=
  (if child.isHardened then 0 :: node.key.bytes.bytes
    else Ecdsa.compressed node.key.publicKey) ++ Bytes.ofNat 4 (childNumber child)

/-- A child, if it exists and is not too deep. -/
def child? (node : Node) (child : ChildIndex) : Option Node :=
  if maxDepth ≤ node.depth then none
  else
    match split (Hash.hmacSha512 node.chainCode (childData node child)) with
    | none => none
    | some (tweak, chainCode) =>
      match Ecdsa.PrivateKey.ofNat? secp256k1
          ((node.key.scalar + tweak.scalar) % secp256k1.order) with
      | some key => some ⟨key, chainCode, node.depth + 1⟩
      | none => none

/-- The node at the end of a path. -/
def deriveAlong (node : Node) (path : Path) : Option Node :=
  path.foldlM child? node

/-! ## From outside -/

/-- The start for a seed of 16, 32 or 64 bytes. -/
def ofSeed (seed : Bytes) : Except Error Node :=
  let start := if [16, 32, 64].contains seed.length then
      split (Hash.hmacSha512 (Bytes.ofText "Bitcoin seed") seed)
    else none
  match start with
  | some (key, chainCode) => .ok ⟨key, chainCode, 0⟩
  | none => .error (.illegalArgument .seedLength)

/-- The node at the end of a path that is given as text. -/
def derive (node : Node) (path : String) : Except Error Node := do
  let path ← Path.parse path
  match node.deriveAlong path with
  | some descendant => .ok descendant
  | none => .error (.illegalArgument .pathDerivation)

/-- The child with an index that is not hardened. -/
def deriveChild (node : Node) (index : Nat) : Except Error Node :=
  if index < Path.indexBound then
    match node.child? ⟨index, false⟩ with
    | some child => .ok child
    | none => .error (.illegalArgument (.childDerivation index))
  else .error (.illegalArgument (.indexRange index))

/-- The node at the end of a path from the seed of a mnemonic.  The words are
read before the path. -/
def ofMnemonic (words : List String) (path passphrase : String) : Except Error Node := do
  let seed ← Mnemonic.seed words passphrase
  let path ← Path.parse path
  match (ofSeed seed.bytes).toOption.bind (·.deriveAlong path) with
  | some node => .ok node
  | none => .error (.illegalArgument .pathDerivation)

/-! ## What a node gives -/

/-- The public key with one coordinate. -/
def publicKey (node : Node) : Bytes :=
  Ecdsa.compressed node.key.publicKey

/-- The address of a node. -/
def address (node : Node) : Address :=
  Address.ofPrivateKey node.key

/-- What is shown of a node. -/
def redacted (node : Node) : String :=
  "HdKey(depth=" ++ Nat.repr node.depth ++ ", <redacted>)"

end Node

/-- The address at the end of a path from the accounts of a mnemonic. -/
def Address.ofMnemonic (words : List String) (path : String) : Except Error Address := do
  let accounts ← Node.ofMnemonic words Path.accountsText ""
  let node ← accounts.derive path
  return node.address

end ClauseTx
