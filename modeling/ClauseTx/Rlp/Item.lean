import ClauseTx.Bytes

/-!
# Items and their encoding

An item is a byte string or a list of items.  Its encoding is a header, which
tells the kind and the length of the payload, and the payload:

| first byte | meaning                                        |
|------------|------------------------------------------------|
| `00`..`7f` | the byte itself, a string of length one        |
| `80`..`b7` | a string of up to 55 bytes                     |
| `b8`..`bf` | the width of a length, the length, the string  |
| `c0`..`f7` | a list with a payload of up to 55 bytes        |
| `f8`..`ff` | the width of a length, the length, the payload |
-/

namespace ClauseTx.Rlp

/-- A byte string or a list of items. -/
inductive Item where
  | bytes (content : Bytes)
  | list (items : List Item)

namespace Item

mutual

/-- Whether two items are equal. -/
def beq : Item → Item → Bool
  | .bytes a, .bytes b => a == b
  | .list as, .list bs => beqList as bs
  | _, _ => false

/-- Whether two lists of items are equal. -/
def beqList : List Item → List Item → Bool
  | [], [] => true
  | a :: as, b :: bs => beq a b && beqList as bs
  | _, _ => false

end

instance : BEq Item := ⟨beq⟩

/-- The empty byte string.  It stands for zero and for an absent value. -/
def empty : Item := .bytes []

instance : Inhabited Item := ⟨empty⟩

/-- Whether an item is the empty string or the empty list. -/
def isEmpty : Item → Bool
  | .bytes content => content.isEmpty
  | .list items => items.isEmpty

end Item

/-! ## Encoding -/

/-- The two ranges of first bytes that announce a length: the byte for length
zero, and the byte below the first width of a length. -/
structure HeaderKind where
  short : UInt8
  long : UInt8

/-- The headers of byte strings. -/
def stringHeader : HeaderKind := ⟨0x80, 0xB7⟩

/-- The headers of lists. -/
def listHeader : HeaderKind := ⟨0xC0, 0xF7⟩

/-- The header of a payload.  A length above 55 is written with as few bytes
as it needs, at most four. -/
def header (kind : HeaderKind) (length : Nat) : Bytes :=
  if length ≤ 55 then [kind.short + UInt8.ofNat length]
  else
    let field := Bytes.stripZeros (Bytes.ofNat 4 length)
    (kind.long + UInt8.ofNat field.length) :: field

/-- The encoding of a byte string.  A single byte below `80` is its own
encoding. -/
def encodeBytes (content : Bytes) : Bytes :=
  match content with
  | [b] => if b < 0x80 then [b] else header stringHeader 1 ++ [b]
  | _ => header stringHeader content.length ++ content

mutual

/-- The encoding of an item. -/
def encode : Item → Bytes
  | .bytes content => encodeBytes content
  | .list items => header listHeader (encodeItems items).length ++ encodeItems items

/-- The encodings of items one after another. -/
def encodeItems : List Item → Bytes
  | [] => []
  | item :: items => encode item ++ encodeItems items

end

end ClauseTx.Rlp
