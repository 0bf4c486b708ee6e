import ClauseTx.Rlp.Item

/-!
# Why an encoding is refused

`Error` has one constructor for each cause, and `Error.message` gives the
wording.
-/

namespace ClauseTx.Rlp

/-- The kind of item that a field must hold. -/
inductive Shape where
  | bytes
  | list
deriving DecidableEq

/-- What is wrong with the content of a field. -/
inductive FieldFault where
  /-- An integer has more bytes than its field allows. -/
  | tooWide (length limit : Nat)
  /-- An integer starts with a zero byte. -/
  | leadingZero
  /-- A compact value has more bytes than the value it stands for. -/
  | tooLong (limit length : Nat)
  /-- A compact value starts with a zero byte. -/
  | paddedCompact
  /-- A value of fixed width has another length. -/
  | wrongLength (expected length : Nat)
  /-- A transaction has a wrong number of fields.  One field more than
  expected is a signature. -/
  | fieldCount (expected count : Nat)
  /-- A clause has a wrong number of entries. -/
  | entryCount (count : Nat)
  /-- A list that must be trimmed ends with an empty entry. -/
  | trailingEmptyEntry
  /-- A signature where none is allowed. -/
  | unexpectedSignature
deriving DecidableEq

/-- Why a byte string or an item is refused. -/
inductive Error where
  /-- The input ends too early. -/
  | truncated
  /-- The length in a header starts with a zero byte. -/
  | leadingZeroLength
  /-- A shorter header exists for the same payload. -/
  | nonCanonical
  /-- The input goes on after the item. -/
  | trailingBytes (count : Nat)
  /-- A field holds an item of the other kind. -/
  | unexpectedShape (field : String) (expected : Shape)
  /-- A field holds a wrong value. -/
  | invalidField (field : String) (fault : FieldFault)
deriving DecidableEq

/-- The name of a shape with its article. -/
def Shape.text : Shape → String
  | .bytes => "a byte string"
  | .list => "a list"

/-- The wording of a fault. -/
def FieldFault.message : FieldFault → String
  | .tooWide length limit =>
    Nat.repr length ++ " bytes exceed the " ++ Nat.repr limit ++ "-byte limit"
  | .leadingZero => "integer has a leading zero byte"
  | .tooLong limit length =>
    "expected at most " ++ Nat.repr limit ++ " bytes, got " ++ Nat.repr length
  | .paddedCompact => "compact value has a leading zero byte"
  | .wrongLength expected length =>
    "expected " ++ Nat.repr expected ++ " bytes, got " ++ Nat.repr length
  | .fieldCount expected count =>
    "expected " ++ Nat.repr expected ++ " or " ++ Nat.repr (expected + 1) ++ " fields, got " ++
      Nat.repr count
  | .entryCount count => "expected 3 entries, got " ++ Nat.repr count
  | .trailingEmptyEntry => "trailing empty entry must be trimmed"
  | .unexpectedSignature => "unsigned encoding carries a signature"

/-- The wording of an error. -/
def Error.message : Error → String
  | .truncated => "unexpected end of input"
  | .leadingZeroLength => "length header has a leading zero byte"
  | .nonCanonical =>
    "non-canonical header: long form for a short payload, or a wrapped single byte"
  | .trailingBytes count => Nat.repr count ++ " trailing bytes after the top-level item"
  | .unexpectedShape field expected => "field `" ++ field ++ "`: expected " ++ expected.text
  | .invalidField field fault => "field `" ++ field ++ "`: " ++ fault.message

namespace Item

/-- The content of a byte string, in a field with a name. -/
def asBytes (field : String) : Item → Except Error Bytes
  | .bytes content => .ok content
  | .list _ => .error (.unexpectedShape field .bytes)

/-- The items of a list, in a field with a name. -/
def asList (field : String) : Item → Except Error (List Item)
  | .list items => .ok items
  | .bytes _ => .error (.unexpectedShape field .list)

end Item

end ClauseTx.Rlp
