import ClauseTx.Error
import ClauseTx.Text.Split

/-!
# Derivation paths

A path leads from one key to another by child indices, `m/44'/818'/0'/0` for
instance.  The mark `'` or `h` after an index makes the child hardened.

`Path.parse` reads every path that can be derived.  `Path.isAccountPath` is
the narrower form of account paths: three indices that may be hardened, then
one or two that are not.
-/

namespace ClauseTx

/-- The index of a child, below `2 ^ 31`. -/
structure ChildIndex where
  index : Nat
  isHardened : Bool
deriving DecidableEq

/-- A path, from the start downwards. -/
abbrev Path := List ChildIndex

namespace Path

/-- The indices of children lie below this number, `2 ^ 31`. -/
def indexBound : Nat := 0x80000000

/-- The path of the accounts of a wallet, each of which is a child of its
end. -/
def accountsText : String := "m/44'/818'/0'/0"

/-- An index without its mark. -/
def index? (digits : List Char) (isHardened : Bool) : Option ChildIndex :=
  match Text.signedDecimal? digits with
  | some n => if n < indexBound then some ⟨n, isHardened⟩ else none
  | none => none

/-- A segment of a path. -/
def segment? (segment : List Char) : Option ChildIndex :=
  if segment.getLast? = some '\'' || segment.getLast? = some 'h' then
    index? segment.dropLast true
  else index? segment false

/-- The path of a text that starts with `m`. -/
def parse? (text : List Char) : Option Path :=
  match Text.splitOn '/' text with
  | ['m'] :: segments => segments.mapM segment?
  | _ => none

/-- Reads a path. -/
def parse (text : String) : Except Error Path :=
  match parse? text.toList with
  | some path => .ok path
  | none => .error (.illegalArgument (.pathText text))

/-! ## Account paths -/

/-- Whether a text is a nonempty run of decimal digits. -/
def isIndexText (digits : List Char) : Bool :=
  !digits.isEmpty && digits.all Char.isDigit

/-- Whether a text is a run of digits that one mark `'` may follow. -/
def isMarkedIndexText (segment : List Char) : Bool :=
  isIndexText (if segment.getLast? = some '\'' then segment.dropLast else segment)

/-- Whether a text has the form of an account path. -/
def isAccountPath (text : String) : Bool :=
  match Text.splitOn '/' text.toList with
  | ['m'] :: segments =>
    (segments.length = 4 || segments.length = 5) &&
      (segments.take 3).all isMarkedIndexText && (segments.drop 3).all isIndexText
  | _ => false

end Path

end ClauseTx
