import ClauseTx.Error
import ClauseTx.Text.Split

/-!
# Quantities

A node writes amounts as texts: decimal digits, or hexadecimal digits of
either case after `0x`.
-/

namespace ClauseTx.Quantity

/-- The value of hexadecimal digits, of which there may be 64 at most.  One
more `0x` may stand in front of them. -/
def hexadecimal? (text : List Char) : Option UInt256 :=
  let digits := Text.stripHexMark text
  if digits.length ≤ 64 && digits.all Text.isHexDigit then
    UInt256.ofNat? (Text.hexadecimalValue digits)
  else none

/-- The value of decimal digits. -/
def decimal? (digits : List Char) : Option UInt256 :=
  (Text.decimal? digits).bind UInt256.ofNat?

/-- The value of a quantity. -/
def parse? : List Char → Option UInt256
  | ['0', 'x'] => none
  | '0' :: 'x' :: digits => hexadecimal? digits
  | digits => decimal? digits

/-- Reads the quantity of a field. -/
def parse (field text : String) : Except Error UInt256 :=
  match parse? text.toList with
  | some value => .ok value
  | none => .error (.invalidDataType (.notQuantity field text))

end ClauseTx.Quantity
