import ClauseTx.Decimal.Shortest

/-!
# JSON values

The values of JSON and their compact text.  A number is a natural number
below `2 ^ 64`, a negative number down to `-2 ^ 63`, or else a floating point
number.

`render` puts no blanks.  Floating point numbers have the fewest digits that
read back, at least one place after the point, and an exponent when the first
digit stands below `10 ^ (-5)` or above `10 ^ 15`.
-/

namespace ClauseTx

/-- A number of JSON. -/
inductive Json.Number where
  | natural (n : Nat)
  | negative (magnitude : Nat)
  | float (x : Float)

/-- A value of JSON.  The members of an object are in the order in which they
are written. -/
inductive Json where
  | null
  | bool (b : Bool)
  | number (n : Json.Number)
  | string (s : String)
  | array (items : List Json)
  | object (members : List (String × Json))

namespace Json

/-! ## Numbers -/

/-- The text of a magnitude: without an exponent from `10 ^ (-5)` up to
`10 ^ 16`, and with one outside. -/
def magnitudeText (d : Decimal.Digits) : String :=
  if -5 ≤ d.leading && d.leading ≤ 15 then d.positional else d.scientific

/-- The text of a finite floating point number. -/
def floatText (x : Float) : String :=
  let bits := x.toBits
  let sign := if bits >>> 63 = 1 then "-" else ""
  let magnitude := Decimal.Binary.ofBits bits
  sign ++ if magnitude.mantissa = 0 then "0.0" else magnitudeText magnitude.shortest

/-- The text of a number. -/
def Number.text : Number → String
  | .natural n => Nat.repr n
  | .negative n => "-" ++ Nat.repr n
  | .float x => floatText x

/-- A number as a floating point number. -/
def Number.toFloat : Number → Float
  | .natural n => n.toUInt64.toFloat
  | .negative n => -n.toUInt64.toFloat
  | .float x => x

/-! ## Text -/

/-- A character inside a string: quotes, backslashes and controls are
escaped. -/
def escape (c : Char) : List Char :=
  match c with
  | '"' => ['\\', '"']
  | '\\' => ['\\', '\\']
  | '\x08' => ['\\', 'b']
  | '\x0c' => ['\\', 'f']
  | '\n' => ['\\', 'n']
  | '\r' => ['\\', 'r']
  | '\t' => ['\\', 't']
  | _ =>
    if c.toNat < 0x20 then
      ['\\', 'u', '0', '0', Nat.digitChar (c.toNat / 16), Nat.digitChar (c.toNat % 16)]
    else [c]

/-- A string between quotes. -/
def quote (s : String) : List Char :=
  '"' :: s.toList.flatMap escape ++ ['"']

mutual

/-- The compact text of a value. -/
def chars : Json → List Char
  | .null => ['n', 'u', 'l', 'l']
  | .bool true => ['t', 'r', 'u', 'e']
  | .bool false => ['f', 'a', 'l', 's', 'e']
  | .number n => n.text.toList
  | .string s => quote s
  | .array items => '[' :: itemChars items ++ [']']
  | .object members => '\x7b' :: memberChars members ++ ['\x7d']

/-- The items of an array with commas between them. -/
def itemChars : List Json → List Char
  | [] => []
  | [item] => chars item
  | item :: items => chars item ++ ',' :: itemChars items

/-- The members of an object with commas between them. -/
def memberChars : List (String × Json) → List Char
  | [] => []
  | [(key, value)] => quote key ++ ':' :: chars value
  | (key, value) :: members => quote key ++ ':' :: chars value ++ ',' :: memberChars members

end

/-- The compact text of a value. -/
def render (j : Json) : String :=
  String.ofList j.chars

end Json

end ClauseTx
