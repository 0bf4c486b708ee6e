import ClauseTx.Bytes
import ClauseTx.Json.Basic
import ClauseTx.Decimal.Scaled
import ClauseTx.Text.Utf8

/-!
# Reading JSON

Reading has two steps.  `Syntax.parse?` reads a byte string by the grammar of
JSON alone: strings stay as their bytes and escapes, numbers as their digits,
and nesting is not limited.  The second step reads what is wanted from that
tree, and only there are strings decoded, numbers rounded and nesting
counted.  A part that nobody wants is therefore held to the grammar only.

`toJson?` reads a whole tree as a value.
-/

namespace ClauseTx.Json

/-- A piece of a string as it is written. -/
inductive Piece where
  /-- A byte, or an escape for one ASCII character. -/
  | byte (b : UInt8)
  /-- An escape with four hexadecimal digits, a unit of UTF-16. -/
  | unit (n : Nat)
deriving DecidableEq

/-- A number as it is written. -/
structure Numeral where
  isNegative : Bool
  whole : List Char
  places : List Char
  exponent : Option Int
deriving DecidableEq

/-- A value as it is written. -/
inductive Syntax where
  | null
  | bool (b : Bool)
  | number (n : Numeral)
  | string (pieces : List Piece)
  | array (items : List Syntax)
  | object (members : List (List Piece × Syntax))

namespace Syntax

/-! ## The grammar -/

/-- Drops the white space of JSON. -/
def skipBlanks (bs : Bytes) : Bytes :=
  bs.dropWhile fun b => b == 0x20 || b == 0x0A || b == 0x0D || b == 0x09

/-- What follows a given text, if the input starts with it. -/
def after? : (text bs : Bytes) → Option Bytes
  | [], bs => some bs
  | _ :: _, [] => none
  | t :: text, b :: bs => if t = b then after? text bs else none

/-- The value of a hexadecimal digit. -/
def hexDigit? (b : UInt8) : Option Nat :=
  Text.hexValue? (Char.ofUInt8 b)

/-- The byte that a one-letter escape stands for. -/
def shortEscape? (b : UInt8) : Option UInt8 :=
  if b = 0x22 || b = 0x5C || b = 0x2F then some b
  else if b = 0x62 then some 0x08
  else if b = 0x66 then some 0x0C
  else if b = 0x6E then some 0x0A
  else if b = 0x72 then some 0x0D
  else if b = 0x74 then some 0x09
  else none

/-- The pieces up to the closing quote, and what follows it. -/
def pieces? : Bytes → Option (List Piece × Bytes)
  | [] => none
  | b :: bs =>
    if b = 0x22 then some ([], bs)
    else if b < 0x20 then none
    else if b ≠ 0x5C then
      (pieces? bs).map fun (ps, rest) => (.byte b :: ps, rest)
    else
      match bs with
      | 0x75 :: d₃ :: d₂ :: d₁ :: d₀ :: bs =>
        match hexDigit? d₃, hexDigit? d₂, hexDigit? d₁, hexDigit? d₀ with
        | some n₃, some n₂, some n₁, some n₀ =>
          (pieces? bs).map fun (ps, rest) =>
            (.unit (((n₃ * 16 + n₂) * 16 + n₁) * 16 + n₀) :: ps, rest)
        | _, _, _, _ => none
      | e :: bs =>
        match shortEscape? e with
        | some c => (pieces? bs).map fun (ps, rest) => (.byte c :: ps, rest)
        | none => none
      | [] => none

/-- Whether a byte is a decimal digit. -/
def isDigit (b : UInt8) : Bool :=
  0x30 ≤ b && b ≤ 0x39

/-- The run of digits at the head of the input, and what follows it. -/
def digits (bs : Bytes) : List Char × Bytes :=
  ((bs.takeWhile isDigit).map Char.ofUInt8, bs.dropWhile isDigit)

/-- A run of at least one digit. -/
def digits? (bs : Bytes) : Option (List Char × Bytes) :=
  match digits bs with
  | ([], _) => none
  | run => some run

/-- The digits before the point.  A zero stands alone. -/
def whole? (bs : Bytes) : Option (List Char × Bytes) :=
  match digits bs with
  | ([], _) => none
  | ('0' :: _ :: _, _) => none
  | run => some run

/-- The digits after a point, none if there is no point. -/
def places? : Bytes → Option (List Char × Bytes)
  | [] => some ([], [])
  | b :: bs => if b = 0x2E then digits? bs else some ([], b :: bs)

/-- The exponent, if there is one. -/
def exponent? : Bytes → Option (Option Int × Bytes)
  | [] => some (none, [])
  | b :: bs =>
    if b = 0x65 || b = 0x45 then
      let (negative, ds) := match bs with
        | 0x2B :: ds => (false, ds)
        | 0x2D :: ds => (true, ds)
        | ds => (false, ds)
      (digits? ds).map fun (run, rest) =>
        let n := Text.decimalValue run
        (some (if negative then -(n : Int) else n), rest)
    else some (none, b :: bs)

/-- A number. -/
def numeral? (bs : Bytes) : Option (Numeral × Bytes) := do
  let (negative, bs) := match bs with
    | 0x2D :: rest => (true, rest)
    | _ => (false, bs)
  let (whole, bs) ← whole? bs
  let (places, bs) ← places? bs
  let (exponent, bs) ← exponent? bs
  return (⟨negative, whole, places, exponent⟩, bs)

mutual

/-- A value, and what follows it. -/
def value? : (fuel : Nat) → Bytes → Option (Syntax × Bytes)
  | 0, _ => none
  | fuel + 1, bs =>
    match skipBlanks bs with
    | [] => none
    | b :: bs =>
      if b = 0x22 then (pieces? bs).map fun (ps, rest) => (.string ps, rest)
      else if b = 0x7B then
        match skipBlanks bs with
        | 0x7D :: rest => some (.object [], rest)
        | bs => (members? fuel bs).map fun (ms, rest) => (.object ms, rest)
      else if b = 0x5B then
        match skipBlanks bs with
        | 0x5D :: rest => some (.array [], rest)
        | bs => (items? fuel bs).map fun (vs, rest) => (.array vs, rest)
      else if b = 0x6E then (after? [0x75, 0x6C, 0x6C] bs).map fun rest => (.null, rest)
      else if b = 0x74 then (after? [0x72, 0x75, 0x65] bs).map fun rest => (.bool true, rest)
      else if b = 0x66 then
        (after? [0x61, 0x6C, 0x73, 0x65] bs).map fun rest => (.bool false, rest)
      else (numeral? (b :: bs)).map fun (n, rest) => (.number n, rest)

/-- The items of an array up to its closing bracket. -/
def items? : (fuel : Nat) → Bytes → Option (List Syntax × Bytes)
  | 0, _ => none
  | fuel + 1, bs => do
    let (v, bs) ← value? fuel bs
    match skipBlanks bs with
    | 0x2C :: bs =>
      let (vs, rest) ← items? fuel bs
      return (v :: vs, rest)
    | 0x5D :: rest => return ([v], rest)
    | _ => none

/-- The members of an object up to its closing brace. -/
def members? : (fuel : Nat) → Bytes → Option (List (List Piece × Syntax) × Bytes)
  | 0, _ => none
  | fuel + 1, bs =>
    match skipBlanks bs with
    | 0x22 :: bs => do
      let (key, bs) ← pieces? bs
      match skipBlanks bs with
      | 0x3A :: bs =>
        let (v, bs) ← value? fuel bs
        match skipBlanks bs with
        | 0x2C :: bs =>
          let (ms, rest) ← members? fuel bs
          return ((key, v) :: ms, rest)
        | 0x7D :: rest => return ([(key, v)], rest)
        | _ => none
      | _ => none
    | _ => none

end

/-- Reads one value that makes up the whole input, white space apart.  A
bracket takes two rounds, so twice the length is enough fuel. -/
def parse? (bs : Bytes) : Option Syntax :=
  match value? (2 * bs.length + 2) bs with
  | some (v, rest) => if (skipBlanks rest).isEmpty then some v else none
  | none => none

end Syntax

/-! ## Strings and numbers -/

/-- The UTF-8 bytes of a string.  Surrogates must come in pairs. -/
def utf8? : List Piece → Option Bytes
  | [] => some []
  | .byte b :: ps => (utf8? ps).map (b :: ·)
  | .unit n :: ps =>
    if n < 0xD800 || 0xE000 ≤ n then
      (utf8? ps).map (String.utf8EncodeChar (Char.ofNat n) ++ ·)
    else if n < 0xDC00 then
      match ps with
      | .unit m :: ps =>
        if 0xDC00 ≤ m && m < 0xE000 then
          let code := 0x10000 + (n - 0xD800) * 0x400 + (m - 0xDC00)
          (utf8? ps).map (String.utf8EncodeChar (Char.ofNat code) ++ ·)
        else none
      | _ => none
    else none

/-- The text of a string. -/
def text? (pieces : List Piece) : Option String := do
  let bytes ← utf8? pieces
  let cs ← Text.Utf8.decode? bytes
  return String.ofList cs

/-- The value of a number.  A whole number that does not fit 64 bits, and a
negative zero, are floating point numbers. -/
def Numeral.number? (n : Numeral) : Option Number :=
  let float := (Decimal.toFloat? n.whole n.places (n.exponent.getD 0)).map fun x =>
    Number.float (if n.isNegative then -x else x)
  if n.places.isEmpty && n.exponent.isNone then
    let value := Text.decimalValue n.whole
    if n.isNegative then
      if value ≠ 0 && value ≤ UInt64.size / 2 then some (.negative value) else float
    else if value < UInt64.size then some (.natural value) else float
  else float

/-! ## Values -/

/-- Adds a member to an object in the order of the keys.  A key that is there
already gets the new value. -/
def insertMember (key : String) (value : Json) : List (String × Json) → List (String × Json)
  | [] => [(key, value)]
  | (k, v) :: members =>
    if key < k then (key, value) :: (k, v) :: members
    else if key = k then (key, value) :: members
    else (k, v) :: insertMember key value members

namespace Syntax

mutual

/-- The value of a tree with at most `levels` levels of arrays and objects.
Members are put in the order of their keys, and the last of several with the
same key counts. -/
def toJson? (levels : Nat) : Syntax → Option Json
  | .null => some .null
  | .bool b => some (.bool b)
  | .number n => n.number?.map .number
  | .string ps => (text? ps).map .string
  | .array items =>
    match levels with
    | 0 => none
    | levels + 1 => (itemsToJson? levels items).map .array
  | .object members =>
    match levels with
    | 0 => none
    | levels + 1 => (membersToJson? levels members []).map .object

/-- The values of the items of an array. -/
def itemsToJson? (levels : Nat) : List Syntax → Option (List Json)
  | [] => some []
  | item :: items => do
    let v ← toJson? levels item
    let vs ← itemsToJson? levels items
    return v :: vs

/-- Adds the members of an object to those that came before. -/
def membersToJson? (levels : Nat) :
    List (List Piece × Syntax) → List (String × Json) → Option (List (String × Json))
  | [], done => some done
  | (key, value) :: members, done => do
    let k ← text? key
    let v ← toJson? levels value
    membersToJson? levels members (insertMember k v done)

end

end Syntax

/-- How deep arrays and objects may nest. -/
def maxLevels : Nat := 127

/-- Reads a byte string as one value. -/
def parse? (bs : Bytes) : Option Json :=
  (Syntax.parse? bs).bind (Syntax.toJson? maxLevels)

end ClauseTx.Json
