/-!
# Cutting text into pieces

Text is handled as a list of characters.  `splitOn` cuts at every separator
and keeps empty pieces; `words` cuts at runs of white space and keeps none.

`isBlank` is the Unicode property `White_Space`.  `lowerLetter` is lower
case as far as its result is an ASCII letter: besides `A` to `Z` only the
Kelvin sign has an ASCII letter as its lower case form.
-/

namespace ClauseTx.Text

/-- The white space characters of Unicode. -/
def isBlank (c : Char) : Bool :=
  let n := c.toNat
  (9 ≤ n && n ≤ 13) || n == 0x20 || n == 0x85 || n == 0xA0 || n == 0x1680 ||
    (0x2000 ≤ n && n ≤ 0x200A) || n == 0x2028 || n == 0x2029 || n == 0x202F ||
    n == 0x205F || n == 0x3000

/-- The pieces between separators, one more than there are separators. -/
def splitOn (separator : Char) (cs : List Char) : List (List Char) :=
  cs.foldr
    (fun c pieces =>
      if c = separator then [] :: pieces
      else match pieces with
        | piece :: rest => (c :: piece) :: rest
        | [] => [[c]])
    [[]]

/-- The maximal runs of characters that are not blank. -/
def words (cs : List Char) : List (List Char) :=
  let (word, rest) := cs.foldr
    (fun c (word, rest) =>
      if isBlank c then ([], if word.isEmpty then rest else word :: rest)
      else (c :: word, rest))
    ([], [])
  if word.isEmpty then rest else word :: rest

/-- The lower case letter of a character where that letter is in ASCII, and
the character itself otherwise. -/
def lowerLetter (c : Char) : Char :=
  if c = '\u212A' then 'k' else c.toLower

/-- The text after a given beginning, if the text begins so. -/
def stripPrefix? : (start text : List Char) → Option (List Char)
  | [], text => some text
  | _ :: _, [] => none
  | p :: start, c :: text => if p = c then stripPrefix? start text else none

/-- The text after its first two characters if these are `0x`, and all of it
otherwise. -/
def stripHexMark (text : List Char) : List Char :=
  match text with
  | '0' :: 'x' :: rest => rest
  | _ => text

/-! ## The decimal digits -/

/-- The value of a decimal digit. -/
def digitValue (c : Char) : Nat :=
  c.toNat - '0'.toNat

/-- The number that a run of decimal digits spells. -/
def decimalValue (digits : List Char) : Nat :=
  digits.foldl (fun n c => n * 10 + digitValue c) 0

/-- The number of a nonempty run of decimal digits. -/
def decimal? (digits : List Char) : Option Nat :=
  if !digits.isEmpty && digits.all Char.isDigit then some (decimalValue digits) else none

/-- The number of a run of decimal digits that one plus sign may precede. -/
def signedDecimal? : List Char → Option Nat
  | '+' :: digits => decimal? digits
  | digits => decimal? digits

/-! ## The hexadecimal digits -/

/-- The value of a hexadecimal digit of either case. -/
def hexValue? (c : Char) : Option Nat :=
  if c.isDigit then some (c.toNat - '0'.toNat)
  else if 'a' ≤ c && c ≤ 'f' then some (c.toNat - 'a'.toNat + 10)
  else if 'A' ≤ c && c ≤ 'F' then some (c.toNat - 'A'.toNat + 10)
  else none

/-- The hexadecimal digits of either case. -/
def isHexDigit (c : Char) : Bool :=
  (hexValue? c).isSome

/-- The number that a run of hexadecimal digits spells.  Other characters
count as zero. -/
def hexadecimalValue (digits : List Char) : Nat :=
  digits.foldl (fun n c => n * 16 + (hexValue? c).getD 0) 0

/-- The hexadecimal text of a number, in lower case and without leading
zeros. -/
def hexadecimal (n : Nat) : String :=
  String.ofList (Nat.toDigits 16 n)

end ClauseTx.Text
