import ClauseTx.Text.DecompositionTable
import ClauseTx.Text.Property

/-!
# Compatibility decomposition

The normal form NFKD of Unicode.  Each character is replaced by its full
decomposition, Hangul syllables by arithmetic and all others by a table, and
runs of combining marks are put in the order of their classes.  Marks of one
class keep their order.
-/

namespace ClauseTx.Text.Decomposition

/-- The decompositions by code point. -/
def table : Array (Nat × List Char) :=
  ((words DecompositionTable.entries.toList).map fun entry =>
    (hexadecimalValue (entry.takeWhile (· ≠ '=')),
      (splitOn '.' ((entry.dropWhile (· ≠ '=')).drop 1)).map
        fun code => Char.ofNat (hexadecimalValue code))).toArray

/-- The jamo of a Hangul syllable. -/
def hangul (n : Nat) : List Char :=
  let index := n - 0xAC00
  let leading := Char.ofNat (0x1100 + index / 588)
  let vowel := Char.ofNat (0x1161 + index % 588 / 28)
  if index % 28 = 0 then [leading, vowel]
  else [leading, vowel, Char.ofNat (0x11A7 + index % 28)]

/-- The full decomposition of one character. -/
def decompose (c : Char) : List Char :=
  let n := c.toNat
  if n < 0xA0 then [c]
  else if 0xAC00 ≤ n && n ≤ 0xD7A3 then hangul n
  else match table.find? (·.1 == n) with
    | some (_, replacement) => replacement
    | none => [c]

/-- Puts a mark of a class in its place at the end of a text that is given
in reverse. -/
def placeMark (c : Char) (k : Nat) : List Char → List Char
  | [] => [c]
  | d :: rest => if k < combiningClass d then d :: placeMark c k rest else c :: d :: rest

/-- Orders every run of combining marks by class. -/
def order (cs : List Char) : List Char :=
  (cs.foldl
    (fun reversed c =>
      let k := combiningClass c
      if k = 0 then c :: reversed else placeMark c k reversed)
    []).reverse

/-- The compatibility decomposition of a text. -/
def decomposed (s : String) : String :=
  String.ofList (order (s.toList.flatMap decompose))

end ClauseTx.Text.Decomposition
