import ClauseTx.Text.PropertyTables
import ClauseTx.Text.Split

/-!
# Character properties

Reads the property tables and answers three questions about a character:
whether it shows (`isPrintable`), whether it only extends the glyph before it
(`isExtender`), and what its canonical combining class is.
-/

namespace ClauseTx.Text

/-- A range of code points, ends included. -/
structure CodeRange where
  first : Nat
  last : Nat

namespace CodeRange

/-- Reads `first-last`, or a single code point. -/
def ofText (entry : List Char) : CodeRange :=
  let first := hexadecimalValue (entry.takeWhile (· ≠ '-'))
  match entry.dropWhile (· ≠ '-') with
  | [] => ⟨first, first⟩
  | _ :: last => ⟨first, hexadecimalValue last⟩

/-- Whether a character lies in a range. -/
def holds (r : CodeRange) (c : Char) : Bool :=
  r.first ≤ c.toNat && c.toNat ≤ r.last

end CodeRange

/-- The ranges of characters that no glyph shows. -/
def unprintable : List CodeRange :=
  (words PropertyTables.unprintableRanges.toList).map CodeRange.ofText

/-- The ranges of characters that extend the glyph before them. -/
def extenders : List CodeRange :=
  (words PropertyTables.extenderRanges.toList).map CodeRange.ofText

/-- The ranges of characters with a combining class other than zero, each
with its class. -/
def combining : List (CodeRange × Nat) :=
  (words PropertyTables.combiningClasses.toList).map fun entry =>
    (CodeRange.ofText (entry.takeWhile (· ≠ '=')),
      hexadecimalValue ((entry.dropWhile (· ≠ '=')).drop 1))

/-- Whether a glyph shows the character. -/
def isPrintable (c : Char) : Bool :=
  !unprintable.any (·.holds c)

/-- Whether the character only extends the glyph before it. -/
def isExtender (c : Char) : Bool :=
  extenders.any (·.holds c)

/-- The canonical combining class. -/
def combiningClass (c : Char) : Nat :=
  match combining.find? (·.1.holds c) with
  | some (_, k) => k
  | none => 0

end ClauseTx.Text
