import ClauseTx.Error
import ClauseTx.Hash.Hmac
import ClauseTx.Mnemonic.WordList
import ClauseTx.Text.Decomposition

/-!
# Mnemonics

A mnemonic of 12, 15, 18, 21 or 24 words spells random bytes and a checksum,
eleven bits a word (BIP-39).  For every three words there are 32 bits of
entropy and one bit of checksum, the first bits of the SHA-256 digest of the
entropy.

Words may have any case and any white space between them.  No error tells
which word is wrong.
-/

namespace ClauseTx.Mnemonic

/-- The numbers of words that a mnemonic may have. -/
def wordCounts : List Nat := [12, 15, 18, 21, 24]

/-! ## Words and numbers -/

/-- The number that words spell by their positions in the list. -/
def number? : List (List Char) → Option Nat
  | words => words.foldlM (fun n word => (wordList.idxOf? word).map (n * 2048 + ·)) 0

/-- The first bits of the digest of entropy, as a number. -/
def checksum (bits : Nat) (entropy : Bytes) : Nat :=
  Bytes.toNat (Hash.sha256 entropy).bytes >>> (256 - bits)

/-- The entropy of a list of words, if its number of words is allowed, each
word is known, and the checksum is right. -/
def entropy? (words : List (List Char)) : Option Bytes := do
  if !wordCounts.contains words.length then none
  else
    let bits := words.length / 3
    let n ← number? words
    let entropy := Bytes.ofNat (4 * bits) (n >>> bits)
    if checksum bits entropy = n % (1 <<< bits) then some entropy else none

/-- A number of words that spells a number, the last word first. -/
def wordsReversed : (count : Nat) → (n : Nat) → List (List Char)
  | 0, _ => []
  | count + 1, n => wordList.getD (n % 2048) [] :: wordsReversed count (n / 2048)

/-- The words for entropy of whole groups of four bytes. -/
def ofEntropy (entropy : Bytes) : List String :=
  let bits := entropy.length / 4
  let n := (entropy.toNat <<< bits) + checksum bits entropy
  (wordsReversed (3 * bits) n).reverse.map String.ofList

/-- A fresh mnemonic from a source of random bytes. -/
def generate (draw : (count : Nat) → Bytes) (wordCount : Nat) : Except Error (List String) :=
  if wordCounts.contains wordCount then .ok (ofEntropy (draw (wordCount * 4 / 3)))
  else .error (.illegalArgument (.wordCount wordCount))

/-! ## Seeds -/

/-- The words of a mnemonic in lower case. -/
def phrase (words : List String) : List (List Char) :=
  Text.words ((" ".intercalate words).toList.map Text.lowerLetter)

/-- The words of the list between single spaces. -/
def password (words : List (List Char)) : Bytes :=
  Bytes.ofText (" ".intercalate (words.map String.ofList))

/-- The salt for a passphrase. -/
def salt (passphrase : String) : Bytes :=
  Bytes.ofText ("mnemonic" ++ Text.Decomposition.decomposed passphrase)

/-- The seed of a mnemonic with a passphrase, which may be empty. -/
def seed (words : List String) (passphrase : String) : Except Error (Blob 64) :=
  match entropy? (phrase words) with
  | some _ => .ok (Hash.stretch (password (phrase words)) (salt passphrase) 2048)
  | none => .error (.illegalArgument .mnemonicWords)

end ClauseTx.Mnemonic
