import ClauseTx.Text.Utf8
import Mathlib.Data.List.Basic

/-!
# Reading UTF-8 that was written

Every text is read back from its bytes (`decode?_encode`).  A character is
written as a first byte, which tells how many bytes follow, and bytes with
six bits each; so there is one lemma for each length of a sequence, and
`next_append` puts them together.

Beyond ASCII all bytes are `80` or above (`le_of_mem_encodeChar`), so a reader
that looks for ASCII characters may look at bytes.
-/

namespace ClauseTx.Text.Utf8

open String (utf8EncodeChar)

/-! ## The bytes that follow -/

/-- A byte in range adds its six bits. -/
theorem following_cons {code n count : Nat} {low high : UInt8} {bs : Bytes} (hn : n < 64)
    (hlow : low.toNat ≤ n + 0x80) (hhigh : n + 0x80 ≤ high.toNat) :
    following code low high (count + 1) (UInt8.ofNat (n + 0x80) :: bs) =
      following (code * 64 + n) 0x80 0xBF count bs := by
  have hbyte : (UInt8.ofNat (n + 0x80)).toNat = n + 0x80 := by
    rw [UInt8.toNat_ofNat']
    omega
  have hrange : (low ≤ UInt8.ofNat (n + 0x80) && UInt8.ofNat (n + 0x80) ≤ high) = true := by
    simp only [Bool.and_eq_true, decide_eq_true_eq, UInt8.le_iff_toNat_le, hbyte]
    exact ⟨hlow, hhigh⟩
  rw [following, if_pos hrange, hbyte, Nat.add_sub_cancel]

/-- A byte after the second has all its range. -/
theorem following_cons_full {code n count : Nat} {bs : Bytes} (hn : n < 64) :
    following code 0x80 0xBF (count + 1) (UInt8.ofNat (n + 0x80) :: bs) =
      following (code * 64 + n) 0x80 0xBF count bs :=
  following_cons hn (Nat.le_add_left ..) (by change n + 128 ≤ 191; omega)

/-! ## The first byte -/

theorem lead?_one : ∀ n : Fin 0x80, lead? (UInt8.ofNat n) = some ⟨n, 0, 0x80, 0xBF⟩ := by
  decide

theorem lead?_two : ∀ n : Fin 0x20, 2 ≤ n.val →
    lead? (UInt8.ofNat (n + 0xC0)) = some ⟨n, 1, 0x80, 0xBF⟩ := by
  decide

/-- Overlong forms and surrogates are left out by the range of the second
byte. -/
theorem lead?_three : ∀ n : Fin 0x10, lead? (UInt8.ofNat (n + 0xE0)) =
    some ⟨n, 2, if n.val = 0 then 0xA0 else 0x80, if n.val = 0xD then 0x9F else 0xBF⟩ := by
  decide

/-- Overlong forms and what is beyond the last code point are left out by the
range of the second byte. -/
theorem lead?_four : ∀ n : Fin 0x05, lead? (UInt8.ofNat (n + 0xF0)) =
    some ⟨n, 3, if n.val = 0 then 0x90 else 0x80, if n.val = 4 then 0x8F else 0xBF⟩ := by
  decide

/-! ## Sequences by their length -/

section Sequence

variable {n : Nat} {rest : Bytes}

theorem next_one (h : n ≤ 0x7F) : next (UInt8.ofNat n) rest = (some (Char.ofNat n), rest) := by
  rw [next, lead?_one ⟨n, Nat.lt_succ_of_le h⟩]
  rfl

theorem next_two (hlow : 0x7F < n) (hhigh : n ≤ 0x7FF) :
    next (UInt8.ofNat (n / 64 % 0x20 + 0xC0)) (UInt8.ofNat (n % 0x40 + 0x80) :: rest) =
      (some (Char.ofNat n), rest) := by
  have hlead := lead?_two ⟨n / 64 % 0x20, by omega⟩ (by change 2 ≤ n / 64 % 0x20; omega)
  have hcode : n / 64 % 0x20 * 64 + n % 0x40 = n := by omega
  rw [next, hlead]
  dsimp only
  rw [following_cons_full (Nat.mod_lt _ (by decide)), hcode]
  rfl

theorem next_three (hlow : 0x7FF < n) (hhigh : n ≤ 0xFFFF)
    (hvalid : n < 0xD800 ∨ 0xDFFF < n) :
    next (UInt8.ofNat (n / 4096 % 0x10 + 0xE0))
        (UInt8.ofNat (n / 64 % 0x40 + 0x80) :: UInt8.ofNat (n % 0x40 + 0x80) :: rest) =
      (some (Char.ofNat n), rest) := by
  have hlead := lead?_three ⟨n / 4096 % 0x10, by omega⟩
  have hcode : (n / 4096 % 0x10 * 64 + n / 64 % 0x40) * 64 + n % 0x40 = n := by omega
  rw [next, hlead]
  dsimp only
  rw [following_cons (Nat.mod_lt _ (by decide)), following_cons_full (Nat.mod_lt _ (by decide)),
    hcode]
  · rfl
  · split
    · change 0xA0 ≤ _; omega
    · exact Nat.le_add_left ..
  · split
    · change _ ≤ 0x9F; omega
    · change _ ≤ 0xBF; omega

theorem next_four (hlow : 0xFFFF < n) (hhigh : n < 0x110000) :
    next (UInt8.ofNat (n / 262144 % 0x08 + 0xF0))
        (UInt8.ofNat (n / 4096 % 0x40 + 0x80) :: UInt8.ofNat (n / 64 % 0x40 + 0x80) ::
          UInt8.ofNat (n % 0x40 + 0x80) :: rest) =
      (some (Char.ofNat n), rest) := by
  have hlead := lead?_four ⟨n / 262144 % 0x08, by omega⟩
  have hcode : ((n / 262144 % 0x08 * 64 + n / 4096 % 0x40) * 64 + n / 64 % 0x40) * 64 +
      n % 0x40 = n := by omega
  rw [next, hlead]
  dsimp only
  rw [following_cons (Nat.mod_lt _ (by decide)), following_cons_full (Nat.mod_lt _ (by decide)),
    following_cons_full (Nat.mod_lt _ (by decide)), hcode]
  · rfl
  · split
    · change 0x90 ≤ _; omega
    · exact Nat.le_add_left ..
  · split
    · change _ ≤ 0x8F; omega
    · change _ ≤ 0xBF; omega

end Sequence

/-! ## Characters and texts -/

/-- A character is read back from its bytes, whatever follows. -/
theorem next_append (c : Char) (rest : Bytes) :
    ∃ b bs, utf8EncodeChar c = b :: bs ∧ next b (bs ++ rest) = (some c, rest) := by
  have hvalid : c.toNat < 0xD800 ∨ 0xDFFF < c.toNat ∧ c.toNat < 0x110000 := c.valid
  have hchar : (some (Char.ofNat c.toNat), rest) = (some c, rest) := by rw [Char.ofNat_toNat]
  simp only [utf8EncodeChar, Char.toNat_val]
  split
  case isTrue hone => exact ⟨_, _, rfl, (next_one hone).trans hchar⟩
  case isFalse hone =>
    split
    case isTrue htwo =>
      exact ⟨_, _, rfl, (next_two (Nat.lt_of_not_le hone) htwo).trans hchar⟩
    case isFalse htwo =>
      split
      case isTrue hthree =>
        exact ⟨_, _, rfl, (next_three (Nat.lt_of_not_le htwo) hthree (by omega)).trans hchar⟩
      case isFalse hthree =>
        exact ⟨_, _, rfl, (next_four (Nat.lt_of_not_le hthree) (by omega)).trans hchar⟩

/-- A written text has no faults. -/
theorem pieces_encode (cs : List Char) : pieces (cs.flatMap utf8EncodeChar) = cs.map some := by
  induction cs with
  | nil => rw [List.flatMap_nil, pieces, List.map_nil]
  | cons c cs ih =>
    obtain ⟨b, bs, hbytes, hnext⟩ := next_append c (cs.flatMap utf8EncodeChar)
    rw [List.flatMap_cons, hbytes, List.cons_append, pieces, hnext, ih, List.map_cons]

/-- A text is read back from its bytes. -/
theorem decode?_encode (cs : List Char) : decode? (cs.flatMap utf8EncodeChar) = some cs := by
  rw [decode?, pieces_encode]
  induction cs with
  | nil => rfl
  | cons c cs ih => simp [ih]

/-! ## Beyond ASCII -/

/-- A character of ASCII is its own byte. -/
theorem encodeChar_of_le {c : Char} (h : c.toNat ≤ 0x7F) :
    utf8EncodeChar c = [UInt8.ofNat c.toNat] :=
  if_pos h

theorem le_of_mem_encodeChar {c : Char} (h : 0x7F < c.toNat) :
    ∀ b ∈ utf8EncodeChar c, 0x80 ≤ b := by
  intro b hb
  rw [UInt8.le_iff_toNat_le]
  change 128 ≤ b.toNat
  simp only [utf8EncodeChar, Char.toNat_val, if_neg (Nat.not_le_of_lt h)] at hb
  split at hb
  · simp only [List.mem_cons, List.not_mem_nil, or_false] at hb
    rcases hb with rfl | rfl <;> (rw [UInt8.toNat_ofNat']; omega)
  · split at hb
    · simp only [List.mem_cons, List.not_mem_nil, or_false] at hb
      rcases hb with rfl | rfl | rfl <;> (rw [UInt8.toNat_ofNat']; omega)
    · simp only [List.mem_cons, List.not_mem_nil, or_false] at hb
      rcases hb with rfl | rfl | rfl | rfl <;> (rw [UInt8.toNat_ofNat']; omega)

end ClauseTx.Text.Utf8
