import ClauseTx.Bytes
import Mathlib.Data.List.Induction
import Mathlib.Tactic.Ring

/-!
# Numbers in byte strings

`Bytes.toNat` and `Bytes.ofNat` are inverse to each other at a fixed width.
This module proves that, and what it means for the shortest spelling of a
number.

There are three groups.

* Reading.  `toNat_append` splits a number at any place, and `toNat_lt`
  bounds it by its width.
* Fixed width.  `toNat_ofNat` and `ofNat_toNat` are the two directions.
* Shortest spelling.  A byte string is minimal if it does not start with a
  zero byte.  `stripZeros` makes a byte string minimal and keeps its number,
  and `padLeft` goes back.  The width of a minimal byte string tells the size
  of its number (`IsMinimal.length_le_iff`), so a number has one minimal
  spelling (`IsMinimal.stripZeros_ofNat_toNat`).
-/

namespace ClauseTx.Bytes

/-! ## Reading -/

@[simp]
theorem toNat_nil : toNat [] = 0 := rfl

private theorem foldl_eq (bs : Bytes) (n : Nat) :
    bs.foldl (fun n b => n * 256 + b.toNat) n = n * 256 ^ bs.length + toNat bs := by
  induction bs generalizing n with
  | nil => simp
  | cons b bs ih =>
    rw [toNat, List.foldl_cons, List.foldl_cons, ih, ih (0 * 256 + b.toNat), List.length_cons]
    ring

/-- The first part of a byte string counts as often as the second part has
values. -/
theorem toNat_append (as bs : Bytes) :
    toNat (as ++ bs) = toNat as * 256 ^ bs.length + toNat bs := by
  rw [toNat, List.foldl_append, foldl_eq]
  rfl

theorem toNat_cons (b : UInt8) (bs : Bytes) :
    toNat (b :: bs) = b.toNat * 256 ^ bs.length + toNat bs := by
  rw [← List.singleton_append, toNat_append]
  simp [toNat]

theorem toNat_lt (bs : Bytes) : toNat bs < 256 ^ bs.length := by
  induction bs with
  | nil => simp
  | cons b bs ih =>
    rw [toNat_cons, List.length_cons, Nat.pow_succ, Nat.mul_comm (256 ^ bs.length)]
    have hb : b.toNat + 1 ≤ 256 := b.toNat_lt
    have := Nat.mul_le_mul_right (256 ^ bs.length) hb
    rw [Nat.succ_mul] at this
    omega

theorem toNat_replicate_zero_append (k : Nat) (bs : Bytes) :
    toNat (List.replicate k 0 ++ bs) = toNat bs := by
  induction k with
  | zero => simp
  | succ k ih =>
    rw [List.replicate_succ, List.cons_append, toNat_cons, ih]
    simp

/-! ## Fixed width -/

theorem toNat_ofNat (width n : Nat) : toNat (ofNat width n) = n % 256 ^ width := by
  induction width generalizing n with
  | zero => simp [ofNat, Nat.mod_one]
  | succ width ih =>
    have hlow : toNat [UInt8.ofNat n] = n % 256 := by simp [toNat]
    rw [ofNat, toNat_append, ih, hlow, List.length_singleton, Nat.pow_one, Nat.pow_succ',
      Nat.mod_mul]
    ring

theorem toNat_ofNat_of_lt {width n : Nat} (h : n < 256 ^ width) :
    toNat (ofNat width n) = n := by
  rw [toNat_ofNat, Nat.mod_eq_of_lt h]

theorem ofNat_toNat (bs : Bytes) : ofNat bs.length (toNat bs) = bs := by
  induction bs using List.reverseRecOn with
  | nil => rfl
  | append_singleton bs b ih =>
    have hlt : b.toNat < 256 := b.toNat_lt
    have hlow : toNat [b] = b.toNat := by simp [toNat]
    have hhigh : (toNat bs * 256 + b.toNat) / 256 = toNat bs := by omega
    have hbyte : UInt8.ofNat (toNat bs * 256 + b.toNat) = b := by
      rw [← UInt8.toNat_inj, UInt8.toNat_ofNat']
      omega
    rw [toNat_append, hlow, List.length_append, List.length_singleton, Nat.pow_one, ofNat,
      hhigh, ih, hbyte]

/-! ## Shortest spelling -/

/-- A byte string that does not start with a zero byte. -/
def IsMinimal (bs : Bytes) : Prop :=
  bs.head? ≠ some 0

theorem isMinimal_stripZeros (bs : Bytes) : IsMinimal (stripZeros bs) := by
  intro h
  have hhead := List.head?_dropWhile_not (· == 0) bs
  rw [stripZeros] at h
  rw [h] at hhead
  simp at hhead

/-- A minimal byte string has no zeros to drop. -/
theorem IsMinimal.stripZeros_eq {bs : Bytes} (h : IsMinimal bs) : stripZeros bs = bs := by
  cases bs with
  | nil => rfl
  | cons b bs =>
    have hb : b ≠ 0 := fun he => h (congrArg some he)
    rw [stripZeros, List.dropWhile_cons_of_neg]
    simpa using hb

/-- What is dropped are zeros. -/
theorem replicate_append_stripZeros (bs : Bytes) :
    List.replicate (bs.length - (stripZeros bs).length) 0 ++ stripZeros bs = bs := by
  induction bs with
  | nil => rfl
  | cons b bs ih =>
    by_cases hb : b = 0
    · have hstrip : stripZeros (b :: bs) = stripZeros bs := by simp [stripZeros, hb]
      have hle : (stripZeros bs).length ≤ bs.length :=
        (List.dropWhile_sublist _).length_le
      rw [hstrip, List.length_cons, Nat.succ_sub hle, List.replicate_succ, List.cons_append, ih,
        hb]
    · have hmin : IsMinimal (b :: bs) := by simpa [IsMinimal] using hb
      rw [hmin.stripZeros_eq]
      simp

theorem length_stripZeros_le (bs : Bytes) : (stripZeros bs).length ≤ bs.length :=
  (List.dropWhile_sublist _).length_le

@[simp]
theorem toNat_stripZeros (bs : Bytes) : toNat (stripZeros bs) = toNat bs := by
  conv_rhs => rw [← replicate_append_stripZeros bs]
  rw [toNat_replicate_zero_append]

/-! ### Padding -/

@[simp]
theorem toNat_padLeft (width : Nat) (bs : Bytes) : toNat (padLeft width bs) = toNat bs :=
  toNat_replicate_zero_append _ _

theorem length_padLeft {width : Nat} {bs : Bytes} (h : bs.length ≤ width) :
    (padLeft width bs).length = width := by
  rw [padLeft, List.length_append, List.length_replicate]
  omega

/-- Padding puts back what stripping took away. -/
theorem padLeft_stripZeros {width : Nat} {bs : Bytes} (h : bs.length = width) :
    padLeft width (stripZeros bs) = bs := by
  rw [← h]
  exact replicate_append_stripZeros bs

/-- Stripping takes away what padding put in front of a minimal byte string. -/
theorem IsMinimal.stripZeros_padLeft {width : Nat} {bs : Bytes} (h : IsMinimal bs) :
    stripZeros (padLeft width bs) = bs := by
  rw [padLeft, stripZeros, List.dropWhile_append_of_pos (by simp)]
  exact h.stripZeros_eq

/-! ### The size of a number and the width of its spelling -/

/-- The first byte of a minimal byte string counts at least once. -/
theorem IsMinimal.pow_le_toNat {b : UInt8} {bs : Bytes} (h : IsMinimal (b :: bs)) :
    256 ^ bs.length ≤ toNat (b :: bs) := by
  have hb : b.toNat ≠ 0 := fun he => h (congrArg some (UInt8.toNat_inj.mp he))
  rw [toNat_cons]
  exact Nat.le_add_right_of_le (Nat.le_mul_of_pos_left _ (Nat.pos_of_ne_zero hb))

/-- A minimal byte string fits into a width exactly when its number does. -/
theorem IsMinimal.length_le_iff {width : Nat} {bs : Bytes} (h : IsMinimal bs) :
    bs.length ≤ width ↔ toNat bs < 256 ^ width := by
  constructor
  · intro hlen
    exact Nat.lt_of_lt_of_le (toNat_lt bs) (Nat.pow_le_pow_right (by decide) hlen)
  · intro hlt
    by_contra hlen
    cases bs with
    | nil => simp at hlen
    | cons b bs =>
      have hpow : 256 ^ width ≤ 256 ^ bs.length :=
        Nat.pow_le_pow_right (by decide) (by rw [List.length_cons] at hlen; omega)
      have := h.pow_le_toNat
      omega

/-- A minimal byte string is the shortest spelling of its number. -/
theorem IsMinimal.stripZeros_ofNat_toNat {width : Nat} {bs : Bytes} (h : IsMinimal bs)
    (hlen : bs.length ≤ width) : stripZeros (ofNat width (toNat bs)) = bs := by
  have hpad := ofNat_toNat (padLeft width bs)
  rw [length_padLeft hlen, toNat_padLeft] at hpad
  rw [hpad, h.stripZeros_padLeft]

/-- The shortest spelling of a number fits into a width exactly when the
number does. -/
theorem length_stripZeros_ofNat_le_iff {width n k : Nat} (h : n < 256 ^ width) :
    (stripZeros (ofNat width n)).length ≤ k ↔ n < 256 ^ k := by
  rw [(isMinimal_stripZeros _).length_le_iff, toNat_stripZeros, toNat_ofNat_of_lt h]

/-- The shortest spelling of a number does not depend on the width in which the
number was written out. -/
theorem stripZeros_ofNat_eq {width width' n : Nat} (h : n < 256 ^ width) (hle : width ≤ width') :
    stripZeros (ofNat width n) = stripZeros (ofNat width' n) := by
  have hlen : (stripZeros (ofNat width n)).length ≤ width' :=
    Nat.le_trans ((length_stripZeros_ofNat_le_iff h).mpr h) hle
  have hspell := (isMinimal_stripZeros (ofNat width n)).stripZeros_ofNat_toNat hlen
  rw [toNat_stripZeros, toNat_ofNat_of_lt h] at hspell
  exact hspell.symm

end ClauseTx.Bytes
