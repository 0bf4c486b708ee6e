/-!
# 256-bit amounts

Values, fees and token ids are natural numbers below `2 ^ 256`.  Sums and
products that would leave the range stop at its top: `ofNatClamped` is the
only place where that happens, so an operation is exact exactly when its
result fits.
-/

namespace ClauseTx

/-- The number of 256-bit amounts, `2 ^ 256`. -/
abbrev UInt256.size : Nat :=
  0x10000000000000000000000000000000000000000000000000000000000000000

/-- A natural number below `2 ^ 256`. -/
@[ext]
structure UInt256 where
  toNat : Nat
  toNat_lt : toNat < UInt256.size
deriving DecidableEq

namespace UInt256

/-- The largest amount. -/
def max : UInt256 := ⟨size - 1, by decide⟩

/-- A number that fits, or nothing. -/
def ofNat? (n : Nat) : Option UInt256 :=
  if h : n < size then some ⟨n, h⟩ else none

/-- A number, or the largest amount if the number is above it. -/
def ofNatClamped (n : Nat) : UInt256 :=
  ⟨min n (size - 1), Nat.lt_of_le_of_lt (Nat.min_le_right ..) (by decide)⟩

instance {n : Nat} : OfNat UInt256 n := ⟨ofNatClamped n⟩

instance : Inhabited UInt256 := ⟨0⟩

instance : LE UInt256 := ⟨fun a b => a.toNat ≤ b.toNat⟩

instance : LT UInt256 := ⟨fun a b => a.toNat < b.toNat⟩

instance (a b : UInt256) : Decidable (a ≤ b) := inferInstanceAs (Decidable (a.toNat ≤ b.toNat))

instance (a b : UInt256) : Decidable (a < b) := inferInstanceAs (Decidable (a.toNat < b.toNat))

instance : Min UInt256 := ⟨fun a b => if a ≤ b then a else b⟩

/-- A sum that stops at the largest amount. -/
def satAdd (a b : UInt256) : UInt256 :=
  ofNatClamped (a.toNat + b.toNat)

/-- A product that stops at the largest amount. -/
def satMul (a : UInt256) (k : Nat) : UInt256 :=
  ofNatClamped (a.toNat * k)

/-- The quotient, rounded down. -/
def div (a : UInt256) (k : Nat) : UInt256 :=
  ⟨a.toNat / k, Nat.lt_of_le_of_lt (Nat.div_le_self ..) a.toNat_lt⟩

/-- The difference, zero when the second amount is larger. -/
def sub (a b : UInt256) : UInt256 :=
  ⟨a.toNat - b.toNat, Nat.lt_of_le_of_lt (Nat.sub_le ..) a.toNat_lt⟩

/-- The decimal text of an amount. -/
def text (a : UInt256) : String :=
  Nat.repr a.toNat

@[simp]
theorem toNat_ofNatClamped (n : Nat) : (ofNatClamped n).toNat = min n (size - 1) := rfl

@[simp]
theorem toNat_satAdd (a b : UInt256) :
    (a.satAdd b).toNat = min (a.toNat + b.toNat) (size - 1) := rfl

@[simp]
theorem toNat_satMul (a : UInt256) (k : Nat) :
    (a.satMul k).toNat = min (a.toNat * k) (size - 1) := rfl

@[simp]
theorem toNat_div (a : UInt256) (k : Nat) : (a.div k).toNat = a.toNat / k := rfl

@[simp]
theorem toNat_sub (a b : UInt256) : (a.sub b).toNat = a.toNat - b.toNat := rfl

theorem le_iff {a b : UInt256} : a ≤ b ↔ a.toNat ≤ b.toNat := Iff.rfl

theorem lt_iff {a b : UInt256} : a < b ↔ a.toNat < b.toNat := Iff.rfl

theorem not_le_of_lt {a b : UInt256} (h : a < b) : ¬ b ≤ a := Nat.not_le.mpr h

theorem eq_zero_iff {a : UInt256} : a = 0 ↔ a.toNat = 0 := UInt256.ext_iff

theorem ofNat?_eq_some_iff {n : Nat} {a : UInt256} : ofNat? n = some a ↔ a.toNat = n := by
  unfold ofNat?
  constructor
  · intro h
    split at h
    · exact (Option.some.inj h) ▸ rfl
    · exact nomatch h
  · rintro rfl
    exact dif_pos a.toNat_lt

theorem pos_of_ne_zero {a : UInt256} (h : a ≠ 0) : 0 < a.toNat :=
  Nat.pos_of_ne_zero (mt eq_zero_iff.mpr h)

/-- A product that fits is exact. -/
theorem toNat_satMul_of_lt {a : UInt256} {k : Nat} (h : a.toNat * k < size) :
    (a.satMul k).toNat = a.toNat * k :=
  Nat.min_eq_left (Nat.le_pred_of_lt h)

@[simp]
theorem toNat_min (a b : UInt256) : (min a b).toNat = min a.toNat b.toNat := by
  change (if a.toNat ≤ b.toNat then a else b).toNat = _
  split <;> omega

theorem min_le_right (a b : UInt256) : min a b ≤ b := by
  rw [le_iff, toNat_min]
  exact Nat.min_le_right ..

end UInt256

end ClauseTx
