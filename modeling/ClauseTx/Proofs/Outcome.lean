import Mathlib.Data.List.Basic

/-!
# Outcomes that succeed

A sequence of steps that can fail succeeds exactly when each step does.  The
lemmas say this for the ways in which steps are put together, so that a
reader made of readers is opened without cases on its errors.

`mapM_eq_ok_iff` is about a list of things that are read one by one: if
reading one accepts exactly what `write` produces from the values with a
property, then so does reading the list.
-/

namespace ClauseTx

variable {ε ε' α β : Type}

@[simp]
theorem ok_bind (a : α) (f : α → Except ε β) : (Except.ok a >>= f) = f a := rfl

@[simp]
theorem error_bind (e : ε) (f : α → Except ε β) : (Except.error e >>= f) = .error e := rfl

theorem bind_eq_ok_iff {x : Except ε α} {f : α → Except ε β} {b : β} :
    x >>= f = .ok b ↔ ∃ a, x = .ok a ∧ f a = .ok b := by
  cases x with
  | error e =>
    constructor
    · intro h
      cases h
    · intro h
      obtain ⟨a, ha, _⟩ := h
      cases ha
  | ok a =>
    constructor
    · intro h
      exact ⟨a, rfl, h⟩
    · intro h
      obtain ⟨a', ha, h⟩ := h
      injection ha with ha
      rwa [ha]

theorem pure_eq_ok_iff {a b : α} : (pure a : Except ε α) = .ok b ↔ a = b := by
  show Except.ok a = Except.ok b ↔ a = b
  rw [Except.ok.injEq]

theorem map_eq_ok_iff {x : Except ε α} {f : α → β} {b : β} :
    x.map f = .ok b ↔ ∃ a, x = .ok a ∧ f a = b := by
  cases x <;> simp [Except.map]

theorem toOption_eq_some_iff {x : Except ε α} {a : α} : x.toOption = some a ↔ x = .ok a := by
  cases x <;> simp [Except.toOption]

theorem mapError_eq_ok_iff {x : Except ε α} {f : ε → ε'} {a : α} :
    x.mapError f = .ok a ↔ x = .ok a := by
  cases x <;> simp [Except.mapError]

/-- A list is read exactly when it is written, if this holds for its
members. -/
theorem mapM_eq_ok_iff {read : α → Except ε β} {write : β → α} {P : β → Prop}
    (hread : ∀ x y, read x = .ok y ↔ x = write y ∧ P y) {xs : List α} {ys : List β} :
    xs.mapM read = .ok ys ↔ xs = ys.map write ∧ ∀ y ∈ ys, P y := by
  induction xs generalizing ys with
  | nil =>
    rw [List.mapM_nil, pure_eq_ok_iff]
    cases ys <;> simp
  | cons x xs ih =>
    rw [List.mapM_cons, bind_eq_ok_iff]
    constructor
    · intro h
      obtain ⟨y, hy, h⟩ := h
      obtain ⟨ys', hys, h⟩ := bind_eq_ok_iff.mp h
      rw [pure_eq_ok_iff] at h
      subst h
      obtain ⟨hx, hP⟩ := (hread x y).mp hy
      obtain ⟨hxs, hPs⟩ := ih.mp hys
      refine ⟨by rw [hx, hxs, List.map_cons], ?_⟩
      intro z hz
      rcases List.mem_cons.mp hz with rfl | hz
      · exact hP
      · exact hPs z hz
    · intro h
      obtain ⟨hmap, hP⟩ := h
      cases ys with
      | nil => simp at hmap
      | cons y ys =>
        rw [List.map_cons, List.cons.injEq] at hmap
        refine ⟨y, (hread x y).mpr ⟨hmap.1, hP y (List.mem_cons_self ..)⟩, ?_⟩
        refine bind_eq_ok_iff.mpr ⟨ys, ih.mpr ⟨hmap.2, ?_⟩, rfl⟩
        intro z hz
        exact hP z (List.mem_cons_of_mem y hz)

end ClauseTx
