import Mathlib.Data.List.Basic

/-!
# Slices with a nil

A slice is a list together with whether it is the nil slice. The two empty slices have the same
elements and are different values: `reflect.DeepEqual` and an encoder can tell them apart, `len`
and `range` cannot. Equality of `Slice` is therefore the deep equality, and equality of `elems` is
equality as a sequence of values.

The two ways of copying a slice differ exactly there. `append([]T(nil), xs...)` turns every empty
slice into the nil one (`copy`), a loop over `make([]T, len(xs))` turns it into the other one
(`map`).
-/

namespace GameServiceRuntime

/-- A slice of the source: its elements, and whether it is nil. -/
structure Slice (α : Type*) where
  /-- What `range` goes through. -/
  elems : List α
  /-- `s == nil` -/
  isNil : Bool
  /-- The nil slice is empty. -/
  elems_of_isNil : isNil = true → elems = []
  deriving DecidableEq

namespace Slice

variable {α β : Type*}

/-- The nil slice. -/
def nil : Slice α := ⟨[], true, fun _ => rfl⟩

/-- A slice made by `make` and filled, or written as a literal. -/
def of (xs : List α) : Slice α := ⟨xs, false, by simp⟩

/-- `append([]T(nil), xs...)` -/
def copy (xs : Slice α) : Slice α := ⟨xs.elems, xs.elems.isEmpty, by simp⟩

/-- The slice `make([]U, len(xs))` after a loop that fills it. -/
def map (f : α → β) (xs : Slice α) : Slice β := of (xs.elems.map f)

/-- The slice rebuilt by `make` and `copy` unless it is nil. -/
def remake (xs : Slice α) : Slice α := if xs.isNil then nil else of xs.elems

/-- The slice after its elements were changed in place. -/
def refill (xs : Slice α) (ys : List α) : Slice α :=
  ⟨ys, xs.isNil && ys.isEmpty, by simp⟩

/-- The number of elements. -/
def len (xs : Slice α) : ℕ := xs.elems.length

@[simp] theorem elems_nil : (nil : Slice α).elems = [] := rfl

@[simp] theorem elems_of (xs : List α) : (of xs).elems = xs := rfl

@[simp] theorem isNil_of (xs : List α) : (of xs).isNil = false := rfl

@[simp] theorem elems_copy (xs : Slice α) : xs.copy.elems = xs.elems := rfl

@[simp] theorem elems_map (f : α → β) (xs : Slice α) : (xs.map f).elems = xs.elems.map f := rfl

theorem eq_iff (xs ys : Slice α) : xs = ys ↔ xs.elems = ys.elems ∧ xs.isNil = ys.isNil := by
  constructor
  · rintro rfl
    exact ⟨rfl, rfl⟩
  · rintro ⟨he, hn⟩
    cases xs
    cases ys
    cases he
    cases hn
    rfl

@[simp] theorem remake_eq (xs : Slice α) : xs.remake = xs := by
  rw [remake, eq_iff]
  split_ifs with h
  · exact ⟨(xs.elems_of_isNil h).symm, h.symm⟩
  · exact ⟨rfl, by simpa using h⟩

theorem isNil_eq_false {xs : Slice α} (h : xs.elems ≠ []) : xs.isNil = false := by
  by_contra hn
  exact h (xs.elems_of_isNil (by simpa using hn))

/-- Slices with elements are equal as soon as their elements are. -/
theorem ext_iff_elems {xs ys : Slice α} (h : xs.elems ≠ []) : xs = ys ↔ xs.elems = ys.elems := by
  rw [eq_iff]
  refine ⟨And.left, fun he => ⟨he, ?_⟩⟩
  rw [isNil_eq_false h, isNil_eq_false (he ▸ h)]

end Slice

end GameServiceRuntime
