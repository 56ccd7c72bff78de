import Mathlib.Tactic.Common

/-!
# Counting over a pool of records

A pool is a function from numbers to records of which the first `n` are in use: goroutines, tasks,
clients. Replacing one record or taking the next number into use changes how many records have a
property by what that one record contributes, which is all a conservation law needs.
-/

namespace GameServiceRuntime

variable {τ : Type*}

/-- How many of the first `n` records of the pool `f` have the property `p`. -/
def poolCount (p : τ → Bool) (f : ℕ → τ) : ℕ → ℕ
  | 0 => 0
  | n + 1 => poolCount p f n + (p (f n)).toNat

theorem poolCount_succ (p : τ → Bool) (f : ℕ → τ) (n : ℕ) :
    poolCount p f (n + 1) = poolCount p f n + (p (f n)).toNat := rfl

/-- A record outside the part in use does not count. -/
theorem poolCount_update_of_le (p : τ → Bool) (f : ℕ → τ) {n t : ℕ} (h : n ≤ t) (x : τ) :
    poolCount p (Function.update f t x) n = poolCount p f n := by
  induction n with
  | zero => rfl
  | succ n ih =>
    rw [poolCount_succ, poolCount_succ, ih (by omega), Function.update_of_ne (by omega)]

/-- **Replacing a record** moves the count by the difference of the two contributions. -/
theorem poolCount_update (p : τ → Bool) (f : ℕ → τ) {n t : ℕ} (h : t < n) (x : τ) :
    poolCount p (Function.update f t x) n + (p (f t)).toNat
      = poolCount p f n + (p x).toNat := by
  induction n with
  | zero => omega
  | succ n ih =>
    rw [poolCount_succ, poolCount_succ]
    rcases Nat.lt_succ_iff_lt_or_eq.mp h with hlt | rfl
    · rw [Function.update_of_ne (by omega)]
      have := ih hlt
      omega
    · rw [poolCount_update_of_le p f (Nat.le_refl _), Function.update_self]
      omega

/-- Nothing is counted when no record in use has the property. -/
theorem poolCount_eq_zero {p : τ → Bool} {f : ℕ → τ} {n : ℕ} (h : ∀ t < n, p (f t) = false) :
    poolCount p f n = 0 := by
  induction n with
  | zero => rfl
  | succ n ih => rw [poolCount_succ, ih fun t ht => h t (by omega), h n (by omega)]; rfl

end GameServiceRuntime
