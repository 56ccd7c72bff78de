import Mathlib.Data.Set.Basic

/-!
# Guarded transition systems

A program that reacts to its environment is modelled as a partial step function: from a state and
an action of the environment it gives the next state, or nothing when the action is not enabled.
Everything proved about such a program is a statement about the states its runs pass through.

The one unusual point is that reachability carries a *guard* on the steps taken. A property that
fails in some runs can still be proved of every run whose steps all meet a condition, and that
is a statement about the same transition system and not about a second, smaller one.

## Main definitions

* `System` — initial states and a partial step function
* `System.ReachableUnder` — states reached by steps that all satisfy a guard
* `System.Reachable` — states reached by any steps at all
* `System.runUnder` — the executable guarded run of a list of actions
* `System.logged` — the system with a history of its runs

## Main results

* `System.ReachableUnder.invariant` — the induction every invariant goes through
* `System.ReachableUnder.invariant_of` — the same, relative to an invariant already known
* `System.ReachableUnder.of_run` — a concrete run reaches its last state
-/

namespace GameServiceRuntime

/-- A transition system: which states may be initial, and what an action does in a state. An
action that is not enabled gives `none`. -/
structure System (σ : Type*) (α : Type*) where
  /-- The states a run may start in. -/
  init : σ → Prop
  /-- The effect of one action. -/
  step : σ → α → Option σ

namespace System

variable {σ α : Type*}

/-- The states reached by runs all of whose steps satisfy `ok`. -/
inductive ReachableUnder (S : System σ α) (ok : σ → α → Prop) : σ → Prop
  /-- A run may start in any initial state. -/
  | init {s : σ} (hinit : S.init s) : ReachableUnder S ok s
  /-- A run may be extended by an enabled action that satisfies the guard. -/
  | step {s s' : σ} {a : α} (hs : ReachableUnder S ok s) (hok : ok s a)
      (hstep : S.step s a = some s') : ReachableUnder S ok s'

/-- The states reached by any run. -/
def Reachable (S : System σ α) : σ → Prop := S.ReachableUnder fun _ _ => True

variable {S : System σ α} {ok : σ → α → Prop}

/-- The system from a state on. -/
def startAt (S : System σ α) (s : σ) : System σ α := { S with init := fun t => t = s }

/-- **The invariant rule.** What holds initially and is preserved by every guarded step holds in
every state reached. -/
theorem ReachableUnder.invariant {I : σ → Prop} (hinit : ∀ s, S.init s → I s)
    (hstep : ∀ s a s', I s → ok s a → S.step s a = some s' → I s') {s : σ}
    (h : S.ReachableUnder ok s) : I s := by
  induction h with
  | init h0 => exact hinit _ h0
  | step _ hok hs ih => exact hstep _ _ _ ih hok hs

/-- The invariant rule relative to a property `J` that is already known of every state reached:
a step may then use `J` on both of its ends. -/
theorem ReachableUnder.invariant_of {I J : σ → Prop} (hJ : ∀ s, S.ReachableUnder ok s → J s)
    (hinit : ∀ s, S.init s → I s)
    (hstep : ∀ s a s', I s → J s → J s' → ok s a → S.step s a = some s' → I s') {s : σ}
    (h : S.ReachableUnder ok s) : I s := by
  induction h with
  | init h0 => exact hinit _ h0
  | step hr hok hs ih => exact hstep _ _ _ ih (hJ _ hr) (hJ _ (.step hr hok hs)) hok hs

theorem ReachableUnder.mono {ok' : σ → α → Prop} (hle : ∀ s a, ok s a → ok' s a) {s : σ}
    (h : S.ReachableUnder ok s) : S.ReachableUnder ok' s := by
  induction h with
  | init h0 => exact .init h0
  | step _ hok hs ih => exact .step ih (hle _ _ hok) hs

theorem ReachableUnder.reachable {s : σ} (h : S.ReachableUnder ok s) : S.Reachable s :=
  h.mono fun _ _ _ => trivial

/-! ## Histories -/

section History

variable {η : Type*}

/-- The system with a history of its runs beside the state: `log` says what a step adds to it. The
history decides nothing, so its runs are those of the system itself. -/
def logged (S : System σ α) (start : η) (log : σ → α → η → η) : System (σ × η) α where
  init p := S.init p.1 ∧ p.2 = start
  step p a := (S.step p.1 a).map fun s' => (s', log p.1 a p.2)

/-- **The invariant rule with a history.** `J` is known of every state of the system itself. -/
theorem logged_invariant {start : η} {log : σ → α → η → η} {I : σ → η → Prop} {J : σ → Prop}
    (hJ : ∀ s, S.Reachable s → J s) (hinit : ∀ s, S.init s → I s start)
    (hstep : ∀ s a s' h, I s h → J s → J s' → S.step s a = some s' → I s' (log s a h)) {p : σ × η}
    (hp : (S.logged start log).Reachable p) : S.Reachable p.1 ∧ I p.1 p.2 := by
  induction hp with
  | init h0 =>
    refine ⟨.init h0.1, ?_⟩
    rw [h0.2]
    exact hinit _ h0.1
  | @step p p' a _ _ hs ih =>
    obtain ⟨s', hs', rfl⟩ := Option.map_eq_some_iff.mp hs
    have hr : S.Reachable s' := .step ih.1 trivial hs'
    exact ⟨hr, hstep _ _ _ _ ih.2 (hJ _ ih.1) (hJ _ hr) hs'⟩

/-- Every state that is reached is reached with some history. -/
theorem exists_logged (start : η) (log : σ → α → η → η) {s : σ} (h : S.Reachable s) :
    ∃ η', (S.logged start log).Reachable (s, η') := by
  induction h with
  | init h0 => exact ⟨start, .init ⟨h0, rfl⟩⟩
  | @step s s' a _ _ hs ih =>
    obtain ⟨η', hη⟩ := ih
    have hstep : (S.logged start log).step (s, η') a = some (s', log s a η') := by
      simp only [logged, hs, Option.map_some]
    exact ⟨_, .step hη trivial hstep⟩

end History

/-! ## Executable runs -/

section Runs

variable [∀ s a, Decidable (ok s a)]

/-- Take the actions of a list in order; `none` as soon as one of them is not enabled or does not
satisfy the guard. -/
def runUnder (S : System σ α) (ok : σ → α → Prop) [∀ s a, Decidable (ok s a)] :
    σ → List α → Option σ
  | s, [] => some s
  | s, a :: as => if ok s a then (S.step s a).bind fun s' => S.runUnder ok s' as else none

/-- **Concrete runs.** A guarded run from a state reached under the guard ends in one. -/
theorem ReachableUnder.of_run {s t : σ} {as : List α} (hs : S.ReachableUnder ok s)
    (hrun : S.runUnder ok s as = some t) : S.ReachableUnder ok t := by
  induction as generalizing s with
  | nil =>
    cases hrun
    exact hs
  | cons a as ih =>
    simp only [runUnder, Option.ite_none_right_eq_some, Option.bind_eq_some_iff] at hrun
    obtain ⟨hok, s', hstep, hrest⟩ := hrun
    exact ih (.step hs hok hstep) hrest

/-- A run that ends in a state with a decidable property reaches such a state. -/
theorem exists_reachableUnder_of_run (S : System σ α) (ok : σ → α → Prop)
    [∀ s a, Decidable (ok s a)] {s : σ} (as : List α) (p : σ → Bool) (hinit : S.init s)
    (hrun : (S.runUnder ok s as).map p = some true) : ∃ t, S.ReachableUnder ok t ∧ p t = true := by
  obtain ⟨t, ht, hp⟩ := Option.map_eq_some_iff.mp hrun
  exact ⟨t, .of_run (.init hinit) ht, hp⟩

end Runs

/-! ## What is bound to happen -/

section Inevitable

/-- The actions of the list lead from one state to another. -/
def Steps (S : System σ α) : σ → List α → σ → Prop
  | s, [], t => s = t
  | s, a :: as, t => ∃ u, S.step s a = some u ∧ S.Steps u as t

/-- A run of a list of actions is one of the system. -/
theorem steps_of_run [∀ s a, Decidable (ok s a)] {s t : σ} {as : List α}
    (hrun : S.runUnder ok s as = some t) : S.Steps s as t := by
  induction as generalizing s with
  | nil => exact Option.some.inj hrun
  | cons a as ih =>
    simp only [runUnder, Option.ite_none_right_eq_some, Option.bind_eq_some_iff] at hrun
    obtain ⟨-, u, hu, hrest⟩ := hrun
    exact ⟨u, hu, ih hrest⟩

theorem Steps.concat {s t u : σ} {as : List α} {a : α} (h : S.Steps s as t)
    (ha : S.step t a = some u) : S.Steps s (as ++ [a]) u := by
  induction as generalizing s with
  | nil =>
    obtain rfl : s = t := h
    exact ⟨u, ha, rfl⟩
  | cons b as ih =>
    obtain ⟨v, hv, hrest⟩ := h
    exact ⟨v, hv, ih hrest⟩

/-- **Bound to happen.** However the run goes on, `goal` holds once enough of the actions `own`
have been taken, and until it holds one of them can be taken. -/
def Inevitable (S : System σ α) (own : α → Bool) (goal : σ → Prop) (s : σ) : Prop :=
  ∃ n, ∀ as t, S.Steps s as t →
    (n ≤ as.countP own → goal t) ∧ (goal t ∨ ∃ a, own a = true ∧ (S.step t a).isSome = true)

/-- **The ranking rule.** A condition under which `own` is enabled, that no step destroys and under
which `own` decreases a rank. `J` is an invariant the steps may use. -/
theorem Inevitable.of_rank {own : α → Bool} {goal J P : σ → Prop} (rank : σ → ℕ)
    (hJ : ∀ s a s', J s → S.step s a = some s' → J s')
    (hgoal : ∀ s a s', J s → goal s → S.step s a = some s' → goal s')
    (henabled : ∀ s, J s → P s → ∃ a, own a = true ∧ (S.step s a).isSome = true)
    (hstep : ∀ s a s', J s → P s → S.step s a = some s' →
      goal s' ∨ P s' ∧ rank s' + (own a).toNat ≤ rank s) {s : σ} (hs : J s) (hP : P s) :
    S.Inevitable own goal s := by
  have hkeep : ∀ as s t, J s → goal s → S.Steps s as t → goal t := by
    intro as
    induction as with
    | nil =>
      rintro s _ - hg rfl
      exact hg
    | cons a as ih =>
      rintro s t hs hg ⟨u, hu, htail⟩
      exact ih u t (hJ s a u hs hu) (hgoal s a u hs hg hu) htail
  have hrun : ∀ as s t, J s → P s → S.Steps s as t →
      goal t ∨ J t ∧ P t ∧ rank t + as.countP own ≤ rank s := by
    intro as
    induction as with
    | nil =>
      rintro s _ hs hP rfl
      exact .inr ⟨hs, hP, by simp⟩
    | cons a as ih =>
      rintro s t hs hP ⟨u, hu, htail⟩
      have hJu := hJ s a u hs hu
      have hcount : (a :: as).countP own = as.countP own + (own a).toNat := by
        cases ha : own a <;> simp [ha]
      rcases hstep s a u hs hP hu with hgu | ⟨hPu, hrank⟩
      · exact .inl (hkeep as u t hJu hgu htail)
      · refine (ih u t hJu hPu htail).imp_right fun ⟨hJt, hPt, hle⟩ => ⟨hJt, hPt, ?_⟩
        omega
  refine ⟨rank s + 1, fun as t ht => ?_⟩
  rcases hrun as s t hs hP ht with hg | ⟨hJt, hPt, hle⟩
  · exact ⟨fun _ => hg, .inl hg⟩
  · exact ⟨fun hn => absurd hn (by omega), .inr (henabled t hJt hPt)⟩

end Inevitable

end System

end GameServiceRuntime
