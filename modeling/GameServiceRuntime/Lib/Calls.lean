import Mathlib.Data.List.Basic

/-!
# Programs that call others

A handler that calls other services before it returns is a tree: it returns, or makes a call and
goes on with the answer. The callee is not part of the tree, so a statement about the handler is a
statement about all answers, or about all answers an honest callee can give.

`Calls.run` runs such a program on a list of answers and is what a transition system is built
from. `Calls.Returns` is the same as a relation between the exchanges of a run, calls with their
answers, and what the run returns. It takes a program apart along its text: the exchanges of two
programs one after the other are those of the first followed by those of the second, so a fact about
the order of calls is a fact about lists.

## Main results

* `Calls.returns_bind` — the exchanges of a sequence
* `Calls.returns_of_run`, `Calls.run_of_returns` — a run returns what the relation says
* `Calls.Post.bind` — the rule of sequencing, with the exchanges so far as the state
* `Calls.Only.bind` — the calls of a sequence are those of its parts
* `Calls.AtMost.bind` — and so are their numbers
* `Calls.exists_returns` — a program returns whoever answers its calls
-/

namespace GameServiceRuntime

/-- A program that calls with requests of type `ι` and goes on with answers of type `ρ`. -/
inductive Calls (ι ρ : Type) (α : Type)
  | ret (a : α)
  | call (o : ι) (k : ρ → Calls ι ρ α)

namespace Calls

variable {ι ρ α β : Type}

/-- One program after another. -/
def bind : Calls ι ρ α → (α → Calls ι ρ β) → Calls ι ρ β
  | ret a, f => f a
  | call o k, f => call o fun r => (k r).bind f

instance : Monad (Calls ι ρ) where
  pure := ret
  bind := bind

/-- One call. -/
def ask (o : ι) : Calls ι ρ ρ := call o ret

@[simp] theorem ask_bind (o : ι) (f : ρ → Calls ι ρ β) :
    (ask o >>= f : Calls ι ρ β) = call o f := rfl

/-- The result on a list of answers and the exchanges, if the answers are as many as the calls. -/
def run : Calls ι ρ α → List ρ → Option (α × List (ι × ρ))
  | ret a, [] => some (a, [])
  | ret _, _ :: _ => none
  | call _ _, [] => none
  | call o k, r :: rs => ((k r).run rs).map fun out => (out.1, (o, r) :: out.2)

/-- What is made of the result at the end can be made of it at the end of the last part. -/
theorem map_bind {γ : Type} (p : Calls ι ρ α) (f : α → Calls ι ρ β) (g : β → γ) :
    g <$> (p >>= f) = p >>= fun a => g <$> f a := by
  induction p with
  | ret a => rfl
  | call o k ih => exact congrArg (call o) (funext ih)

theorem run_map (g : α → β) (p : Calls ι ρ α) (rs : List ρ) :
    (g <$> p).run rs = (p.run rs).map fun out => (g out.1, out.2) := by
  induction p generalizing rs with
  | ret a => cases rs <;> rfl
  | call o k ih =>
    cases rs with
    | nil => rfl
    | cons r rs =>
      show ((g <$> k r).run rs).map _ = _
      rw [ih, Option.map_map, run, Option.map_map]
      rfl

@[simp] theorem run_pure (a : α) : (pure a : Calls ι ρ α).run [] = some (a, []) := rfl

/-- The program can return this after these exchanges. -/
inductive Returns : Calls ι ρ α → List (ι × ρ) → α → Prop
  | ret (a : α) : Returns (ret a) [] a
  | call {o : ι} {k : ρ → Calls ι ρ α} {r : ρ} {es : List (ι × ρ)} {a : α} :
      Returns (k r) es a → Returns (call o k) ((o, r) :: es) a

variable {p : Calls ι ρ α} {es : List (ι × ρ)} {a : α} {o : ι}

/-- A run returns what the relation says, and its exchanges have the answers it was given. -/
theorem returns_of_run {rs : List ρ} (h : p.run rs = some (a, es)) :
    p.Returns es a ∧ es.map Prod.snd = rs := by
  induction p generalizing rs es with
  | ret b =>
    cases rs <;> simp only [run, Option.some.injEq, Prod.mk.injEq, reduceCtorEq] at h
    obtain ⟨rfl, rfl⟩ := h
    exact ⟨.ret b, rfl⟩
  | call o k ih =>
    cases rs with
    | nil => simp [run] at h
    | cons r rs =>
      simp only [run, Option.map_eq_some_iff, Prod.mk.injEq, Prod.exists] at h
      obtain ⟨b, es', hr, rfl, rfl⟩ := h
      obtain ⟨hreturns, hanswers⟩ := ih r hr
      exact ⟨.call hreturns, by rw [List.map_cons, hanswers]⟩

/-- What the relation says, a run on the answers returns. -/
theorem run_of_returns (h : p.Returns es a) : p.run (es.map Prod.snd) = some (a, es) := by
  induction h with
  | ret a => rfl
  | call _ ih =>
    rw [List.map_cons, run, ih]
    rfl

@[simp] theorem returns_pure {a b : α} :
    (pure b : Calls ι ρ α).Returns es a ↔ es = [] ∧ a = b := by
  constructor
  · rintro ⟨⟩
    exact ⟨rfl, rfl⟩
  · rintro ⟨rfl, rfl⟩
    exact .ret a

@[simp] theorem returns_call {k : ρ → Calls ι ρ α} :
    (call o k).Returns es a ↔ ∃ r es', es = (o, r) :: es' ∧ (k r).Returns es' a := by
  constructor
  · rintro (_ | h)
    exact ⟨_, _, rfl, h⟩
  · rintro ⟨r, es', rfl, h⟩
    exact .call h

/-- A call and what comes after it. -/
theorem returns_ask_bind {f : ρ → Calls ι ρ β} {b : β} :
    (ask o >>= f).Returns es b ↔ ∃ r es', es = (o, r) :: es' ∧ (f r).Returns es' b := by
  rw [ask_bind, returns_call]

/-- **The exchanges of a sequence** are those of its parts, one after the other. -/
theorem returns_bind {f : α → Calls ι ρ β} {b : β} :
    (p >>= f).Returns es b ↔
      ∃ es₁ es₂ a, es = es₁ ++ es₂ ∧ p.Returns es₁ a ∧ (f a).Returns es₂ b := by
  induction p generalizing es with
  | ret a =>
    constructor
    · exact fun h => ⟨[], es, a, rfl, .ret a, h⟩
    · rintro ⟨es₁, es₂, a', rfl, h₁, h₂⟩
      cases h₁
      exact h₂
  | call o k ih =>
    constructor
    · intro h
      obtain ⟨r, es', rfl, hr⟩ := returns_call.1 h
      obtain ⟨es₁, es₂, a, rfl, h₁, h₂⟩ := (ih r).1 hr
      exact ⟨(o, r) :: es₁, es₂, a, rfl, .call h₁, h₂⟩
    · rintro ⟨es₁, es₂, a, rfl, h₁, h₂⟩
      obtain ⟨r, es', rfl, hr⟩ := returns_call.1 h₁
      exact returns_call.2 ⟨r, es' ++ es₂, rfl, (ih r).2 ⟨es', es₂, a, rfl, hr, h₂⟩⟩

/-! ### What holds when a program returns -/

/-- After the exchanges `before`, what the program returns satisfies `Q` with all exchanges. -/
def Post (p : Calls ι ρ α) (before : List (ι × ρ)) (Q : List (ι × ρ) → α → Prop) : Prop :=
  ∀ es a, p.Returns es a → Q (before ++ es) a

section Post

variable {before : List (ι × ρ)} {Q : List (ι × ρ) → α → Prop} {f : β → Calls ι ρ α}

theorem Post.pure {a : α} (h : Q before a) : (Pure.pure a : Calls ι ρ α).Post before Q := by
  intro es b hr
  obtain ⟨rfl, rfl⟩ := returns_pure.1 hr
  rwa [List.append_nil]

/-- **Sequencing**: what comes after is proved for all the first part can return. -/
theorem Post.bind {q : Calls ι ρ β} (h : q.Post before fun es b => (f b).Post es Q) :
    (q >>= f).Post before Q := by
  intro es a hr
  obtain ⟨es₁, es₂, b, rfl, h₁, h₂⟩ := returns_bind.1 hr
  rw [← List.append_assoc]
  exact h es₁ b h₁ es₂ a h₂

theorem Post.ask_bind {o : ι} {f : ρ → Calls ι ρ α} (h : ∀ r, (f r).Post (before ++ [(o, r)]) Q) :
    (ask o >>= f).Post before Q := by
  refine .bind fun es r hr => ?_
  obtain ⟨r', es', rfl, hend⟩ := returns_call.1 hr
  obtain ⟨rfl, rfl⟩ := returns_pure.1 hend
  exact h r

theorem Post.ite {c : Prop} [Decidable c] {q : Calls ι ρ α} (hp : c → p.Post before Q)
    (hq : ¬c → q.Post before Q) : (if c then p else q).Post before Q := by
  split
  · exact hp ‹c›
  · exact hq ‹¬c›

end Post

/-! ### Which calls a program makes -/

/-- All calls of the program satisfy `ok`. -/
def Only (ok : ι → Prop) (p : Calls ι ρ α) : Prop := ∀ es a, p.Returns es a → ∀ e ∈ es, ok e.1

variable {ok : ι → Prop}

theorem Only.pure (a : α) : (Pure.pure a : Calls ι ρ α).Only ok := by
  intro es b h
  rw [(returns_pure.1 h).1]
  simp

theorem Only.bind {f : α → Calls ι ρ β} (hp : p.Only ok) (hf : ∀ a, (f a).Only ok) :
    (p >>= f).Only ok := by
  intro es b h
  obtain ⟨es₁, es₂, a, rfl, h₁, h₂⟩ := returns_bind.1 h
  exact List.forall_mem_append.2 ⟨hp _ _ h₁, hf a _ _ h₂⟩

theorem Only.ask_bind {f : ρ → Calls ι ρ β} (ho : ok o) (hf : ∀ r, (f r).Only ok) :
    (ask o >>= f).Only ok := by
  intro es b h
  obtain ⟨r, es', rfl, h'⟩ := returns_ask_bind.1 h
  exact List.forall_mem_cons.2 ⟨ho, hf r _ _ h'⟩

/-- Every run of the program makes at most `n` calls of a kind. -/
def AtMost (kind : ι → Bool) (n : ℕ) (p : Calls ι ρ α) : Prop :=
  ∀ es a, p.Returns es a → es.countP (fun e => kind e.1) ≤ n

section AtMost

variable {kind : ι → Bool} {m n : ℕ}

theorem AtMost.pure (a : α) : (Pure.pure a : Calls ι ρ α).AtMost kind n := by
  intro es b h
  rw [(returns_pure.1 h).1]
  exact Nat.zero_le n

theorem AtMost.bind {f : α → Calls ι ρ β} (hp : p.AtMost kind m) (hf : ∀ a, (f a).AtMost kind n) :
    (p >>= f).AtMost kind (m + n) := by
  intro es b h
  obtain ⟨es₁, es₂, a, rfl, h₁, h₂⟩ := returns_bind.1 h
  rw [List.countP_append]
  exact Nat.add_le_add (hp _ _ h₁) (hf a _ _ h₂)

theorem AtMost.ask_bind {o : ι} {f : ρ → Calls ι ρ β} (hf : ∀ r, (f r).AtMost kind n) :
    (ask o >>= f).AtMost kind ((kind o).toNat + n) := by
  intro es b h
  obtain ⟨r, es', rfl, h'⟩ := returns_ask_bind.1 h
  have hrest := hf r _ _ h'
  rw [List.countP_cons]
  cases kind o <;> simp <;> omega

theorem AtMost.ite {c : Prop} [Decidable c] {q : Calls ι ρ α} (hp : p.AtMost kind n)
    (hq : q.AtMost kind n) : (if c then p else q).AtMost kind n := by
  split
  · exact hp
  · exact hq

theorem AtMost.mono (hp : p.AtMost kind m) (h : m ≤ n) : p.AtMost kind n :=
  fun es a hr => Nat.le_trans (hp es a hr) h

/-- A program whose calls are of another kind makes none of this one. -/
theorem Only.atMost_zero (hp : p.Only ok) (h : ∀ o, ok o → kind o = false) : p.AtMost kind 0 := by
  intro es a hr
  refine Nat.le_of_eq (List.countP_eq_zero.2 fun e he => ?_)
  rw [h _ (hp es a hr e he)]
  exact Bool.false_ne_true

end AtMost

/-! ### Programs return -/

/-- The exchanges are answered as `answer` says, which sees what went before. -/
def Follows (answer : List (ι × ρ) → ι → ρ) (es : List (ι × ρ)) : Prop :=
  ∀ before e after, es = before ++ e :: after → e.2 = answer before e.1

/-- **A program returns** whoever answers its calls. -/
theorem exists_returns (p : Calls ι ρ α) (answer : List (ι × ρ) → ι → ρ) :
    ∃ es a, p.Returns es a ∧ Follows answer es := by
  induction p generalizing answer with
  | ret a => exact ⟨[], a, .ret a, fun before e after h => by simp at h⟩
  | call o k ih =>
    obtain ⟨es, a, hr, hes⟩ := ih (answer [] o) fun before => answer ((o, answer [] o) :: before)
    refine ⟨_, a, .call hr, fun before e after h => ?_⟩
    cases before with
    | nil =>
      obtain ⟨rfl, -⟩ := List.cons.inj h
      rfl
    | cons b before =>
      obtain ⟨rfl, htail⟩ := List.cons.inj h
      exact hes before e after htail

end Calls

end GameServiceRuntime
