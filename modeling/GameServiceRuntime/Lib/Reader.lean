import Mathlib.Data.List.Induction
import Mathlib.Tactic.Ring

/-!
# Reading byte strings

A decoder walks over a byte string with a position and takes slices of it. `Reader` is such a walk:
it sees the whole string, so it could read anywhere in it, and a slice outside the string is a fault
of its own that no caller catches.

Two statements about a reader are enough for a codec, and both compose along the reader's own text.

* `Accepts r bs a` — where the string goes on with `bs`, the reader takes exactly `bs` and returns
  `a`.
* `Sound r Q` — from a position inside the string the reader never takes a slice outside it, and
  what it returns is related by `Q` to the bytes it took.

The first gives "decoding what was encoded", the second "encoding what was decoded".

## Main results

* `Accepts.bind`, `Sound.bind` — reading one thing after another
* `value_bigEndian`, `bigEndian_value` — fixed-width big-endian numbers, both ways
* `Checked.bind`, `Checked.mapM` — the same for decoders that index the string directly
-/

namespace GameServiceRuntime

/-! ### Big-endian numbers -/

/-- The `n` low bytes of a number, the most significant one first. -/
def bigEndian : ℕ → ℕ → List UInt8
  | 0, _ => []
  | n + 1, v => bigEndian n (v / 256) ++ [UInt8.ofNat v]

/-- The number a byte string stands for, the most significant byte first. -/
def value (bs : List UInt8) : ℕ := bs.foldl (fun v b => v * 256 + b.toNat) 0

@[simp] theorem length_bigEndian (n v : ℕ) : (bigEndian n v).length = n := by
  induction n generalizing v with
  | zero => rfl
  | succ n ih => simp [bigEndian, ih]

theorem value_append_singleton (bs : List UInt8) (b : UInt8) :
    value (bs ++ [b]) = value bs * 256 + b.toNat := by
  simp [value]

theorem value_lt (bs : List UInt8) : value bs < 256 ^ bs.length := by
  induction bs using List.reverseRecOn with
  | nil => simp [value]
  | append_singleton bs b ih =>
    have hb : b.toNat < 256 := b.toNat_lt
    rw [value_append_singleton, List.length_append, List.length_singleton, pow_succ]
    omega

/-- **Reading a number back.** -/
theorem value_bigEndian {n v : ℕ} (h : v < 256 ^ n) : value (bigEndian n v) = v := by
  induction n generalizing v with
  | zero => simp_all [bigEndian, value]
  | succ n ih =>
    have hdiv : v / 256 < 256 ^ n := by
      rw [pow_succ] at h
      exact Nat.div_lt_of_lt_mul (by rwa [Nat.mul_comm])
    rw [bigEndian, value_append_singleton, ih hdiv, UInt8.toNat_ofNat']
    omega

/-- **Writing a number back.** -/
theorem bigEndian_value (bs : List UInt8) : bigEndian bs.length (value bs) = bs := by
  induction bs using List.reverseRecOn with
  | nil => rfl
  | append_singleton bs b ih =>
    have hb : b.toNat < 256 := b.toNat_lt
    have hdiv : (value bs * 256 + b.toNat) / 256 = value bs := by omega
    have hlow : UInt8.ofNat (value bs * 256 + b.toNat) = b := by
      apply UInt8.toNat_inj.mp
      rw [UInt8.toNat_ofNat']
      omega
    rw [List.length_append, List.length_singleton, bigEndian, value_append_singleton,
      hdiv, hlow, ih]

/-! ### Readers -/

/-- How a reader can end without a value. -/
inductive ReadFault (ε : Type)
  /-- an error it returns -/
  | failed (err : ε)
  /-- the run-time panic of an index or a slice outside the string -/
  | outOfRange
  deriving DecidableEq

/-- A walk over a byte string: from the string and a position to a value and the next position. -/
structure Reader (ε α : Type) where
  /-- The value and the next position, from the string and a position. -/
  run : List UInt8 → ℕ → Except (ReadFault ε) (α × ℕ)

namespace Reader

variable {ε α β : Type}

/-- Return without reading. -/
def ret (a : α) : Reader ε α := ⟨fun _ pos => .ok (a, pos)⟩

/-- Give up. -/
def fail (err : ε) : Reader ε α := ⟨fun _ _ => .error (.failed err)⟩

/-- Go on only if the condition holds. -/
def require (c : Prop) [Decidable c] (err : ε) : Reader ε Unit := if c then ret () else fail err

/-- One reader after another. -/
def bind (r : Reader ε α) (f : α → Reader ε β) : Reader ε β where
  run data pos :=
    match r.run data pos with
    | .error fault => .error fault
    | .ok (a, next) => (f a).run data next

instance : Monad (Reader ε) where
  pure := ret
  bind := bind

/-- The slice `data[start:stop]`. -/
def slice (data : List UInt8) (start stop : ℕ) : Except (ReadFault ε) (List UInt8) :=
  if start ≤ stop ∧ stop ≤ data.length then .ok ((data.drop start).take (stop - start))
  else .error .outOfRange

/-! ### Reading what was written -/

/-- Where the string goes on with `bs`, the reader takes `bs` and returns `a`. -/
def Accepts (r : Reader ε α) (bs : List UInt8) (a : α) : Prop :=
  ∀ pre rest, r.run (pre ++ bs ++ rest) pre.length = .ok (a, pre.length + bs.length)

theorem Accepts.pure (a : α) : Accepts (Pure.pure a : Reader ε α) [] a := fun _ _ => rfl

variable {err : ε} {c : Prop}

theorem Accepts.require [Decidable c] (h : c) :
    Accepts (require c err) [] () := fun _ _ => by simp [Reader.require, h, Reader.ret]

variable {r : Reader ε α}

/-- **Reading one thing after another.** -/
theorem Accepts.bind {f : α → Reader ε β} {bs bs' : List UInt8} {a : α} {b : β}
    (hr : Accepts r bs a) (hf : Accepts (f a) bs' b) : Accepts (r >>= f) (bs ++ bs') b := by
  intro pre rest
  show (Reader.bind r f).run _ _ = _
  have h1 := hr pre (bs' ++ rest)
  have h2 := hf (pre ++ bs) rest
  simp only [List.append_assoc, List.length_append] at h1 h2 ⊢
  simp only [Reader.bind, h1, h2, Nat.add_assoc]

theorem Accepts.require_bind [Decidable c] {f : Unit → Reader ε β} {bs : List UInt8} {b : β} (h : c)
    (hf : Accepts (f ()) bs b) :
    Accepts (Reader.require c err >>= f) bs b :=
  (Accepts.require h).bind hf

/-- A reader that accepts a whole string ends at its end. -/
theorem Accepts.run {bs : List UInt8} {a : α} (h : Accepts r bs a) :
    r.run bs 0 = .ok (a, bs.length) := by
  simpa using h [] []

/-! ### What a reader can return -/

/-- From a position inside the string the reader takes no slice outside it; and when it returns, it
is at a later position inside the string and `Q` relates what it returns to the bytes taken. -/
def Sound (r : Reader ε α) (Q : α → List UInt8 → Prop) : Prop :=
  ∀ data pos, pos ≤ data.length →
    match r.run data pos with
    | .error fault => fault ≠ .outOfRange
    | .ok (a, next) =>
      next ≤ data.length ∧ ∃ bs, data.drop pos = bs ++ data.drop next ∧ Q a bs

variable {Q : α → List UInt8 → Prop}

theorem Sound.pure {a : α} (h : Q a []) :
    Sound (Pure.pure a : Reader ε α) Q := fun _ _ hpos => ⟨hpos, [], rfl, h⟩

theorem Sound.fail : Sound (fail err : Reader ε α) Q :=
  fun _ _ _ => by simp [Reader.fail]

theorem Sound.require [Decidable c] : Sound (require c err) fun _ bs => c ∧ bs = [] := by
  rw [Reader.require]
  split
  · exact .pure ⟨‹c›, rfl⟩
  · exact .fail

theorem Sound.mono {R : α → List UInt8 → Prop} (h : Sound r Q)
    (hQR : ∀ a bs, Q a bs → R a bs) : Sound r R := by
  intro data pos hpos
  have := h data pos hpos
  split at this
  · exact this
  · obtain ⟨hnext, bs, hbs, hQ⟩ := this
    exact ⟨hnext, bs, hbs, hQR _ _ hQ⟩

/-- **Reading one thing after another.** -/
theorem Sound.bind {f : α → Reader ε β}
    {R : β → List UInt8 → Prop} (hr : Sound r Q)
    (hf : ∀ a bs, Q a bs → Sound (f a) fun b bs' => R b (bs ++ bs')) : Sound (r >>= f) R := by
  intro data pos hpos
  show match (Reader.bind r f).run data pos with | .error fault => _ | .ok (a, next) => _
  have h1 := hr data pos hpos
  rw [Reader.bind]
  split at h1
  · next fault heq => simpa [heq] using h1
  · next a next heq =>
    obtain ⟨hnext, bs, hbs, hQ⟩ := h1
    have h2 := hf a bs hQ data next hnext
    simp only [heq]
    split at h2
    · next fault heq' => simpa [heq'] using h2
    · next b last heq' =>
      obtain ⟨hlast, bs', hbs', hR⟩ := h2
      exact ⟨hlast, bs ++ bs', by rw [hbs, hbs', List.append_assoc], hR⟩

theorem Sound.require_bind [Decidable c] {f : Unit → Reader ε β} {R : β → List UInt8 → Prop}
    (hf : c → Sound (f ()) R) :
    Sound (Reader.require c err >>= f) R := by
  refine Sound.require.bind ?_
  rintro - bs ⟨hc, rfl⟩
  exact hf hc

/-- A reader that stops at the end of the string has taken all of it. -/
theorem Sound.run (h : Sound r Q) {data : List UInt8}
    {a : α} (hrun : r.run data 0 = .ok (a, data.length)) : Q a data := by
  have := h data 0 (Nat.zero_le _)
  rw [hrun] at this
  obtain ⟨-, bs, hbs, hQ⟩ := this
  have hdata : data = bs := by simpa using hbs
  exact hdata ▸ hQ

end Reader

/-! ### Decoders that index the whole string

A decoder of fixed layouts takes slices at positions of its own choice. It is an `Except`
computation, and `Checked` plays the part of `Sound`. -/

namespace ReadFault

variable {ε α β : Type}

/-- Go on only if the condition holds. -/
def require (c : Prop) [Decidable c] (err : ε) : Except (ReadFault ε) Unit :=
  if c then .ok () else .error (.failed err)

/-- Any error becomes `err`; a panic stays one. -/
def orFail (x : Except (ReadFault ε) α) (err : ε) : Except (ReadFault ε) α :=
  match x with
  | .error (.failed _) => .error (.failed err)
  | .error .outOfRange => .error .outOfRange
  | .ok a => .ok a

/-- The computation takes no slice outside the string, and `Q` holds of what it returns. -/
def Checked (x : Except (ReadFault ε) α) (Q : α → Prop) : Prop :=
  match x with
  | .error fault => fault ≠ .outOfRange
  | .ok a => Q a

variable {x : Except (ReadFault ε) α} {f : α → Except (ReadFault ε) β} {P Q : α → Prop}
    {R : β → Prop}
  {c : Prop} [Decidable c] {err : ε}

theorem Checked.ok {a : α} (h : Q a) : Checked (.ok a : Except (ReadFault ε) α) Q := h

theorem Checked.pure {a : α} (h : Q a) : Checked (Pure.pure a : Except (ReadFault ε) α) Q := h

theorem Checked.failed : Checked (.error (.failed err)) Q := nofun

theorem Checked.mono (h : Checked x P) (hPQ : ∀ a, P a → Q a) : Checked x Q := by
  cases x with
  | error fault => exact h
  | ok a => exact hPQ a h

/-- **One computation after another.** -/
theorem Checked.bind (hx : Checked x P) (hf : ∀ a, P a → Checked (f a) R) :
    Checked (x >>= f) R := by
  cases x with
  | error fault => exact hx
  | ok a => exact hf a hx

/-- What is returned is what the computation returns. -/
theorem Checked.and_eq (h : Checked x P) : Checked x fun a => P a ∧ x = .ok a := by
  cases x with
  | error fault => exact h
  | ok a => exact ⟨h, rfl⟩

theorem Checked.require : Checked (require c err) fun _ => c := by
  rw [ReadFault.require]
  split
  · exact ‹c›
  · exact .failed

theorem Checked.require_bind {g : Unit → Except (ReadFault ε) β} (hg : c → Checked (g ()) R) :
    Checked (ReadFault.require c err >>= g) R :=
  Checked.require.bind fun _ hc => hg hc

theorem Checked.orFail (h : Checked x P) : Checked (orFail x err) P := by
  match x, h with
  | .error (.failed _), _ => exact .failed
  | .ok a, h => exact h

/-- A loop that makes one record for each index makes as many records as there are indices. -/
theorem Checked.mapM {γ : Type} {l : List γ} {g : γ → Except (ReadFault ε) α}
    (hg : ∀ i ∈ l, Checked (g i) fun _ => True) : Checked (l.mapM g)
      fun as => as.length = l.length := by
  induction l with
  | nil => exact .pure rfl
  | cons i l ih =>
    rw [List.mapM_cons]
    refine (hg i (List.mem_cons_self ..)).bind fun a _ => ?_
    refine (ih fun j hj => hg j (List.mem_cons_of_mem i hj)).bind fun as has => ?_
    exact .pure (by simp [has])

theorem Checked.safe (h : Checked x Q) : x ≠ .error .outOfRange := by
  rintro rfl
  exact h rfl

theorem Checked.of_ok {a : α} (h : Checked x Q) (hx : x = .ok a) : Q a := by
  subst hx
  exact h

end ReadFault

namespace Reader

variable {ε : Type}

theorem slice_eq {data : List UInt8} {start stop : ℕ} (hle : start ≤ stop)
    (hstop : stop ≤ data.length) :
    (slice data start stop : Except (ReadFault ε) _) =
    .ok ((data.drop start).take (stop - start)) :=
  if_pos ⟨hle, hstop⟩

end Reader

end GameServiceRuntime
