import GameServiceRuntime.Lib.Table
import GameServiceRuntime.Lib.Transition

/-!
# Jobs given to workers at most once

A desk hands jobs to a pool of workers over a bounded queue and keeps a receipt for every job, under
the job's key. A job has one effect that must not happen twice. A worker finds out whether the
effect is called for, calls it, and sends the desk a result, which may get lost. The receipt of a
job that could not be queued, or whose worker did not get as far as the effect, may allow the job to
be given again; all others do not.

What a desk does with receipts and results is left open (`Desk`), up to a few laws (`Desk.Lawful`).
Two sums say everything about a key. Its *load* is the number of jobs queued or worked on and of
results on their way, and is at most one, and zero unless the receipt waits for a result. Its
*chances* are the effects that happened and everything that may still lead to one; they never grow.

## Main results

* `Inv.step` — load and chances are at most one for every key
* `step_final` — a receipt that neither waits nor allows the job again stays
* `Held.step` — a receipt that waits, waits for something, as long as no result gets lost
-/

namespace GameServiceRuntime.Jobs

/-- What a desk is for: `κ` are keys, `τ` jobs, `ρ` receipts, `μ` results, `ι` what a worker finds
out before the effect, `ο` how the effect ends, `θ` times. -/
structure Desk (κ τ ρ μ ι ο θ : Type*) where
  key : τ → κ
  /-- The job is the one given before under the same key. -/
  same : τ → τ → Bool
  /-- The receipts of a job that was queued, that found the queue full, that found the pool
  closed. -/
  queued : τ → θ → ρ
  full : τ → θ → ρ
  refused : τ → θ → ρ
  /-- The job may be given again. -/
  retry : ρ → Bool
  /-- The result of the job is to come. -/
  waiting : ρ → Bool
  resultKey : μ → κ
  /-- The result is well formed and for the job. -/
  accepts : τ → μ → Bool
  record : ρ → μ → θ → ρ
  /-- The job may be given again after the result. -/
  again : μ → Bool
  /-- What a worker sends instead of calling the effect, if it does not call it. -/
  prepare : τ → ι → Option μ
  /-- What a worker sends after the effect. -/
  finish : τ → ο → μ
  /-- What a worker sends of a job that it does not begin. -/
  cancel : τ → μ

/-- What is asked of a desk. -/
structure Desk.Lawful {κ τ ρ μ ι ο θ : Type*} (d : Desk κ τ ρ μ ι ο θ) : Prop where
  retry_of_waiting : ∀ receipt, d.waiting receipt = true → d.retry receipt = false
  waiting_queued : ∀ job now, d.waiting (d.queued job now) = true
  again_of_retry : ∀ receipt result now, d.retry (d.record receipt result now) = true →
    d.again result = true
  again_finish : ∀ job outcome, d.again (d.finish job outcome) = false
  key_prepare : ∀ job found result, d.prepare job found = some result →
    d.resultKey result = d.key job
  key_finish : ∀ job outcome, d.resultKey (d.finish job outcome) = d.key job
  key_cancel : ∀ job, d.resultKey (d.cancel job) = d.key job

/-- The desk's receipts, the pool, and what was sent. -/
structure State (κ τ ρ μ : Type*) where
  records : Table κ (τ × ρ) := ∅
  queue : List τ := []
  closed : Bool := false
  /-- The jobs that were taken out of the queue. -/
  begun : List τ := []
  /-- The jobs whose effect was called and has not ended. -/
  acting : List τ := []
  /-- The results on their way. -/
  sent : List μ := []
  /-- The jobs whose effect was called, the last one first. -/
  calls : List τ := []

/-- What can happen. -/
inductive Action (τ μ ι ο θ : Type*)
  | give (job : τ) (now : θ)
  | take
  | cancel (job : τ)
  | prepare (job : τ) (found : ι)
  | finish (job : τ) (outcome : ο)
  | deliver (result : μ) (now : θ)
  | lose (result : μ)
  | close

section Machine

variable {κ τ ρ μ ι ο θ : Type*} [DecidableEq κ]

/-- A job is put in the queue if there is room. -/
def submit (d : Desk κ τ ρ μ ι ο θ) (capacity : ℕ) (s : State κ τ ρ μ) (job : τ) (now : θ) :
    State κ τ ρ μ × ρ :=
  if s.closed then
    let receipt := d.refused job now
    ({ s with records := s.records.insert (d.key job) (job, receipt) }, receipt)
  else if s.queue.length < capacity then
    let receipt := d.queued job now
    ({ s with
      records := s.records.insert (d.key job) (job, receipt)
      queue := s.queue ++ [job] }, receipt)
  else
    let receipt := d.full job now
    ({ s with records := s.records.insert (d.key job) (job, receipt) }, receipt)

/-- A job is given to the desk: `none` if another job has its key. -/
def give (d : Desk κ τ ρ μ ι ο θ) (capacity : ℕ) (s : State κ τ ρ μ) (job : τ) (now : θ) :
    State κ τ ρ μ × Option ρ :=
  match s.records.lookup (d.key job) with
  | some (old, receipt) =>
    if !d.same old job then (s, none)
    else if !d.retry receipt then (s, some receipt)
    else (submit d capacity s job now).map id some
  | none => (submit d capacity s job now).map id some

/-- A result reaches the desk: `false` if it is not one that is waited for. -/
def deliver (d : Desk κ τ ρ μ ι ο θ) (s : State κ τ ρ μ) (result : μ) (now : θ) :
    State κ τ ρ μ × Bool :=
  match s.records.lookup (d.resultKey result) with
  | some (job, receipt) =>
    if d.waiting receipt && d.accepts job result then
      ({ s with
        records := s.records.insert (d.resultKey result) (job, d.record receipt result now) }, true)
    else (s, false)
  | none => (s, false)

/-- The effect of what happens, if it can. -/
def step [DecidableEq τ] [DecidableEq μ] (d : Desk κ τ ρ μ ι ο θ) (capacity : ℕ)
    (s : State κ τ ρ μ) : Action τ μ ι ο θ → Option (State κ τ ρ μ)
  | .give job now => some (give d capacity s job now).1
  | .take =>
    match s.queue with
    | [] => none
    | job :: queue =>
      some
        { s with
          queue := queue
          begun := job :: s.begun }
  | .cancel job =>
    if s.closed && job ∈ s.begun then
      some
        { s with
          begun := s.begun.erase job
          sent := d.cancel job :: s.sent }
    else none
  | .prepare job found =>
    if job ∈ s.begun then
      match d.prepare job found with
      | some result =>
        some
          { s with
            begun := s.begun.erase job
            sent := result :: s.sent }
      | none =>
        some
          { s with
            begun := s.begun.erase job
            acting := job :: s.acting
            calls := job :: s.calls }
    else none
  | .finish job outcome =>
    if job ∈ s.acting then
      some
        { s with
          acting := s.acting.erase job
          sent := d.finish job outcome :: s.sent }
    else none
  | .deliver result now =>
    if result ∈ s.sent then
      some { (deliver d s result now).1 with sent := s.sent.erase result }
    else none
  | .lose result => if result ∈ s.sent then some { s with sent := s.sent.erase result } else none
  | .close => some { s with closed := true }

/-! ### What a step does -/

/-- The receipt of the key waits for a result. -/
def State.waitingAt (d : Desk κ τ ρ μ ι ο θ) (s : State κ τ ρ μ) (k : κ) : Bool :=
  (s.records.lookup k).any fun record => d.waiting record.2

/-- A job of the key would be queued. -/
def State.openAt (d : Desk κ τ ρ μ ι ο θ) (s : State κ τ ρ μ) (k : κ) : Bool :=
  (s.records.lookup k).all fun record => d.retry record.2

/-- What a worker sends of a job. -/
inductive Answers (d : Desk κ τ ρ μ ι ο θ) (job : τ) : μ → Prop
  | cancel : Answers d job (d.cancel job)
  | prepare {found : ι} {result : μ} (h : d.prepare job found = some result) : Answers d job result
  | finish (outcome : ο) : Answers d job (d.finish job outcome)

/-- What a step does. -/
inductive Moved (d : Desk κ τ ρ μ ι ο θ) [DecidableEq τ] [DecidableEq μ] (s : State κ τ ρ μ) :
    Action τ μ ι ο θ → State κ τ ρ μ → Prop
  /-- The job is known, or is another one than was given under its key. -/
  | kept {job : τ} {now : θ} : Moved d s (.give job now) s
  /-- There is no place for the job. -/
  | noted {job : τ} {now : θ} {receipt : ρ} (hopen : s.openAt d (d.key job) = true)
      (hreceipt : receipt = d.full job now ∨ receipt = d.refused job now) :
      Moved d s (.give job now) { s with records := s.records.insert (d.key job) (job, receipt) }
  | queued {job : τ} {now : θ} (hopen : s.openAt d (d.key job) = true) :
      Moved d s (.give job now)
        { s with
          records := s.records.insert (d.key job) (job, d.queued job now)
          queue := s.queue ++ [job] }
  | taken {job : τ} {queue : List τ} (hqueue : s.queue = job :: queue) :
      Moved d s .take { s with queue := queue, begun := job :: s.begun }
  | answered {a : Action τ μ ι ο θ} {job : τ} {result : μ} (hjob : job ∈ s.begun)
      (hanswers : Answers d job result) :
      Moved d s a { s with begun := s.begun.erase job, sent := result :: s.sent }
  | called {job : τ} {found : ι} (hjob : job ∈ s.begun) (hprepare : d.prepare job found = none) :
      Moved d s (.prepare job found)
        { s with
          begun := s.begun.erase job
          acting := job :: s.acting
          calls := job :: s.calls }
  | finished {job : τ} {outcome : ο} (hjob : job ∈ s.acting) :
      Moved d s (.finish job outcome)
        { s with acting := s.acting.erase job, sent := d.finish job outcome :: s.sent }
  | recorded {result : μ} {now : θ} {job : τ} {receipt : ρ} (hsent : result ∈ s.sent)
      (hlookup : s.records.lookup (d.resultKey result) = some (job, receipt))
      (hwaiting : d.waiting receipt = true) (haccepts : d.accepts job result = true) :
      Moved d s (.deliver result now)
        { s with
          records := s.records.insert (d.resultKey result) (job, d.record receipt result now)
          sent := s.sent.erase result }
  /-- Nobody waits for the result, or it is not well formed. -/
  | ignored {result : μ} {now : θ} (hsent : result ∈ s.sent)
      (hlookup : ∀ job receipt, s.records.lookup (d.resultKey result) = some (job, receipt) →
        d.waiting receipt = true → d.accepts job result = false) :
      Moved d s (.deliver result now) { s with sent := s.sent.erase result }
  | lost {result : μ} (hsent : result ∈ s.sent) :
      Moved d s (.lose result) { s with sent := s.sent.erase result }
  | closed : Moved d s .close { s with closed := true }

section Moves

omit [DecidableEq κ] in
theorem Answers.key {d : Desk κ τ ρ μ ι ο θ} {job : τ} {result : μ} (h : Answers d job result)
    (hd : d.Lawful) : d.resultKey result = d.key job := by
  cases h with
  | cancel => exact hd.key_cancel job
  | prepare h => exact hd.key_prepare job _ result h
  | finish outcome => exact hd.key_finish job outcome

variable [DecidableEq τ] [DecidableEq μ] {d : Desk κ τ ρ μ ι ο θ} {capacity : ℕ}
  {s s' : State κ τ ρ μ} {a : Action τ μ ι ο θ} {job : τ} {now : θ}

theorem submit_moved (hopen : s.openAt d (d.key job) = true) :
    Moved d s (.give job now) (submit d capacity s job now).1 := by
  rw [submit]
  split
  · exact .noted hopen (.inr rfl)
  split
  · exact .queued hopen
  · exact .noted hopen (.inl rfl)

theorem give_moved : Moved d s (.give job now) (give d capacity s job now).1 := by
  rw [give]
  cases hlookup : s.records.lookup (d.key job) with
  | none => exact submit_moved (by rw [State.openAt, hlookup]; rfl)
  | some record =>
    obtain ⟨old, receipt⟩ := record
    simp only
    split
    · exact .kept
    split
    · exact .kept
    next hretry =>
      refine submit_moved ?_
      rw [State.openAt, hlookup]
      simpa using hretry

theorem deliver_moved {result : μ} (hsent : result ∈ s.sent) : Moved d s (.deliver result now)
    { (deliver d s result now).1 with sent := s.sent.erase result } := by
  rw [deliver]
  cases hlookup : s.records.lookup (d.resultKey result) with
  | none => exact .ignored hsent (by simp [hlookup])
  | some record =>
    obtain ⟨job, receipt⟩ := record
    simp only
    split
    next hboth =>
      rw [Bool.and_eq_true] at hboth
      exact .recorded hsent hlookup hboth.1 hboth.2
    next hnot =>
      refine .ignored hsent fun job' receipt' hlookup' hwaiting => ?_
      cases hlookup.symm.trans hlookup'
      rw [hwaiting, Bool.true_and] at hnot
      simpa using hnot

/-- **A step** makes one of the moves. -/
theorem step_moved (h : step d capacity s a = some s') : Moved d s a s' := by
  cases a with
  | give job now =>
    cases h
    exact give_moved
  | take =>
    cases hqueue : s.queue with
    | nil => simp [step, hqueue] at h
    | cons job queue =>
      simp only [step, hqueue, Option.some.injEq] at h
      cases h
      exact .taken hqueue
  | cancel job =>
    rw [step, Option.ite_none_right_eq_some, Bool.and_eq_true] at h
    obtain ⟨⟨-, hjob⟩, hs⟩ := h
    cases hs
    exact .answered (of_decide_eq_true hjob) .cancel
  | prepare job found =>
    rw [step, Option.ite_none_right_eq_some] at h
    obtain ⟨hjob, hs⟩ := h
    cases hprepare : d.prepare job found with
    | none =>
      rw [hprepare] at hs
      cases hs
      exact .called hjob hprepare
    | some result =>
      rw [hprepare] at hs
      cases hs
      exact .answered hjob (.prepare hprepare)
  | finish job outcome =>
    rw [step, Option.ite_none_right_eq_some] at h
    obtain ⟨hjob, hs⟩ := h
    cases hs
    exact .finished hjob
  | deliver result now =>
    rw [step, Option.ite_none_right_eq_some] at h
    obtain ⟨hsent, hs⟩ := h
    cases hs
    exact deliver_moved hsent
  | lose result =>
    rw [step, Option.ite_none_right_eq_some] at h
    obtain ⟨hsent, hs⟩ := h
    cases hs
    exact .lost hsent
  | close =>
    cases h
    exact .closed

/-- The effect is called in one place: a worker found that it is called for. -/
theorem step_calls (h : step d capacity s a = some s') :
    s'.calls = s.calls ∨ ∃ job found, a = .prepare job found ∧ d.prepare job found = none ∧
      s'.calls = job :: s.calls := by
  cases step_moved h with
  | called _ hprepare => exact .inr ⟨_, _, rfl, hprepare, rfl⟩
  | _ => exact .inl rfl

end Moves

/-! ### Load and chances -/

/-- The jobs of the key that are queued or worked on. -/
def State.jobs (d : Desk κ τ ρ μ ι ο θ) (s : State κ τ ρ μ) (k : κ) : ℕ :=
  (s.queue.countP fun job => d.key job = k) + (s.begun.countP fun job => d.key job = k) +
    s.acting.countP fun job => d.key job = k

/-- The jobs of the key, and the results of the key on their way. -/
def State.load (d : Desk κ τ ρ μ ι ο θ) (s : State κ τ ρ μ) (k : κ) : ℕ :=
  s.jobs d k + s.sent.countP fun result => d.resultKey result = k

/-- The effects of the key that happened. -/
def State.effects (d : Desk κ τ ρ μ ι ο θ) (s : State κ τ ρ μ) (k : κ) : ℕ :=
  s.calls.countP fun job => d.key job = k

/-- The effects of the key that happened, and what may lead to another one. -/
def State.chances (d : Desk κ τ ρ μ ι ο θ) (s : State κ τ ρ μ) (k : κ) : ℕ :=
  s.effects d k + (s.queue.countP fun job => d.key job = k) +
    (s.begun.countP fun job => d.key job = k) +
    (s.sent.countP fun result => d.resultKey result = k && d.again result) + (s.openAt d k).toNat

/-- **Load and chances are at most one.** -/
structure Inv (d : Desk κ τ ρ μ ι ο θ) (s : State κ τ ρ μ) : Prop where
  load : ∀ k, s.load d k ≤ (s.waitingAt d k).toNat
  chances : ∀ k, s.chances d k ≤ 1

variable {d : Desk κ τ ρ μ ι ο θ} {capacity : ℕ} {s s' : State κ τ ρ μ}

theorem Inv.jobs_le_one (h : Inv d s) (k : κ) : s.jobs d k ≤ 1 := by
  have hload := h.load k
  have hwaiting := Bool.toNat_le (s.waitingAt d k)
  rw [State.load] at hload
  omega

theorem Inv.effects_le_one (h : Inv d s) (k : κ) : s.effects d k ≤ 1 := by
  have hchances := h.chances k
  rw [State.chances] at hchances
  omega

omit [DecidableEq κ] in
/-- What taking an element out of a list leaves to count. -/
theorem countP_erase_add [DecidableEq τ] {l : List τ} {x : τ} (hx : x ∈ l) (p : τ → Bool) :
    (l.erase x).countP p + (p x).toNat = l.countP p := by
  rw [(List.perm_cons_erase hx).countP_eq, List.countP_cons]
  cases p x <;> rfl

omit [DecidableEq κ] in
theorem countP_cons_toNat (l : List τ) (x : τ) (p : τ → Bool) :
    (x :: l).countP p = l.countP p + (p x).toNat := by
  rw [List.countP_cons]
  cases p x <;> rfl

variable {k : κ}

theorem waitingAt_of_openAt (hd : d.Lawful) (hopen : s.openAt d k = true) :
    s.waitingAt d k = false := by
  rw [State.openAt] at hopen
  rw [State.waitingAt]
  cases hlookup : s.records.lookup k with
  | none => rfl
  | some record =>
    rw [hlookup, Option.all_some] at hopen
    rw [Option.any_some, Bool.eq_false_iff]
    intro hwaiting
    rw [hd.retry_of_waiting _ hwaiting] at hopen
    cases hopen

/-- What is left to happen and the receipts, apart from the part that the receipts play. -/
def State.rest (d : Desk κ τ ρ μ ι ο θ) (s : State κ τ ρ μ) (k : κ) : ℕ :=
  s.effects d k + (s.queue.countP fun job => d.key job = k) +
    (s.begun.countP fun job => d.key job = k) +
    s.sent.countP fun result => d.resultKey result = k && d.again result

theorem chances_eq (s : State κ τ ρ μ) (k : κ) :
    s.chances d k = s.rest d k + (s.openAt d k).toNat := rfl

/-- Nothing is under way where the job may be given again. -/
theorem Inv.idle (hd : d.Lawful) (h : Inv d s) (hopen : s.openAt d k = true) :
    s.load d k = 0 ∧ s.rest d k = 0 := by
  have hload := h.load k
  have hchances := h.chances k
  rw [waitingAt_of_openAt hd hopen, Bool.toNat_false] at hload
  rw [chances_eq, hopen, Bool.toNat_true] at hchances
  omega

/-- A receipt is written: nothing is added to what is under way for the other keys, and what is for
this one is no more than the receipt says. -/
theorem Inv.insert (h : Inv d s) {record : τ × ρ}
    (hrecords : s'.records = s.records.insert k record)
    (hload : ∀ j, j ≠ k → s'.load d j ≤ s.load d j) (hrest : ∀ j, j ≠ k → s'.rest d j ≤ s.rest d j)
    (hload_self : s'.load d k ≤ (d.waiting record.2).toNat)
    (hrest_self : s'.rest d k + (d.retry record.2).toNat ≤ 1) : Inv d s' := by
  refine ⟨fun j => ?_, fun j => ?_⟩
  · by_cases hj : j = k
    · subst hj
      rwa [State.waitingAt, hrecords, AList.lookup_insert]
    · rw [State.waitingAt, hrecords, AList.lookup_insert_ne hj]
      exact (hload j hj).trans (h.load j)
  · rw [chances_eq, State.openAt, hrecords]
    by_cases hj : j = k
    · subst hj
      rwa [AList.lookup_insert]
    · rw [AList.lookup_insert_ne hj]
      exact (Nat.add_le_add_right (hrest j hj) _).trans (h.chances j)

variable {job : τ} {now : θ}

/-- A receipt is written where the job may be given again. -/
theorem Inv.note (hd : d.Lawful) (h : Inv d s) (hopen : s.openAt d k = true) (record : τ × ρ) :
    Inv d { s with records := s.records.insert k record } := by
  obtain ⟨hload, hrest⟩ := h.idle hd hopen
  refine h.insert rfl (fun j _ => Nat.le_refl _) (fun j _ => Nat.le_refl _) ?_ ?_
  · exact hload.le.trans (Nat.zero_le _)
  · have hretry := Bool.toNat_le (d.retry record.2)
    show s.rest d k + _ ≤ 1
    omega

/-- **A job is put in the queue**, if nothing is known of its key but that it may be given again. -/
theorem Inv.queued (hd : d.Lawful) (h : Inv d s) (hopen : s.openAt d (d.key job) = true) :
    Inv d
      { s with
        records := s.records.insert (d.key job) (job, d.queued job now)
        queue := s.queue ++ [job] } := by
  -- the load was zero, and the chance to be given becomes that of the queued job
  obtain ⟨hload, hrest⟩ := h.idle hd hopen
  have hwaiting := hd.waiting_queued job now
  have hretry := hd.retry_of_waiting _ hwaiting
  refine h.insert rfl (fun j hj => ?_) (fun j hj => ?_) ?_ ?_
  · simp [State.load, State.jobs, Ne.symm hj]
  · simp [State.rest, State.effects, Ne.symm hj]
  · simp only [State.load, State.jobs, List.countP_append, List.countP_singleton] at hload ⊢
    simp only [decide_true, if_true, hwaiting, Bool.toNat_true]
    omega
  · simp only [State.rest, State.effects, List.countP_append, List.countP_singleton] at hrest ⊢
    simp only [decide_true, if_true, hretry, Bool.toNat_false]
    omega

/-- Nothing is added to what is under way, and the receipts stay. -/
theorem Inv.of_le (h : Inv d s) (hrecords : s'.records = s.records)
    (hload : ∀ k, s'.load d k ≤ s.load d k) (hrest : ∀ k, s'.rest d k ≤ s.rest d k) : Inv d s' where
  load k := by
    rw [State.waitingAt, hrecords]
    exact (hload k).trans (h.load k)
  chances k := by
    have hchances := h.chances k
    rw [chances_eq] at hchances ⊢
    have hopen : s'.openAt d k = s.openAt d k := by rw [State.openAt, hrecords, State.openAt]
    rw [hopen]
    exact (Nat.add_le_add_right (hrest k) _).trans hchances

variable {result : μ}

/-- A worker sends a result for a job it had begun. -/
theorem Inv.answer [DecidableEq τ] (h : Inv d s) (hjob : job ∈ s.begun)
    (hkey : d.resultKey result = d.key job) :
    Inv d
      { s with
        begun := s.begun.erase job
        sent := result :: s.sent } := by
  refine h.of_le rfl (fun k => ?_) fun k => ?_
  · have herase := countP_erase_add hjob fun job => d.key job = k
    simp only [State.load, State.jobs, countP_cons_toNat, hkey]
    omega
  · have herase := countP_erase_add hjob fun job => d.key job = k
    have hagain : (decide (d.key job = k) && d.again result).toNat ≤
        (decide (d.key job = k)).toNat := by
      cases decide (d.key job = k) <;> cases d.again result <;> decide
    simp only [State.rest, State.effects, countP_cons_toNat, hkey]
    omega

theorem Inv.call [DecidableEq τ] (h : Inv d s) (hjob : job ∈ s.begun) :
    Inv d
      { s with
        begun := s.begun.erase job
        acting := job :: s.acting
        calls := job :: s.calls } := by
  refine h.of_le rfl (fun k => ?_) fun k => ?_
  · have herase := countP_erase_add hjob fun job => d.key job = k
    simp only [State.load, State.jobs, countP_cons_toNat]
    omega
  · have herase := countP_erase_add hjob fun job => d.key job = k
    simp only [State.rest, State.effects, countP_cons_toNat]
    omega

/-- The effect ends, and its result is no reason to give the job again. -/
theorem Inv.finish [DecidableEq τ] (hd : d.Lawful) (h : Inv d s) (hjob : job ∈ s.acting)
    (outcome : ο) : Inv d
      { s with
        acting := s.acting.erase job
        sent := d.finish job outcome :: s.sent } := by
  refine h.of_le rfl (fun k => ?_) fun k => ?_
  · have herase := countP_erase_add hjob fun job => d.key job = k
    simp only [State.load, State.jobs, countP_cons_toNat, hd.key_finish]
    omega
  · simp only [State.rest, State.effects, countP_cons_toNat, hd.again_finish, Bool.and_false,
      Bool.toNat_false, Nat.add_zero, Nat.le_refl]

theorem load_erase_le [DecidableEq μ] (hsent : result ∈ s.sent) (k : κ) :
    { s with sent := s.sent.erase result : State κ τ ρ μ }.load d k ≤ s.load d k := by
  have herase := countP_erase_add hsent fun result => d.resultKey result = k
  simp only [State.load, State.jobs]
  omega

theorem rest_erase_le [DecidableEq μ] (hsent : result ∈ s.sent) (k : κ) :
    { s with sent := s.sent.erase result : State κ τ ρ μ }.rest d k ≤ s.rest d k := by
  have herase := countP_erase_add hsent fun result => d.resultKey result = k && d.again result
  simp only [State.rest, State.effects]
  omega

/-- A result that is on its way and waited for reaches the desk. -/
theorem Inv.record [DecidableEq μ] (hd : d.Lawful) (h : Inv d s) {receipt : ρ}
    (hsent : result ∈ s.sent) :
    Inv d
      { s with
        records := s.records.insert (d.resultKey result) (job, d.record receipt result now)
        sent := s.sent.erase result } := by
  -- the result was all the load there was
  have hone := h.load (d.resultKey result)
  have hnone := countP_erase_add hsent fun other => d.resultKey other = d.resultKey result
  have hleast := Bool.toNat_le (s.waitingAt d (d.resultKey result))
  -- and all the chances, if it is a reason to give the job again
  have hchance := h.chances (d.resultKey result)
  have hagain := countP_erase_add hsent
    fun other => d.resultKey other = d.resultKey result && d.again other
  have hretry : (d.retry (d.record receipt result now)).toNat ≤ (d.again result).toNat := by
    cases hr : d.retry (d.record receipt result now) with
    | false => exact Nat.zero_le _
    | true => rw [hd.again_of_retry _ _ _ hr]
  refine h.insert rfl (fun j _ => load_erase_le hsent j) (fun j _ => rest_erase_le hsent j) ?_ ?_
  · simp only [State.load, State.jobs, decide_true, Bool.toNat_true] at hone hnone ⊢
    omega
  · rw [chances_eq] at hchance
    simp only [State.rest, State.effects, decide_true, Bool.true_and] at hchance hagain ⊢
    omega

/-- **A step keeps load and chances at most one.** -/
theorem Inv.step [DecidableEq τ] [DecidableEq μ] (hd : d.Lawful) (h : Inv d s)
    (hstep : Jobs.step d capacity s a = some s') : Inv d s' := by
  cases step_moved hstep with
  | kept => exact h
  | noted hopen => exact h.note hd hopen _
  | queued hopen => exact h.queued hd hopen
  | taken hqueue =>
    refine h.of_le rfl (fun k => ?_) fun k => ?_
    · simp only [State.load, State.jobs, hqueue, countP_cons_toNat]
      omega
    · simp only [State.rest, State.effects, hqueue, countP_cons_toNat]
      omega
  | answered hjob hanswers => exact h.answer hjob (hanswers.key hd)
  | called hjob => exact h.call hjob
  | finished hjob => exact h.finish hd hjob _
  | recorded hsent => exact h.record hd hsent
  | ignored hsent | lost hsent => exact h.of_le rfl (load_erase_le hsent) (rest_erase_le hsent)
  | closed => exact h.of_le rfl (fun _ => Nat.le_refl _) fun _ => Nat.le_refl _

theorem inv_init : Inv d {} :=
  ⟨fun _ => Nat.le_refl _, fun _ => Nat.le_refl _⟩

/-! ### Receipts that stay -/

/-- The desk is done with the key. -/
def State.finalAt (d : Desk κ τ ρ μ ι ο θ) (s : State κ τ ρ μ) (k : κ) (record : τ × ρ) : Prop :=
  s.records.lookup k = some record ∧ d.waiting record.2 = false ∧ d.retry record.2 = false

/-- **A receipt that neither waits nor allows the job again stays.** -/
theorem step_final [DecidableEq τ] [DecidableEq μ] {record : τ × ρ}
    (h : s.finalAt d k record) (hstep : step d capacity s a = some s') : s'.finalAt d k record := by
  obtain ⟨hlookup, hwaiting, hretry⟩ := h
  refine ⟨?_, hwaiting, hretry⟩
  have hopen : ∀ {job : τ}, s.openAt d (d.key job) = true → k ≠ d.key job := by
    rintro job hopen rfl
    rw [State.openAt, hlookup, Option.all_some, hretry] at hopen
    cases hopen
  cases step_moved hstep with
  | noted hopen' | queued hopen' => exact (AList.lookup_insert_ne (hopen hopen')).trans hlookup
  | recorded _ hfound hwaiting' =>
    refine (AList.lookup_insert_ne ?_).trans hlookup
    rintro rfl
    rw [hlookup] at hfound
    cases hfound
    rw [hwaiting] at hwaiting'
    cases hwaiting'
  | _ => exact hlookup

/-! ### Receipts that wait -/

/-- What is asked of a desk whose jobs have `J`, so that a receipt does not wait for nothing. -/
structure Desk.Prompt (d : Desk κ τ ρ μ ι ο θ) (J : τ → Prop) : Prop where
  waiting_full : ∀ job now, d.waiting (d.full job now) = false
  waiting_refused : ∀ job now, d.waiting (d.refused job now) = false
  accepts_answer : ∀ job result, J job → Answers d job result → d.accepts job result = true
  waiting_record : ∀ job receipt result now, d.accepts job result = true →
    d.waiting (d.record receipt result now) = false

/-- The job is queued or worked on, or its result is on its way. -/
def State.Has (d : Desk κ τ ρ μ ι ο θ) (s : State κ τ ρ μ) (job : τ) : Prop :=
  job ∈ s.queue ∨ job ∈ s.begun ∨ job ∈ s.acting ∨ ∃ result ∈ s.sent, Answers d job result

/-- **A receipt that waits, waits for something.** -/
def Held (d : Desk κ τ ρ μ ι ο θ) (J : τ → Prop) (s : State κ τ ρ μ) : Prop :=
  ∀ k record, s.records.lookup k = some record → d.waiting record.2 = true →
    J record.1 ∧ d.key record.1 = k ∧ s.Has d record.1

section Held

variable {J : τ → Prop}

theorem held_init : Held d J ({} : State κ τ ρ μ) := nofun

theorem Held.of_has (h : Held d J s) (hrecords : s'.records = s.records)
    (hhas : ∀ job, s.Has d job → s'.Has d job) : Held d J s' := by
  intro k record hlookup hwaiting
  rw [hrecords] at hlookup
  obtain ⟨hjob, hkey, hhad⟩ := h k record hlookup hwaiting
  exact ⟨hjob, hkey, hhas _ hhad⟩

theorem Held.insert (h : Held d J s) {k : κ} {record : τ × ρ}
    (hrecords : s'.records = s.records.insert k record)
    (hhas : ∀ job, d.key job ≠ k → s.Has d job → s'.Has d job)
    (hrecord : d.waiting record.2 = true → J record.1 ∧ d.key record.1 = k ∧ s'.Has d record.1) :
    Held d J s' := by
  intro j other hlookup hwaiting
  rw [hrecords, Table.lookup_insert_ite] at hlookup
  split at hlookup
  next hj =>
    cases hlookup
    exact hj ▸ hrecord hwaiting
  next hj =>
    obtain ⟨hjob, hkey, hhad⟩ := h j other hlookup hwaiting
    exact ⟨hjob, hkey, hhas _ (hkey.trans_ne hj) hhad⟩

omit [DecidableEq κ] in
/-- A result of another job is no longer on its way. -/
theorem State.Has.erase [DecidableEq μ] (h : s.Has d job) (hother : ¬Answers d job result) :
    { s with sent := s.sent.erase result : State κ τ ρ μ }.Has d job := by
  refine h.imp_right (Or.imp_right (Or.imp_right ?_))
  rintro ⟨result', hresult', hanswers⟩
  refine ⟨result', (List.mem_erase_of_ne ?_).2 hresult', hanswers⟩
  rintro rfl
  exact hother hanswers

/-- **A step keeps it**, unless a result gets lost. -/
theorem Held.step [DecidableEq τ] [DecidableEq μ] (hd : d.Lawful) (hp : d.Prompt J) (h : Held d J s)
    {a : Action τ μ ι ο θ} (hgive : ∀ job now, a = .give job now → J job)
    (hlose : ∀ result, a = .lose result → ∀ job, ¬J job)
    (hstep : Jobs.step d capacity s a = some s') : Held d J s' := by
  cases step_moved hstep with
  | kept => exact h
  | noted hopen hreceipt =>
    refine h.insert rfl (fun _ _ hhas => hhas) fun hwaiting => ?_
    rcases hreceipt with rfl | rfl
    · rw [hp.waiting_full] at hwaiting
      cases hwaiting
    · rw [hp.waiting_refused] at hwaiting
      cases hwaiting
  | @queued job =>
    refine h.insert rfl (fun other _ hhas => ?_) fun _ => ⟨hgive _ _ rfl, rfl, .inl (by simp)⟩
    exact hhas.imp_left fun hqueue => List.mem_append_left _ hqueue
  | @taken job queue hqueue =>
    refine h.of_has rfl fun other hhas => ?_
    rcases hhas with hother | hother | hrest
    · rcases List.mem_cons.1 (hqueue ▸ hother) with rfl | hother
      · exact .inr (.inl List.mem_cons_self)
      · exact .inl hother
    · exact .inr (.inl (List.mem_cons_of_mem _ hother))
    · exact .inr (.inr hrest)
  | @answered _ job result hjob hanswers =>
    refine h.of_has rfl fun other hhas => ?_
    rcases hhas with hother | hother | hother | ⟨result', hresult', hanswers'⟩
    · exact .inl hother
    · by_cases heq : other = job
      · exact .inr (.inr (.inr ⟨result, List.mem_cons_self, heq ▸ hanswers⟩))
      · exact .inr (.inl ((List.mem_erase_of_ne heq).2 hother))
    · exact .inr (.inr (.inl hother))
    · exact .inr (.inr (.inr ⟨result', List.mem_cons_of_mem _ hresult', hanswers'⟩))
  | @called job _ hjob =>
    refine h.of_has rfl fun other hhas => ?_
    rcases hhas with hother | hother | hother | hrest
    · exact .inl hother
    · by_cases heq : other = job
      · exact .inr (.inr (.inl (heq ▸ List.mem_cons_self)))
      · exact .inr (.inl ((List.mem_erase_of_ne heq).2 hother))
    · exact .inr (.inr (.inl (List.mem_cons_of_mem _ hother)))
    · exact .inr (.inr (.inr hrest))
  | @finished job outcome hjob =>
    refine h.of_has rfl fun other hhas => ?_
    rcases hhas with hother | hother | hother | ⟨result', hresult', hanswers'⟩
    · exact .inl hother
    · exact .inr (.inl hother)
    · by_cases heq : other = job
      · exact .inr (.inr (.inr ⟨_, List.mem_cons_self, heq ▸ .finish outcome⟩))
      · exact .inr (.inr (.inl ((List.mem_erase_of_ne heq).2 hother)))
    · exact .inr (.inr (.inr ⟨result', List.mem_cons_of_mem _ hresult', hanswers'⟩))
  | @recorded result now job receipt _ _ _ haccepts =>
    refine h.insert rfl (fun other hother hhas => hhas.erase fun hanswers => ?_) fun hwaiting => ?_
    · exact hother (hanswers.key hd).symm
    · rw [hp.waiting_record _ _ _ _ haccepts] at hwaiting
      cases hwaiting
  | @ignored result now hsent hlookup =>
    intro k record hrecord hwaiting
    obtain ⟨hjob, hkey, hhas⟩ := h k record hrecord hwaiting
    refine ⟨hjob, hkey, hhas.erase fun hanswers => ?_⟩
    rw [← hkey, ← hanswers.key hd] at hrecord
    have hrefused := hlookup record.1 record.2 hrecord hwaiting
    rw [hp.accepts_answer _ _ hjob hanswers] at hrefused
    cases hrefused
  | lost =>
    intro k record hrecord hwaiting
    exact absurd (h k record hrecord hwaiting).1 (hlose _ rfl _)
  | closed => exact h

/-- What a receipt waits for settles it when it arrives. -/
theorem Held.attended (hd : d.Lawful) (hp : d.Prompt J) (h : Held d J s) {receipt : ρ}
    (hlookup : s.records.lookup k = some (job, receipt)) (hwaiting : d.waiting receipt = true) :
    J job ∧ (job ∈ s.queue ∨ job ∈ s.begun ∨ job ∈ s.acting ∨ ∃ result ∈ s.sent, ∀ now,
      (deliver d s result now).2 = true ∧ ∃ receipt',
        (deliver d s result now).1.records.lookup k = some (job, receipt') ∧
          d.waiting receipt' = false) := by
  obtain ⟨hjob, hkey, hhas⟩ := h k (job, receipt) hlookup hwaiting
  refine ⟨hjob, hhas.imp_right (Or.imp_right (Or.imp_right ?_))⟩
  rintro ⟨result, hsent, hanswers⟩
  refine ⟨result, hsent, fun now => ?_⟩
  have haccepts := hp.accepts_answer job result hjob hanswers
  rw [← hkey, ← hanswers.key hd] at hlookup ⊢
  simp only [deliver, hlookup, hwaiting, haccepts, Bool.and_self, if_true]
  exact ⟨trivial, _, AList.lookup_insert _, hp.waiting_record job receipt result now haccepts⟩

end Held

end Machine

end GameServiceRuntime.Jobs
