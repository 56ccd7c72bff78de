import GameServiceRuntime.Lib.Transition
import GameServiceRuntime.Supervisor.Service

/-!
# The limits of restarting

What a policy promises is a statement about everything that has happened to a key: how many tasks
were submitted for one failed generation, how many restarts were committed within a window, and that
generations and attempts are counted up. The Supervisor keeps little of this in its entry. The
number of restarts is checked when a failure is noticed and the restart is committed later, by a
report or by the failure notice of the new instance, so the bound has to survive in between: while a
recovery is under way, the restarts of the last window are fewer than the policy allows.

Beside the entries the model keeps a book for every key, which no handler reads.
-/

namespace GameServiceRuntime.Supervisor

/-! ### Books -/

/-- What has happened to a key, the last first: the generations that were registered and committed,
the times of the commits, and the tasks that were submitted, with the answers. -/
structure Book where
  generations : List UInt64 := []
  commits : List Time := []
  attempts : List (RecoveryTask × Option Err) := []

/-- The book after a Command. -/
def Book.add (b : Book) (out : Outcome) : Book where
  generations :=
    if out.committed.isSome then out.entry.registration.generation :: b.generations
    else b.generations
  commits := out.committed.toList ++ b.commits
  attempts := out.attempt.toList ++ b.attempts

/-- How many tasks were submitted to replace a generation. -/
def Book.tries (b : Book) (generation : UInt64) : ℕ :=
  b.attempts.countP fun a => a.1.generation = generation + 1

/-- The tasks that were accepted. -/
def Book.tasks (b : Book) : List RecoveryTask :=
  (b.attempts.filter fun a => a.2.isNone).map Prod.fst

/-- How many restarts were committed after a time. -/
def Book.after (b : Book) (t : Time) : ℕ := b.commits.countP fun c => t < c

/-- The entries of a Supervisor, with their books. -/
structure World where
  entries : Entries := ∅
  /-- The last reading of the clock. -/
  now : Time := 0
  books : ServiceKey → Book := fun _ => {}

/-- A Command with the readings of the clock and the Runner's answer to a task. -/
structure Event where
  command : Command
  now : Time
  later : Time
  answer : Option Err := none

/-- The book of a key after a Command: a new one if the Command has registered the key. -/
def World.book (w : World) (key : ServiceKey) (out : Outcome) : Book :=
  match w.entries.lookup key with
  | some _ => (w.books key).add out
  | none => { generations := [out.entry.registration.generation] }

/-- The Supervisor handles a Command. The clock does not go back. -/
def step (self : ServiceRef) (w : World) (ev : Event) : Option World :=
  if w.now ≤ ev.now && ev.now ≤ ev.later then
    match w.entries.handle self ev.answer ev.now ev.later ev.command with
    | .error _ => some { w with now := ev.later }
    | .ok out =>
      some
        { entries := w.entries.insert ev.command.key out.entry
          now := ev.later
          books := Function.update w.books ev.command.key (w.book ev.command.key out) }
  else none

/-- The Supervisor. -/
def system (self : ServiceRef) : System World Event where
  init w := w.entries = ∅
  step := step self

/-! ### The limits -/

/-- The statuses of a recovery that is under way. -/
def ServiceStatus.recovering : ServiceStatus → Bool
  | .backoff | .preparing | .publishing => true
  | _ => false

/-- The limits of an entry's policy. -/
structure Bounded (e : Entry) (b : Book) : Prop where
  attempts : ∀ generation, (b.tries generation : ℤ) ≤ e.registration.policy.maxAttempts
  window : ∀ t, ((b.commits.countP fun c => t - e.registration.policy.window < c ∧ c ≤ t : ℕ) : ℤ) ≤
    e.registration.policy.maxRestarts
  current : b.generations.head? = some e.registration.generation
  length : b.generations.length = b.commits.length + 1
  generations : b.generations.IsChain fun next generation => next.toNat = generation.toNat + 1
  increasing : b.tasks.Pairwise fun task earlier => earlier.attempt < task.attempt

/-- The limits, and the generation that comes next. -/
structure Limits (e : Entry) (b : Book) : Prop extends Bounded e b where
  next : e.status.recovering = true →
    e.activeTask.generation.toNat = e.registration.generation.toNat + 1

/-! ### The entry and its book -/

/-- What holds of the book whatever the status. The restarts that the entry keeps are all those of
the window. -/
structure Sound (now : Time) (e : Entry) (b : Book) : Prop extends Bounded e b where
  below : ∀ generation ∈ b.generations, generation.toNat ≤ e.registration.generation.toNat
  replaced : ∀ a ∈ b.attempts, ∃ generation ∈ b.generations, a.1.generation = generation + 1
  past : ∀ c ∈ b.commits, c ≤ now
  restarts : ∀ t, now ≤ t → e.restarts.countP (fun c => t - e.registration.policy.window < c) =
    b.after (t - e.registration.policy.window)

/-- A failure of the current generation was decided on, and a restart is within the limits. -/
structure Pending (now : Time) (e : Entry) (b : Book) : Prop where
  decided : e.decided = e.registration.generation
  tries : (b.tries e.registration.generation : ℤ) = e.attemptsInFault
  limit : ∀ t, now ≤ t →
    (b.after (t - e.registration.policy.window) : ℤ) < e.registration.policy.maxRestarts

/-- What holds of an entry and its book. -/
structure Kept (now : Time) (e : Entry) (b : Book) : Prop extends Sound now e b where
  pending : e.status.recovering = true → Pending now e b
  active : e.status.recovering = true → e.activeTask.generation = e.registration.generation + 1 ∧
    e.registration.generation + 1 ≠ 0
  fresh : e.status = .running → e.decided ≠ e.registration.generation →
    b.tries e.registration.generation = 0
  counted : e.status ≠ .recoveryFailed → ∀ task ∈ b.tasks, task.attempt ≤ e.nextAttempt

section Generations

theorem toNat_succ {n : UInt64} (h : n + 1 ≠ 0) : (n + 1).toNat = n.toNat + 1 := by
  have hlt := n.toNat_lt
  have hne : (n + 1).toNat ≠ 0 := fun h0 => h (UInt64.toNat_inj.mp h0)
  rw [UInt64.toNat_add] at hne ⊢
  simp only [UInt64.toNat_one] at hne ⊢
  omega

end Generations

section Entry

variable {self : ServiceRef} {answer : Option Err} {now later t : Time} {e : Entry} {b : Book}

/-- The limits, with the next generation as a number. -/
theorem Kept.limits (h : Kept now e b) : Limits e b where
  __ := h.toSound
  next hrecovering := by
    obtain ⟨hactive, hne⟩ := h.active hrecovering
    rw [hactive, toNat_succ hne]

theorem Sound.wait (h : Sound now e b) (hle : now ≤ later) : Sound later e b :=
  { h with
    past := fun c hc => (h.past c hc).trans hle
    restarts := fun t ht => h.restarts t (hle.trans ht) }

theorem Pending.wait (h : Pending now e b) (hle : now ≤ later) : Pending later e b :=
  { h with limit := fun t ht => h.limit t (hle.trans ht) }

theorem Kept.wait (h : Kept now e b) (hle : now ≤ later) : Kept later e b :=
  { h with
    toSound := h.toSound.wait hle
    pending := fun hs => (h.pending hs).wait hle }

/-- Restarts that are dropped do not count any more. -/
theorem countP_dropWhile {p q : Time → Bool} (h : ∀ c, q c = true → p c = false) (l : List Time) :
    (l.dropWhile q).countP p = l.countP p := by
  induction l with
  | nil => rfl
  | cons c l ih =>
    rw [List.dropWhile_cons]
    split_ifs with hc
    · rw [ih, List.countP_cons_of_neg (by simp [h c hc])]
    · rfl

theorem Sound.prune (h : Sound now e b) : Sound now (e.pruneRestarts now) b :=
  { h with
    restarts := fun t ht => by
      refine (countP_dropWhile (fun c hc => ?_) _).trans (h.restarts t ht)
      exact decide_eq_false
        (not_lt.mpr ((of_decide_eq_true hc).trans (Int.sub_le_sub_right ht _))) }

theorem Kept.prune (h : Kept now e b) : Kept now (e.pruneRestarts now) b :=
  { h with
    toSound := h.toSound.prune
    pending := fun hs => { h.pending hs with } }

/-- The Runner takes only tasks that are well formed. -/
theorem valid_of_submit {task : RecoveryTask} (h : submit answer task = none) :
    task.generation ≠ 0 ∧ task.attempt ≠ 0 := by
  simp only [submit] at h
  split_ifs at h with hvalid
  simp only [validRecoveryTask, Bool.and_eq_true, decide_eq_true_eq] at hvalid
  exact ⟨hvalid.1.1.2, hvalid.1.2⟩

theorem Sound.submit (h : Sound now e b) (hp : Pending now e b)
    (hlt : e.attemptsInFault < e.registration.policy.maxAttempts) (task : RecoveryTask)
    (err : Option Err) (htask : task.generation = e.registration.generation + 1)
    (hnext : err = none → ∀ earlier ∈ b.tasks, earlier.attempt < task.attempt) :
    Sound now e { b with attempts := (task, err) :: b.attempts } :=
  { h with
    attempts := fun generation => by
      by_cases hg : generation = e.registration.generation
      · subst hg
        have htries := hp.tries
        simp only [Book.tries, List.countP_cons, htask, decide_true, if_true] at htries ⊢
        omega
      · have hne : task.generation ≠ generation + 1 := by
          rw [htask]
          exact fun heq => hg ((UInt64.add_left_inj 1).mp heq).symm
        simpa [Book.tries, List.countP_cons, hne] using h.attempts generation
    increasing := by
      cases err with
      | some err => simpa [Book.tasks] using h.increasing
      | none => simpa [Book.tasks] using ⟨by simpa [Book.tasks] using hnext rfl, h.increasing⟩
    replaced := by
      intro a ha
      rcases List.mem_cons.mp ha with rfl | ha
      · exact ⟨_, List.mem_of_mem_head? h.current, htask⟩
      · exact h.replaced a ha }

theorem Book.add_of_none (b : Book) {out : Outcome} (h : out.committed = none) :
    b.add out = { b with attempts := out.attempt.toList ++ b.attempts } := by
  simp [Book.add, h]

/-- **A task is scheduled**, or the recovery has failed. -/
theorem Sound.schedule (h : Sound now e b) (hp : Pending now e b)
    (hcounted : ∀ task ∈ b.tasks, task.attempt ≤ e.nextAttempt) :
    Kept now (e.schedule self answer).entry (b.add (e.schedule self answer)) := by
  unfold Entry.schedule
  split_ifs with hmax
  · rw [b.add_of_none rfl]
    exact ⟨{ h with }, nofun, nofun, nofun, fun hne => absurd rfl hne⟩
  · simp only
    have hlt := lt_of_not_ge hmax
    split
    next err _ =>
      rw [b.add_of_none rfl]
      exact ⟨{ h.submit hp hlt (e.nextTask self) (some err) rfl nofun with }, nofun, nofun, nofun,
        fun hne => absurd rfl hne⟩
    next hsubmit =>
      obtain ⟨hgeneration, hattempt⟩ := valid_of_submit hsubmit
      have hnext : ∀ task ∈ b.tasks, task.attempt < e.nextAttempt + 1 := by
        intro task htask
        have hle := UInt64.le_iff_toNat_le.mp (hcounted task htask)
        rw [UInt64.lt_iff_toNat_lt, toNat_succ hattempt]
        omega
      have hsound := h.submit hp hlt (e.nextTask self) none rfl fun _ => hnext
      rw [b.add_of_none rfl]
      refine ⟨{ hsound with }, fun _ => ⟨hp.decided, ?_, hp.limit⟩,
        fun _ => ⟨rfl, hgeneration⟩, nofun, fun _ task htask => ?_⟩
      · have htries := hp.tries
        simp only [Book.tries, Option.toList_some, List.cons_append, List.nil_append,
          List.countP_cons, Entry.nextTask, decide_true, if_true] at htries ⊢
        omega
      · rcases List.mem_cons.mp htask with rfl | hold
        · exact UInt64.le_refl _
        · exact UInt64.le_of_lt (hnext task hold)

/-- **The switch of `handleFailure`**, for a generation that was not decided on before. -/
theorem Kept.decideFailure (h : Kept now e b) (hrun : e.status = .running)
    (hdecided : e.decided = e.registration.generation)
    (htries : b.tries e.registration.generation = 0) :
    Kept now (e.decideFailure self answer now).entry (b.add (e.decideFailure self answer now)) := by
  have hcounted := h.counted (by rw [hrun]; nofun)
  unfold Entry.decideFailure
  split
  · rw [b.add_of_none rfl]
    exact ⟨{ h.toSound with }, nofun, nofun, nofun, fun _ => hcounted⟩
  · rw [b.add_of_none rfl]
    exact ⟨{ h.toSound with }, nofun, nofun, nofun, fun _ => hcounted⟩
  · have hsound := h.toSound.prune
    simp only
    split_ifs with hmax
    · rw [b.add_of_none rfl]
      exact ⟨{ hsound with }, nofun, nofun, nofun, fun _ => hcounted⟩
    · -- the restarts of the window are those the entry has kept
      have hlimit : ∀ t, now ≤ t → (b.after (t - e.registration.policy.window) : ℤ) <
          e.registration.policy.maxRestarts := by
        intro t ht
        have hcount := (hsound.restarts t ht).symm.trans_le List.countP_le_length
        exact lt_of_le_of_lt (Int.ofNat_le.mpr hcount) (lt_of_not_ge hmax)
      refine Sound.schedule { hsound with } ⟨hdecided, ?_, hlimit⟩ hcounted
      exact congrArg Nat.cast htries
  · rw [b.add_of_none rfl]
    exact h

/-- The other checks of `handleFailure`. -/
theorem Kept.failed (h : Kept now e b) (notice : FailureNotice) :
    Kept now (e.failed self answer now notice).entry (b.add (e.failed self answer now notice)) := by
  unfold Entry.failed
  split_ifs with hstale hduplicate
  · rw [b.add_of_none rfl]
    exact h
  · rw [b.add_of_none rfl]
    exact h
  · simp only [ne_eq, Bool.or_eq_true, decide_eq_true_eq, not_or, not_not] at hstale hduplicate
    have htries := h.fresh hduplicate.1 (hstale.2 ▸ hduplicate.2)
    refine Kept.decideFailure ⟨{ h.toSound with }, fun hs => ?_, h.active, fun _ _ => htries,
      h.counted⟩ hduplicate.1 hstale.2 htries
    rw [show _ = ServiceStatus.running from hduplicate.1] at hs
    cases hs

/-- A window that has the new commit in it. Its other commits are among those of the window that
ends with the new one. -/
theorem countP_window {commits : List Time} {c t window : Time} {n : ℤ}
    (hold : (commits.countP (fun x => t - window < x ∧ x ≤ t) : ℤ) ≤ n)
    (hlimit : (commits.countP (fun x => c - window < x) : ℤ) < n) :
    ((c :: commits).countP (fun x => t - window < x ∧ x ≤ t) : ℤ) ≤ n := by
  rw [List.countP_cons]
  split_ifs with hc
  · have hsub : commits.countP (fun x => t - window < x ∧ x ≤ t) ≤
        commits.countP fun x => c - window < x := by
      refine List.countP_mono_left fun x _ hx => decide_eq_true ?_
      exact lt_of_le_of_lt (Int.sub_le_sub_right (of_decide_eq_true hc).2 _)
        (of_decide_eq_true hx).1
    omega
  · exact hold

/-- **A commit** adds its time to the restarts and starts the next generation. -/
theorem Kept.commit (h : Kept now e b) (hpublishing : e.status = .publishing) {c : Time}
    (hc : now ≤ c) (hlater : c ≤ later) (ref : ServiceRef) :
    Kept later (e.commit ref e.activeTask.generation c later)
      { b with generations := e.activeTask.generation :: b.generations, commits :=
        c :: b.commits } := by
  have hrecovering : e.status.recovering = true := by rw [hpublishing]; rfl
  have hp := h.pending hrecovering
  obtain ⟨hactive, hne⟩ := h.active hrecovering
  have hnat : e.activeTask.generation.toNat = e.registration.generation.toNat + 1 := by
    rw [hactive, toNat_succ hne]
  refine Kept.prune (@Kept.wait c later _ _ ?_ hlater)
  refine ⟨{ h.toSound with
    window := fun t => countP_window (h.window t) (hp.limit c hc)
    current := rfl
    length := congrArg (· + 1) h.length
    generations := ?_
    below := ?_
    replaced := fun a ha => ?_
    past := ?_
    restarts := fun t ht => ?_ }, nofun, nofun, fun _ _ => ?_, fun _ => h.counted ?_⟩
  · obtain ⟨rest, hrest⟩ := List.head?_eq_some_iff.mp h.current
    have hchain := h.generations
    dsimp only
    rw [hrest] at hchain ⊢
    exact .cons_cons hnat hchain
  · intro g hg
    rcases List.mem_cons.mp hg with rfl | hg
    · exact le_rfl
    · exact (h.below g hg).trans (by rw [hnat]; omega)
  · obtain ⟨g, hg, heq⟩ := h.replaced a ha
    exact ⟨g, List.mem_cons_of_mem _ hg, heq⟩
  · intro x hx
    rcases List.mem_cons.mp hx with rfl | hx
    · exact le_rfl
    · exact (h.past x hx).trans hc
  · have hold := h.restarts t (hc.trans ht)
    simp only [Book.after, List.countP_append, List.countP_cons, List.countP_nil] at hold ⊢
    omega
  · -- a task for the generation after the new one would be for one that was never current
    refine List.countP_eq_zero.mpr fun a ha hgeneration => ?_
    obtain ⟨g, hg, heq⟩ := h.replaced a ha
    have hsame : g = e.activeTask.generation :=
      (UInt64.add_left_inj 1).mp (heq.symm.trans (of_decide_eq_true hgeneration))
    have hle := h.below g hg
    rw [hsame, hnat] at hle
    omega
  · rw [hpublishing]
    nofun

/-- A failure commits nothing and registers nothing. -/
theorem Entry.failed_spec (self : ServiceRef) (answer : Option Err) (now : Time)
    (notice : FailureNotice) (e : Entry) :
    (e.failed self answer now notice).committed = none ∧
      (e.failed self answer now notice).entry.registration = e.registration := by
  have hschedule : ∀ e : Entry, (e.schedule self answer).committed = none ∧
      (e.schedule self answer).entry.registration = e.registration := by
    intro e
    unfold Entry.schedule
    split_ifs
    · exact ⟨rfl, rfl⟩
    · simp only
      split <;> exact ⟨rfl, rfl⟩
  unfold Entry.failed
  split_ifs
  · exact ⟨rfl, rfl⟩
  · exact ⟨rfl, rfl⟩
  · unfold Entry.decideFailure
    split
    · exact ⟨rfl, rfl⟩
    · exact ⟨rfl, rfl⟩
    · simp only
      split_ifs
      · exact ⟨rfl, rfl⟩
      · exact hschedule _
    · exact ⟨rfl, rfl⟩

/-- **A failure notice**, which may be of the instance that is prepared. -/
theorem Kept.handleFailure (h : Kept t e b) (hnow : t ≤ now) (hlater : now ≤ later)
    (notice : FailureNotice) :
    Kept later (e.handleFailure self answer now later notice).entry
      (b.add (e.handleFailure self answer now later notice)) := by
  unfold Entry.handleFailure
  split_ifs with hadopts
  · simp only [Entry.adopts, Bool.and_eq_true, decide_eq_true_eq] at hadopts
    obtain ⟨⟨hpublishing, -⟩, hgeneration⟩ := hadopts
    rw [hgeneration]
    have hcommit := (h.commit hpublishing hnow le_rfl notice.failedRef).wait hlater
    have hfailed := @Kept.failed self answer _ _ _ hcommit notice
    obtain ⟨hnone, hregistration⟩ := Entry.failed_spec self answer later notice
      (e.commit notice.failedRef e.activeTask.generation now now)
    rw [Book.add_of_none _ hnone] at hfailed
    have hcurrent := (congrArg Registration.generation hregistration).trans
      (rfl : _ = e.activeTask.generation)
    simp only [Book.add, hcurrent]
    exact hfailed
  · exact ((h.wait hnow).failed notice).wait hlater

/-- A report for the active task. -/
theorem Entry.recovering_of_active {source : ServiceRef} {task : RecoveryTask}
    {statuses : List ServiceStatus} (h : e.active self source task statuses = true)
    (hstatuses : ∀ status ∈ statuses, status.recovering = true) :
    e.status.recovering = true ∧ task.generation = e.activeTask.generation := by
  simp only [Entry.active, Bool.and_eq_true, decide_eq_true_eq] at h
  exact ⟨hstatuses _ h.2, by rw [h.1.1.2]⟩

/-- A recovery goes on to its next stage. -/
theorem Kept.stage (h : Kept now e b) (hrecovering : e.status.recovering = true)
    {status : ServiceStatus} (hstatus : status.recovering = true) (ref : ServiceRef) :
    Kept now { e with status := status, preparedRef := ref } b := by
  refine ⟨{ h.toSound with }, fun _ => { h.pending hrecovering with },
    fun _ => h.active hrecovering, fun hrun => ?_, fun _ => h.counted ?_⟩
  · rw [show status = .running from hrun] at hstatus
    cases hstatus
  · intro hfailed
    rw [hfailed] at hrecovering
    cases hrecovering

/-- **Over one Command.** -/
theorem Kept.handle (h : Kept t e b) (hnow : t ≤ now) (hlater : now ≤ later) (c : Command) :
    Kept later (e.handle self answer now later c).entry
      (b.add (e.handle self answer now later c)) := by
  have hkept : ∀ err, Kept later (e.reply err).entry (b.add (e.reply err)) := fun err =>
    h.wait (hnow.trans hlater)
  cases c with
  | register => exact hkept _
  | get => exact (h.wait hnow).prune.wait hlater
  | failure source notice => exact h.handleFailure hnow hlater notice
  | recoveryStarted source task =>
    simp only [Entry.handle, Entry.recoveryStarted]
    split_ifs with hdone hactive
    · exact hkept _
    · have hrecovering :=
        (Entry.recovering_of_active hactive (by simp [ServiceStatus.recovering])).1
      exact (h.wait (hnow.trans hlater)).stage hrecovering rfl e.preparedRef
    · exact hkept _
  | recoveryPrepared source task ref =>
    simp only [Entry.handle, Entry.recoveryPrepared]
    split_ifs with hdone hactive hvalid
    · exact hkept _
    · exact hkept _
    · exact hkept _
    · rw [Bool.not_eq_true', Bool.not_eq_false] at hactive
      have hrecovering :=
        (Entry.recovering_of_active hactive (by simp [ServiceStatus.recovering])).1
      exact (h.wait (hnow.trans hlater)).stage hrecovering rfl ref
  | recoveryCommitted source task ref =>
    simp only [Entry.handle, Entry.recoveryCommitted]
    split_ifs with hdone hactive
    · exact hkept _
    · rw [Bool.and_eq_true] at hactive
      obtain ⟨hrecovering, hgeneration⟩ :=
        Entry.recovering_of_active hactive.1 (by simp [ServiceStatus.recovering])
      have hpublishing : e.status = .publishing := by
        have hmem := hactive.1
        simp only [Entry.active, Bool.and_eq_true, decide_eq_true_eq, List.mem_singleton] at hmem
        exact hmem.2
      rw [hgeneration]
      exact h.commit hpublishing hnow hlater ref
    · exact hkept _
  | recoveryFailed source task failure =>
    simp only [Entry.handle, Entry.recoveryFailed]
    split_ifs with hknown hactive hends
    · exact hkept _
    · exact hkept _
    all_goals
      rw [Bool.not_eq_true', Bool.not_eq_false] at hactive
      have hrecovering :=
        (Entry.recovering_of_active hactive (by simp [ServiceStatus.recovering])).1
      have hwait := h.wait (hnow.trans hlater)
    · exact ⟨{ hwait.toSound with }, nofun, nofun, nofun, fun hne => absurd rfl hne⟩
    · refine Sound.schedule { hwait.toSound with } { hwait.pending hrecovering with } (h.counted ?_)
      intro hfailed
      rw [hfailed] at hrecovering
      cases hrecovering

end Entry

/-! ### Runs -/

section Runs

variable {self : ServiceRef} {w w' : World}

theorem nonneg_of_valid {policy : RestartPolicy} (h : validRestartPolicy policy = true) :
    0 ≤ policy.maxAttempts ∧ 0 ≤ policy.maxRestarts := by
  unfold validRestartPolicy at h
  split at h <;> simp only [Bool.and_eq_true, decide_eq_true_eq, Bool.false_eq_true] at h
  · exact ⟨h.1.1.1.1.ge, h.1.1.1.2.ge⟩
  · exact ⟨h.1.1.1.1.ge, h.1.1.1.2.ge⟩
  · exact ⟨by omega, by omega⟩

theorem Kept.register {registration : Registration}
    (h : (Command.register registration).refused self = none) (now : Time) :
    Kept now { registration := registration } { generations := [registration.generation] } := by
  have hvalid : validRestartPolicy registration.policy = true := by
    simp only [Command.refused, validateRegistration] at h
    split at h
    · cases h
    next hnone =>
      split_ifs at hnone with _ _ hpolicy
      simpa using hpolicy
  obtain ⟨hattempts, hrestarts⟩ := nonneg_of_valid hvalid
  refine ⟨⟨⟨fun _ => hattempts, fun _ => hrestarts, rfl, rfl, .singleton _, .nil⟩, ?_, nofun, nofun,
    fun _ _ => rfl⟩, nofun, nofun, fun _ _ => rfl, nofun⟩
  intro generation hgeneration
  rw [List.mem_singleton.mp hgeneration]

/-- Every entry and its book. -/
def Inv (w : World) : Prop := ∀ key e, w.entries.lookup key = some e → Kept w.now e (w.books key)

/-- What a Command makes of the entry of its key and its book. -/
theorem Inv.handle {answer : Option Err} {now later : Time} {c : Command}
    {out : Outcome} (h : Inv w) (hnow : w.now ≤ now) (hlater : now ≤ later)
    (hout : w.entries.handle self answer now later c = .ok out) :
    Kept later out.entry (w.book c.key out) := by
  unfold Entries.handle at hout
  split at hout
  · cases hout
  next hrefused =>
    unfold World.book
    cases he : w.entries.lookup c.key with
    | some e =>
      simp only [he, Except.ok.injEq] at hout
      subst hout
      exact (h c.key e he).handle hnow hlater c
    | none =>
      rw [he] at hout
      cases c with
      | register registration =>
        cases hout
        exact .register hrefused later
      | _ => cases hout

theorem Inv.step {ev : Event} (h : Inv w) (hstep : step self w ev = some w') : Inv w' := by
  unfold Supervisor.step at hstep
  split_ifs at hstep with hclock
  simp only [Bool.and_eq_true, decide_eq_true_eq] at hclock
  cases hout : w.entries.handle self ev.answer ev.now ev.later ev.command with
  | error err =>
    simp only [hout, Option.some.injEq] at hstep
    subst hstep
    exact fun key e he => (h key e he).wait (hclock.1.trans hclock.2)
  | ok out =>
    simp only [hout, Option.some.injEq] at hstep
    subst hstep
    intro key e he
    by_cases hkey : key = ev.command.key
    · subst hkey
      rw [AList.lookup_insert] at he
      cases he
      simpa using h.handle hclock.1 hclock.2 hout
    · rw [AList.lookup_insert_ne hkey] at he
      simpa [hkey] using (h key e he).wait (hclock.1.trans hclock.2)

/-- **The limits of restarting.** In every run of the Supervisor, whatever Commands come, whenever
the clock lets them and whatever the Runner answers, the limits of every policy are kept. -/
theorem restart_limits (h : (system self).Reachable w) {key : ServiceKey} {e : Entry}
    (he : w.entries.lookup key = some e) : Limits e (w.books key) := by
  have hinv : Inv w := h.invariant (I := Inv)
    (fun w hw key e he => by
      rw [show w.entries = ∅ from hw] at he
      cases he)
    fun _ _ _ hs _ hstep => hs.step hstep
  exact (hinv key e he).limits

end Runs

/-- A service whose replacement fails after it was prepared and before it is reported as
committed. -/
def failsTwice : List Event :=
  let node := "n"
  let key : ServiceKey := ⟨node, node⟩
  let policy : RestartPolicy := ⟨.onFailure, 1, 2, 10, 1, 1⟩
  let task : RecoveryTask := ⟨⟨node, 1⟩, key, ⟨node, 2⟩, 8, 1, 1⟩
  [⟨.register ⟨key, ⟨node, 2⟩, 7, policy⟩, 1, 1, none⟩,
    ⟨.failure ⟨node, 2⟩ ⟨key, ⟨node, 2⟩, 7, 1, true⟩, 2, 2, none⟩,
    ⟨.recoveryStarted (runtimeRoot node) task, 3, 3, none⟩,
    ⟨.recoveryPrepared (runtimeRoot node) task ⟨node, 3⟩, 4, 4, none⟩,
    ⟨.failure ⟨node, 3⟩ ⟨key, ⟨node, 3⟩, 8, 4, true⟩, 5, 6, none⟩]

/-- It was committed, and another task is on its way. -/
theorem restart_limits_sample : ∃ w e, (system ⟨"n", 1⟩).Reachable w ∧
    w.entries.lookup ⟨"n", "n"⟩ = some e ∧ e.status = .backoff ∧
    (w.books ⟨"n", "n"⟩).commits = [5] ∧
    e.activeTask.generation.toNat = e.registration.generation.toNat + 1 := by
  obtain ⟨w, hw, hp⟩ := System.exists_reachableUnder_of_run (system ⟨"n", 1⟩)
    (fun _ _ => True) failsTwice (s := {}) (fun w =>
      (w.entries.lookup ⟨"n", "n"⟩).any
        (fun e => e.status = .backoff) &&
      decide ((w.books ⟨"n", "n"⟩).commits = [5])) rfl
        (by decide +kernel)
  simp only [Bool.and_eq_true, Option.any_eq_true, decide_eq_true_eq] at hp
  obtain ⟨⟨e, he, hstatus⟩, hcommits⟩ := hp
  exact ⟨w, e, hw, he, hstatus, hcommits, (restart_limits hw he).next (by rw [hstatus]; rfl)⟩

/-! ### The delay

`time.Duration` is an `int64`. The model counts in integers; this is the loop as the machine runs
it. -/

/-- The loop of `restartBackoff` on `int64`, from an index that leaves so many rounds. -/
def backoffRounds64 (max : Int64) : ℕ → Int64 → Int64
  | 0, delay => if max < delay then max else delay
  | n + 1, delay =>
    if delay < max then if max / 2 < delay then max else backoffRounds64 max n (delay * 2)
    else if max < delay then max else delay

/-- The values that `delay` takes in that loop. -/
def backoffDelays (max : Int64) : ℕ → Int64 → List Int64
  | 0, delay => [delay]
  | n + 1, delay =>
    if delay < max ∧ ¬max / 2 < delay then delay :: backoffDelays max n (delay * 2) else [delay]

/-- Half of a positive bound, as the machine divides. -/
theorem toInt_half {max : Int64} (h : 0 < max.toInt) : (max / 2).toInt = max.toInt / 2 := by
  have hlt := max.toInt_lt
  rw [Int64.toInt_div, show (2 : Int64).toInt = 2 from rfl, Int.tdiv_eq_ediv_of_nonneg h.le]
  refine Int.bmod_eq_of_le ?_ ?_ <;> omega

/-- A delay of at most half the bound doubles without overflow. -/
theorem toInt_double {max delay : Int64} (hpos : 0 < delay.toInt) (hle : ¬max / 2 < delay)
    (hlt : delay < max) : (delay * 2).toInt = delay.toInt * 2 ∧ delay.toInt * 2 ≤ max.toInt := by
  have hbound := max.toInt_lt
  rw [Int64.lt_iff_toInt_lt] at hlt hle
  rw [toInt_half (hpos.trans hlt)] at hle
  refine ⟨?_, by omega⟩
  rw [Int64.toInt_mul, show (2 : Int64).toInt = 2 from rfl]
  refine Int.bmod_eq_of_le ?_ ?_ <;> omega

/-- **The rounds** double a positive delay up to the bound. -/
theorem backoffRounds_eq (max : ℤ) (n : ℕ) {delay : ℤ} (h : 0 < delay) :
    backoffRounds max n delay = min (delay * 2 ^ n) max := by
  induction n generalizing delay with
  | zero => rw [backoffRounds, pow_zero, mul_one]
  | succ n ih =>
    have hpow : (0 : ℤ) < 2 ^ n := Int.pow_pos (by decide)
    have hgrow : delay * 2 ≤ delay * 2 ^ (n + 1) := by
      rw [pow_succ']
      exact Int.mul_le_mul_of_nonneg_left (by omega) h.le
    rw [backoffRounds]
    by_cases hmax : max ≤ delay
    · rw [if_pos hmax, min_eq_right hmax, min_eq_right (by omega)]
    · by_cases hhalf : max / 2 < delay
      · rw [if_neg hmax, if_pos hhalf, min_eq_right (by omega)]
      · rw [if_neg hmax, if_neg hhalf, ih (by omega), mul_assoc, pow_succ']

/-- The machine computes the rounds of the model. -/
theorem toInt_backoffRounds64 (max : Int64) (n : ℕ) {delay : Int64} (h : 0 < delay.toInt) :
    (backoffRounds64 max n delay).toInt = backoffRounds max.toInt n delay.toInt := by
  have hcap : ∀ d : Int64, (if max < d then max else d).toInt = min d.toInt max.toInt := by
    intro d
    split
    case isTrue hd => rw [min_eq_right (Int64.lt_iff_toInt_lt.mp hd).le]
    case isFalse hd => rw [min_eq_left (not_lt.mp (mt Int64.lt_iff_toInt_lt.mpr hd))]
  induction n generalizing delay with
  | zero => exact hcap delay
  | succ n ih =>
    rw [backoffRounds64, backoffRounds]
    by_cases hlt : delay < max
    · have hlt' := Int64.lt_iff_toInt_lt.mp hlt
      rw [if_pos hlt, if_neg (not_le.mpr hlt')]
      by_cases hhalf : max / 2 < delay
      · rw [if_pos hhalf, if_pos (toInt_half (h.trans hlt') ▸ Int64.lt_iff_toInt_lt.mp hhalf)]
      · have hdouble := (toInt_double h hhalf hlt).1
        rw [if_neg hhalf, ih (by omega), hdouble,
          if_neg (toInt_half (h.trans hlt') ▸ mt Int64.lt_iff_toInt_lt.mpr hhalf)]
    · rw [if_neg hlt, if_pos (not_lt.mp (mt Int64.lt_iff_toInt_lt.mpr hlt))]
      exact hcap delay

/-- No doubling leaves the `int64` numbers. -/
theorem toInt_backoffDelays (max : Int64) (n : ℕ) {delay : Int64} (h : 0 < delay.toInt) {k : ℕ}
    {d : Int64} (hd : (backoffDelays max n delay)[k]? = some d) :
    d.toInt = delay.toInt * 2 ^ k := by
  induction n generalizing delay k with
  | zero =>
    cases k with
    | zero =>
      cases hd
      rw [pow_zero, mul_one]
    | succ k => cases hd
  | succ n ih =>
    rw [backoffDelays] at hd
    cases k with
    | zero =>
      have : d = delay := by split at hd <;> exact (Option.some.inj hd).symm
      rw [this, pow_zero, mul_one]
    | succ k =>
      split at hd
      case isTrue hgo =>
        have hdouble := (toInt_double h hgo.2 hgo.1).1
        rw [ih (by omega) hd, hdouble, pow_succ', mul_assoc]
      case isFalse => cases hd

/-- `restartBackoff` on `int64` -/
def restartBackoff64 (minBackoff maxBackoff attempt : Int64) : Int64 :=
  backoffRounds64 maxBackoff (attempt.toInt - 1).toNat minBackoff

/-- **The delay before a restart** is the least delay doubled for every earlier attempt, up to the
greatest delay, and no value on the way is too large for an `int64`. -/
theorem backoff_formula (minBackoff maxBackoff attempt : Int64) (hmin : 0 < minBackoff) :
    (restartBackoff64 minBackoff maxBackoff attempt).toInt =
        min (minBackoff.toInt * 2 ^ (attempt.toInt - 1).toNat) maxBackoff.toInt ∧
      ∀ k d, (backoffDelays maxBackoff (attempt.toInt - 1).toNat minBackoff)[k]? = some d →
        d.toInt = minBackoff.toInt * 2 ^ k := by
  have hpos : 0 < minBackoff.toInt := Int64.lt_iff_toInt_lt.mp hmin
  constructor
  · rw [restartBackoff64, toInt_backoffRounds64 _ _ hpos, backoffRounds_eq _ _ hpos]
  · intro k d hd
    exact toInt_backoffDelays _ _ hpos hd

theorem backoff_formula_capped :
    (restartBackoff64 100 1000 5).toInt = min (100 * 2 ^ 4) 1000 :=
  (backoff_formula 100 1000 5 (by decide)).1

end GameServiceRuntime.Supervisor
