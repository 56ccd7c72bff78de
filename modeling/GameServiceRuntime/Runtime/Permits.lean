import GameServiceRuntime.Lib.Pool
import GameServiceRuntime.Runtime.Acts

/-!
# Permit conservation

`scheduler.permits` holds one token for every activity that may execute Service code. What the
code keeps besides the channel is one boolean per *instance*, `permitHeld`, while tokens belong to
*tasks*. The two agree as long as the tasks of one instance do not overlap and nobody else acts
for a task that is over.

`PermitGuard` is that condition, step by step. Two schedules break it:

* a task clears `ready` before its deferred compare-and-swap, so with two workers the dispatcher
  may hand out a second permit for the same instance in between; the first task's deferred
  release then takes the flag of the second one;
* a `Service.Stop` abandoned by `runStop` may still be inside a Call when its task ends; its
  `resume` then acquires a permit that nobody will release.

## Main results

* `permits_conserved` — in every run whose steps satisfy `PermitGuard`, tokens and owners agree
* `permits_not_conserved` — without it they do not, for two workers and for one
-/

namespace GameServiceRuntime.Runtime

/-! ## Owners -/

/-- Between the two halves of `yield` or `resume`: the token and the flag disagree. -/
def CallPc.midway : CallPc → Bool
  | .yieldRelease | .resumeStore => true
  | _ => false

namespace Task

/-- The task has not executed its deferred compare-and-swap. -/
def isOpen (k : Task) : Bool :=
  match k.pc with
  | .deferRelease | .ended => false
  | _ => true

/-- The `process` goroutine of the task has not returned. -/
def live (k : Task) : Bool :=
  match k.pc with
  | .ended => false
  | _ => true

/-- The task is live and owns a token. -/
def ownsLive (k : Task) : Bool := k.live && k.owns

/-- Service code of the task is between the two halves of `yield` or `resume`. -/
def midway (k : Task) : Bool :=
  (k.callPc .handle).any CallPc.midway || (k.callPc .stop).any CallPc.midway

/-- The instance's `permitHeld` flag stands for this task's token. -/
def holdsFlag (k : Task) : Bool := k.owns && !k.midway

/-- The Service code a live task is executing: its `Handle`, or the `Stop` it waits for. -/
def handlerPc (k : Task) : Option CallPc :=
  match k.pc with
  | .handling _ pc => some pc
  | .stopWait _ => k.callPc .stop
  | _ => none

end Task

/-- The dispatcher owns a token between `acquire` and the start of the `process` goroutine. -/
def DispatcherPc.owns : DispatcherPc → Bool
  | .looking _ | .releasing | .storing _ | .spawning _ => true
  | _ => false

/-- How many activities currently own a token. -/
def State.owners (s : State) : ℕ :=
  s.dispatcher.owns.toNat + poolCount Task.ownsLive s.tasks s.numTasks

/-- **Permit conservation.** Tokens are exactly the owners' tokens; an idle Runtime has none; and
Service code that a live task is executing and that has not given its permit away can yield. -/
structure PermitsConserved (s : State) : Prop where
  tokens : s.shared.permits = s.owners
  idle : s.dispatcher = .popping → (∀ t < s.numTasks, (s.tasks t).live = false) →
    s.shared.permits = 0
  canYield : ∀ t < s.numTasks, ∀ pc, (s.tasks t).handlerPc = some pc →
    pc = .running ∨ pc = .calling → (s.tasks t).owns = true →
    (s.insts (s.tasks t).inst).permitHeld = true

/-! ## The guard -/

/-- The steps that keep flags and tokens together: the dispatcher stores the flag of an instance
only when every earlier task of it is past its deferred compare-and-swap, `Stop` code changes the
flag or acquires a token only while its task is before that point, and a task does not reach that
point while its `Stop` is between the two halves of `yield` or `resume`. -/
def permitGuard (s : State) : Action → Bool
  | .dispatch => (List.range s.numTasks).all fun t =>
      !((s.tasks t).isOpen && s.dispatcher = .storing (s.tasks t).inst)
  | .call t .stop =>
    match (s.tasks t).callPc .stop with
    | some .calling => (s.tasks t).isOpen || !(s.insts (s.tasks t).inst).permitHeld
    | some .yielded | some .resumeStore => (s.tasks t).isOpen
    | _ => true
  | .task t => !((s.tasks t).pc = .deferCas && ((s.tasks t).callPc .stop).any CallPc.midway)
  | _ => true

/-- `permitGuard` as a condition on steps. -/
def PermitGuard (s : State) (a : Action) : Prop := permitGuard s a = true

instance (s : State) (a : Action) : Decidable (PermitGuard s a) :=
  inferInstanceAs (Decidable (_ = _))

/-! ## One task

What holds of a task's own record in every state, and how its steps move the flag and the
token. -/

/-- The task has not yet started `Service.Stop`. -/
def TaskPc.beforeStop : TaskPc → Bool
  | .loop _ | .handling _ _ | .handled _ | .failStatus _ | .failClose _ | .failCloseWait _
  | .failFinalizing _ _ _ | .stopCheck _ | .stopStart _ => true
  | _ => false

/-- What a task's record satisfies in every state. -/
structure TaskOk (k : Task) : Prop where
  stop_notStarted : k.pc.beforeStop = true → k.stop = .notStarted
  owns_of_midway : k.midway = true → k.owns = true ∧ k.isOpen = true
  not_owns_of_yielded : k.callPc .handle = some .yielded ∨ k.callPc .stop = some .yielded →
    k.owns = false
  owns_of_deferRelease : k.pc = .deferRelease → k.owns = true
  not_owns_of_ended : k.pc = .ended → k.owns = false

theorem finalizeStep_permitHeld {status : FinalStatus} {cause : GoError} {pc : FinalizePc}
    {x : Inst ClientId} {r} (h : finalizeStep status cause x pc = some r) :
    r.1.permitHeld = x.permitHeld := by
  cases pc with
  | cas | waitDone | lock =>
    rw [finalizeStep] at h
    split at h <;> cases h <;> rfl
  | closeMailbox | remove | setStatus | finish | unlock =>
    cases h
    rfl

theorem scheduleStep_permits (i : ℕ) (g : Shared) (x : Inst ClientId) (pc : SchedulePc) :
    (scheduleStep i g x pc).1.permits = g.permits ∧
      (scheduleStep i g x pc).2.1.permitHeld = x.permitHeld := by
  cases pc with
  | cas | push => simp only [scheduleStep]; split <;> simp
  | undo => simp [scheduleStep]

/-- What one task finds in the channel and in the flag of its instance. -/
structure Standing (permits : ℕ) (held : Bool) (k : Task) : Prop extends TaskOk k where
  flag : k.isOpen = true → held = k.holdsFlag
  token : k.ownsLive = true → 0 < permits

/-- What a step of one task leaves there: the token count moves with the task's own contribution,
and the flag goes on standing for its token. -/
structure Settles (permits : ℕ) (held : Bool) (k : Task) (permits' : ℕ) (held' : Bool)
    (k' : Task) : Prop extends TaskOk k' where
  inst : k'.inst = k.inst
  isOpen : k'.isOpen = true → k.isOpen = true
  tokens : permits' + k.ownsLive.toNat = permits + k'.ownsLive.toNat
  flag : held' = if k.isOpen then k'.isOpen && k'.holdsFlag else held

/-- A step that leaves the token where it is and starts or ends no half of `yield` or `resume`. -/
structure Quiet (k k' : Task) : Prop where
  inst : k'.inst = k.inst
  owns : k'.owns = k.owns
  pc : k'.pc = k.pc ∨ k.isOpen = true ∧ k'.isOpen = true
  stop_notStarted : k'.pc.beforeStop = true → k'.stop = .notStarted
  midway : k'.midway = k.midway
  yielded : k'.callPc .handle = some .yielded ∨ k'.callPc .stop = some .yielded →
    k.callPc .handle = some .yielded ∨ k.callPc .stop = some .yielded

section Settles

variable {cfg : Config} {g : Shared} {x : Inst ClientId} {k k' : Task} {w : Caller}

theorem Task.isOpen_eq (h : k'.pc = k.pc ∨ k.isOpen = true ∧ k'.isOpen = true) :
    k'.isOpen = k.isOpen := by
  obtain hpc | ⟨ho, ho'⟩ := h
  · simp only [Task.isOpen, hpc]
  · rw [ho, ho']

theorem Quiet.isOpen (hq : Quiet k k') : k'.isOpen = k.isOpen := Task.isOpen_eq hq.pc

theorem Quiet.pc_of_closed (hq : Quiet k k') (h : k'.isOpen = false) : k.pc = k'.pc := by
  obtain hpc | ⟨-, ho'⟩ := hq.pc
  · exact hpc.symm
  · rw [h] at ho'
    cases ho'

theorem Quiet.taskOk (hq : Quiet k k') (hk : TaskOk k) : TaskOk k' where
  stop_notStarted := hq.stop_notStarted
  owns_of_midway hmid := by
    rw [hq.owns, hq.isOpen]
    exact hk.owns_of_midway (hq.midway ▸ hmid)
  not_owns_of_yielded hy := hq.owns.trans (hk.not_owns_of_yielded (hq.yielded hy))
  owns_of_deferRelease hpc := hq.owns.trans
    (hk.owns_of_deferRelease ((hq.pc_of_closed (by simp only [Task.isOpen, hpc])).trans hpc))
  not_owns_of_ended hpc := hq.owns.trans
    (hk.not_owns_of_ended ((hq.pc_of_closed (by simp only [Task.isOpen, hpc])).trans hpc))

theorem Task.live_of_isOpen (h : k.isOpen = true) : k.live = true := by
  cases hpc : k.pc <;> simp_all [Task.isOpen, Task.live]

/-- Nothing is to be settled after a quiet step. -/
theorem Quiet.settles {permits : ℕ} {held : Bool} (hq : Quiet k k') (h : Standing permits held k) :
    Settles permits held k permits held k' where
  toTaskOk := hq.taskOk h.toTaskOk
  inst := hq.inst
  isOpen := hq.isOpen ▸ id
  tokens := by
    have hlive : k'.live = k.live := by
      obtain hpc | ⟨ho, ho'⟩ := hq.pc
      · simp only [Task.live, hpc]
      · rw [Task.live_of_isOpen ho, Task.live_of_isOpen ho']
    rw [Task.ownsLive, Task.ownsLive, hlive, hq.owns]
  flag := by
    rw [hq.isOpen, Task.holdsFlag, hq.owns, hq.midway]
    split
    · rw [h.flag ‹_›, ‹k.isOpen = true›, Bool.true_and, Task.holdsFlag]
    · rfl

/-! ### Service code that moves -/

/-- The Service code in progress goes from one place to another. -/
structure CodeMoved (k k' : Task) (p p' : CallPc) : Prop where
  inst : k'.inst = k.inst
  owns : k'.owns = k.owns
  pc : k'.pc = k.pc ∨ k.isOpen = true ∧ k'.isOpen = true
  stop_notStarted : k'.pc.beforeStop = true → k'.stop = .notStarted
  midway : k.midway = p.midway
  midway' : k'.midway = p'.midway
  yielded : k'.callPc .handle = some .yielded ∨ k'.callPc .stop = some .yielded → p' = .yielded

/-- `Handle` is over when `Stop` begins, so what is said of the code of a task is said of the one
that moves. -/
theorem TaskOk.codeMoved (hk : TaskOk k) {p : CallPc} (h : k.callPc w = some p) (p' : CallPc) :
    CodeMoved k (k.setCallPc w p') p p' := by
  have hstop := hk.stop_notStarted
  obtain ⟨inst, pc, owns, stop, close⟩ := k
  cases w with
  | handle =>
    cases pc <;> cases h
    cases hstop rfl
    exact ⟨rfl, rfl, .inr ⟨rfl, rfl⟩, fun _ => rfl, Bool.or_false _, Bool.or_false _,
      by simp [Task.setCallPc, Task.callPc]⟩
  | stop =>
    cases stop <;> cases h
    have hbefore : pc.beforeStop ≠ true := fun hb => by cases hstop hb
    have hhandle : ∀ stop', (⟨inst, pc, owns, stop', close⟩ : Task).callPc .handle = none := by
      intro stop'
      cases pc <;> first | rfl | exact absurd rfl hbefore
    refine ⟨rfl, rfl, .inl rfl, fun hb => absurd hb hbefore, ?_, ?_, ?_⟩
    · rw [Task.midway, hhandle]
      rfl
    · rw [Task.midway, Task.setCallPc, hhandle]
      rfl
    · rw [Task.setCallPc, hhandle]
      simp [Task.callPc]

theorem CodeMoved.quiet {p p' : CallPc} (m : CodeMoved k k' p p') (hmid : p'.midway = p.midway)
    (hyielded : p' ≠ .yielded) : Quiet k k' :=
  ⟨m.inst, m.owns, m.pc, m.stop_notStarted, by rw [m.midway', m.midway, hmid],
    fun hy => absurd (m.yielded hy) hyielded⟩

/-- A half of `yield` or `resume`, in a task that is open. -/
theorem CodeMoved.settles {permits permits' : ℕ} {held' : Bool} {p p' : CallPc}
    (m : CodeMoved k k' p p') (hopen : k.isOpen = true) (b : Bool)
    (hmid : p'.midway = true → b = true) (hyielded : p' = .yielded → b = false)
    (htoken : permits' + k.owns.toNat = permits + b.toNat) (hflag : held' = (b && !p'.midway))
    (held : Bool) : Settles permits held k permits' held' (k'.setOwns b) := by
  have hopen' : k'.isOpen = true := (Task.isOpen_eq m.pc).trans hopen
  exact {
    stop_notStarted := m.stop_notStarted
    owns_of_midway := fun h => ⟨hmid (m.midway' ▸ h), hopen'⟩
    not_owns_of_yielded := fun h => hyielded (m.yielded h)
    owns_of_deferRelease := fun (h : k'.pc = _) => by simp [Task.isOpen, h] at hopen'
    not_owns_of_ended := fun (h : k'.pc = _) => by simp [Task.isOpen, h] at hopen'
    inst := m.inst
    isOpen := fun _ => hopen
    tokens := by
      have hlive : (k'.setOwns b).live = true := Task.live_of_isOpen hopen'
      rw [Task.ownsLive, Task.ownsLive, hlive, Task.live_of_isOpen hopen]
      exact htoken
    flag := by
      have hmidway : (k'.setOwns b).midway = p'.midway := m.midway'
      rw [if_pos hopen, show (k'.setOwns b).isOpen = true from hopen', Task.holdsFlag, hmidway]
      exact hflag }

theorem Task.isOpen_of_callPc {p : CallPc} (h : k.callPc w = some p)
    (hstop : w = .stop → k.isOpen = true) : k.isOpen = true := by
  cases w with
  | handle => cases hpc : k.pc <;> simp_all [Task.callPc, Task.isOpen]
  | stop => exact hstop rfl

/-- **A step of `yield` or `resume`.** -/
theorem callStep_settles {r} (h : Standing g.permits x.permitHeld k)
    (hyield : w = .stop → k.callPc .stop = some .calling → x.permitHeld = true → k.isOpen = true)
    (hresume : w = .stop → k.callPc .stop = some .yielded → k.isOpen = true)
    (hr : callStep cfg w g x k = some r) :
    Settles g.permits x.permitHeld k r.1.permits r.2.1.permitHeld r.2.2 := by
  have hmidway : k.midway = true → k.owns = true ∧ k.isOpen = true := h.owns_of_midway
  simp only [callStep] at hr
  split at hr
  · next hpc =>
    have m := h.codeMoved hpc
    split at hr <;> cases hr
    · next hheld =>
      have hopen := Task.isOpen_of_callPc hpc fun hw => hyield hw (hw ▸ hpc) hheld
      -- the flag stands for the token of the task
      have howns : k.owns = true := by
        have hflag := h.flag hopen
        rw [hheld, Task.holdsFlag] at hflag
        exact (Bool.and_eq_true_iff.mp hflag.symm).1
      rw [← (m .yieldRelease).owns] at howns
      exact (m .yieldRelease).settles hopen _ (fun _ => howns) (by simp)
        (by rw [(m .yieldRelease).owns]) (by rw [howns]; rfl) _
    · exact ((m .running).quiet rfl (by simp)).settles h
  · next hpc =>
    cases hr
    have m := h.codeMoved hpc .yielded
    obtain ⟨howns, hopen⟩ := hmidway m.midway
    have hpos := h.token (by rw [Task.ownsLive, Task.live_of_isOpen hopen, howns]; rfl)
    refine m.settles hopen false (by simp [CallPc.midway]) (fun _ => rfl) ?_ ?_ _
    · rw [howns]
      exact Nat.sub_add_cancel hpos
    · rw [h.flag hopen, Task.holdsFlag, m.midway]
      exact Bool.and_false _
  · next hpc =>
    split at hr <;> cases hr
    have m := h.codeMoved hpc .resumeStore
    have hopen := Task.isOpen_of_callPc hpc fun hw => hresume hw (hw ▸ hpc)
    have howns : k.owns = false := h.not_owns_of_yielded (by cases w <;> simp [hpc])
    refine m.settles hopen true (fun _ => rfl) (by simp) ?_ ?_ _
    · rw [howns]
      rfl
    · rw [h.flag hopen, Task.holdsFlag, howns]
      rfl
  · next hpc =>
    cases hr
    have m := h.codeMoved hpc .running
    obtain ⟨howns, hopen⟩ := hmidway m.midway
    rw [← m.owns] at howns
    exact m.settles hopen (k.setCallPc w .running).owns (by simp [CallPc.midway]) (by simp)
      (by rw [m.owns]) (by rw [howns]; rfl) _
  · cases hr

/-! ### Steps of `process` -/

/-- The task is open and its `Handle`, if it is there, is not at a Call. -/
def TaskPc.still : TaskPc → Bool
  | .handling _ .running => true
  | .handling _ _ | .deferRelease | .ended => false
  | _ => true

theorem TaskPc.still_iff : k.pc.still = true ↔
    k.isOpen = true ∧ (k.callPc .handle = none ∨ k.callPc .handle = some .running) := by
  obtain ⟨inst, pc, owns, stop, close⟩ := k
  cases pc with
  | handling n p => cases p <;> simp [TaskPc.still, Task.isOpen, Task.callPc]
  | _ => simp [TaskPc.still, Task.isOpen, Task.callPc]

/-- A task goes from one such place to another, with its `Stop` where it is. -/
theorem TaskOk.quiet_of_still (hk : TaskOk k) (h : k.pc.still = true) (h' : k'.pc.still = true)
    (hinst : k'.inst = k.inst) (howns : k'.owns = k.owns)
    (hstop : k'.stop = k.stop) (hbefore : k'.pc.beforeStop = true → k.pc.beforeStop = true) :
    Quiet k k' := by
  obtain ⟨hopen, hhandle⟩ := TaskPc.still_iff.mp h
  obtain ⟨hopen', hhandle'⟩ := TaskPc.still_iff.mp h'
  have hcode : k'.callPc .stop = k.callPc .stop := by rw [Task.callPc, hstop, Task.callPc]
  have hnot : ∀ {o : Option CallPc}, o = none ∨ o = some .running →
      o.any CallPc.midway = false ∧ o ≠ some .yielded := by
    rintro o (rfl | rfl) <;> simp [CallPc.midway]
  refine ⟨hinst, howns, .inr ⟨hopen, hopen'⟩, fun hb => ?_, ?_, fun hy => ?_⟩
  · rw [hstop]
    exact hk.stop_notStarted (hbefore hb)
  · rw [Task.midway, Task.midway, (hnot hhandle).1, (hnot hhandle').1, hcode]
  · rw [hcode] at hy
    exact .inr (hy.resolve_left (hnot hhandle').2)

theorem TaskOnly.quiet {t : ℕ} {a : Action} (hk : TaskOk k) (hr : TaskOnly x t k a k') :
    Quiet k k' := by
  cases hr with
  | callStart hr =>
    rw [callStartStep] at hr
    split at hr
    · next hpc =>
      have hquiet := (hk.codeMoved hpc .calling).quiet rfl (by simp)
      repeat' split at hr
      all_goals cases hr
      all_goals exact hquiet
    · cases hr
  | resumeFail hr =>
    rw [resumeFailStep] at hr
    split at hr
    · next hpc =>
      split at hr <;> cases hr
      exact (hk.codeMoved hpc .running).quiet rfl (by simp)
    · cases hr
  | stopReturn hr =>
    rw [stopReturnStep] at hr
    split at hr <;> cases hr
    next hstop =>
    have hnotStarted : k.pc.beforeStop ≠ true := fun hb => by
      rw [hk.stop_notStarted hb] at hstop
      cases hstop
    refine ⟨rfl, rfl, .inl rfl, fun hb => absurd hb hnotStarted, ?_, fun hy => .inl ?_⟩
    · simp [Task.midway, Task.callPc, hstop, CallPc.midway]
    · simpa [Task.callPc] using hy
  | closeReturn hr =>
    rw [closeReturnStep] at hr
    split at hr <;> cases hr
    exact ⟨rfl, rfl, .inl rfl, hk.stop_notStarted, rfl, id⟩
  | timeout hr =>
    rw [taskTimeoutStep] at hr
    split at hr <;> cases hr
    all_goals
      next hpc =>
      exact hk.quiet_of_still (by rw [hpc]; rfl) rfl rfl rfl rfl (by simp [TaskPc.beforeStop, hpc])
  | @handleReturn panics _ hr =>
    rw [handleReturnStep] at hr
    split at hr <;> cases hr
    next hpc =>
    cases panics <;>
      exact hk.quiet_of_still (by rw [hpc]; rfl) rfl rfl rfl rfl (by simp [TaskPc.beforeStop, hpc])

/-- Every operation of `process` before its deferred compare-and-swap is quiet. -/
theorem taskStep_quiet {r} (hk : TaskOk k) (hpc : k.pc ≠ .deferCas) (hpc' : k.pc ≠ .deferRelease)
    (hr : taskStep cfg g x k = some r) :
    Quiet k r.2.2 ∧ r.1.permits = g.permits ∧ r.2.1.permitHeld = x.permitHeld := by
  obtain ⟨inst, pc, owns, stop, close⟩ := k
  cases pc <;> simp only [taskStep, Option.some.injEq, reduceCtorEq] at hr
  case deferCas | deferRelease => contradiction
  case failFinalizing | stopFinalizing =>
    obtain ⟨⟨x', pc'⟩, hr', rfl⟩ := Option.map_eq_some_iff.mp hr
    refine ⟨?_, rfl, finalizeStep_permitHeld hr'⟩
    cases pc' <;> exact hk.quiet_of_still rfl rfl rfl rfl rfl (by simp [TaskPc.beforeStop])
  case schedule pc =>
    subst hr
    refine ⟨?_, scheduleStep_permits inst g x pc⟩
    cases (scheduleStep inst g x pc).2.2 <;>
      exact hk.quiet_of_still rfl rfl rfl rfl rfl (by simp [TaskPc.beforeStop])
  case stopStart q =>
    -- the one step that starts `Stop`
    subst hr
    cases hk.stop_notStarted rfl
    exact ⟨⟨rfl, rfl, .inr ⟨rfl, rfl⟩, by simp [TaskPc.beforeStop], rfl, by simp [Task.callPc]⟩,
      rfl, rfl⟩
  all_goals repeat' split at hr
  all_goals cases hr
  all_goals exact ⟨hk.quiet_of_still rfl rfl rfl rfl rfl (by simp [TaskPc.beforeStop]), rfl, rfl⟩

/-- A task without code between the two halves goes on to its deferred release with its token, or
ends without one. -/
theorem TaskOk.closing (hk : TaskOk k) (hhandle : k.callPc .handle = none)
    (hmidway : k.midway = false) {pc : TaskPc} {b : Bool}
    (hend : pc = .deferRelease ∧ b = true ∧ k.owns = true ∨ pc = .ended ∧ b = false) :
    TaskOk { k with pc := pc, owns := b } := by
  have hstop : (k.callPc .stop).any CallPc.midway = false := by
    rw [Task.midway, hhandle] at hmidway
    exact hmidway
  rcases hend with ⟨rfl, rfl, howns⟩ | ⟨rfl, rfl⟩
  · refine ⟨by simp [TaskPc.beforeStop], fun h => ?_, fun hy => ?_, fun _ => rfl, by simp⟩
    · exact absurd (h.symm.trans hstop) (by simp)
    · rw [← howns]
      exact hk.not_owns_of_yielded (.inr (hy.resolve_left (by simp [Task.callPc])))
  · refine ⟨by simp [TaskPc.beforeStop], fun h => ?_, fun _ => rfl, by simp, fun _ => rfl⟩
    exact absurd (h.symm.trans hstop) (by simp)

/-- The deferred compare-and-swap: the flag says whether there is a token to release. -/
theorem deferCas_settles {r} (h : Standing g.permits x.permitHeld k) (hpc : k.pc = .deferCas)
    (hguard : (k.callPc .stop).any CallPc.midway = false) (hr : taskStep cfg g x k = some r) :
    Settles g.permits x.permitHeld k r.1.permits r.2.1.permitHeld r.2.2 := by
  obtain ⟨inst, pc, owns, stop, close⟩ := k
  subst hpc
  have howns : x.permitHeld = owns := by
    rw [h.flag rfl, Task.holdsFlag, Task.midway, hguard]
    exact Bool.and_true _
  simp only [taskStep] at hr
  split at hr <;> cases hr
  · next hheld =>
    rw [hheld] at howns
    subst howns
    exact { h.closing rfl hguard (.inl ⟨rfl, rfl, rfl⟩) with
      inst := rfl, isOpen := by rintro ⟨⟩, tokens := rfl, flag := rfl }
  · next hheld =>
    rw [Bool.not_eq_true] at hheld
    rw [hheld] at howns
    subst howns
    exact { h.closing rfl hguard (.inr ⟨rfl, rfl⟩) with
      inst := rfl, isOpen := by rintro ⟨⟩, tokens := rfl, flag := hheld }

theorem deferRelease_settles {r} (h : Standing g.permits x.permitHeld k)
    (hpc : k.pc = .deferRelease) (hr : taskStep cfg g x k = some r) :
    Settles g.permits x.permitHeld k r.1.permits r.2.1.permitHeld r.2.2 := by
  have howns := h.owns_of_deferRelease hpc
  obtain ⟨inst, pc, owns, stop, close⟩ := k
  subst hpc howns
  cases hr
  have hmidway := Bool.eq_false_iff.mpr fun hmid => by cases (h.owns_of_midway hmid).2
  exact { h.closing rfl hmidway (.inr ⟨rfl, rfl⟩) with
    inst := rfl
    isOpen := by rintro ⟨⟩
    tokens := Nat.sub_add_cancel (h.token rfl)
    flag := rfl }

/-- **A step of `process`.** -/
theorem taskStep_settles {r} (h : Standing g.permits x.permitHeld k)
    (hguard : k.pc = .deferCas → (k.callPc .stop).any CallPc.midway = false)
    (hr : taskStep cfg g x k = some r) :
    Settles g.permits x.permitHeld k r.1.permits r.2.1.permitHeld r.2.2 := by
  by_cases hcas : k.pc = .deferCas
  · exact deferCas_settles h hcas (hguard hcas) hr
  by_cases hrel : k.pc = .deferRelease
  · exact deferRelease_settles h hrel hr
  · obtain ⟨hq, hpermits, hheld⟩ := taskStep_quiet h.toTaskOk hcas hrel hr
    rw [hpermits, hheld]
    exact hq.settles h

end Settles

/-! ## The invariant -/

/-- What ties tokens, flags and tasks together. -/
structure PermitInv (s : State) : Prop where
  fresh : ∀ t, s.numTasks ≤ t → s.tasks t = {}
  tasksOk : ∀ t, TaskOk (s.tasks t)
  tokens : s.shared.permits = s.owners
  /-- The open tasks of an instance do not overlap. -/
  unique : ∀ t u, (s.tasks t).isOpen = true → (s.tasks u).isOpen = true →
    (s.tasks t).inst = (s.tasks u).inst → t = u
  spawning : ∀ t, (s.tasks t).isOpen = true → s.dispatcher ≠ .spawning (s.tasks t).inst
  flag : ∀ i, (s.insts i).permitHeld = true ↔
    s.dispatcher = .spawning i ∨
      ∃ t, (s.tasks t).isOpen = true ∧ (s.tasks t).inst = i ∧ (s.tasks t).holdsFlag = true

namespace PermitInv

variable {s s' : State}

variable {t : ℕ}

/-- The flag of an instance with an open task stands for that task's token. -/
theorem flag_of_isOpen (h : PermitInv s) (ht : (s.tasks t).isOpen = true) :
    (s.insts (s.tasks t).inst).permitHeld = true ↔ (s.tasks t).holdsFlag = true := by
  rw [h.flag]
  constructor
  · rintro (hd | ⟨u, hu, hinst, hflag⟩)
    · exact absurd hd (h.spawning t ht)
    · rwa [h.unique t u ht hu hinst.symm]
  · exact fun hf => Or.inr ⟨t, ht, rfl, hf⟩

theorem lt_numTasks (h : PermitInv s) (ht : s.tasks t ≠ {}) : t < s.numTasks := by
  by_contra hge
  exact ht (h.fresh t (by omega))

theorem permits_pos (h : PermitInv s) (ht : (s.tasks t).ownsLive = true) :
    0 < s.shared.permits := by
  have hlt : t < s.numTasks := h.lt_numTasks (by rintro hc; simp [hc, Task.ownsLive] at ht)
  have hcount := poolCount_update Task.ownsLive s.tasks hlt {}
  have htok := h.tokens
  simp only [State.owners] at htok
  simp only [ht, Bool.toNat_true] at hcount
  have hempty : (({} : Task).ownsLive).toNat = 0 := rfl
  omega

/-- What the invariant sees of a state. -/
theorem congr (h : PermitInv s) (hp : s'.shared.permits = s.shared.permits)
    (hd : s'.dispatcher = s.dispatcher) (ht : s'.tasks = s.tasks) (hn : s'.numTasks = s.numTasks)
    (hf : ∀ i, (s'.insts i).permitHeld = (s.insts i).permitHeld) : PermitInv s' where
  fresh := by rw [ht, hn]; exact h.fresh
  tasksOk := by rw [ht]; exact h.tasksOk
  tokens := by rw [hp, h.tokens, State.owners, State.owners, hd, ht, hn]
  unique := by rw [ht]; exact h.unique
  spawning := by rw [ht, hd]; exact h.spawning
  flag i := by rw [hf, hd, ht]; exact h.flag i

theorem standing (h : PermitInv s) (t : ℕ) :
    Standing s.shared.permits (s.insts (s.tasks t).inst).permitHeld (s.tasks t) :=
  { h.tasksOk t with
    flag := fun ht => Bool.eq_iff_iff.mpr (h.flag_of_isOpen ht)
    token := h.permits_pos }

/-- **A step of one task.** -/
theorem update (h : PermitInv s) (hne : s.tasks t ≠ {}) {x : Inst ClientId} {k : Task}
    (hset : Settles s.shared.permits (s.insts (s.tasks t).inst).permitHeld (s.tasks t)
      s'.shared.permits x.permitHeld k) (hd : s'.dispatcher = s.dispatcher)
    (hi : s'.insts = Function.update s.insts (s.tasks t).inst x)
    (ht : s'.tasks = Function.update s.tasks t k) (hn : s'.numTasks = s.numTasks) :
    PermitInv s' := by
  have hflag := hset.flag
  have hlt := h.lt_numTasks hne
  refine ⟨fun u hu => ?_, fun u => ?_, ?_, fun u v => ?_, fun u => ?_, fun i => ?_⟩
  · rw [ht, Function.update_of_ne (by omega)]
    exact h.fresh u (by omega)
  · rw [ht, Function.update_apply]
    split
    · exact hset.toTaskOk
    · exact h.tasksOk u
  · have hcount := poolCount_update Task.ownsLive s.tasks hlt k
    have htok := h.tokens
    simp only [State.owners, hd, ht, hn] at htok ⊢
    have hmove := hset.tokens
    omega
  · rw [ht, Function.update_apply, Function.update_apply]
    split_ifs with hu hv hv
    · exact fun _ _ _ => hu.trans hv.symm
    · intro hku hv' hinst'
      exact (h.unique t v (hset.isOpen hku) hv' (hset.inst ▸ hinst')) ▸ hu
    · intro hu' hkv hinst'
      exact (h.unique u t hu' (hset.isOpen hkv) (hset.inst ▸ hinst')).trans hv.symm
    · exact h.unique u v
  · rw [ht, hd, Function.update_apply]
    split
    · rw [hset.inst]
      exact fun hku => h.spawning t (hset.isOpen hku)
    · exact h.spawning u
  · rw [hi, hd, ht]
    by_cases hit : i = (s.tasks t).inst
    · -- the task's own instance: the open tasks of it are at most this one
      subst hit
      rw [Function.update_self]
      by_cases hto : (s.tasks t).isOpen = true
      · rw [if_pos hto] at hflag
        rw [hflag, Bool.and_eq_true]
        constructor
        · rintro ⟨ho, hf⟩
          exact Or.inr ⟨t, by rwa [Function.update_self], by rw [Function.update_self, hset.inst],
            by rwa [Function.update_self]⟩
        · rintro (hsp | ⟨u, ho, hinst', hf⟩)
          · exact absurd hsp (h.spawning t hto)
          · by_cases hut : u = t
            · subst hut
              rw [Function.update_self] at ho hf
              exact ⟨ho, hf⟩
            · rw [Function.update_of_ne hut] at ho hinst'
              exact absurd (h.unique u t ho hto hinst') hut
      · rw [if_neg hto] at hflag
        rw [hflag, h.flag]
        refine or_congr_right (exists_congr fun u => ?_)
        by_cases hut : u = t
        · subst hut
          rw [Function.update_self]
          exact ⟨fun ⟨ho, _⟩ => absurd ho hto, fun ⟨ho, _⟩ => absurd (hset.isOpen ho) hto⟩
        · rw [Function.update_of_ne hut]
    · rw [Function.update_of_ne hit, h.flag]
      refine or_congr_right (exists_congr fun u => ?_)
      by_cases hut : u = t
      · subst hut
        rw [Function.update_self, hset.inst]
        exact ⟨fun ⟨_, hc, _⟩ => absurd hc.symm hit, fun ⟨_, hc, _⟩ => absurd hc.symm hit⟩
      · rw [Function.update_of_ne hut]

end PermitInv

/-! ## Preservation -/

section Preservation

variable {cfg : Config} {s s' : State} {t : ℕ}

theorem permitInv_task (h : PermitInv s) (hok : PermitGuard s (.task t)) {r}
    (hr : taskStep cfg s.shared (s.insts (s.tasks t).inst) (s.tasks t) = some r) :
    PermitInv ((s.setTask t r).deliver (s.tasks t).pc.reply) := by
  have hne : s.tasks t ≠ {} := by
    intro hc
    rw [hc] at hr
    simp [taskStep] at hr
  have hset := taskStep_settles (h.standing t)
    (fun hpc => by simpa [PermitGuard, permitGuard, hpc] using hok) hr
  have hmain : PermitInv (s.setTask t r) := h.update hne hset rfl rfl rfl rfl
  -- the delivery of a stop result is invisible to the invariant
  cases hreply : (s.tasks t).pc.reply with
  | none => exact hmain
  | some p => exact hmain.congr rfl rfl rfl rfl fun _ => rfl

theorem permitInv_call {w : Caller} (h : PermitInv s) (hok : PermitGuard s (.call t w)) {r}
    (hr : callStep cfg w s.shared (s.insts (s.tasks t).inst) (s.tasks t) = some r) :
    PermitInv (s.setTask t r) := by
  have hne : s.tasks t ≠ {} := by
    intro hc
    cases w <;> simp [callStep, hc, Task.callPc] at hr
  refine h.update hne (callStep_settles (h.standing t) ?_ ?_ hr) rfl rfl rfl rfl
  · rintro rfl hp hheld
    simpa [PermitGuard, permitGuard, hp, hheld] using hok
  · rintro rfl hp
    simpa [PermitGuard, permitGuard, hp] using hok

/-! ### The dispatcher -/

theorem permitInv_dispatch (h : PermitInv s) (hok : PermitGuard s .dispatch)
    (hs : step cfg s .dispatch = some s') : PermitInv s' := by
  simp only [step, State.stepDispatcher] at hs
  have htok := h.tokens
  have hspawn : ∀ {d : DispatcherPc}, (∀ i, s.dispatcher ≠ .spawning i) →
      (∀ i, d ≠ .spawning i) → ∀ {g : Shared},
      g.permits = d.owns.toNat + poolCount Task.ownsLive s.tasks s.numTasks →
      PermitInv { s with shared := g, dispatcher := d } := by
    intro d hd hd' g hg
    refine ⟨h.fresh, h.tasksOk, hg, h.unique, fun t _ => hd' _, fun i => ?_⟩
    rw [h.flag]
    simp [hd, hd']
  cases hdp : s.dispatcher with
  | popping =>
    simp only [hdp] at hs
    simp only [State.owners, hdp] at htok
    split at hs
    · cases hs
      exact hspawn (by simp [hdp]) (by simp) htok
    · split at hs
      · cases hs
      · cases hs
        exact hspawn (by simp [hdp]) (by simp) htok
  | acquiring i =>
    simp only [hdp] at hs
    simp only [State.owners, hdp] at htok
    split at hs
    · cases hs
      refine hspawn (by simp [hdp]) (by simp) ?_
      simp [DispatcherPc.owns] at htok ⊢
      omega
    · cases hs
  | looking i =>
    simp only [hdp] at hs
    simp only [State.owners, hdp] at htok
    cases hs
    split
    · exact hspawn (by simp [hdp]) (by simp) htok
    · exact hspawn (by simp [hdp]) (by simp) htok
  | releasing =>
    simp only [hdp] at hs
    simp only [State.owners, hdp] at htok
    cases hs
    refine hspawn (by simp [hdp]) (by simp) ?_
    simp [DispatcherPc.owns] at htok ⊢
    omega
  | storing i =>
    simp only [hdp] at hs
    cases hs
    -- the guard: no earlier task of the instance is open
    have hclosed : ∀ t, (s.tasks t).isOpen = true → (s.tasks t).inst ≠ i := by
      intro t ht hi
      have hlt : t < s.numTasks := h.lt_numTasks (by rintro hc; simp [hc, Task.isOpen] at ht)
      simp only [PermitGuard, permitGuard, List.all_eq_true, List.mem_range] at hok
      have := hok t hlt
      simp [ht, hdp, hi] at this
    refine ⟨h.fresh, h.tasksOk, ?_, h.unique, ?_, fun j => ?_⟩
    · simpa [State.owners, hdp, DispatcherPc.owns] using htok
    · intro t ht hc
      exact hclosed t ht (by simpa using hc.symm)
    · by_cases hj : j = i
      · subst hj
        simp
      · simp only [Function.update_of_ne hj]
        rw [h.flag]
        simp [hdp, Ne.symm hj]
  | spawning i =>
    simp only [hdp] at hs
    cases hs
    have hnew : s.tasks s.numTasks = {} := h.fresh _ (Nat.le_refl _)
    refine ⟨fun t ht => ?_, fun t => ?_, ?_, fun t u => ?_, by simp, fun j => ?_⟩
    · simp only at ht ⊢
      rw [Function.update_of_ne (by omega)]
      exact h.fresh t (by omega)
    · simp only [Function.update_apply]
      split
      · constructor <;> simp [Task.midway, Task.callPc]
      · exact h.tasksOk t
    · simp only [State.owners, hdp] at htok
      simp only [State.owners]
      rw [poolCount_succ, poolCount_update_of_le _ _ (Nat.le_refl _), Function.update_self]
      simp [DispatcherPc.owns, Task.ownsLive, Task.live] at htok ⊢
      omega
    · simp only [Function.update_apply]
      split_ifs with ht hu hu
      · exact fun _ _ _ => ht.trans hu.symm
      · exact fun _ hu' hi => absurd (by rw [hdp, ← hi]) (h.spawning u hu')
      · exact fun ht' _ hi => absurd (by rw [hdp, hi]) (h.spawning t ht')
      · exact h.unique t u
    · rw [h.flag, hdp]
      simp only [DispatcherPc.spawning.injEq, reduceCtorEq, false_or]
      constructor
      · rintro (rfl | ⟨t, ho, hi, hf⟩)
        · exact ⟨s.numTasks, by simp [Task.isOpen], by simp, by
            simp [Task.holdsFlag, Task.midway, Task.callPc]⟩
        · have hne : t ≠ s.numTasks := by rintro rfl; simp [hnew, Task.isOpen] at ho
          exact ⟨t, by rwa [Function.update_of_ne hne], by rwa [Function.update_of_ne hne],
            by rwa [Function.update_of_ne hne]⟩
      · rintro ⟨t, ho, hi, hf⟩
        by_cases hne : t = s.numTasks
        · subst hne
          simp at hi
          exact Or.inl hi
        · rw [Function.update_of_ne hne] at ho hi hf
          exact Or.inr ⟨t, ho, hi, hf⟩
  | exited => simp [hdp] at hs

theorem permitInv_dispatchDone (h : PermitInv s) (hs : step cfg s .dispatchDone = some s') :
    PermitInv s' := by
  simp only [step, State.stepDispatcherDone] at hs
  split at hs
  · next i hdp =>
    split at hs
    · cases hs
      have htok := h.tokens
      refine ⟨h.fresh, h.tasksOk, ?_, h.unique, by simp, fun j => ?_⟩
      · simpa [State.owners, hdp, DispatcherPc.owns] using htok
      · rw [h.flag, hdp]
        simp
    · cases hs
  · cases hs

/-! ### Everybody else

Creating goroutines, senders, stoppers and `Runtime.Close` touch neither flags nor tokens. -/

variable {g : Shared} {x : Inst ClientId}

theorem creatorStep_permits {i : ℕ} {r}
    (h : creatorStep cfg i g x = some r) :
    r.1.permits = g.permits ∧ r.2.permitHeld = x.permitHeld := by
  cases hc : x.creator <;> simp only [creatorStep, hc] at h
  case finalizing status cause pc =>
    obtain ⟨r', hr', rfl⟩ := Option.map_eq_some_iff.mp h
    exact ⟨rfl, finalizeStep_permitHeld hr'⟩
  case startupSchedule pc =>
    cases h
    exact scheduleStep_permits i g x pc
  all_goals repeat' split at h
  all_goals cases h
  all_goals exact ⟨rfl, rfl⟩

theorem clientStep_permits {q : ClientId} {c : Client} {r}
    (h : clientStep cfg q g x c = some r) :
    r.1.permits = g.permits ∧ r.2.1.permitHeld = x.permitHeld := by
  cases hc : c.pc <;> simp only [clientStep, hc] at h
  case ctxFinalizing | timerFinalizing =>
    obtain ⟨r', hr', rfl⟩ := Option.map_eq_some_iff.mp h
    exact ⟨rfl, finalizeStep_permitHeld hr'⟩
  case sendSchedule pc | stopSchedule pc =>
    cases h
    exact scheduleStep_permits c.inst g x pc
  all_goals repeat' split at h
  all_goals cases h
  all_goals exact ⟨rfl, rfl⟩

theorem PermitInv.setInst (h : PermitInv s) {i : ℕ} {r : Shared × Inst ClientId}
    (hp : r.1.permits = s.shared.permits) (hx : r.2.permitHeld = (s.insts i).permitHeld) :
    PermitInv (s.setInst i r) := by
  refine h.congr hp rfl rfl rfl fun j => ?_
  simp only [State.setInst, Function.update_apply]
  split
  · next hj => rw [hj, hx]
  · rfl

theorem permitInv_closer (h : PermitInv s) (hs : step cfg s .closer = some s') :
    PermitInv s' := by
  simp only [step] at hs
  unfold State.stepCloser at hs
  split at hs
  case h_10 status cause i is pc =>
    obtain ⟨r, hr, rfl⟩ := Option.map_eq_some_iff.mp hs
    refine h.congr rfl rfl rfl rfl fun j => ?_
    simp only [Function.update_apply]
    split
    · next hj => rw [hj, finalizeStep_permitHeld hr]
    · rfl
  all_goals first
    | cases hs
      exact h.congr rfl rfl rfl rfl fun _ => rfl
    | split at hs <;> cases hs <;> exact h.congr rfl rfl rfl rfl fun _ => rfl
    | cases hs

theorem permitInv_step {a : Action} (h : PermitInv s) (hok : PermitGuard s a)
    (hs : step cfg s a = some s') : PermitInv s' := by
  cases step_acts hs with
  | create =>
    refine h.congr rfl rfl rfl rfl fun j => ?_
    simp only [Function.update_apply]
    split
    · next hj => rw [hj]
    · rfl
  | creator _ hr =>
    obtain ⟨hp, hx⟩ := creatorStep_permits hr
    exact h.setInst hp hx
  | creatorOnly hr => exact h.setInst rfl (by rw [hr.eq])
  | dispatch => exact permitInv_dispatch h hok hs
  | dispatchDone => exact permitInv_dispatchDone h hs
  | task hr => exact permitInv_task h hok hr
  | taskOnly hr =>
    have hset := (hr.quiet (h.tasksOk _)).settles (h.standing _)
    exact h.update hr.ne_zero hset rfl (Function.update_eq_self _ _).symm rfl rfl
  | call hr => exact permitInv_call h hok hr
  | @client q r hr =>
    obtain ⟨hp, hx⟩ := clientStep_permits hr
    have := h.setInst (i := (s.clients q).inst) (r := (r.1, r.2.1)) hp hx
    exact this.congr rfl rfl rfl rfl fun _ => rfl
  | closer => exact permitInv_closer h hs
  | clientOnly | send | stop | closeCtxEnd => exact h.congr rfl rfl rfl rfl fun _ => rfl

theorem permitInv_init : PermitInv {} where
  fresh _ _ := rfl
  tasksOk _ := by constructor <;> simp [TaskPc.beforeStop, Task.midway, Task.callPc]
  tokens := rfl
  unique _ _ h := by simp [Task.isOpen] at h
  spawning _ h := by simp [Task.isOpen] at h
  flag _ := by simp [Task.isOpen]

theorem permitInv_of_reachable (h : (system cfg).ReachableUnder PermitGuard s) : PermitInv s :=
  h.invariant (fun _ hs => hs ▸ permitInv_init) fun _ _ _ hI hok hs => permitInv_step hI hok hs

end Preservation

/-! ## Conservation -/

/-- Service code that is not at a Call is not midway either. -/
theorem TaskOk.handler {k : Task} {pc : CallPc} (hk : TaskOk k) (h : k.handlerPc = some pc)
    (hrun : pc = .running ∨ pc = .calling) : k.isOpen = true ∧ k.midway = false := by
  have hmidway : pc.midway = false := by rcases hrun with rfl | rfl <;> rfl
  unfold Task.handlerPc at h
  split at h
  · next n p hp =>
    have hcode : k.callPc .handle = some p := by rw [Task.callPc, hp]
    refine ⟨by rw [Task.isOpen, hp], ?_⟩
    rw [(hk.codeMoved hcode p).midway, Option.some.inj h, hmidway]
  · next q hp => exact ⟨by rw [Task.isOpen, hp], (hk.codeMoved h pc).midway.trans hmidway⟩
  · cases h

theorem PermitInv.permitsConserved {s : State} (h : PermitInv s) : PermitsConserved s where
  tokens := h.tokens
  idle hd hl := by
    rw [h.tokens, State.owners, hd, poolCount_eq_zero fun t ht => by simp [Task.ownsLive, hl t ht]]
    rfl
  canYield t _ pc hpc hrun howns := by
    obtain ⟨hopen, hmid⟩ := (h.tasksOk t).handler hpc hrun
    rw [h.flag_of_isOpen hopen, Task.holdsFlag, howns, hmid]
    rfl

/-- **Permit conservation.** In every run in which flags and tokens are kept together, every
state conserves permits. -/
theorem permits_conserved {cfg : Config} {s : State}
    (h : (system cfg).ReachableUnder PermitGuard s) : PermitsConserved s :=
  (permitInv_of_reachable h).permitsConserved

/-! ## Concrete runs -/

/-- A handler makes a Call and resumes: the Runtime is in the middle of a well-behaved run. -/
def callTrace : List Action :=
  List.flatten [createTrace, sendTrace 0, dispatchTrace, [.task 0, .callStart 0 .handle false],
    List.replicate 4 (.call 0 .handle)]

theorem permits_conserved_callTrace :
    ∃ s, (system (smallConfig 0)).ReachableUnder PermitGuard s ∧
      ((s.tasks 0).handlerPc = some .running ∧ s.shared.permits = 1) ∧ PermitsConserved s := by
  obtain ⟨s, hs, hp⟩ := (system (smallConfig 0)).exists_reachableUnder_of_run
    PermitGuard callTrace (s := {})
    (fun s => (s.tasks 0).handlerPc = some .running ∧ s.shared.permits = 1) rfl
    (by decide +kernel)
  exact ⟨s, hs, by simpa using hp, permits_conserved hs⟩

/-- Task `0` clears `ready`; before its deferred release a second task of the instance starts. The
first task then releases on the second one's flag, the handler of the second task is refused its
Call, and its token is never given back. -/
def overlapTrace : List Action :=
  List.flatten [createTrace, sendTrace 0, dispatchTrace, [.task 0, .handleReturn 0 false],
    List.replicate 4 (.task 0), sendTrace 1, dispatchTrace,
    [.task 1, .task 0, .task 0, .callStart 1 .handle false, .call 1 .handle, .handleReturn 1 false],
    List.replicate 5 (.task 1)]

/-- `Stop` is inside a Call when `StopTimeout` expires; the task ends, and only then does the
abandoned `Stop` resume. -/
def abandonedStopTrace : List Action :=
  List.flatten [createTrace, stopTrace 0, dispatchTrace, List.replicate 3 (.task 0),
    [.callStart 0 .stop false, .call 0 .stop, .call 0 .stop, .taskTimeout 0],
    List.replicate 11 (.task 0), [.call 0 .stop, .call 0 .stop]]

/-- Nothing is running and yet a token is taken. -/
def idleWithToken (s : State) : Bool :=
  s.dispatcher = .popping && s.tasksDone && s.shared.permits = 1

theorem not_permitsConserved_of_idleWithToken {s : State} (h : idleWithToken s = true) :
    ¬ PermitsConserved s := by
  simp only [idleWithToken, State.tasksDone, Bool.and_eq_true, List.all_eq_true, List.mem_range,
    decide_eq_true_eq] at h
  obtain ⟨⟨hd, hl⟩, hp⟩ := h
  intro hc
  have := hc.idle hd fun t ht => by simp [Task.live, hl t ht]
  omega

/-- **Permits leak.** With two workers because two tasks of one instance overlap, and even with
one worker because an abandoned `Stop` resumes. -/
theorem permits_not_conserved :
    (∃ s, (system (smallConfig 1)).Reachable s ∧ ¬ PermitsConserved s) ∧
      ∃ s, (system (smallConfig 0)).Reachable s ∧ ¬ PermitsConserved s := by
  constructor
  · obtain ⟨s, hs, hp⟩ := (system (smallConfig 1)).exists_reachableUnder_of_run
      (fun _ _ => True) overlapTrace (s := {}) idleWithToken rfl
      (by decide +kernel)
    exact ⟨s, hs, not_permitsConserved_of_idleWithToken hp⟩
  · obtain ⟨s, hs, hp⟩ := (system (smallConfig 0)).exists_reachableUnder_of_run
      (fun _ _ => True) abandonedStopTrace (s := {}) idleWithToken rfl
      (by decide +kernel)
    exact ⟨s, hs, not_permitsConserved_of_idleWithToken hp⟩

end GameServiceRuntime.Runtime
