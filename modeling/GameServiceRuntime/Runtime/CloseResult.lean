import GameServiceRuntime.Lib.Transition

/-!
# The result of closing a Runtime

Any number of goroutines call `Runtime.Close`. The first one closes the runners one after the other,
then the transport, waits for the creations in progress, stops the Services all at once and closes
the scheduler, and what goes wrong on the way is joined into one error. The others wait until that
error is saved.

The waits end early when the context of the close expires. The wait for the creations then replaces
what was joined so far by the cause of the expiry, and the wait for the Services leaves the results
that it has not yet received in their channel.

What runners, the transport, Services and the scheduler return is up to the environment. So is the
point at which the parent context or `ShutdownTimeout` expires, and which branch of a `select` is
taken when two are ready.

`closeFailures` and `stopFailures` are not in the source. They list the errors that the caller of
`Close` should be able to find in its result.

## Main results

* `close_reports` — all results are the same, and every failure is found in them if no wait ends
  early with failures behind it
* `close_forgets` — the two ways in which a failure is lost
-/

namespace GameServiceRuntime.Runtime.CloseResult

/-- Error values, what `errors.Is` can be asked about, and the values the code knows by name. -/
structure Errors (ε τ : Type) where
  /-- `errors.Is` on an error that is not made by `errors.Join` here -/
  is : ε → τ → Bool
  serviceClosed : τ
  canceled : τ
  deadlineExceeded : τ
  /-- `ErrCloseTimeout` -/
  closeTimeout : ε

/-- A value, or what `errors.Join` makes of some errors. -/
inductive Err (ε : Type)
  | value (e : ε)
  | join (errs : List (Err ε))

variable {ε τ : Type} (E : Errors ε τ)

mutual

def Err.is (target : τ) : Err ε → Bool
  | .value e => E.is e target
  | .join errs => anyIs target errs

/-- `errors.Is` of one of the errors. -/
def anyIs (target : τ) : List (Err ε) → Bool
  | [] => false
  | err :: errs => err.is target || anyIs target errs

end

/-- `errors.Join(result, err)`, where only `result` can be nil. -/
def join (result : Option (Err ε)) (err : Err ε) : Err ε := .join (result.toList ++ [err])

/-- `if err != nil { result = errors.Join(result, err) }` -/
def joinIf (result : Option (Err ε)) : Option (Err ε) → Option (Err ε)
  | some err => some (join result err)
  | none => result

/-- `errors.Is(err, context.Canceled) || errors.Is(err, context.DeadlineExceeded)` -/
def Errors.isContext (e : ε) : Bool := E.is e E.canceled || E.is e E.deadlineExceeded

/-- Where the goroutine that closes the Runtime is. -/
inductive Phase (ε : Type)
  /-- nobody has called `Close` -/
  | running
  /-- in `closeAll`, with so many runners to go and their errors so far -/
  | runners (left : ℕ) (result : Option (Err ε))
  | transport
  /-- waiting for the creations in progress -/
  | creating
  /-- waiting for the Services -/
  | stopping
  /-- receiving from `stopResults` -/
  | collecting
  | scheduler
  | saving
  | closed

/-- The goroutine that stops a Service. -/
inductive Stopper
  /-- in `Stop` -/
  | stopping
  /-- in `instance.wait` -/
  | waiting
  | finished
  deriving DecidableEq

/-- A goroutine that calls `Close`. -/
inductive Closer (ε : Type)
  | idle
  | effective
  /-- in `waitClose` -/
  | waiting
  | gaveUp
  | returned (result : Option (Err ε))

/-- The Runtime as far as its closing is concerned. -/
structure State (ε : Type) where
  phase : Phase ε := .running
  /-- the variable `result` of `closeRuntime` -/
  result : Option (Err ε) := none
  closeResult : Option (Err ε) := none
  /-- `closeDone` is closed -/
  closeDone : Bool := false
  /-- the cause of the parent context, once it is done -/
  parent : Option ε := none
  /-- `closeCtx` is done -/
  expired : Bool := false
  /-- creations in progress -/
  creations : ℕ := 0
  /-- the goroutines of the Services in the snapshot -/
  stoppers : ℕ → Stopper := fun _ => .stopping
  instances : ℕ := 0
  /-- the channel `stopResults` -/
  stopResults : List (Option ε) := []
  closers : ℕ → Closer ε := fun _ => .idle
  owner : ℕ := 0
  closeFailures : List ε := []
  stopFailures : List ε := []

namespace State

def runtimeCloseCause (s : State ε) : ε := s.parent.getD E.closeTimeout

/-- A runner or the transport returned an error. -/
def closeFailed (s : State ε) (err : Option ε) : State ε :=
  { s with closeFailures := s.closeFailures ++ err.toList }

/-- A Service that stopped: its error is put into the channel. It should be reported if nothing has
expired yet, it is not `ErrServiceClosed` and it is no context error. -/
def finish (s : State ε) (i : ℕ) (err : Option ε) : State ε :=
  { s with
    stoppers := Function.update s.stoppers i .finished
    stopResults := s.stopResults ++ [err]
    stopFailures := s.stopFailures ++
      if s.expired then [] else
        (err.filter fun e => !E.is e E.serviceClosed && !E.isContext e).toList }

/-- The error of an operation under `closeCtx`, with the cause in the place of a context error. -/
def causeFor (s : State ε) (e : ε) : ε :=
  if s.expired && E.isContext e then s.runtimeCloseCause E else e

end State

/-- What can happen. -/
inductive Action (ε : Type)
  /-- `CreateService` begins. -/
  | create
  /-- `CreateService` is over. -/
  | created
  /-- A goroutine calls `Close`; if it is the first, there are this many runners. -/
  | close (c : ℕ) (runners : ℕ)
  /-- The next runner's `Close` returns. -/
  | runnerClosed (err : Option ε)
  /-- `closeAll` returns. -/
  | runnersClosed
  /-- The transport's `Close` returns, if there is one. -/
  | transportClosed (err : Option ε)
  /-- The creations are over, and there are this many Services. -/
  | creationsDone (instances : ℕ)
  /-- The wait for the creations ends early. -/
  | creationsExpired (instances : ℕ)
  /-- `Stop` of a Service returns. -/
  | stopped (i : ℕ) (err : Option ε)
  /-- `instance.wait` returns. -/
  | waited (i : ℕ) (err : Option ε)
  /-- All Services are stopped. -/
  | allStopped
  /-- The wait for the Services ends early. -/
  | stopsExpired
  /-- The next result is received. -/
  | collect
  /-- There are no more results. -/
  | collected
  | schedulerClosed (err : Option ε)
  /-- `Close` saves the result and returns it. -/
  | save
  /-- A goroutine in `waitClose` finds `closeDone` closed. -/
  | wake (c : ℕ)
  /-- Its context is done. -/
  | giveUp (c : ℕ)
  /-- The parent context is done. -/
  | parentDone (cause : ε)
  /-- `ShutdownTimeout` is over. -/
  | timeout

/-- The effect of an action, if it is enabled. -/
def step (s : State ε) : Action ε → Option (State ε)
  | .create => match s.phase with
    | .running => some { s with creations := s.creations + 1 }
    | _ => none
  | .created => if s.creations = 0 then none else some { s with creations := s.creations - 1 }
  | .close c runners => match s.closers c with
    | .idle => match s.phase with
      | .running => some { s with
          phase := .runners runners none
          owner := c
          closers := Function.update s.closers c .effective }
      | _ => some { s with closers := Function.update s.closers c .waiting }
    | _ => none
  | .runnerClosed err => match s.phase with
    | .runners (left + 1) result =>
      some { s.closeFailed err with phase := .runners left (joinIf result (err.map .value)) }
    | _ => none
  | .runnersClosed => match s.phase with
    | .runners 0 result => some { s with phase := .transport, result := joinIf s.result result }
    | _ => none
  | .transportClosed err => match s.phase with
    | .transport =>
      some { s.closeFailed err with phase := .creating, result := joinIf s.result (err.map .value) }
    | _ => none
  | .creationsDone instances => match s.phase with
    | .creating =>
      if s.creations = 0 then some { s with phase := .stopping, instances := instances } else none
    | _ => none
  | .creationsExpired instances => match s.phase with
    | .creating =>
      if s.expired then
        some { s with
          phase := .stopping
          instances := instances
          result := some (.value (s.runtimeCloseCause E)) }
      else none
    | _ => none
  | .stopped i err =>
    if i < s.instances ∧ s.stoppers i = .stopping then
      if err.any fun e => E.is e E.serviceClosed then
        some { s with stoppers := Function.update s.stoppers i .waiting }
      else some (s.finish E i err)
    else none
  | .waited i err =>
    if i < s.instances ∧ s.stoppers i = .waiting then some (s.finish E i err) else none
  | .allStopped => match s.phase with
    | .stopping =>
      if ∀ i < s.instances, s.stoppers i = .finished then some { s with phase := .collecting }
      else none
    | _ => none
  | .stopsExpired => match s.phase with
    | .stopping =>
      if s.expired then
        some { s with
          phase := .scheduler
          result := some (join s.result (.value (s.runtimeCloseCause E))) }
      else none
    | _ => none
  | .collect => match s.phase, s.stopResults with
    | .collecting, err :: rest =>
      some { s with
        stopResults := rest
        result := joinIf s.result
          ((err.filter fun e => !E.is e E.serviceClosed).map fun e => .value (s.causeFor E e)) }
    | _, _ => none
  | .collected => match s.phase, s.stopResults with
    | .collecting, [] => some { s with phase := .scheduler }
    | _, _ => none
  | .schedulerClosed err => match s.phase with
    | .scheduler =>
      some { s with
        phase := .saving
        result := joinIf s.result (err.map fun e => .value (s.causeFor E e)) }
    | _ => none
  | .save => match s.phase with
    | .saving =>
      some { s with
        phase := .closed
        closeResult := s.result
        closeDone := true
        closers := Function.update s.closers s.owner (.returned s.result) }
    | _ => none
  | .wake c => match s.closers c with
    | .waiting =>
      if s.closeDone then
        some { s with closers := Function.update s.closers c (.returned s.closeResult) }
      else none
    | _ => none
  | .giveUp c => match s.closers c with
    | .waiting => some { s with closers := Function.update s.closers c .gaveUp }
    | _ => none
  | .parentDone cause => match s.parent with
    | none => some { s with parent := some cause, expired := true }
    | some _ => none
  | .timeout => match s.phase with
    | .running => none
    | _ => some { s with expired := true }

/-- A Runtime that runs. -/
def system : System (State ε) (Action ε) where
  init s := s = {}
  step := step E

/-- The wait for the creations ends early only if no runner and no transport failed, and the wait
for the Services only if none failed before. -/
def Behind (s : State ε) : Action ε → Prop
  | .creationsExpired _ => s.closeFailures = []
  | .stopsExpired => s.stopFailures = []
  | _ => True

instance [DecidableEq ε] : ∀ (s : State ε) (a : Action ε), Decidable (Behind s a)
  | s, .creationsExpired _ => inferInstanceAs (Decidable (s.closeFailures = []))
  | s, .stopsExpired => inferInstanceAs (Decidable (s.stopFailures = []))
  | _, .create | _, .created | _, .close _ _ | _, .runnerClosed _ | _, .runnersClosed
  | _, .transportClosed _ | _, .creationsDone _ | _, .stopped _ _ | _, .waited _ _ | _, .allStopped
  | _, .collect | _, .collected | _, .schedulerClosed _ | _, .save | _, .wake _ | _, .giveUp _
  | _, .parentDone _ | _, .timeout => .isTrue trivial

/-! ### What is found in a result -/

/-- `errors.Is` on an error that may be nil. -/
def Matches (r : Option (Err ε)) (t : τ) : Prop := ∃ err, r = some err ∧ err.is E t = true

section Matches

variable {E} {r : Option (Err ε)} {t : τ}

theorem is_value {e : ε} : (Err.value e).is E t = E.is e t := by rw [Err.is]

theorem is_join {err : Err ε} : (join r err).is E t = true ↔ Matches E r t ∨ err.is E t = true := by
  rw [join, Err.is]
  cases r with
  | none | some r => simp [anyIs, Matches]

theorem Matches.joinIf_left (h : Matches E r t) (o : Option (Err ε)) :
    Matches E (joinIf r o) t := by
  cases o with
  | none => exact h
  | some err => exact ⟨_, rfl, is_join.2 (.inl h)⟩

theorem Matches.joinIf_right {o : Option (Err ε)} (h : Matches E o t) (r : Option (Err ε)) :
    Matches E (joinIf r o) t := by
  obtain ⟨err, rfl, herr⟩ := h
  exact ⟨_, rfl, is_join.2 (.inr herr)⟩

theorem matches_value {e : ε} (h : E.is e t = true) : Matches E (some (.value e)) t :=
  ⟨_, rfl, is_value.trans h⟩

end Matches

/-! ### One result for all -/

section Results

variable {E} {s s' : State ε}

/-- Who has returned has returned what was saved, which is what `closeRuntime` returned. -/
structure Saved (s : State ε) : Prop where
  closed : s.closeDone = true → s.phase = .closed ∧ s.closeResult = s.result
  returned : ∀ c r, s.closers c = .returned r → s.closeDone = true ∧ r = s.closeResult

theorem update_returned {f : ℕ → Closer ε} {c d : ℕ} {x : Closer ε} {r : Option (Err ε)}
    (h : Function.update f c x d = .returned r) : x = .returned r ∨ f d = .returned r := by
  rw [Function.update_apply] at h
  split_ifs at h
  · exact .inl h
  · exact .inr h

/-- Before the result is saved, nothing is. -/
theorem Saved.of_phase (h : Saved s) (hphase : s.phase ≠ .closed) : s.closeDone = false := by
  by_contra hdone
  exact hphase (h.closed (by simpa using hdone)).1

/-- A step of `closeRuntime`. -/
theorem Saved.move (h : Saved s) (hphase : s.phase ≠ .closed) (hdone : s'.closeDone = s.closeDone)
    (hclosers : ∀ c r, s'.closers c = .returned r → s.closers c = .returned r) : Saved s' := by
  have hfalse := h.of_phase hphase
  refine ⟨fun hd => ?_, fun c r hc => ?_⟩
  · rw [hdone, hfalse] at hd
    cases hd
  · have := (h.returned c r (hclosers c r hc)).1
    rw [hfalse] at this
    cases this

theorem Saved.step {a : Action ε} (h : Saved s) (hstep : step E s a = some s') : Saved s' := by
  revert hstep
  fun_cases CloseResult.step E s a <;> intro hstep <;> cases hstep
  -- `closeRuntime` moves on
  case case1 hphase | case8 hphase | case10 hphase | case12 hphase | case14 hphase _
      | case17 hphase _ | case25 hphase _ | case28 hphase _ | case31 _ hphase | case33 _ hphase
      | case35 hphase =>
    exact h.move (by rw [hphase]; nofun) rfl fun _ _ => id
  -- the first caller of `Close`, the others, and who gives up
  case case5 hphase =>
    exact h.move (by rw [hphase]; nofun) rfl fun d r hd => (update_returned hd).resolve_left nofun
  case case6 | case42 =>
    exact ⟨h.closed, fun d r hd => h.returned d r ((update_returned hd).resolve_left nofun)⟩
  case case37 hphase =>
    refine ⟨fun _ => ⟨rfl, rfl⟩, fun d r hd => ⟨rfl, ?_⟩⟩
    -- nobody has returned before the result is saved
    rcases update_returned hd with hr | hd
    · exact (Closer.returned.inj hr).symm
    · have := (h.returned d r hd).1
      rw [h.of_phase (by rw [hphase]; nofun)] at this
      cases this
  -- who waits wakes up
  case case39 hdone =>
    refine ⟨h.closed, fun d r hd => ⟨hdone, ?_⟩⟩
    rcases update_returned hd with hr | hd
    · exact (Closer.returned.inj hr).symm
    · exact (h.returned d r hd).2
  all_goals exact ⟨h.closed, h.returned⟩

theorem reachable_saved (h : (system E).Reachable s) : Saved s := by
  refine h.invariant ?_ ?_
  · rintro _ rfl
    exact ⟨nofun, nofun⟩
  · exact fun s a s' hsaved _ hstep => hsaved.step hstep

end Results

/-! ### Every failure is found -/

/-- Before the Services are stopped. -/
def Phase.Early : Phase ε → Prop
  | .running | .runners _ _ | .transport | .creating => True
  | _ => False

/-- While the results of the Services can still be received. -/
def Phase.Receives : Phase ε → Prop
  | .stopping | .collecting => True
  | _ => False

/-- After the results of the Services were received. -/
def Phase.Late : Phase ε → Prop
  | .scheduler | .saving | .closed => True
  | _ => False

/-- What has been joined so far. -/
def State.joined (s : State ε) : Option (Err ε) :=
  match s.phase with
  | .runners _ result => result
  | _ => s.result

/-- Where the failures are: already joined, or in the channel. -/
structure Reported (s : State ε) : Prop where
  close : ∀ e ∈ s.closeFailures, ∀ t, E.is e t = true → Matches E s.joined t
  stop : ∀ e ∈ s.stopFailures, s.phase.Receives ∧ some e ∈ s.stopResults ∨
    ∀ t, E.is e t = true → Matches E s.joined t
  plain : ∀ e ∈ s.stopFailures, E.is e E.serviceClosed = false ∧ E.isContext e = false
  early : s.phase.Early → s.instances = 0 ∧ s.stopFailures = []
  finished : s.phase = .collecting → ∀ i < s.instances, s.stoppers i = .finished
  late : s.phase.Late → s.expired = true ∨ ∀ i < s.instances, s.stoppers i = .finished
  fresh : s.phase = .running → s.closeFailures = []

section Reported

variable {E} {s s' : State ε}

/-- Steps of others. -/
theorem Reported.quiet (h : Reported E s) (hphase : s'.phase = s.phase)
    (hresult : s'.result = s.result)
    (hclose : s'.closeFailures = s.closeFailures) (hstop : s'.stopFailures = s.stopFailures)
    (hresults : s'.stopResults = s.stopResults) (hinstances : s'.instances = s.instances)
    (hexpired : s.expired = true → s'.expired = true)
    (hstoppers : ∀ i < s.instances, s.stoppers i = .finished → s'.stoppers i = .finished) :
    Reported E s' := by
  have hjoined : s'.joined = s.joined := by rw [State.joined, State.joined, hphase, hresult]
  refine ⟨?_, ?_, ?_, ?_, ?_, ?_, ?_⟩
  · rw [hclose, hjoined]
    exact h.close
  · rw [hstop, hphase, hresults, hjoined]
    exact h.stop
  · rw [hstop]
    exact h.plain
  · rw [hphase, hinstances, hstop]
    exact h.early
  · rw [hphase, hinstances]
    exact fun hp i hi => hstoppers i hi (h.finished hp i hi)
  · rw [hphase, hinstances]
    exact fun hp => (h.late hp).imp hexpired fun hall i hi => hstoppers i hi (hall i hi)
  · rw [hphase, hclose]
    exact h.fresh

/-- A goroutine whose Service is not stopped yet: the results are still being waited for, or the
wait has ended early. -/
theorem Reported.unfinished (h : Reported E s) {i : ℕ} (hi : i < s.instances)
    (hne : s.stoppers i ≠ .finished) : s.phase = .stopping ∨ s.phase.Late ∧ s.expired = true := by
  cases hphase : s.phase with
  | running | runners | transport | creating =>
    have hzero := (h.early (by rw [hphase]; trivial)).1
    rw [hzero] at hi
    exact absurd hi (Nat.not_lt_zero i)
  | stopping => exact .inl rfl
  | collecting => exact absurd (h.finished hphase i hi) hne
  | scheduler | saving | closed =>
    refine .inr ⟨trivial, (h.late (by rw [hphase]; trivial)).resolve_right fun hall => ?_⟩
    exact hne (hall i hi)

theorem Reported.finish (h : Reported E s) {i : ℕ} (hi : i < s.instances)
    (hne : s.stoppers i ≠ .finished) (err : Option ε) : Reported E (s.finish E i err) := by
  have hstoppers : ∀ j, s.stoppers j = .finished → (s.finish E i err).stoppers j = .finished := by
    intro j hj
    show Function.update s.stoppers i .finished j = .finished
    rw [Function.update_apply, hj, ite_self]
  have hcases := h.unfinished hi hne
  have hearly : ¬ s.phase.Early := by
    rintro hp
    rw [(h.early hp).1] at hi
    exact Nat.not_lt_zero i hi
  -- an error that should be reported comes while the results are waited for
  have hnew : ∀ e ∈ (s.finish E i err).stopFailures, e ∈ s.stopFailures ∨
      s.phase = .stopping ∧ err = some e ∧ E.is e E.serviceClosed = false ∧
      E.isContext e = false := by
    intro e he
    rcases List.mem_append.1 he with he | he
    · exact .inl he
    · split_ifs at he with hexpired
      · cases he
      · rw [Option.mem_toList, Option.filter_eq_some_iff] at he
        rw [Bool.and_eq_true, Bool.not_eq_true', Bool.not_eq_true'] at he
        exact .inr ⟨hcases.resolve_right fun hlate => hexpired hlate.2, he.1, he.2⟩
  refine ⟨h.close, fun e he => ?_, fun e he => ?_, fun hp => absurd hp hearly,
    fun hp j hj => hstoppers j (h.finished hp j hj),
    fun hp => (h.late hp).imp_right fun hall j hj => hstoppers j (hall j hj), h.fresh⟩
  · rcases hnew e he with hold | ⟨hphase, rfl, -⟩
    · exact (h.stop e hold).imp_left fun hmem => ⟨hmem.1, List.mem_append_left _ hmem.2⟩
    · refine .inl ⟨?_, List.mem_append_right _ (List.mem_singleton_self _)⟩
      show s.phase.Receives
      rw [hphase]
      trivial
  · rcases hnew e he with hold | ⟨-, -, hplain⟩
    · exact h.plain e hold
    · exact hplain

/-- As long as no Service has failed, only the errors of runners and the transport matter. -/
theorem Reported.of_none (hstop : s'.stopFailures = [])
    (hclose : ∀ e ∈ s'.closeFailures, ∀ t, E.is e t = true → Matches E s'.joined t)
    (hearly : s'.phase.Early → s'.instances = 0) (hcollecting : s'.phase ≠ .collecting)
    (hlate : ¬ s'.phase.Late) (hrunning : s'.phase ≠ .running) : Reported E s' := by
  refine ⟨hclose, ?_, ?_, fun hp => ⟨hearly hp, hstop⟩, fun hp => absurd hp hcollecting,
    fun hp => absurd hp hlate, fun hp => absurd hp hrunning⟩
  · rw [hstop]
    nofun
  · rw [hstop]
    nofun

/-- The error of a runner or of the transport is joined. -/
theorem Reported.closeFailed (h : Reported E s) {err : Option ε} {e : ε} {t : τ}
    (he : e ∈ s.closeFailures ++ err.toList) (ht : E.is e t = true) :
    Matches E (joinIf s.joined (err.map .value)) t := by
  rcases List.mem_append.1 he with he | he
  · exact (h.close e he t ht).joinIf_left _
  · rw [Option.mem_toList] at he
    rw [he]
    exact (matches_value ht).joinIf_right _

/-- More is joined, and nothing else happens to the failures. -/
theorem Reported.join (h : Reported E s) (hs : s.joined = s.result) {o : Option (Err ε)}
    {phase : Phase ε} (hphase : phase.Late) (hlate : s.phase.Late) :
    Reported E { s with phase := phase, result := joinIf s.result o } := by
  have hjoined : ∀ t, Matches E s.joined t → Matches E (joinIf s.result o) t := by
    intro t ht
    rw [hs] at ht
    exact ht.joinIf_left o
  have hnew : State.joined { s with phase := phase, result := joinIf s.result o } =
      joinIf s.result o := by
    cases phase <;> first | rfl | exact hphase.elim
  refine ⟨fun e he t ht => ?_, fun e he => .inr fun t ht => ?_, h.plain, fun hp => ?_, fun hp => ?_,
    fun _ => h.late hlate, fun hp => ?_⟩
  · rw [hnew]
    exact hjoined t (h.close e he t ht)
  · rw [hnew]
    refine hjoined t ((h.stop e he).resolve_left (fun hr => ?_) t ht)
    cases hp : s.phase <;> rw [hp] at hr hlate <;> first | exact hr.1 | exact hlate
  · cases phase <;> first | exact hp.elim | exact hphase.elim
  · have hp' : phase = .collecting := hp
    rw [hp'] at hphase
    exact hphase.elim
  · have hp' : phase = .running := hp
    rw [hp'] at hphase
    exact hphase.elim

theorem Reported.collect (h : Reported E s) {err : Option ε} {rest : List (Option ε)}
    (hphase : s.phase = .collecting) (hresults : s.stopResults = err :: rest) :
    Reported E { s with
      stopResults := rest
      result := joinIf s.result
        ((err.filter fun e => !E.is e E.serviceClosed).map fun e => .value (s.causeFor E e)) } := by
  have hnew : ∀ o, State.joined { s with stopResults := rest, result := joinIf s.result o } =
      joinIf s.result o := by
    intro o
    simp only [State.joined, hphase]
  have hold : s.joined = s.result := by rw [State.joined, hphase]
  refine ⟨fun e he t ht => ?_, fun e he => ?_, h.plain, h.early, h.finished, h.late, h.fresh⟩
  · rw [hnew]
    exact (hold ▸ h.close e he t ht).joinIf_left _
  · rcases h.stop e he with ⟨hr, hmem⟩ | hfound
    · rw [hresults, List.mem_cons] at hmem
      rcases hmem with rfl | hmem
      · obtain ⟨hclosed, hcontext⟩ := h.plain e he
        refine .inr fun t ht => ?_
        rw [hnew]
        refine Matches.joinIf_right ?_ _
        simp only [Option.filter_some, hclosed, Bool.not_false, if_true, Option.map_some,
          State.causeFor, hcontext, Bool.and_false, Bool.false_eq_true, if_false]
        exact matches_value ht
      · exact .inl ⟨hr, hmem⟩
    · refine .inr fun t ht => ?_
      rw [hnew]
      exact (hold ▸ hfound t ht).joinIf_left _

/-- **Step.** -/
theorem Reported.step {a : Action ε} (h : Reported E s) (hguard : Behind s a)
    (hstep : step E s a = some s') : Reported E s' := by
  revert hstep hguard
  fun_cases CloseResult.step E s a <;> intro hguard hstep <;> cases hstep
  -- the first caller of `Close`
  case case5 hphase =>
    obtain ⟨hinstances, hnone⟩ := h.early (by rw [hphase]; trivial)
    refine .of_none hnone (fun e he => ?_) (fun _ => hinstances) nofun id nofun
    rw [show s.closeFailures = [] from h.fresh hphase] at he
    cases he
  -- a runner or the transport is closed
  case case8 hphase | case12 hphase =>
    obtain ⟨hinstances, hnone⟩ := h.early (by rw [hphase]; trivial)
    refine .of_none hnone (fun e he t ht => ?_) (fun _ => hinstances) nofun id nofun
    have := h.closeFailed he ht
    rwa [State.joined, hphase] at this
  case case10 hphase =>
    obtain ⟨hinstances, hnone⟩ := h.early (by rw [hphase]; trivial)
    refine .of_none hnone (fun e he t ht => ?_) (fun _ => hinstances) nofun id nofun
    have := h.close e he t ht
    rw [State.joined, hphase] at this
    exact this.joinIf_right _
  -- the wait for the creations
  case case14 hphase _ =>
    refine .of_none (h.early (by rw [hphase]; trivial)).2 (fun e he t ht => ?_) False.elim
      nofun id nofun
    have := h.close e he t ht
    rwa [State.joined, hphase] at this
  case case17 hphase _ =>
    refine .of_none (h.early (by rw [hphase]; trivial)).2 (fun e he => ?_) False.elim nofun id nofun
    rw [show s.closeFailures = [] from hguard] at he
    cases he
  -- a Service stops
  case case20 i _ hi _ =>
    refine h.quiet rfl rfl rfl rfl rfl rfl id fun j _ hj => ?_
    show Function.update s.stoppers i .waiting j = .finished
    rw [Function.update_apply, if_neg, hj]
    rintro rfl
    rw [hi.2] at hj
    cases hj
  case case21 hi _ | case23 hi => exact h.finish hi.1 (by rw [hi.2]; nofun) _
  -- the wait for the Services
  case case25 hphase hall =>
    have hold : s.joined = s.result := by rw [State.joined, hphase]
    refine ⟨fun e he => hold ▸ h.close e he, fun e he => ?_, h.plain, False.elim, fun _ => hall,
      False.elim, nofun⟩
    exact (h.stop e he).imp (fun hmem => ⟨trivial, hmem.2⟩) fun hfound => hold ▸ hfound
  case case28 hphase hexpired =>
    have hold : s.joined = s.result := by rw [State.joined, hphase]
    refine ⟨fun e he t ht => ?_, fun e he => ?_, h.plain, False.elim, nofun, fun _ => .inl hexpired,
      nofun⟩
    · exact ⟨_, rfl, is_join.2 (.inl (hold ▸ h.close e he t ht))⟩
    · rw [show s.stopFailures = [] from hguard] at he
      cases he
  case case31 hresults hphase => exact h.collect hphase hresults
  case case33 hresults hphase =>
    have hold : s.joined = s.result := by rw [State.joined, hphase]
    refine ⟨fun e he => hold ▸ h.close e he, fun e he => .inr ?_, h.plain, False.elim, nofun,
      fun _ => .inr (h.finished hphase), nofun⟩
    refine hold ▸ (h.stop e he).resolve_left fun hmem => ?_
    rw [hresults] at hmem
    exact absurd hmem.2 List.not_mem_nil
  -- the scheduler, and the result is saved
  case case35 hphase =>
    exact h.join (by rw [State.joined, hphase]) trivial (by rw [hphase]; trivial)
  case case37 hphase =>
    have hlate : s.phase.Late := by rw [hphase]; trivial
    have hjoin : Reported E { s with phase := .closed, result := joinIf s.result none } :=
      h.join (by rw [State.joined, hphase]) trivial hlate
    exact hjoin.quiet rfl rfl rfl rfl rfl rfl id fun _ _ => id
  -- the context expires
  case case44 | case47 => exact h.quiet rfl rfl rfl rfl rfl rfl (fun _ => rfl) fun _ _ => id
  all_goals exact h.quiet rfl rfl rfl rfl rfl rfl id fun _ _ => id

theorem reachable_reported (h : (system E).ReachableUnder Behind s) : Reported E s := by
  refine h.invariant ?_ ?_
  · rintro _ rfl
    exact ⟨nofun, nofun, nofun, fun _ => ⟨rfl, rfl⟩, nofun, False.elim, fun _ => rfl⟩
  · exact fun s a s' hreported hguard hstep => hreported.step hguard hstep

/-- **The result of `Close`.** Every goroutine that has returned from `Close` without giving up has
returned the result of the one that closed the Runtime, and one that still waits for it gets it. If
no wait ended early with failures behind it, whatever `errors.Is` finds in an error of a runner, of
the transport or of a Service that stopped before the expiry, it finds in that result. -/
theorem close_reports (s : State ε) :
    ((system E).Reachable s →
      (∀ c d r r', s.closers c = .returned r → s.closers d = .returned r' → r = r') ∧
        ∀ c, s.closeDone = true → s.closers c = .waiting →
          ∃ s', step E s (.wake c) = some s' ∧ s'.closers c = .returned s.closeResult ∧
            s.closeResult = s.result) ∧
      ((system E).ReachableUnder Behind s → ∀ c r, s.closers c = .returned r →
        ∀ e ∈ s.closeFailures ++ s.stopFailures, ∀ t, E.is e t = true → Matches E r t) := by
  constructor
  · intro h
    have hsaved := reachable_saved h
    refine ⟨fun c d r r' hc hd => ?_, fun c hdone hc => ?_⟩
    · rw [(hsaved.returned c r hc).2, (hsaved.returned d r' hd).2]
    · refine ⟨{ s with closers := Function.update s.closers c (.returned s.closeResult) }, ?_,
        Function.update_self .., (hsaved.closed hdone).2⟩
      simp only [CloseResult.step, hc, if_pos hdone]
  · intro h c r hc e he t ht
    have hsaved := reachable_saved h.reachable
    have hreported := reachable_reported h
    obtain ⟨hdone, rfl⟩ := hsaved.returned c r hc
    obtain ⟨hphase, hresult⟩ := hsaved.closed hdone
    rw [hresult]
    have hjoined : s.joined = s.result := by rw [State.joined, hphase]
    rcases List.mem_append.1 he with he | he
    · exact hjoined ▸ hreported.close e he t ht
    · refine hjoined ▸ (hreported.stop e he).resolve_left (fun hmem => ?_) t ht
      rw [hphase] at hmem
      exact hmem.1

end Reported

/-! ### Runs -/

/-- Errors that are numbers, each of which matches itself; the first ones have names. -/
def numbered : Errors ℕ ℕ := ⟨fun e t => e = t, 0, 1, 2, 3⟩

/-- Whether a goroutine has returned an error that matches, or that does not. -/
def Closer.found (e : ℕ) : Closer ℕ → Option Bool
  | .returned r => some (r.any fun err => err.is numbered e)
  | _ => none

theorem exists_of_found {x : Closer ℕ} {e : ℕ} {b : Bool} (h : x.found e = some b) :
    ∃ r, x = .returned r ∧ (Matches numbered r e ↔ b = true) := by
  cases x with
  | returned r =>
    refine ⟨r, rfl, ?_⟩
    rw [Closer.found, Option.some_inj] at h
    rw [← h, Option.any_eq_true]
    rfl
  | idle | effective | waiting | gaveUp => cases h

/-- A runner and a Service fail, and two goroutines close the Runtime. -/
theorem close_reports_sample :
    ∃ s, (system numbered).ReachableUnder Behind s ∧ ∃ r, s.closers 0 = .returned r ∧
      s.closers 1 = .returned r ∧ Matches numbered r 7 ∧ Matches numbered r 8 := by
  obtain ⟨s, hs, hp⟩ := System.exists_reachableUnder_of_run (system numbered) Behind
    [.close 0 1, .close 1 0, .runnerClosed (some 7), .runnersClosed, .transportClosed none,
      .creationsDone 1, .stopped 0 (some 8), .allStopped, .collect, .collected,
      .schedulerClosed none, .save, .wake 1]
    (fun s => 7 ∈ s.closeFailures ∧ 8 ∈ s.stopFailures ∧ (s.closers 0).found 7 = some true ∧
      (s.closers 1).found 7 = some true) (s := {}) rfl (by decide +kernel)
  obtain ⟨hrunner, hstop, hfirst, hsecond⟩ := of_decide_eq_true hp
  obtain ⟨r, hr, -⟩ := exists_of_found hfirst
  obtain ⟨r', hr', -⟩ := exists_of_found hsecond
  obtain ⟨hall, hreports⟩ := close_reports (E := numbered) s
  obtain rfl := (hall hs.reachable).1 0 1 r r' hr hr'
  refine ⟨s, hs, r, hr, hr', ?_, ?_⟩
  · exact hreports hs 0 r hr 7 (List.mem_append_left _ hrunner) 7 rfl
  · exact hreports hs 0 r hr 8 (List.mem_append_right _ hstop) 8 rfl

/-- **Lost failures.** The error of a runner is gone when the wait for a creation ends early, and
the error of a Service is gone when the wait for another one does. -/
theorem close_forgets :
    (∃ s r, (system numbered).Reachable s ∧ s.closers 0 = .returned r ∧ 7 ∈ s.closeFailures ∧
        numbered.is 7 7 = true ∧ ¬ Matches numbered r 7) ∧
      ∃ s r, (system numbered).Reachable s ∧ s.closers 0 = .returned r ∧ 7 ∈ s.stopFailures ∧
        numbered.is 7 7 = true ∧ ¬ Matches numbered r 7 := by
  constructor
  · obtain ⟨s, hs, hp⟩ := System.exists_reachableUnder_of_run (system numbered) (fun _ _ => True)
      [.create, .close 0 1, .runnerClosed (some 7), .runnersClosed, .transportClosed none, .timeout,
        .creationsExpired 0, .allStopped, .collected, .schedulerClosed none, .save]
      (fun s => 7 ∈ s.closeFailures ∧ (s.closers 0).found 7 = some false) (s := {}) rfl
      (by decide +kernel)
    obtain ⟨hfailed, hfound⟩ := of_decide_eq_true hp
    obtain ⟨r, hr, hmatches⟩ := exists_of_found hfound
    exact ⟨s, r, hs, hr, hfailed, rfl, fun h => Bool.false_ne_true (hmatches.1 h)⟩
  · obtain ⟨s, hs, hp⟩ := System.exists_reachableUnder_of_run (system numbered) (fun _ _ => True)
      [.close 0 0, .runnersClosed, .transportClosed none, .creationsDone 2, .stopped 0 (some 7),
        .timeout, .stopsExpired, .schedulerClosed none, .save]
      (fun s => 7 ∈ s.stopFailures ∧ (s.closers 0).found 7 = some false) (s := {}) rfl
      (by decide +kernel)
    obtain ⟨hfailed, hfound⟩ := of_decide_eq_true hp
    obtain ⟨r, hr, hmatches⟩ := exists_of_found hfound
    exact ⟨s, r, hs, hr, hfailed, rfl, fun h => Bool.false_ne_true (hmatches.1 h)⟩

end GameServiceRuntime.Runtime.CloseResult
