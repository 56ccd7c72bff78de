import GameServiceRuntime.Lib.Transition
import GameServiceRuntime.Runtime.Step

/-!
# The Runtime as a transition system

The dispatcher and `Runtime.Close`, which touch every part of the state, and the system in which
these two, every `process` task, every Service callback and every goroutine inside
`CreateService`, `Send` or `Stop` may take its next step at any time. Its runs are all
interleavings.
-/

namespace GameServiceRuntime.Runtime

namespace State

/-! ## The dispatcher -/

/-- `dispatchLoop`. -/
def stepDispatcher (cfg : Config) (s : State) : Option State :=
  match s.dispatcher with
  | .popping =>
    if s.shared.queueClosed then some { s with dispatcher := .exited }
    else match s.shared.queue with
      | [] => none
      | i :: rest =>
        some { s with shared := { s.shared with queue := rest }, dispatcher := .acquiring i }
  | .acquiring i =>
    if s.shared.permits < cfg.workers then
      some { s with
        shared := { s.shared with permits := s.shared.permits + 1 }, dispatcher := .looking i }
    else none
  | .looking i =>
    some { s with dispatcher := if (s.insts i).registered then .storing i else .releasing }
  | .releasing =>
    some { s with
      shared := { s.shared with permits := s.shared.permits - 1 }, dispatcher := .popping }
  | .storing i =>
    some { s with
      insts := Function.update s.insts i { s.insts i with permitHeld := true }
      dispatcher := .spawning i }
  | .spawning i =>
    some { s with
      tasks := Function.update s.tasks s.numTasks { inst := i, pc := .loop 0, owns := true }
      numTasks := s.numTasks + 1
      dispatcher := .popping }
  | .exited => none

/-- `acquire` fails once the scheduler is closed. -/
def stepDispatcherDone (s : State) : Option State :=
  match s.dispatcher with
  | .acquiring _ => if s.shared.schedDone then some { s with dispatcher := .exited } else none
  | _ => none

/-! ## Runtime.Close -/

/-- `creating.Wait()` would return: no `CreateService` is in progress. -/
def creationsDone (s : State) : Bool :=
  (List.range s.numInsts).all fun i => (s.insts i).creator = .done

/-- `tasks.Wait()` would return: every `process` task has ended. -/
def tasksDone (s : State) : Bool :=
  (List.range s.numTasks).all fun t => (s.tasks t).pc = .ended

/-- The clients after starting the goroutines that stop the instances `is`. -/
def startStops (s : State) (is : List ℕ) : ClientId → Client
  | .close i => if i ∈ is then { pc := .stopGet, inst := i } else s.clients (.close i)
  | .user u => s.clients (.user u)

/-- The `Stop` goroutines of `closeRuntime` have all returned. -/
def stopsDone (s : State) (is : List ℕ) : Bool :=
  is.all fun i => match (s.clients (.close i)).pc with
    | .returned _ => true
    | _ => false

/-- The next operation of the goroutine inside `Runtime.Close`. -/
def stepCloser (s : State) : Option State :=
  match s.closer with
  | .idle => some { s with closer := .lockCreate }
  | .lockCreate =>
    if s.shared.createMu then none
    else some { s with shared := { s.shared with createMu := true }, closer := .casState }
  | .casState =>
    some { s with
      shared := { s.shared with running := false, createMu := false }, closer := .shutdown }
  | .shutdown => some { s with closer := .waitCreating }
  | .waitCreating =>
    if s.creationsDone ∨ s.closeCtx.isSome then some { s with closer := .snapshot } else none
  | .snapshot =>
    let is := (List.range s.numInsts).filter fun i => (s.insts i).registered
    some { s with clients := s.startStops is, closer := .stopping is }
  | .stopping is =>
    if s.stopsDone is ∨ s.closeCtx.isSome then some { s with closer := .forcedCause is } else none
  | .forcedCause is =>
    match s.closeCtx with
    | some cause => some { s with closer := .forced .failed cause is .cas }
    | none => some { s with closer := .forced .closed [.runtimeClosed] is .cas }
  | .forced _ _ [] _ => some { s with closer := .closeDone }
  | .forced status cause (i :: is) pc =>
    (finalizeStep status cause (s.insts i) pc).map fun r =>
      { s with
        insts := Function.update s.insts i r.1
        closer := match r.2 with
          | some pc' => .forced status cause (i :: is) pc'
          | none => .forced status cause is .cas }
  | .closeDone =>
    some { s with shared := { s.shared with schedDone := true }, closer := .closeQueue }
  | .closeQueue =>
    some { s with
      shared := { s.shared with queueClosed := true, queue := [] }, closer := .waitTasks }
  | .waitTasks =>
    if s.dispatcher = .exited ∧ (s.tasksDone ∨ s.closeCtx.isSome) then
      some { s with closer := .clear }
    else none
  | .clear =>
    some { s with
      insts := fun i => { s.insts i with registered := false }, closer := .closed }
  | .closed => none

/-! ## Placing the local steps

The steps of `Step` put back into the state. -/

/-- Task `t` and its instance after a step of the task's own code. -/
def setTask (s : State) (t : ℕ) (r : Shared × Inst ClientId × Task) : State :=
  { s with
    shared := r.1
    insts := Function.update s.insts (s.tasks t).inst r.2.1
    tasks := Function.update s.tasks t r.2.2 }

/-- Task `t` after a step that touches nothing else. -/
def setTaskOnly (s : State) (t : ℕ) (k : Task) : State :=
  { s with tasks := Function.update s.tasks t k }

/-- Instance `i` after a step of the goroutine creating it. -/
def setInst (s : State) (i : ℕ) (r : Shared × Inst ClientId) : State :=
  { s with shared := r.1, insts := Function.update s.insts i r.2 }

/-- Client `q` and its instance after a step of the client. -/
def setClient (s : State) (q : ClientId) (r : Shared × Inst ClientId × Client) : State :=
  { s with
    shared := r.1
    insts := Function.update s.insts (s.clients q).inst r.2.1
    clients := Function.update s.clients q r.2.2 }

/-- Client `q` after a step that touches nothing else. -/
def setClientOnly (s : State) (q : ClientId) (c : Client) : State :=
  { s with clients := Function.update s.clients q c }

/-- Deliver a result to the `request.result` channel of a `Stop` caller. -/
def deliver (s : State) : Option (ClientId × GoError) → State
  | none => s
  | some (q, result) => s.setClientOnly q { s.clients q with result := some result }

end State

/-! ## The system -/

/-- What can happen next. -/
inductive Action
  /-- `CreateService` is called; the check of the Runtime's state, the count of creations in
  progress and the choice of the reference are its first operation -/
  | create (discard startup : Bool)
  | creator (i : ℕ)
  | creatorTimeout (i : ℕ)
  | initReturn (i : ℕ) (err : GoError)
  | creatorCloseReturn (i : ℕ) (err : GoError)
  | dispatch
  | dispatchDone
  | task (t : ℕ)
  | taskTimeout (t : ℕ)
  | handleReturn (t : ℕ) (panics : Bool)
  | stopReturn (t : ℕ) (err : GoError)
  | closeReturn (t : ℕ) (err : GoError)
  | callStart (t : ℕ) (w : Caller) (await : Bool)
  | call (t : ℕ) (w : Caller)
  | resumeFail (t : ℕ) (w : Caller)
  /-- some goroutine calls `Send` on instance `i` with Command `n` -/
  | send (u i n : ℕ)
  /-- some goroutine calls `Stop` on instance `i` -/
  | stop (u i : ℕ)
  | client (q : ClientId)
  | clientNotFound (q : ClientId)
  | clientCtx (q : ClientId)
  | clientTimer (q : ClientId)
  /-- the context a user gave to `Stop` ends with a non-nil cause -/
  | ctxEnd (u : ℕ) (cause : GoError)
  | closer
  /-- the context of `closeRuntime` ends: its own timeout, or the context given to `Close` -/
  | closeCtxEnd (cause : GoError)
  deriving DecidableEq

/-- The effect of an action, if it is enabled. -/
def step (cfg : Config) (s : State) : Action → Option State
  | .create discard startup =>
    if s.shared.createMu ∨ s.shared.running = false then none
    else some { s with
      insts := Function.update s.insts s.numInsts
        { s.insts s.numInsts with discardMailbox := discard, hasStartup := startup }
      numInsts := s.numInsts + 1 }
  | .creator i =>
    if i < s.numInsts then (creatorStep cfg i s.shared (s.insts i)).map (s.setInst i) else none
  | .creatorTimeout i => (creatorTimeoutStep (s.insts i)).map fun x => s.setInst i (s.shared, x)
  | .initReturn i err => (initReturnStep err (s.insts i)).map fun x => s.setInst i (s.shared, x)
  | .creatorCloseReturn i err =>
    (creatorCloseReturnStep err (s.insts i)).map fun x => s.setInst i (s.shared, x)
  | .dispatch => s.stepDispatcher cfg
  | .dispatchDone => s.stepDispatcherDone
  | .task t =>
    let k := s.tasks t
    (taskStep cfg s.shared (s.insts k.inst) k).map fun r => (s.setTask t r).deliver k.pc.reply
  | .taskTimeout t => (taskTimeoutStep s.ctxOf (s.tasks t)).map (s.setTaskOnly t)
  | .handleReturn t panics => (handleReturnStep panics (s.tasks t)).map (s.setTaskOnly t)
  | .stopReturn t err => (stopReturnStep err (s.tasks t)).map (s.setTaskOnly t)
  | .closeReturn t err => (closeReturnStep err (s.tasks t)).map (s.setTaskOnly t)
  | .callStart t w await =>
    let k := s.tasks t
    (callStartStep w await (s.insts k.inst) k).map (s.setTaskOnly t)
  | .call t w =>
    let k := s.tasks t
    (callStep cfg w s.shared (s.insts k.inst) k).map (s.setTask t)
  | .resumeFail t w => (resumeFailStep w s.shared (s.tasks t)).map (s.setTaskOnly t)
  | .send u i n =>
    if (s.clients (.user u)).pc = .idle then
      some (s.setClientOnly (.user u) { pc := .sendLoad n, inst := i })
    else none
  | .stop u i =>
    if (s.clients (.user u)).pc = .idle then
      some (s.setClientOnly (.user u) { pc := .stopGet, inst := i })
    else none
  | .client q =>
    let c := s.clients q
    (clientStep cfg q s.shared (s.insts c.inst) c).map (s.setClient q)
  | .clientNotFound q =>
    let c := s.clients q
    (clientNotFoundStep (s.insts c.inst) c).map (s.setClientOnly q)
  | .clientCtx q => (clientCtxStep (s.ctxOf q) (s.clients q)).map (s.setClientOnly q)
  | .clientTimer q => (clientTimerStep (s.clients q)).map (s.setClientOnly q)
  | .ctxEnd u cause =>
    let c := s.clients (.user u)
    if c.ctx = none ∧ cause ≠ [] then some (s.setClientOnly (.user u) { c with ctx := some cause })
    else none
  | .closer => s.stepCloser
  | .closeCtxEnd cause =>
    if s.closeCtx = none ∧ cause ≠ [] ∧ s.closer ≠ .idle then
      some { s with closeCtx := some cause }
    else none

/-- A Runtime and all its interleavings, from the state `NewRuntime` returns. -/
def system (cfg : Config) : System State Action where
  init s := s = {}
  step := step cfg

/-! ## Small schedules -/

/-- A Runtime with `n + 1` workers that handles one item per batch. -/
def smallConfig (n : ℕ) : Config := ⟨n + 1, 1, 1, by omega, by omega, by omega⟩

/-- `CreateService` of instance `0`, up to its successful end. -/
def createTrace : List Action :=
  List.flatten [[.create false false, .creator 0, .creator 0, .initReturn 0 []],
    List.replicate 4 (.creator 0)]

/-- One `Send` to instance `0` by user `u`. -/
def sendTrace (u : ℕ) : List Action := .send u 0 1 :: List.replicate 8 (.client (.user u))

/-- One `Stop` of instance `0` by user `u`, up to its final `select`. -/
def stopTrace (u : ℕ) : List Action := .stop u 0 :: List.replicate 8 (.client (.user u))

/-- The dispatcher starts the next `process` task. -/
def dispatchTrace : List Action := List.replicate 5 .dispatch

end GameServiceRuntime.Runtime
