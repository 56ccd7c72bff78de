import GameServiceRuntime.Runtime.Instance

/-!
# The state of a Runtime

The shared words of the scheduler and of every Service instance, together with the program
counter of every goroutine that touches them: the dispatcher, the `process` tasks, the goroutines
inside `CreateService`, `Send` or `Stop`, and the one inside `Runtime.Close`.

`Handle` runs on the goroutine of its `process` task, so its position is part of that task's
program counter. `Service.Stop` and `Service.Close` run on goroutines of their own which their
starter may abandon, so they are separate `Callee` fields that go on by themselves.

Sends made by a handler, a timer or another Service are all the same code on some goroutine, so
they are the `ClientPc.send…` positions of an arbitrary client.

Timers, pending Calls, metrics and the tracked-task table are not part of this state: no branch
below depends on them, except that `timeoutOwner` may cancel a running `Stop` early, which the
`stopTimeout` action allows at any time.
-/

namespace GameServiceRuntime.Runtime

/-- `Config` after defaults. -/
structure Config where
  workers : ℕ
  maxBatch : ℕ
  mailboxSize : ℕ
  workers_pos : 0 < workers
  maxBatch_pos : 0 < maxBatch
  mailboxSize_pos : 0 < mailboxSize

/-- A goroutine calling `Send` or `Stop`: some user goroutine, or the one `closeRuntime` starts
to stop instance `i`. -/
inductive ClientId
  | user (n : ℕ)
  | close (i : ℕ)
  deriving DecidableEq

/-! ## Goroutines -/

/-- Where `dispatchLoop` is. -/
inductive DispatcherPc
  /-- `queue.pop()` -/
  | popping
  /-- `acquire()`, holding the popped reference -/
  | acquiring (i : ℕ)
  /-- `registry.get(ref)`, owning a permit -/
  | looking (i : ℕ)
  /-- `release()` after a failed lookup -/
  | releasing
  /-- `instance.permitHeld.Store(true)` -/
  | storing (i : ℕ)
  /-- `go process(instance)` -/
  | spawning (i : ℕ)
  | exited
  deriving DecidableEq

/-- Where a `process` task is. `n` counts the items of its batch, `q` is the stop request it is
executing. -/
inductive TaskPc
  /-- the loop test and `mailbox.pop()` -/
  | loop (n : ℕ)
  /-- inside `Handle` -/
  | handling (n : ℕ) (pc : CallPc)
  /-- `Handle` is over: `instance.finalized.Load()` -/
  | handled (n : ℕ)
  /-- `closeAfterFailure` -/
  | failStatus (n : ℕ)
  | failClose (n : ℕ)
  | failCloseWait (n : ℕ)
  | failFinalizing (n : ℕ) (cause : GoError) (pc : FinalizePc)
  /-- `executeStop`: the first `finalized.Load()` -/
  | stopCheck (q : ClientId)
  | stopStart (q : ClientId)
  /-- the `select` of `runStop` -/
  | stopWait (q : ClientId)
  /-- the second `finalized.Load()` -/
  | stopRecheck (q : ClientId) (err : GoError)
  | stopClose (q : ClientId) (err : GoError)
  | stopCloseWait (q : ClientId) (err : GoError)
  | stopFinalizing (q : ClientId) (status : FinalStatus) (result : GoError) (pc : FinalizePc)
  /-- `request.result <- result` -/
  | stopReply (q : ClientId) (result : GoError)
  /-- `instance.ready.Store(false)`; `recheck` when the batch loop ended by itself -/
  | readyClear (recheck : Bool)
  /-- `mailbox.notEmpty() && !finalized.Load()` -/
  | recheckMailbox
  | recheckFinalized
  | schedule (pc : SchedulePc)
  /-- the deferred `permitHeld.CompareAndSwap(true, false)` -/
  | deferCas
  /-- the deferred `release()` -/
  | deferRelease
  | ended
  deriving DecidableEq

/-- A `process` task. -/
structure Task where
  inst : ℕ := 0
  pc : TaskPc := .ended
  /-- the task, or the `Stop` callee acting for it, has acquired or resumed a permit and has not
  yielded or released it since -/
  owns : Bool := false
  /-- the `Service.Stop` it started -/
  stop : Callee := .notStarted
  /-- the `Service.Close` it started -/
  close : Callee := .notStarted
  deriving DecidableEq

/-- How a call of `Stop` ended. -/
inductive StopReturn
  /-- refused before any request was queued -/
  | refused (err : GoError)
  /-- the value received from `request.result` -/
  | answered (err : GoError)
  /-- the recorded result, from `instance.wait` -/
  | waited (err : GoError)
  /-- the caller's own context ended -/
  | contextEnded (cause : GoError)
  | lifecycleTimeout
  deriving DecidableEq

/-- The error a `Stop` returns. -/
def StopReturn.err : StopReturn → GoError
  | .refused err | .answered err | .waited err | .contextEnded err => err
  | .lifecycleTimeout => [.stopTimeout]

/-- Where a goroutine calling `Send` or `Stop` is. -/
inductive ClientPc
  | idle
  /-- `sendEnvelope` and `sendLocalEnvelope`: `state.Load()` -/
  | sendLoad (n : ℕ)
  | sendGet (n : ℕ)
  | sendLock (n : ℕ)
  | sendCheck (n : ℕ)
  | sendPush (n : ℕ)
  | sendSchedule (pc : SchedulePc)
  | sendUnlock
  /-- `Stop`: `registry.get(ref)` -/
  | stopGet
  | stopLock
  | stopCas
  /-- the swap failed: load the status, then `finalized`, then unlock -/
  | stopLoadStatus
  | stopLoadFinalized (status : Status)
  | stopUnlockRefused (waits : Bool)
  /-- `instance.wait(ctx)` -/
  | waitDone
  | stopDiscard
  | stopPush
  | stopUnlockPush (err : GoError)
  | stopUnlock
  | stopSchedule (pc : SchedulePc)
  /-- the final `select` of `Stop` -/
  | waiting
  | ctxFinalizing (cause : GoError) (pc : FinalizePc)
  | timerFinalizing (pc : FinalizePc)
  /-- `Stop` returns; `closeRuntime`'s goroutine then waits on an `ErrServiceClosed` -/
  | leaving (r : StopReturn)
  | returned (r : StopReturn)
  deriving DecidableEq

/-- A goroutine calling `Send` or `Stop`. -/
structure Client where
  pc : ClientPc := .idle
  inst : ℕ := 0
  /-- the cause with which the caller's context has ended -/
  ctx : Option GoError := none
  /-- what `request.result` holds or has held -/
  result : Option GoError := none
  /-- the mailbox accepted the stop request -/
  accepted : Bool := false
  deriving DecidableEq

/-- Where the goroutine inside `Runtime.Close` is. -/
inductive CloserPc
  | idle
  | lockCreate
  | casState
  /-- runners, pending Calls and the transport are closed -/
  | shutdown
  | waitCreating
  | snapshot
  /-- the concurrent `Stop` of these instances -/
  | stopping (is : List ℕ)
  /-- `closeCtx.Err()` and the choice of the forced cause -/
  | forcedCause (is : List ℕ)
  /-- the forced `finalize` loop: the instance in hand and those after it -/
  | forced (status : FinalStatus) (cause : GoError) (is : List ℕ) (pc : FinalizePc)
  /-- `close(s.done)` -/
  | closeDone
  /-- `s.queue.close()` -/
  | closeQueue
  /-- `dispatch.Wait()` and `tasks.Wait()`, or the end of the context -/
  | waitTasks
  | clear
  | closed
  deriving DecidableEq

/-- The words all goroutines share: those of the scheduler and of the Runtime itself. -/
structure Shared where
  /-- the number of tokens in `scheduler.permits` -/
  permits : ℕ := 0
  /-- `scheduler.done` is closed -/
  schedDone : Bool := false
  /-- the ready queue -/
  queue : List ℕ := []
  queueClosed : Bool := false
  /-- `state == runtimeRunning` -/
  running : Bool := true
  /-- `createMu` is locked -/
  createMu : Bool := false

/-- The Runtime. The record of an instance, task or client that does not exist yet is the zero
record. -/
structure State where
  shared : Shared := {}
  dispatcher : DispatcherPc := .popping
  insts : ℕ → Inst ClientId := fun _ => {}
  numInsts : ℕ := 0
  tasks : ℕ → Task := fun _ => {}
  numTasks : ℕ := 0
  clients : ClientId → Client := fun _ => {}
  closer : CloserPc := .idle
  /-- the cause with which the context of `closeRuntime` has ended -/
  closeCtx : Option GoError := none

/-- The cause with which the context given to the `Stop` of client `q` has ended. -/
def State.ctxOf (s : State) : ClientId → Option GoError
  | .user n => (s.clients (.user n)).ctx
  | .close _ => s.closeCtx

end GameServiceRuntime.Runtime
