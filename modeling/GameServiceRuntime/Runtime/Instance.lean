import Mathlib.Data.List.Basic

/-!
# One Service instance: mailbox, status words and finalization

The record a Runtime keeps for one Service, and the pieces of code that several goroutines run
on it: `mailbox.go`, `finalize` from `lifecycle.go` and the two halves of `scheduler.schedule`
that touch the instance. Each of them is a small machine with its own program counter, so that a
goroutine executing it can be interrupted between any two of its atomic operations.

An atomic operation is one load, store or compare-and-swap of an atomic word, one critical
section of a mutex that guards nothing else, or one channel operation.

## Errors

Go errors reach this code only through `== nil`, `errors.Is` and `errors.Join`, so an error is
the list of the sentinel errors it wraps, the empty list being `nil`. `errors.Join` is then
append.
-/

namespace GameServiceRuntime.Runtime

/-! ## Errors -/

/-- The sentinel errors the lifecycle code distinguishes, and everything else. -/
inductive Sentinel
  | serviceClosed
  | serviceNotFound
  | serviceFailed
  | stopTimeout
  | closeTimeout
  | runtimeClosed
  | mailboxFull
  | canceled
  | deadlineExceeded
  /-- any other error value -/
  | other (n : ℕ)
  deriving DecidableEq

/-- An error as the sentinels it wraps; `[]` is `nil`. -/
abbrev GoError := List Sentinel

/-- The stop errors after which `executeStop` does not call `Close`: the three `errors.Is` tests
of the source. -/
def endsWithoutClose (err : GoError) : Bool :=
  err.contains .stopTimeout || err.contains .canceled || err.contains .deadlineExceeded

/-! ## Mailbox -/

/-- One queued item: a Command, or the stop request of the `Runtime.Stop` caller `q`. -/
inductive Item (κ : Type)
  | envelope (n : ℕ)
  | stop (q : κ)
  deriving DecidableEq

/-- The `mailbox` of `mailbox.go`. Its capacity is the Runtime's `MailboxSize`. -/
structure Mailbox (κ : Type) where
  items : List (Item κ) := []
  closed : Bool := false
  deriving DecidableEq

namespace Mailbox

variable {κ : Type}

/-- `pushEnvelope`: refused when the mailbox is closed or full. -/
def pushEnvelope (capacity : ℕ) (m : Mailbox κ) (n : ℕ) : Except Sentinel (Mailbox κ) :=
  if m.closed then .error .serviceClosed
  else if capacity ≤ m.items.length then .error .mailboxFull
  else .ok { m with items := m.items ++ [.envelope n] }

/-- `pushStop`: refused only when the mailbox is closed. -/
def pushStop (m : Mailbox κ) (q : κ) : Except Sentinel (Mailbox κ) :=
  if m.closed then .error .serviceClosed
  else .ok { m with items := m.items ++ [.stop q] }

/-- `pop`: the oldest item. -/
def pop (m : Mailbox κ) : Option (Item κ × Mailbox κ) :=
  match m.items with
  | [] => none
  | item :: rest => some (item, { m with items := rest })

/-- `discard`: drop what is queued. -/
def discard (m : Mailbox κ) : Mailbox κ := { m with items := [] }

/-- `close`: drop what is queued and refuse everything from now on. -/
def close (_ : Mailbox κ) : Mailbox κ := { items := [], closed := true }

end Mailbox

/-! ## Program counters of the shared code -/

/-- Where a goroutine is inside `finalize`. -/
inductive FinalizePc
  /-- `instance.finalized.CompareAndSwap(false, true)` -/
  | cas
  /-- `<-instance.done`, after another goroutine won the swap -/
  | waitDone
  /-- `instance.acceptMu.Lock()` -/
  | lock
  /-- `instance.mailbox.close()` -/
  | closeMailbox
  /-- `registry.remove(instance.ref)` -/
  | remove
  /-- `instance.setStatus(status)` -/
  | setStatus
  /-- `instance.finish(cause)`: record the result and close `done` -/
  | finish
  /-- the deferred `acceptMu.Unlock()` -/
  | unlock
  deriving DecidableEq

/-- Where a goroutine is inside `scheduler.schedule`. -/
inductive SchedulePc
  /-- `instance.ready.CompareAndSwap(false, true)` -/
  | cas
  /-- `queue.push(instance.ref)` -/
  | push
  /-- `instance.ready.Store(false)` after a refused push -/
  | undo
  deriving DecidableEq

/-- Where code that owns the instance's permit is between two of its own steps: a `Handle` or
`Stop` callee and its `ServiceContext.Call` or `Runner.Await`. -/
inductive CallPc
  /-- running Service code -/
  | running
  /-- inside a Call or Await, past the status checks, before `yield`'s compare-and-swap -/
  | calling
  /-- `yield` took the flag and has not yet received from `permits` -/
  | yieldRelease
  /-- the Call is in flight; next is `resume`'s acquire -/
  | yielded
  /-- `resume` acquired a permit and has not yet stored the flag -/
  | resumeStore
  deriving DecidableEq

/-- A lifecycle callee started by `invokeTask` on a goroutine of its own, whose starter may stop
waiting for it. -/
inductive Callee
  | notStarted
  | running (pc : CallPc)
  | returned (err : GoError)
  deriving DecidableEq

/-! ## The instance record -/

/-- `ServiceStatus`. `ServiceRestarting` is never stored by this code. -/
inductive Status
  | created
  | starting
  | running
  | stopping
  | closed
  | failed
  deriving DecidableEq

/-- The statuses `finalize` is called with. -/
inductive FinalStatus
  | closed
  | failed
  deriving DecidableEq

/-- The stored status. -/
def FinalStatus.status : FinalStatus → Status
  | .closed => .closed
  | .failed => .failed

/-- Where the goroutine executing `CreateService` for an instance is. -/
inductive CreatorPc
  /-- before `registry.add` -/
  | registering
  /-- registered; next is `setStatus(ServiceStarting)` and the call of `Init` -/
  | registered
  /-- `Init` is running -/
  | initRunning
  /-- `runClose` after `Init` returned `err`: `closing.Store(true)` and the start of `Close` -/
  | initClose (err : GoError)
  | initCloseWait (err : GoError)
  /-- `createMu.Lock()` -/
  | lockCreate
  /-- `state.Load() != runtimeRunning || finalized.Load()` -/
  | checkState
  /-- `status.CompareAndSwap(Starting, Running)` -/
  | casRunning
  /-- the instance may not run any more: `runClose` -/
  | lateUnlock
  | lateClose
  | lateCloseWait
  /-- `sendFrom(self, self, startup)`: `registry.get` and the status of the source -/
  | startupSource
  | startupStatus
  /-- `sendLocalEnvelope`: lookup, lock, checks, push, schedule, unlock -/
  | startupGet
  | startupLock
  | startupCheck
  | startupPush
  | startupSchedule (pc : SchedulePc)
  | startupUnlock (refused : GoError)
  /-- the send was refused with `err`: unlock `createMu` and `runClose` -/
  | startupRefused (err : GoError)
  | startupClose (err : GoError)
  | startupCloseWait (err : GoError)
  /-- `createMu.Unlock()` on the successful path -/
  | unlockCreate
  | finalizing (status : FinalStatus) (cause : GoError) (pc : FinalizePc)
  | done
  deriving DecidableEq

/-- `serviceInstance`, with its registration and the goroutine that creates it. -/
structure Inst (κ : Type) where
  /-- the registry maps the reference to this instance -/
  registered : Bool := false
  status : Status := .created
  ready : Bool := false
  permitHeld : Bool := false
  closing : Bool := false
  finalized : Bool := false
  /-- `acceptMu` is locked -/
  acceptMu : Bool := false
  mailbox : Mailbox κ := {}
  /-- the `done` channel is closed -/
  done : Bool := false
  /-- the recorded final result; meaningful once `done` -/
  result : GoError := []
  /-- `policy.Mailbox = DiscardMailbox` -/
  discardMailbox : Bool := false
  /-- the Service declares a StartupCommand -/
  hasStartup : Bool := false
  creator : CreatorPc := .registering
  /-- the `Close` started by the creating goroutine -/
  creatorClose : Callee := .notStarted
  deriving DecidableEq

variable {κ : Type}

/-- One atomic operation of `finalize(instance, status, cause)`. The second component is the
next program counter, or `none` when `finalize` returns. -/
def finalizeStep (status : FinalStatus) (cause : GoError) (i : Inst κ) :
    FinalizePc → Option (Inst κ × Option FinalizePc)
  | .cas =>
    if i.finalized then some (i, some .waitDone)
    else some ({ i with finalized := true }, some .lock)
  | .waitDone => if i.done then some (i, none) else none
  | .lock => if i.acceptMu then none else some ({ i with acceptMu := true }, some .closeMailbox)
  | .closeMailbox => some ({ i with mailbox := i.mailbox.close }, some .remove)
  | .remove => some ({ i with registered := false }, some .setStatus)
  | .setStatus => some ({ i with status := status.status }, some .finish)
  | .finish => some ({ i with result := cause, done := true }, some .unlock)
  | .unlock => some ({ i with acceptMu := false }, none)

end GameServiceRuntime.Runtime
