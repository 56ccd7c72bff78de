import GameServiceRuntime.Runtime.State

/-!
# What the goroutines of a Runtime do

One function per kind of goroutine, each giving the effect of its next atomic operation. A
goroutine reads and writes its own record, the record of one instance and the shared words, so
that is all these functions see: what else is going on in the Runtime cannot influence the step,
and the step cannot touch it.

What the code leaves to its environment (what a Service callback returns, when a context or timer
fires, which ready branch a `select` takes) are separate functions, so that every outcome is
some step.

The functions follow `scheduler.go`, `lifecycle.go` and the parts of `runtime.go` and `call.go`
they use, operation by operation.
-/

namespace GameServiceRuntime.Runtime

/-! ## Scheduling -/

/-- `schedule(instance)` for the instance with number `i`. The last component is `none` when it
returns. -/
def scheduleStep (i : ℕ) (g : Shared) (x : Inst ClientId) :
    SchedulePc → Shared × Inst ClientId × Option SchedulePc
  | .cas => if x.ready then (g, x, none) else (g, { x with ready := true }, some .push)
  | .push =>
    if g.queueClosed then (g, x, some .undo)
    else ({ g with queue := g.queue ++ [i] }, x, none)
  | .undo => (g, { x with ready := false }, none)

/-! ## Process tasks -/

/-- The next operation of the `process` goroutine of a task on the instance `x`. -/
def taskStep (cfg : Config) (g : Shared) (x : Inst ClientId) (k : Task) :
    Option (Shared × Inst ClientId × Task) :=
  match k.pc with
  | .loop n =>
    if cfg.maxBatch ≤ n then some (g, x, { k with pc := .readyClear true })
    else match x.mailbox.pop with
      | none => some (g, x, { k with pc := .readyClear true })
      | some (.stop q, m) => some (g, { x with mailbox := m }, { k with pc := .stopCheck q })
      | some (.envelope _, m) =>
        some (g, { x with mailbox := m }, { k with pc := .handling n .running })
  | .handling _ _ => none
  | .handled n =>
    some (g, x, { k with pc := if x.finalized then .readyClear false else .loop (n + 1) })
  | .failStatus n => some (g, { x with status := .failed }, { k with pc := .failClose n })
  | .failClose n =>
    some (g, { x with closing := true },
      { k with pc := .failCloseWait n, close := .running .running })
  | .failCloseWait n =>
    match k.close with
    | .returned err =>
      some (g, x, { k with pc := .failFinalizing n (.serviceFailed :: err) .cas })
    | _ => none
  | .failFinalizing n cause pc =>
    (finalizeStep .failed cause x pc).map fun r => (g, r.1, { k with pc := match r.2 with
      | some pc' => .failFinalizing n cause pc'
      | none => .handled n })
  | .stopCheck q =>
    some (g, x, { k with
      pc :=
        if x.finalized then .stopReply q [.serviceClosed] else .stopStart q })
  | .stopStart q => some (g, x, { k with pc := .stopWait q, stop := .running .running })
  | .stopWait q =>
    match k.stop with
    | .returned err => some (g, x, { k with pc := .stopRecheck q err })
    | _ => none
  | .stopRecheck q err =>
    some (g, x, { k with
      pc :=
        if x.finalized then .stopReply q [.serviceClosed]
        else if endsWithoutClose err then .stopFinalizing q .failed err .cas
        else .stopClose q err })
  | .stopClose q err =>
    some (g, { x with closing := true },
      { k with pc := .stopCloseWait q err, close := .running .running })
  | .stopCloseWait q err =>
    match k.close with
    | .returned closeErr =>
      let status := if err ++ closeErr = [] then FinalStatus.closed else .failed
      some (g, x, { k with pc := .stopFinalizing q status (err ++ closeErr) .cas })
    | _ => none
  | .stopFinalizing q status result pc =>
    (finalizeStep status result x pc).map fun r => (g, r.1, { k with pc := match r.2 with
      | some pc' => .stopFinalizing q status result pc'
      | none => .stopReply q result })
  | .stopReply _ _ => some (g, x, { k with pc := .readyClear false })
  | .readyClear recheck =>
    some (g, { x with ready := false },
      { k with pc := if recheck then .recheckMailbox else .deferCas })
  | .recheckMailbox =>
    some (g, x, { k with pc := if x.mailbox.items = [] then .deferCas else .recheckFinalized })
  | .recheckFinalized =>
    some (g, x, { k with pc := if x.finalized then .deferCas else .schedule .cas })
  | .schedule pc =>
    let r := scheduleStep k.inst g x pc
    some (r.1, r.2.1, { k with pc := match r.2.2 with
      | some pc' => .schedule pc'
      | none => .deferCas })
  | .deferCas =>
    if x.permitHeld then some (g, { x with permitHeld := false }, { k with pc := .deferRelease })
    else some (g, x, { k with pc := .ended })
  | .deferRelease =>
    some ({ g with permits := g.permits - 1 }, x, { k with pc := .ended, owns := false })
  | .ended => none

/-- What `executeStop` puts into `request.result` in this operation, and for whom. -/
def TaskPc.reply : TaskPc → Option (ClientId × GoError)
  | .stopReply q result => some (q, result)
  | _ => none

/-- The `select` of `runStop` takes `ctx.Done()`, where `ctx q` is the cause with which the
context of the stop request of `q` has ended, or the `select` of `runClose` takes its timer. -/
def taskTimeoutStep (ctx : ClientId → Option GoError) (k : Task) : Option Task :=
  match k.pc with
  | .stopWait q => some { k with pc := .stopRecheck q ((ctx q).getD [.stopTimeout]) }
  | .failCloseWait n =>
    some { k with pc := .failFinalizing n [.serviceFailed, .closeTimeout] .cas }
  | .stopCloseWait q err =>
    some { k with pc := .stopFinalizing q .failed (err ++ [.closeTimeout]) .cas }
  | _ => none

/-! ## Service code run for a task -/

/-- The Service code that may Call or Await: the `Handle` of a task or its `Stop`. -/
inductive Caller
  | handle
  | stop
  deriving DecidableEq

/-- Where that Service code is, if it is in progress. -/
def Task.callPc (k : Task) : Caller → Option CallPc
  | .handle => match k.pc with
    | .handling _ pc => some pc
    | _ => none
  | .stop => match k.stop with
    | .running pc => some pc
    | _ => none

/-- Move that Service code to `pc`. -/
def Task.setCallPc (k : Task) (w : Caller) (pc : CallPc) : Task :=
  match w with
  | .handle => match k.pc with
    | .handling n _ => { k with pc := .handling n pc }
    | _ => k
  | .stop => { k with stop := .running pc }

/-- Record whether the task owns a token. -/
def Task.setOwns (k : Task) (b : Bool) : Task := { k with owns := b }

/-- `Handle` returns, with or without an error, or panics. -/
def handleReturnStep (panics : Bool) (k : Task) : Option Task :=
  match k.pc with
  | .handling n .running => some { k with pc := if panics then .failStatus n else .handled n }
  | _ => none

/-- `Service.Stop` returns. -/
def stopReturnStep (err : GoError) (k : Task) : Option Task :=
  match k.stop with
  | .running .running => some { k with stop := .returned err }
  | _ => none

/-- `Service.Close` returns. -/
def closeReturnStep (err : GoError) (k : Task) : Option Task :=
  match k.close with
  | .running _ => some { k with close := .returned err }
  | _ => none

/-- `callFromService` up to `yield`, or `Await` up to it when `await`. An attempt refused by the
status of the Service changes nothing, so it is no step. -/
def callStartStep (w : Caller) (await : Bool) (x : Inst ClientId) (k : Task) : Option Task :=
  match k.callPc w with
  | some .running =>
    if await then
      if w = .handle ∧ x.status = .running then some (k.setCallPc w .calling) else none
    else if x.closing = false ∧ (x.status = .running ∨ x.status = .stopping) then
      some (k.setCallPc w .calling)
    else none
  | _ => none

/-- The next operation of `yield` or `resume`. A refused `yield` returns `ErrCallNotAllowed` or
`ErrRunnerAwaitNotAllowed` to the Service code, which goes on. -/
def callStep (cfg : Config) (w : Caller) (g : Shared) (x : Inst ClientId) (k : Task) :
    Option (Shared × Inst ClientId × Task) :=
  match k.callPc w with
  | some .calling =>
    if x.permitHeld then
      some (g, { x with permitHeld := false }, k.setCallPc w .yieldRelease)
    else some (g, x, k.setCallPc w .running)
  | some .yieldRelease =>
    some ({ g with permits := g.permits - 1 }, x, (k.setCallPc w .yielded).setOwns false)
  | some .yielded =>
    if g.permits < cfg.workers then
      some ({ g with permits := g.permits + 1 }, x, (k.setCallPc w .resumeStore).setOwns true)
    else none
  | some .resumeStore =>
    some (g, { x with permitHeld := true }, k.setCallPc w .running)
  | _ => none

/-- `resume` fails once the scheduler is closed: the Service code goes on without a permit. -/
def resumeFailStep (w : Caller) (g : Shared) (k : Task) : Option Task :=
  match k.callPc w with
  | some .yielded => if g.schedDone then some (k.setCallPc w .running) else none
  | _ => none

/-! ## CreateService -/

/-- The next operation of the goroutine creating the instance `x` with number `i`. -/
def creatorStep (cfg : Config) (i : ℕ) (g : Shared) (x : Inst ClientId) :
    Option (Shared × Inst ClientId) :=
  match x.creator with
  | .registering => some (g, { x with registered := true, creator := .registered })
  | .registered => some (g, { x with status := .starting, creator := .initRunning })
  | .initRunning => none
  | .initClose err =>
    some (g, { x with
      closing := true, creatorClose := .running .running, creator := .initCloseWait err })
  | .initCloseWait err =>
    match x.creatorClose with
    | .returned closeErr =>
      some (g, { x with creator := .finalizing .failed (err ++ closeErr) .cas })
    | _ => none
  | .lockCreate =>
    if g.createMu then none
    else some ({ g with createMu := true }, { x with creator := .checkState })
  | .checkState =>
    some (g, { x with
      creator :=
        if g.running = false ∨ x.finalized then .lateUnlock else .casRunning })
  | .casRunning =>
    if x.status = .starting then
      some (g, { x with
        status := .running
        creator := if x.hasStartup then .startupSource else .unlockCreate })
    else some (g, { x with creator := .lateUnlock })
  | .lateUnlock => some ({ g with createMu := false }, { x with creator := .lateClose })
  | .lateClose =>
    some (g, { x with
      closing := true, creatorClose := .running .running, creator := .lateCloseWait })
  | .lateCloseWait =>
    match x.creatorClose with
    | .returned closeErr =>
      some (g, { x with creator := .finalizing .closed (.runtimeClosed :: closeErr) .cas })
    | _ => none
  | .startupSource =>
    some (g, { x with
      creator :=
        if x.registered then .startupStatus else .startupRefused [.serviceClosed] })
  | .startupStatus =>
    some (g, { x with
      creator :=
        if x.status = .running ∨ x.status = .stopping then .startupGet
        else .startupRefused [.serviceClosed] })
  | .startupGet =>
    some (g, { x with
      creator :=
        if g.running = false then .startupRefused [.runtimeClosed]
        else if x.registered then .startupLock else .startupRefused [.serviceClosed] })
  | .startupLock =>
    if x.acceptMu then none
    else some (g, { x with acceptMu := true, creator := .startupCheck })
  | .startupCheck =>
    some (g, { x with
      creator :=
        if x.status ≠ .running ∨ x.finalized then .startupUnlock [.serviceClosed]
        else .startupPush })
  | .startupPush =>
    match x.mailbox.pushEnvelope cfg.mailboxSize 0 with
    | .ok m => some (g, { x with mailbox := m, creator := .startupSchedule .cas })
    | .error err => some (g, { x with creator := .startupUnlock [err] })
  | .startupSchedule pc =>
    let r := scheduleStep i g x pc
    some (r.1, { r.2.1 with creator := match r.2.2 with
      | some pc' => .startupSchedule pc'
      | none => .startupUnlock [] })
  | .startupUnlock refused =>
    some (g, { x with
      acceptMu := false
      creator := if refused = [] then .unlockCreate else .startupRefused refused })
  | .startupRefused err =>
    some ({ g with createMu := false }, { x with creator := .startupClose err })
  | .startupClose err =>
    some (g, { x with
      closing := true, creatorClose := .running .running, creator := .startupCloseWait err })
  | .startupCloseWait err =>
    match x.creatorClose with
    | .returned closeErr =>
      some (g, { x with creator := .finalizing .failed (err ++ closeErr) .cas })
    | _ => none
  | .unlockCreate => some ({ g with createMu := false }, { x with creator := .done })
  | .finalizing status cause pc =>
    (finalizeStep status cause x pc).map fun r => (g, { r.1 with creator := match r.2 with
      | some pc' => .finalizing status cause pc'
      | none => .done })
  | .done => none

/-- `Init` returns: `err` is `nil` on success. -/
def initReturnStep (err : GoError) (x : Inst ClientId) : Option (Inst ClientId) :=
  match x.creator with
  | .initRunning => some { x with creator := if err = [] then .lockCreate else .initClose err }
  | _ => none

/-- The `Close` started by the creating goroutine returns. -/
def creatorCloseReturnStep (err : GoError) (x : Inst ClientId) : Option (Inst ClientId) :=
  match x.creatorClose with
  | .running _ => some { x with creatorClose := .returned err }
  | _ => none

/-- `runClose` of the creating goroutine times out. -/
def creatorTimeoutStep (x : Inst ClientId) : Option (Inst ClientId) :=
  match x.creator with
  | .initCloseWait err =>
    some { x with creator := .finalizing .failed (err ++ [.closeTimeout]) .cas }
  | .lateCloseWait =>
    some { x with creator := .finalizing .closed [.runtimeClosed, .closeTimeout] .cas }
  | .startupCloseWait err =>
    some { x with creator := .finalizing .failed (err ++ [.closeTimeout]) .cas }
  | _ => none

/-! ## Send and Stop -/

/-- The next operation of a goroutine `q` inside `Send` or `Stop` on the instance `x`. -/
def clientStep (cfg : Config) (q : ClientId) (g : Shared) (x : Inst ClientId) (c : Client) :
    Option (Shared × Inst ClientId × Client) :=
  match c.pc with
  | .idle => none
  | .sendLoad n => some (g, x, { c with pc := if g.running then .sendGet n else .idle })
  | .sendGet n =>
    some (g, x, { c with pc := if g.running ∧ x.registered then .sendLock n else .idle })
  | .sendLock n =>
    if x.acceptMu then none
    else some (g, { x with acceptMu := true }, { c with pc := .sendCheck n })
  | .sendCheck n =>
    some (g, x, { c with
      pc :=
        if x.status ≠ .running ∨ x.finalized then .sendUnlock else .sendPush n })
  | .sendPush n =>
    match x.mailbox.pushEnvelope cfg.mailboxSize n with
    | .ok m => some (g, { x with mailbox := m }, { c with pc := .sendSchedule .cas })
    | .error _ => some (g, x, { c with pc := .sendUnlock })
  | .sendSchedule pc =>
    let r := scheduleStep c.inst g x pc
    some (r.1, r.2.1, { c with pc := match r.2.2 with
      | some pc' => .sendSchedule pc'
      | none => .sendUnlock })
  | .sendUnlock => some (g, { x with acceptMu := false }, { c with pc := .idle })
  | .stopGet =>
    some (g, x, { c with
      pc :=
        if x.registered then .stopLock else .leaving (.refused [.serviceClosed]) })
  | .stopLock =>
    if x.acceptMu then none
    else some (g, { x with acceptMu := true }, { c with pc := .stopCas })
  | .stopCas =>
    if x.status = .running then
      some (g, { x with status := .stopping }, { c with pc := .stopDiscard })
    else some (g, x, { c with pc := .stopLoadStatus })
  | .stopLoadStatus => some (g, x, { c with pc := .stopLoadFinalized x.status })
  | .stopLoadFinalized status =>
    let waits := status = .stopping || status = .failed || x.finalized
    some (g, x, { c with pc := .stopUnlockRefused waits })
  | .stopUnlockRefused waits =>
    some (g, { x with acceptMu := false }, { c with
      pc :=
        if waits then .waitDone else .leaving (.refused [.serviceClosed]) })
  | .waitDone =>
    if x.done then some (g, x, { c with pc := .leaving (.waited x.result) }) else none
  | .stopDiscard =>
    some (g, { x with mailbox := if x.discardMailbox then x.mailbox.discard else x.mailbox },
      { c with pc := .stopPush })
  | .stopPush =>
    match x.mailbox.pushStop q with
    | .ok m => some (g, { x with mailbox := m }, { c with pc := .stopUnlock, accepted := true })
    | .error err => some (g, x, { c with pc := .stopUnlockPush [err] })
  | .stopUnlockPush err =>
    some (g, { x with acceptMu := false }, { c with pc := .leaving (.refused err) })
  | .stopUnlock => some (g, { x with acceptMu := false }, { c with pc := .stopSchedule .cas })
  | .stopSchedule pc =>
    let r := scheduleStep c.inst g x pc
    some (r.1, r.2.1, { c with pc := match r.2.2 with
      | some pc' => .stopSchedule pc'
      | none => .waiting })
  | .waiting =>
    match c.result with
    | some err => some (g, x, { c with pc := .leaving (.answered err) })
    | none => none
  | .ctxFinalizing cause pc =>
    (finalizeStep .failed cause x pc).map fun r => (g, r.1, { c with pc := match r.2 with
      | some pc' => .ctxFinalizing cause pc'
      | none => .leaving (.contextEnded cause) })
  | .timerFinalizing pc =>
    (finalizeStep .failed [.stopTimeout] x pc).map fun r => (g, r.1, { c with pc := match r.2 with
      | some pc' => .timerFinalizing pc'
      | none => .leaving .lifecycleTimeout })
  | .leaving r =>
    -- the goroutines of `closeRuntime` wait for an instance that somebody else is closing
    some (g, x, { c with pc := match q, r with
      | .user _, _ => .returned r
      | .close _, .waited _ => .returned r
      | .close _, _ => if r.err.contains .serviceClosed then .waitDone else .returned r })
  | .returned _ => none

/-- `registry.get` finds neither the instance nor its tombstone. -/
def clientNotFoundStep (x : Inst ClientId) (c : Client) : Option Client :=
  match c.pc with
  | .stopGet =>
    if x.registered then none else some { c with pc := .leaving (.refused [.serviceNotFound]) }
  | _ => none

/-- A `select` of the client takes `ctx.Done()`; `ctx` is the cause with which its context has
ended. -/
def clientCtxStep (ctx : Option GoError) (c : Client) : Option Client :=
  match ctx, c.pc with
  | some cause, .waitDone => some { c with pc := .leaving (.contextEnded cause) }
  | some cause, .waiting => some { c with pc := .ctxFinalizing cause .cas }
  | _, _ => none

/-- The `LifecycleTimeout` timer of the client fires. -/
def clientTimerStep (c : Client) : Option Client :=
  match c.pc with
  | .waiting => some { c with pc := .timerFinalizing .cas }
  | _ => none

end GameServiceRuntime.Runtime
