import GameServiceRuntime.Control.Coordinator
import GameServiceRuntime.Lib.Jobs

/-!
# The agent of a node

`nodeAgent` of `tooling/control` with its `NodeStopRunner` and its `RecoveryRunner`. The coordinator
asks the agent to stop a service of its node or to create one in place of a removed one; the agent
gives the task to the runner's queue and keeps a receipt, and a worker of the runner sends the
result back as a Command of the node.

Stopping and recovering are one protocol with two sets of values, that of `Jobs`: the tasks are the
jobs, `Runtime.Stop` and `CreateService` their effects. A stop task reads the Directory before the
effect and is given up if the group is not as it was published.

The handlers run under the mailbox and a `Submit` inside of one is a single critical section, so a
handler is one step. The node's lease and its reports are not modelled.

A definition without a text of its own has the name of what it models.
-/

namespace GameServiceRuntime.Control

/-! ### Stopping -/

structure NodeStopKey where
  requestID : Text
  target : ServiceRef
  deriving DecidableEq

structure NodeStopResult where
  requestID : Text
  target : ServiceRef
  state : StopTargetState
  failure : StopFailure
  deriving DecidableEq

def validNodeStopTask (task : NodeStopTask) : Bool :=
  validServiceRef task.agent && task.requestID.trimmed && validServiceRef task.target &&
    task.agent ≠ task.target && task.agent.node = task.target.node && task.group.trimmed &&
    validDrainServiceSet task.published && task.published.name = task.group

def sameNodeStopTask (left right : NodeStopTask) : Bool :=
  left.agent = right.agent && left.requestID = right.requestID && left.target = right.target &&
    left.group = right.group && sameDrainServiceSet left.published right.published

def validNodeStopResult (result : NodeStopResult) : Bool :=
  result.requestID.trimmed && validServiceRef result.target &&
    match result.state with
    | .stopped | .superseded => result.failure = .none
    | .pending => result.failure = .directoryUnavailable
    | .failed => result.failure = .runtimeStop || result.failure = .runnerClosed
    | .queued => false

/-- `sendResult` of the stop runner. -/
def stopResult (task : NodeStopTask) (state : StopTargetState) (failure : StopFailure) :
    NodeStopResult := ⟨task.requestID, task.target, state, failure⟩

/-- The receipt that `submitNodeStop` starts from, with its state. -/
def stopReceipt (task : NodeStopTask) (state : StopTargetState) (failure : StopFailure)
    (now : Time) : NodeStopReceipt := ⟨task.requestID, task.target, state, failure, now⟩

/-- How `Runtime.Stop` ends. -/
inductive StopOutcome
  | ok
  | serviceClosed
  | serviceNotFound
  | other
  deriving DecidableEq

/-- The first part of `NodeStopRunner.execute`: the result if the Directory cannot be read or the
group is not as published. -/
def confirmStop (task : NodeStopTask) : Option ServiceSet → Option NodeStopResult
  | none => some (stopResult task .pending .directoryUnavailable)
  | some current =>
    if !sameDrainServiceSet current task.published then
      some (stopResult task .superseded .none)
    else none

/-- The second part of `execute`, after `Runtime.Stop`. -/
def stopEnded (task : NodeStopTask) : StopOutcome → NodeStopResult
  | .ok | .serviceClosed | .serviceNotFound => stopResult task .stopped .none
  | .other => stopResult task .failed .runtimeStop

/-- The protocol of stopping. -/
def stopDesk :
    Jobs.Desk NodeStopKey NodeStopTask NodeStopReceipt NodeStopResult
      (Option ServiceSet) StopOutcome
      Time where
  key task := ⟨task.requestID, task.target⟩
  same := sameNodeStopTask
  queued task now := stopReceipt task .queued .none now
  full task now := stopReceipt task .pending .queueFull now
  refused task now := stopReceipt task .failed .runnerClosed now
  retry receipt := receipt.state = .pending
  waiting receipt := receipt.state = .queued
  resultKey result := ⟨result.requestID, result.target⟩
  accepts _ result := validNodeStopResult result
  record receipt result now :=
    { receipt with
      state := result.state
      failure := result.failure
      updatedAt := now }
  again result := result.state = .pending
  prepare := confirmStop
  finish := stopEnded
  cancel task := stopResult task .failed .runnerClosed

theorem stopDesk_lawful : stopDesk.Lawful where
  retry_of_waiting receipt h := by
    have hstate : receipt.state = .queued := of_decide_eq_true h
    exact decide_eq_false (by rw [hstate]; decide)
  waiting_queued _ _ := rfl
  again_of_retry _ _ _ h := h
  again_finish task outcome := by cases outcome <;> rfl
  key_prepare task found result h := by
    cases found with
    | none =>
      cases h
      rfl
    | some current =>
      simp only [stopDesk, confirmStop] at h
      split at h
      · cases h
        rfl
      · cases h
  key_finish task outcome := by cases outcome <;> rfl
  key_cancel _ := rfl

/-! ### Recovering -/

structure NodeRecoveryKey where
  requestID : Text
  removed : ServiceRef
  deriving DecidableEq

def validRecoveryCreateTask (task : RecoveryCreateTask) : Bool :=
  validServiceRef task.agent && task.requestID.trimmed && validServiceRef task.removed &&
    task.agent ≠ task.removed && task.agent.node = task.removed.node && task.blueprint.trimmed

/-- `recoveryCreateResult` has the fields of a receipt but for the time, which is left zero. -/
def recoveryResult (task : RecoveryCreateTask) (state : RecoveryTargetState)
    (failure : RecoveryFailure) (created : ServiceRef) : RecoveryReceipt where
  requestID := task.requestID
  removed := task.removed
  blueprint := task.blueprint
  created := created
  state := state
  failure := failure
  updatedAt := 0

/-- The receipt that `submitRecovery` starts from, with its state. -/
def recoveryReceipt (task : RecoveryCreateTask) (state : RecoveryTargetState)
    (failure : RecoveryFailure) (now : Time) : RecoveryReceipt where
  requestID := task.requestID
  removed := task.removed
  blueprint := task.blueprint
  state := state
  failure := failure
  updatedAt := now

/-- `RecoveryRunner.execute` after `CreateService`: the new service, or none if the call failed. -/
def createEnded (task : RecoveryCreateTask) : Option ServiceRef → RecoveryReceipt
  | none => recoveryResult task .failed .create .zero
  | some created =>
    if !validServiceRef created || created.node ≠ task.agent.node || created = task.removed ||
        created = task.agent then
      recoveryResult task .failed .create .zero
    else recoveryResult task .created .none created

/-- The protocol of recovering, at the agent `self`. -/
def recoveryDesk (self : ServiceRef) :
    Jobs.Desk NodeRecoveryKey RecoveryCreateTask RecoveryReceipt RecoveryReceipt Bool
      (Option ServiceRef) Time where
  key task := ⟨task.requestID, task.removed⟩
  same left right := left = right
  queued task now := recoveryReceipt task .creating .none now
  full task now := recoveryReceipt task .failed .queueFull now
  refused task now := recoveryReceipt task .failed .runnerClosed now
  retry receipt := receipt.state = .failed && receipt.failure = .queueFull
  waiting receipt := receipt.state = .creating
  resultKey result := ⟨result.requestID, result.removed⟩
  accepts task result :=
    validRecoveryCreateResult result &&
      (result.created = .zero || result.created.node = self.node) &&
      result.removed.node = self.node && task.blueprint = result.blueprint
  record receipt result now :=
    { receipt with
      created := result.created
      state := result.state
      failure := result.failure
      updatedAt := now }
  again result := result.state = .failed && result.failure = .queueFull
  -- whether the blueprint was built
  prepare task built :=
    if built then none else some (recoveryResult task .failed .blueprintUnavailable .zero)
  finish := createEnded
  cancel task := recoveryResult task .failed .runnerClosed .zero

theorem recoveryDesk_lawful (self : ServiceRef) : (recoveryDesk self).Lawful where
  retry_of_waiting receipt h := by
    have hstate : receipt.state = .creating := of_decide_eq_true h
    simp [recoveryDesk, hstate]
  waiting_queued _ _ := rfl
  again_of_retry _ _ _ h := h
  again_finish task outcome := by
    cases outcome with
    | none => rfl
    | some created =>
      simp only [recoveryDesk, createEnded]
      split <;> rfl
  key_prepare task built result h := by
    cases built with
    | true => cases h
    | false =>
      cases h
      rfl
  key_finish task outcome := by
    cases outcome with
    | none => rfl
    | some created =>
      simp only [recoveryDesk, createEnded]
      split <;> rfl
  key_cancel _ := rfl

/-! ### The agent -/

namespace NodeAgent

/-- The errors the agent replies or returns. -/
inductive Refusal
  | unauthorized
  | stopDisabled
  | invalidStopRequest
  | recoveryNotReady
  | invalidRecoveryRequest
  deriving DecidableEq

/-- What of `NodeAgentConfig` the two protocols use. An executor is given by the size of its
queue. -/
structure Config where
  self : ServiceRef
  stopCoordinator : ServiceRef
  stopExecutor : Option ℕ
  recoveryCoordinator : ServiceRef
  recoveryExecutor : Option ℕ

abbrev Stops := Jobs.State NodeStopKey NodeStopTask NodeStopReceipt NodeStopResult

abbrev Recoveries := Jobs.State NodeRecoveryKey RecoveryCreateTask RecoveryReceipt RecoveryReceipt

variable (cfg : Config)

def stopEnabled : Bool := validServiceRef cfg.stopCoordinator && cfg.stopExecutor.isSome

def recoveryEnabled : Bool := validServiceRef cfg.recoveryCoordinator && cfg.recoveryExecutor.isSome

def runtimeNodeSource (source : ServiceRef) : Bool := source.node = cfg.self.node && source.id = 0

/-- The size of the stop runner's queue. -/
def stopQueue : ℕ := cfg.stopExecutor.getD 0

/-- The size of the recovery runner's queue. -/
def recoveryQueue : ℕ := cfg.recoveryExecutor.getD 0

/-- `handleBeginNodeStop` and `submitNodeStop`; a payload of another type is `none`. -/
def handleBeginNodeStop (s : Stops) (source : ServiceRef) (payload : Option NodeStopTask)
    (now : Time) : Stops × Except Refusal NodeStopReceipt :=
  if !stopEnabled cfg then (s, .error .stopDisabled)
  else if source ≠ cfg.stopCoordinator then (s, .error .unauthorized)
  else
    match payload with
    | none => (s, .error .invalidStopRequest)
    | some task =>
      if !(validNodeStopTask task && task.agent = cfg.self) then (s, .error .invalidStopRequest)
      else
        let out := Jobs.give stopDesk (stopQueue cfg) s task now
        (out.1, (out.2.map Except.ok).getD (.error .invalidStopRequest))

/-- `handleNodeStopResult`; the metrics are left out. -/
def handleNodeStopResult (s : Stops) (source : ServiceRef) (result : NodeStopResult) (now : Time) :
    Stops × Option Refusal :=
  if !stopEnabled cfg || !runtimeNodeSource cfg source then (s, some .unauthorized)
  else
    let out := Jobs.deliver stopDesk s result now
    (out.1, if out.2 then none else some .invalidStopRequest)

/-- `handleBeginRecoveryCreate` and `submitRecovery` -/
def handleBeginRecoveryCreate (s : Recoveries) (source : ServiceRef)
    (payload : Option RecoveryCreateTask) (now : Time) :
    Recoveries × Except Refusal RecoveryReceipt :=
  if !recoveryEnabled cfg then (s, .error .recoveryNotReady)
  else if source ≠ cfg.recoveryCoordinator then (s, .error .unauthorized)
  else
    match payload with
    | none => (s, .error .invalidRecoveryRequest)
    | some task =>
      if !(validRecoveryCreateTask task && task.agent = cfg.self) then
        (s, .error .invalidRecoveryRequest)
      else
        let out := Jobs.give (recoveryDesk cfg.self) (recoveryQueue cfg) s task now
        (out.1, (out.2.map Except.ok).getD (.error .invalidRecoveryRequest))

/-- `handleRecoveryCreateResult`; the metrics are left out. -/
def handleRecoveryCreateResult (s : Recoveries) (source : ServiceRef) (result : RecoveryReceipt)
    (now : Time) : Recoveries × Option Refusal :=
  if !recoveryEnabled cfg || !runtimeNodeSource cfg source then (s, some .unauthorized)
  else
    let out := Jobs.deliver (recoveryDesk cfg.self) s result now
    (out.1, if out.2 then none else some .invalidRecoveryRequest)

/-- The receipts of the agent and the pools of its runners. -/
structure World where
  stop : Stops := {}
  recovery : Recoveries := {}

/-- What the workers of a runner do, and its `Close`. -/
def ofRunner {τ μ ι ο θ : Type} : Jobs.Action τ μ ι ο θ → Bool
  | .give _ _ | .deliver _ _ => false
  | _ => true

/-- What can happen. -/
inductive Action
  | beginNodeStop (source : ServiceRef) (payload : Option NodeStopTask) (now : Time)
  /-- `handleGetNodeStopReceipt` or `handleGetRecoveryReceipt`, which only read -/
  | getReceipt
  /-- a result of the stop runner reaches the agent -/
  | nodeStopResult (result : NodeStopResult) (now : Time)
  | stopRunner (a : Jobs.Action NodeStopTask NodeStopResult (Option ServiceSet) StopOutcome Time)
  | beginRecoveryCreate (source : ServiceRef) (payload : Option RecoveryCreateTask) (now : Time)
  /-- a result of the recovery runner reaches the agent -/
  | recoveryCreateResult (result : RecoveryReceipt) (now : Time)
  | recoveryRunner
      (a : Jobs.Action RecoveryCreateTask RecoveryReceipt Bool (Option ServiceRef) Time)

/-- The source of what a runner sends: the node itself. -/
def nodeSource : ServiceRef := ⟨cfg.self.node, 0⟩

/-- The effect of what happens, if it can. -/
def step (w : World) : Action → Option World
  | .beginNodeStop source payload now =>
    some { w with stop := (handleBeginNodeStop cfg w.stop source payload now).1 }
  | .getReceipt => some w
  | .nodeStopResult result now =>
    if result ∈ w.stop.sent then
      let out := handleNodeStopResult cfg w.stop (nodeSource cfg) result now
      some { w with stop := { out.1 with sent := w.stop.sent.erase result } }
    else none
  | .stopRunner a =>
    if ofRunner a then
      (Jobs.step stopDesk (stopQueue cfg) w.stop a).map fun stop => { w with stop := stop }
    else none
  | .beginRecoveryCreate source payload now =>
    some { w with recovery := (handleBeginRecoveryCreate cfg w.recovery source payload now).1 }
  | .recoveryCreateResult result now =>
    if result ∈ w.recovery.sent then
      let out := handleRecoveryCreateResult cfg w.recovery (nodeSource cfg) result now
      some { w with recovery := { out.1 with sent := w.recovery.sent.erase result } }
    else none
  | .recoveryRunner a =>
    if ofRunner a then
      (Jobs.step (recoveryDesk cfg.self) (recoveryQueue cfg) w.recovery a).map fun recovery =>
        { w with recovery := recovery }
    else none

/-- The agent and its runners. -/
def system : System World Action where
  init w := w = {}
  step := step cfg

/-! ### The agent follows the two protocols -/

section Protocols

variable {cfg : Config} {w w' : World} {a : Action}

/-- What is known of a step of a protocol that the agent takes: its runner looks at a task, only its
own valid tasks are given, and no result is lost by the agent. -/
structure Taken {τ μ ι ο : Type} (enabled : Bool) (J : τ → Prop) (ofRunner : Prop)
    (b : Jobs.Action τ μ ι ο Time) : Prop where
  runner : ∀ task found, b = .prepare task found → ofRunner
  given : ∀ task now, b = .give task now → enabled = true ∧ J task
  lost : ∀ result, b = .lose result → ofRunner ∨ enabled = false

/-- The stop tasks of the agent. -/
def ownStop (cfg : Config) (task : NodeStopTask) : Prop :=
  validNodeStopTask task = true ∧ task.agent = cfg.self

/-- The recovery tasks of the agent. -/
def ownRecovery (cfg : Config) (task : RecoveryCreateTask) : Prop :=
  validRecoveryCreateTask task = true ∧ task.agent = cfg.self

theorem step_stop (h : step cfg w a = some w') :
    w'.stop = w.stop ∨ ∃ b, Taken (stopEnabled cfg) (ownStop cfg) (a = .stopRunner b) b ∧
      Jobs.step stopDesk (stopQueue cfg) w.stop b = some w'.stop := by
  cases a with
  | beginNodeStop source payload now =>
    cases h
    simp only [handleBeginNodeStop]
    split
    · exact .inl rfl
    next henabled =>
      rw [Bool.not_eq_true', Bool.not_eq_false] at henabled
      split
      · exact .inl rfl
      cases payload with
      | none => exact .inl rfl
      | some task =>
        simp only
        split
        · exact .inl rfl
        next hvalid =>
          refine .inr ⟨.give task now, ⟨nofun, fun _ _ hb => ?_, nofun⟩, rfl⟩
          cases hb
          exact ⟨henabled, by simpa [ownStop] using hvalid⟩
  | getReceipt | beginRecoveryCreate source payload now =>
    cases h
    exact .inl rfl
  | nodeStopResult result now =>
    rw [step, Option.ite_none_right_eq_some] at h
    obtain ⟨hsent, hw⟩ := h
    cases hw
    simp only [handleNodeStopResult]
    split
    next hdenied =>
      refine .inr ⟨.lose result, ⟨nofun, nofun, fun _ _ => .inr ?_⟩, if_pos hsent⟩
      simpa [runtimeNodeSource, nodeSource] using hdenied
    · exact .inr ⟨.deliver result now, ⟨nofun, nofun, nofun⟩, if_pos hsent⟩
  | stopRunner b =>
    rw [step, Option.ite_none_right_eq_some] at h
    obtain ⟨hrunner, hw⟩ := h
    obtain ⟨stop, hstop, rfl⟩ := Option.map_eq_some_iff.mp hw
    refine .inr ⟨b, ⟨fun _ _ _ => rfl, fun _ _ hb => ?_, fun _ _ => .inl rfl⟩, hstop⟩
    rw [hb] at hrunner
    cases hrunner
  | recoveryCreateResult result now =>
    rw [step, Option.ite_none_right_eq_some] at h
    cases h.2
    exact .inl rfl
  | recoveryRunner b =>
    rw [step, Option.ite_none_right_eq_some] at h
    obtain ⟨recovery, -, rfl⟩ := Option.map_eq_some_iff.mp h.2
    exact .inl rfl

theorem step_recovery (h : step cfg w a = some w') :
    w'.recovery = w.recovery ∨
      ∃ b, Taken (recoveryEnabled cfg) (ownRecovery cfg) (a = .recoveryRunner b) b ∧
        Jobs.step (recoveryDesk cfg.self) (recoveryQueue cfg) w.recovery b = some w'.recovery := by
  cases a with
  | beginNodeStop source payload now | getReceipt =>
    cases h
    exact .inl rfl
  | nodeStopResult result now =>
    rw [step, Option.ite_none_right_eq_some] at h
    cases h.2
    exact .inl rfl
  | stopRunner b =>
    rw [step, Option.ite_none_right_eq_some] at h
    obtain ⟨stop, -, rfl⟩ := Option.map_eq_some_iff.mp h.2
    exact .inl rfl
  | beginRecoveryCreate source payload now =>
    cases h
    simp only [handleBeginRecoveryCreate]
    split
    · exact .inl rfl
    next henabled =>
      rw [Bool.not_eq_true', Bool.not_eq_false] at henabled
      split
      · exact .inl rfl
      cases payload with
      | none => exact .inl rfl
      | some task =>
        simp only
        split
        · exact .inl rfl
        next hvalid =>
          refine .inr ⟨.give task now, ⟨nofun, fun _ _ hb => ?_, nofun⟩, rfl⟩
          cases hb
          exact ⟨henabled, by simpa [ownRecovery] using hvalid⟩
  | recoveryCreateResult result now =>
    rw [step, Option.ite_none_right_eq_some] at h
    obtain ⟨hsent, hw⟩ := h
    cases hw
    simp only [handleRecoveryCreateResult]
    split
    next hdenied =>
      refine .inr ⟨.lose result, ⟨nofun, nofun, fun _ _ => .inr ?_⟩, if_pos hsent⟩
      simpa [runtimeNodeSource, nodeSource] using hdenied
    · exact .inr ⟨.deliver result now, ⟨nofun, nofun, nofun⟩, if_pos hsent⟩
  | recoveryRunner b =>
    rw [step, Option.ite_none_right_eq_some] at h
    obtain ⟨hrunner, hw⟩ := h
    obtain ⟨recovery, hrecovery, rfl⟩ := Option.map_eq_some_iff.mp hw
    refine .inr ⟨b, ⟨fun _ _ _ => rfl, fun _ _ hb => ?_, fun _ _ => .inl rfl⟩, hrecovery⟩
    rw [hb] at hrunner
    cases hrunner

/-- Both protocols are in order. -/
structure Inv (cfg : Config) (w : World) : Prop where
  stop : Jobs.Inv stopDesk w.stop
  recovery : Jobs.Inv (recoveryDesk cfg.self) w.recovery

theorem reachable_inv (h : (system cfg).Reachable w) : Inv cfg w := by
  refine h.invariant (I := Inv cfg) ?_ ?_
  · rintro _ rfl
    exact ⟨Jobs.inv_init, Jobs.inv_init⟩
  · intro w a w' hw _ hstep
    refine ⟨?_, ?_⟩
    · rcases step_stop hstep with hsame | ⟨b, -, hb⟩
      · rw [hsame]
        exact hw.stop
      · exact hw.stop.step stopDesk_lawful hb
    · rcases step_recovery hstep with hsame | ⟨b, -, hb⟩
      · rw [hsame]
        exact hw.recovery
      · exact hw.recovery.step (recoveryDesk_lawful cfg.self) hb

/-- A stop receipt that is final stays in every continuation of the run. -/
theorem stop_final {key : NodeStopKey} {record : NodeStopTask × NodeStopReceipt} {as : List Action}
    (h : w.stop.finalAt stopDesk key record) (hsteps : (system cfg).Steps w as w') :
    w'.stop.finalAt stopDesk key record := by
  induction as generalizing w with
  | nil =>
    cases hsteps
    exact h
  | cons a as ih =>
    obtain ⟨u, hu, hrest⟩ := hsteps
    refine ih ?_ hrest
    rcases step_stop hu with hsame | ⟨b, -, hb⟩
    · rw [hsame]
      exact h
    · exact Jobs.step_final h hb

/-- A recovery receipt that is final stays in every continuation of the run. -/
theorem recovery_final {key : NodeRecoveryKey} {record : RecoveryCreateTask × RecoveryReceipt}
    {as : List Action} (h : w.recovery.finalAt (recoveryDesk cfg.self) key record)
    (hsteps : (system cfg).Steps w as w') :
    w'.recovery.finalAt (recoveryDesk cfg.self) key record := by
  induction as generalizing w with
  | nil =>
    cases hsteps
    exact h
  | cons a as ih =>
    obtain ⟨u, hu, hrest⟩ := hsteps
    refine ih ?_ hrest
    rcases step_recovery hu with hsame | ⟨b, -, hb⟩
    · rw [hsame]
      exact h
    · exact Jobs.step_final h hb

/-- **A service is stopped only where the Directory confirms it.** `Runtime.Stop` is called in the
step in which the worker has read the Directory, and what it read is the set the task was published
with. -/
theorem stop_after_confirmed (h : step cfg w a = some w') (hcalls : w'.stop.calls ≠ w.stop.calls) :
    ∃ task current, a = .stopRunner (.prepare task (some current)) ∧
      sameDrainServiceSet current task.published = true ∧
      w'.stop.calls = task :: w.stop.calls := by
  rcases step_stop h with hsame | ⟨b, hb, hstop⟩
  · exact absurd (congrArg Jobs.State.calls hsame) hcalls
  rcases Jobs.step_calls hstop with hsame | ⟨task, found, rfl, hprepare, hcall⟩
  · exact absurd hsame hcalls
  cases found with
  | none => cases hprepare
  | some current =>
    refine ⟨task, current, hb.runner _ _ rfl, ?_, hcall⟩
    by_contra hdiffers
    simp [stopDesk, confirmStop, hdiffers] at hprepare

/-- **The agent executes each request at most once.** In every run, for every request and target: at
most one stop task is queued or worked on and `Runtime.Stop` was called at most once for it;
`CreateService` was called at most once for every request and removed service; and a stop receipt
that is stopped, superseded or failed, and a recovery receipt that is created or failed for a reason
other than a full queue, is the same in every continuation of the run. -/
theorem node_agent_once (cfg : Config) {w : World} (h : (system cfg).Reachable w) :
    (∀ key, w.stop.jobs stopDesk key ≤ 1 ∧ w.stop.effects stopDesk key ≤ 1) ∧
    (∀ key, w.recovery.effects (recoveryDesk cfg.self) key ≤ 1) ∧
    (∀ key task receipt, w.stop.records.lookup key = some (task, receipt) →
      receipt.state = .stopped ∨ receipt.state = .superseded ∨ receipt.state = .failed →
      ∀ as w', (system cfg).Steps w as w' → w'.stop.records.lookup key = some (task, receipt)) ∧
    ∀ key task receipt, w.recovery.records.lookup key = some (task, receipt) →
      receipt.state = .created ∨ receipt.state = .failed ∧ receipt.failure ≠ .queueFull →
      ∀ as w', (system cfg).Steps w as w' →
        w'.recovery.records.lookup key = some (task, receipt) := by
  have hinv := reachable_inv h
  refine ⟨fun key => ⟨hinv.stop.jobs_le_one key, hinv.stop.effects_le_one key⟩,
    fun key => hinv.recovery.effects_le_one key, ?_, ?_⟩
  · intro key task receipt hlookup hstate as w' hsteps
    have hfinal : w.stop.finalAt stopDesk key (task, receipt) := by
      refine ⟨hlookup, ?_, ?_⟩
      · exact decide_eq_false (by rcases hstate with h | h | h <;> rw [h] <;> decide)
      · exact decide_eq_false (by rcases hstate with h | h | h <;> rw [h] <;> decide)
    exact (stop_final hfinal hsteps).1
  · intro key task receipt hlookup hstate as w' hsteps
    have hfinal : w.recovery.finalAt (recoveryDesk cfg.self) key (task, receipt) := by
      refine ⟨hlookup, ?_, ?_⟩
      · exact decide_eq_false (by rcases hstate with h | ⟨h, -⟩ <;> rw [h] <;> decide)
      · rcases hstate with h | ⟨-, h⟩
        · simp [recoveryDesk, h]
        · simp [recoveryDesk, h]
    exact (recovery_final hfinal hsteps).1

end Protocols

/-- An agent of the node `n`, with a queue of one place for each runner. -/
def sampleConfig : Config where
  self := ⟨"n", 1⟩
  stopCoordinator := ⟨"c", 1⟩
  stopExecutor := some 1
  recoveryCoordinator := ⟨"c", 1⟩
  recoveryExecutor := some 1

/-- Stop the service 7 of the node, which the group `g` does not have any more. -/
def sampleTask : NodeStopTask where
  agent := ⟨"n", 1⟩
  requestID := "r"
  target := ⟨"n", 7⟩
  group := "g"
  published := { name := "g", version := ⟨1, 2⟩, refs := .of [], tags := some ∅ }

/-- The task is queued, executed, and its result recorded. -/
def stopRun : List Action :=
  [.beginNodeStop sampleConfig.stopCoordinator (some sampleTask) 1, .stopRunner .take,
    .stopRunner (.prepare sampleTask (some sampleTask.published)),
    .stopRunner (.finish sampleTask .ok),
    .nodeStopResult (stopResult sampleTask .stopped .none) 2]

theorem node_agent_once_stopRun :
    ∃ w, (system sampleConfig).Reachable w ∧ w.stop.calls = [sampleTask] ∧
      w.stop.effects stopDesk (stopDesk.key sampleTask) ≤ 1 ∧
      ∃ receipt, w.stop.records.lookup (stopDesk.key sampleTask) = some (sampleTask, receipt) ∧
        receipt.state = .stopped ∧ ∀ as w', (system sampleConfig).Steps w as w' →
          w'.stop.records.lookup (stopDesk.key sampleTask) = some (sampleTask, receipt) := by
  obtain ⟨w, hw, hp⟩ := System.exists_reachableUnder_of_run (system sampleConfig) (fun _ _ => True)
    stopRun (s := {})
    (fun w => w.stop.calls = [sampleTask] ∧ w.stop.records.lookup (stopDesk.key sampleTask) =
      some (sampleTask, stopReceipt sampleTask .stopped .none 2)) rfl (by decide +kernel)
  obtain ⟨hcalls, hlookup⟩ := of_decide_eq_true hp
  obtain ⟨hone, -, hfinal, -⟩ := node_agent_once sampleConfig hw
  exact ⟨w, hw, hcalls, (hone _).2, _, hlookup, rfl, hfinal _ _ _ hlookup (.inl rfl)⟩

end NodeAgent

end GameServiceRuntime.Control
