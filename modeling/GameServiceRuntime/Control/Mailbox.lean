import GameServiceRuntime.Control.NodeAgent

/-!
# The results of the runners and the mailbox of the agent

A receipt is queued, or creating, until the result of its task is recorded. The result is a Command
in the mailbox of the agent. `Send` refuses it when the mailbox is full, when the agent has been
told to stop, although it still handles what is in its mailbox, and when the Runtime is closing.
`sendResult` does not look at what `Send` returns, so the result is gone then, and its receipt waits
for nothing. As long as `Send` accepts what the workers send, a receipt that waits has its task in
the queue or with a worker, or its result in the mailbox, and the agent takes that result.
-/

namespace GameServiceRuntime.Control.NodeAgent

/-- The agent and its runners, and the other Commands in the mailbox of the agent. -/
structure Mailbox where
  world : World := {}
  others : ℕ := 0
  /-- the agent is no longer `ServiceRunning` -/
  stopping : Bool := false
  /-- the Runtime is no longer `runtimeRunning` -/
  closing : Bool := false

/-- The Commands in the mailbox. -/
def Mailbox.length (m : Mailbox) : ℕ :=
  m.world.stop.sent.length + m.world.recovery.sent.length + m.others

/-- `sendLocalEnvelope` accepts a Command for the agent. -/
def Mailbox.accepts (m : Mailbox) (bound : ℕ) : Bool :=
  !m.closing && !m.stopping && m.length < bound

/-- The step of a worker ends in a `Send`. -/
def sends {κ τ ρ μ ι ο θ : Type} (d : Jobs.Desk κ τ ρ μ ι ο θ) : Jobs.Action τ μ ι ο θ → Bool
  | .cancel _ | .finish _ _ => true
  | .prepare job found => (d.prepare job found).isSome
  | _ => false

/-- A worker sends a result. -/
def Action.sends (cfg : Config) : Action → Bool
  | .stopRunner a => NodeAgent.sends stopDesk a
  | .recoveryRunner a => NodeAgent.sends (recoveryDesk cfg.self) a
  | _ => false

/-- A result is lost on its way, which is nothing that a runner does. -/
def Action.loses : Action → Bool
  | .stopRunner (.lose _) | .recoveryRunner (.lose _) => true
  | _ => false

/-- The Commands of others that the agent takes. -/
def Action.takes : Action → ℕ
  | .beginNodeStop .. | .beginRecoveryCreate .. | .getReceipt => 1
  | _ => 0

/-- What can happen. -/
inductive Event
  /-- a Command of somebody else reaches the mailbox -/
  | arrive
  /-- the agent is told to stop -/
  | stop
  /-- the Runtime closes -/
  | close
  /-- the agent takes a Command, or a worker does something -/
  | act (a : Action)

/-- A result that `Send` refuses is not sent. -/
def Mailbox.refuse (m : Mailbox) (w : World) : Mailbox :=
  { m with world :=
    { stop := { w.stop with sent := m.world.stop.sent }
      recovery := { w.recovery with sent := m.world.recovery.sent } } }

/-- The agent with a mailbox of some size. -/
def posted (cfg : Config) (bound : ℕ) : System Mailbox Event where
  init m := m = {}
  step m
    | .arrive => if m.accepts bound then some { m with others := m.others + 1 } else none
    | .stop => some { m with stopping := true }
    | .close => some { m with closing := true }
    | .act a =>
      if a.loses || m.others < a.takes then none
      else (step cfg m.world a).map fun w =>
        if a.sends cfg && !m.accepts bound then m.refuse w
        else { m with world := w, others := m.others - a.takes }

/-- If a worker sends, the agent and the Runtime are running and there is a place in the mailbox. -/
def roomy (cfg : Config) (bound : ℕ) (m : Mailbox) : Event → Bool
  | .act a => !a.sends cfg || m.accepts bound
  | _ => true

/-! ### The two protocols -/

/-- The stop tasks that are given to the runner. -/
def stopJob (cfg : Config) (task : NodeStopTask) : Prop := stopEnabled cfg = true ∧ ownStop cfg task

/-- The recovery tasks that are given to the runner. -/
def recoveryJob (cfg : Config) (task : RecoveryCreateTask) : Prop :=
  recoveryEnabled cfg = true ∧ ownRecovery cfg task

theorem stopDesk_prompt (cfg : Config) : stopDesk.Prompt (stopJob cfg) where
  waiting_full _ _ := rfl
  waiting_refused _ _ := rfl
  accepts_answer task result hjob h := by
    have hvalid := hjob.2.1
    simp only [validNodeStopTask, Bool.and_eq_true] at hvalid
    obtain ⟨⟨⟨⟨⟨⟨⟨-, hid⟩, htarget⟩, -⟩, -⟩, -⟩, -⟩, -⟩ := hvalid
    cases h with
    | cancel => simp [stopDesk, stopResult, validNodeStopResult, hid, htarget]
    | @prepare found _ h =>
      cases found with
      | none =>
        cases h
        simp [stopDesk, stopResult, validNodeStopResult, hid, htarget]
      | some current =>
        simp only [stopDesk, confirmStop, Option.ite_none_right_eq_some] at h
        cases h.2
        simp [stopDesk, stopResult, validNodeStopResult, hid, htarget]
    | finish outcome =>
      cases outcome <;>
        simp [stopDesk, stopEnded, stopResult, validNodeStopResult, hid, htarget]
  waiting_record task receipt result now h := by
    refine decide_eq_false fun hqueued => ?_
    have hstate : result.state = .queued := hqueued
    simp [stopDesk, validNodeStopResult, hstate] at h

theorem recoveryDesk_prompt (cfg : Config) : (recoveryDesk cfg.self).Prompt (recoveryJob cfg) where
  waiting_full _ _ := rfl
  waiting_refused _ _ := rfl
  accepts_answer task result hjob h := by
    obtain ⟨-, hvalid, hself⟩ := hjob
    simp only [validRecoveryCreateTask, Bool.and_eq_true, decide_eq_true_eq] at hvalid
    obtain ⟨⟨⟨⟨⟨-, hid⟩, hremoved⟩, -⟩, hnode⟩, hblueprint⟩ := hvalid
    rw [hself] at hnode
    have hfailed : ∀ failure, failure = .blueprintUnavailable ∨ failure = .create ∨
        failure = .runnerClosed →
        (recoveryDesk cfg.self).accepts task (recoveryResult task .failed failure .zero) =
          true := by
      rintro failure (rfl | rfl | rfl) <;>
        simp [recoveryDesk, recoveryResult, validRecoveryCreateResult, hid, hremoved,
          hblueprint, hnode]
    cases h with
    | cancel => exact hfailed _ (.inr (.inr rfl))
    | @prepare built _ h =>
      cases built with
      | true => cases h
      | false =>
        cases h
        exact hfailed _ (.inl rfl)
    | finish outcome =>
      cases outcome with
      | none => exact hfailed _ (.inr (.inl rfl))
      | some created =>
        simp only [recoveryDesk, createEnded]
        split
        · exact hfailed _ (.inr (.inl rfl))
        next hcreated =>
          simp only [Bool.or_eq_true, Bool.not_eq_true', decide_eq_true_eq, not_or, not_not,
            Bool.not_eq_false] at hcreated
          simp [recoveryResult, validRecoveryCreateResult, hid, hremoved, hblueprint, hnode,
            hcreated.1.1.1, hcreated.1.1.2, hcreated.1.2, hself]
  waiting_record task receipt result now h := by
    refine decide_eq_false fun hcreating => ?_
    have hstate : result.state = .creating := hcreating
    simp [recoveryDesk, validRecoveryCreateResult, hstate] at h

section Runs

variable {cfg : Config} {bound : ℕ} {m m' : Mailbox} {e : Event}

/-- Where `Send` accepts what is sent, nothing is lost. -/
theorem posted_step (hroom : roomy cfg bound m e = true)
    (h : (posted cfg bound).step m e = some m') :
    m'.world = m.world ∨ ∃ a, step cfg m.world a = some m'.world ∧ a.loses = false := by
  cases e with
  | arrive =>
    simp only [posted, Option.ite_none_right_eq_some] at h
    cases h.2
    exact .inl rfl
  | stop | close =>
    cases h
    exact .inl rfl
  | act a =>
    simp only [posted, Option.ite_none_left_eq_some, Bool.or_eq_true, not_or] at h
    obtain ⟨⟨hloses, -⟩, hm⟩ := h
    obtain ⟨w, hw, rfl⟩ := Option.map_eq_some_iff.1 hm
    have hplace : ¬(a.sends cfg && !m.accepts bound) = true := by
      cases hsends : a.sends cfg with
      | false => exact Bool.false_ne_true
      | true => simpa [roomy, hsends] using hroom
    rw [if_neg hplace]
    exact .inr ⟨a, hw, by simpa using hloses⟩

/-- Receipts that wait, wait for something. -/
structure HeldBoth (cfg : Config) (w : World) : Prop where
  stop : Jobs.Held stopDesk (stopJob cfg) w.stop
  recovery : Jobs.Held (recoveryDesk cfg.self) (recoveryJob cfg) w.recovery

theorem HeldBoth.step {w w' : World} {a : Action} (h : HeldBoth cfg w)
    (hstep : NodeAgent.step cfg w a = some w') (hloses : a.loses = false) : HeldBoth cfg w' := by
  constructor
  · rcases step_stop hstep with hsame | ⟨b, htaken, hb⟩
    · rw [hsame]
      exact h.stop
    · refine h.stop.step stopDesk_lawful (stopDesk_prompt cfg) htaken.given
        (fun result hlose task hjob => ?_) hb
      rcases htaken.lost result hlose with rfl | hdisabled
      · rw [hlose] at hloses
        cases hloses
      · rw [hjob.1] at hdisabled
        cases hdisabled
  · rcases step_recovery hstep with hsame | ⟨b, htaken, hb⟩
    · rw [hsame]
      exact h.recovery
    · refine h.recovery.step (recoveryDesk_lawful cfg.self) (recoveryDesk_prompt cfg) htaken.given
        (fun result hlose task hjob => ?_) hb
      rcases htaken.lost result hlose with rfl | hdisabled
      · rw [hlose] at hloses
        cases hloses
      · rw [hjob.1] at hdisabled
        cases hdisabled

theorem heldBoth_of_reachable
    (h : (posted cfg bound).ReachableUnder (fun m e => roomy cfg bound m e = true) m) :
    HeldBoth cfg m.world := by
  refine h.invariant (I := fun m => HeldBoth cfg m.world) ?_ ?_
  · rintro _ rfl
    exact ⟨Jobs.held_init, Jobs.held_init⟩
  · intro m e m' hm hroom hstep
    rcases posted_step hroom hstep with hsame | ⟨a, ha, hloses⟩
    · rw [hsame]
      exact hm
    · exact hm.step ha hloses

/-- The result of a stop task is in the mailbox, and settles its receipt. -/
def StopResultDue (cfg : Config) (w : World) (key : NodeStopKey) (task : NodeStopTask) : Prop :=
  ∃ result ∈ w.stop.sent, ∀ now,
    (handleNodeStopResult cfg w.stop (nodeSource cfg) result now).2 = none ∧ ∃ receipt,
      (handleNodeStopResult cfg w.stop (nodeSource cfg) result now).1.records.lookup key =
        some (task, receipt) ∧ receipt.state ≠ .queued

/-- The result of a recovery task is in the mailbox, and settles its receipt. -/
def RecoveryResultDue (cfg : Config) (w : World) (key : NodeRecoveryKey)
    (task : RecoveryCreateTask) : Prop :=
  ∃ result ∈ w.recovery.sent, ∀ now,
    (handleRecoveryCreateResult cfg w.recovery (nodeSource cfg) result now).2 = none ∧ ∃ receipt,
      (handleRecoveryCreateResult cfg w.recovery (nodeSource cfg) result now).1.records.lookup key =
        some (task, receipt) ∧ receipt.state ≠ .creating

/-- **A receipt that waits, waits for something**, in the runs in which the agent and the Runtime
are running and there is a place in the mailbox whenever a worker sends: its task is queued or with
a worker, or its result is in the mailbox. -/
theorem receipts_attended (cfg : Config) (bound : ℕ) {m : Mailbox}
    (h : (posted cfg bound).ReachableUnder (fun m e => roomy cfg bound m e = true) m) :
    (∀ key task receipt, m.world.stop.records.lookup key = some (task, receipt) →
      receipt.state = .queued → task ∈ m.world.stop.queue ∨ task ∈ m.world.stop.begun ∨
        task ∈ m.world.stop.acting ∨ StopResultDue cfg m.world key task) ∧
    ∀ key task receipt, m.world.recovery.records.lookup key = some (task, receipt) →
      receipt.state = .creating → task ∈ m.world.recovery.queue ∨ task ∈ m.world.recovery.begun ∨
        task ∈ m.world.recovery.acting ∨ RecoveryResultDue cfg m.world key task := by
  have hheld := heldBoth_of_reachable h
  constructor
  · intro key task receipt hlookup hstate
    obtain ⟨hjob, hhas⟩ := hheld.stop.attended stopDesk_lawful (stopDesk_prompt cfg) hlookup
      (decide_eq_true hstate)
    refine hhas.imp_right (Or.imp_right (Or.imp_right ?_))
    rintro ⟨result, hsent, hsettles⟩
    refine ⟨result, hsent, fun now => ?_⟩
    obtain ⟨haccepted, receipt', hlookup', hwaiting⟩ := hsettles now
    have hhandled : handleNodeStopResult cfg m.world.stop (nodeSource cfg) result now =
        ((Jobs.deliver stopDesk m.world.stop result now).1, none) := by
      simp [handleNodeStopResult, hjob.1, runtimeNodeSource, nodeSource, haccepted]
    rw [hhandled]
    exact ⟨rfl, receipt', hlookup', of_decide_eq_false hwaiting⟩
  · intro key task receipt hlookup hstate
    obtain ⟨hjob, hhas⟩ := hheld.recovery.attended (recoveryDesk_lawful cfg.self)
      (recoveryDesk_prompt cfg) hlookup (decide_eq_true hstate)
    refine hhas.imp_right (Or.imp_right (Or.imp_right ?_))
    rintro ⟨result, hsent, hsettles⟩
    refine ⟨result, hsent, fun now => ?_⟩
    obtain ⟨haccepted, receipt', hlookup', hwaiting⟩ := hsettles now
    have hhandled : handleRecoveryCreateResult cfg m.world.recovery (nodeSource cfg) result now =
        ((Jobs.deliver (recoveryDesk cfg.self) m.world.recovery result now).1, none) := by
      simp [handleRecoveryCreateResult, hjob.1, runtimeNodeSource, nodeSource, haccepted]
    rw [hhandled]
    exact ⟨rfl, receipt', hlookup', of_decide_eq_false hwaiting⟩

end Runs

/-- A stop task is given to the agent, taken by a worker, and the Directory cannot be read, after
some other events. -/
def interrupted (others : List Event) : List Event :=
  [.arrive, .act (.beginNodeStop sampleConfig.stopCoordinator (some sampleTask) 1),
    .act (.stopRunner .take)] ++ others ++ [.act (.stopRunner (.prepare sampleTask none))]

/-- The receipt of the task is queued, and neither the runner nor a worker has the task. -/
def Mailbox.idle (m : Mailbox) : Bool :=
  decide (m.world.stop.records.lookup (stopDesk.key sampleTask) =
    some (sampleTask, stopReceipt sampleTask .queued .none 1)) &&
  m.world.stop.queue.isEmpty && m.world.stop.begun.isEmpty && m.world.stop.acting.isEmpty

theorem Mailbox.idle_iff {m : Mailbox} : m.idle = true ↔
    m.world.stop.records.lookup (stopDesk.key sampleTask) =
      some (sampleTask, stopReceipt sampleTask .queued .none 1) ∧
    m.world.stop.queue = [] ∧ m.world.stop.begun = [] ∧ m.world.stop.acting = [] := by
  simp [idle, and_assoc]

/-- With a place in the mailbox the result is there. -/
theorem receipts_attended_interrupted : ∃ m, (posted sampleConfig 1).ReachableUnder
    (fun m e => roomy sampleConfig 1 m e = true) m ∧ m.idle = true ∧
    StopResultDue sampleConfig m.world (stopDesk.key sampleTask) sampleTask := by
  obtain ⟨m, hm, hidle⟩ := System.exists_reachableUnder_of_run (posted sampleConfig 1)
    (fun m e => roomy sampleConfig 1 m e = true) (interrupted []) (s := {}) Mailbox.idle rfl
    (by decide +kernel)
  obtain ⟨hlookup, hqueue, hbegun, hacting⟩ := Mailbox.idle_iff.1 hidle
  refine ⟨m, hm, hidle, ?_⟩
  have hwaits := (receipts_attended sampleConfig 1 hm).1 _ _ _ hlookup rfl
  rw [hqueue, hbegun, hacting] at hwaits
  simpa using hwaits

/-- In a run of the agent the mailbox is in this state, nothing is on its way to the receipt, and it
is queued all the same. -/
def Orphaned (others : ℕ) (stopping closing : Bool) : Prop :=
  ∃ m, (posted sampleConfig 1).Reachable m ∧
    (m.others, m.stopping, m.closing) = (others, stopping, closing) ∧
    m.idle = true ∧ m.world.stop.sent = []

theorem orphaned_of_run (e : Event) {others : ℕ} {stopping closing : Bool}
    (h : ((posted sampleConfig 1).runUnder (fun _ _ => True) {} (interrupted [e])).map (fun m =>
      decide ((m.others, m.stopping, m.closing) = (others, stopping, closing)) &&
        (m.idle && m.world.stop.sent.isEmpty)) = some true) :
    Orphaned others stopping closing := by
  obtain ⟨m, hm, hcheck⟩ := System.exists_reachableUnder_of_run (posted sampleConfig 1)
    (fun _ _ => True) (interrupted [e]) _ rfl h
  rw [Bool.and_eq_true, Bool.and_eq_true, List.isEmpty_iff] at hcheck
  exact ⟨m, hm, of_decide_eq_true hcheck.1, hcheck.2⟩

/-- When another Command has taken the place, the agent has been told to stop or the Runtime is
closing, the result is gone. -/
theorem receipt_orphaned : Orphaned 1 false false ∧ Orphaned 0 true false ∧ Orphaned 0 false true :=
  ⟨orphaned_of_run .arrive (by decide +kernel), orphaned_of_run .stop (by decide +kernel),
    orphaned_of_run .close (by decide +kernel)⟩

end GameServiceRuntime.Control.NodeAgent
