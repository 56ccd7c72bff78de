import GameServiceRuntime.Control.Draining

/-!
# Guards

A service that can be drained is wrapped in a guard. The guard answers two commands of its own,
`BeginDrain` and `GetDrainStatus`, passes every other command to the service inside and, once it is
draining, refuses those that are listed as external. It runs in the mailbox of the service, and it
never stops draining.

The coordinator learns of this through calls that may fail with or without effect. Here it runs
together with any number of services that have a guard: it makes one call at a time, and between two
of them anything may be put in the mailboxes and handled. A call to a guard returns an error or
something that this guard has replied, at any time before and to whomever. Who sends what is left
open, so that what the coordinator sends is covered, and so are calls that arrive late, twice or not
at all. The other calls return anything.
-/

namespace GameServiceRuntime.Control

/-! ### The guard -/

abbrev CommandID := UInt32

def beginDrainCommand : CommandID := 0x02700201

def getDrainStatusCommand : CommandID := 0x02700202

/-- A payload: the two requests of the guard, and all others. -/
inductive Payload
  | beginDrainRequest
  | getDrainStatusRequest
  | other (value : ℕ)
  deriving DecidableEq

/-- A command in a mailbox, with its source. -/
structure Message where
  source : ServiceRef
  command : CommandID
  payload : Payload
  deriving DecidableEq

/-- The errors a guard replies. -/
inductive GuardError
  | invalidGuard
  | unauthorized
  deriving DecidableEq

/-- To the coordinator they are errors like any other. -/
def GuardError.err : GuardError → Err
  | .invalidGuard => .other 0
  | .unauthorized => .other 1

structure GuardConfig where
  controller : ServiceRef
  externalCommands : List CommandID

/-- The checks of `Decorate`. -/
def GuardConfig.valid (cfg : GuardConfig) : Bool :=
  validGroupRef cfg.controller && !cfg.externalCommands.isEmpty &&
    (cfg.externalCommands.all fun command =>
      command ≠ 0 && command ≠ beginDrainCommand && command ≠ getDrainStatusCommand) &&
    decide cfg.externalCommands.Nodup

/-- The state of `guardDecorator`. -/
structure Guard where
  draining : Bool := false
  startedAt : Time := 0
  deriving DecidableEq

/-- What becomes of a command. -/
inductive Handling
  | reply (err : Option GuardError) (status : DrainStatus)
  /-- `Handle` returns `ErrDraining`. -/
  | reject
  /-- The command is passed to the service inside. -/
  | pass
  deriving DecidableEq

namespace Guard

variable (cfg : GuardConfig) (g : Guard)

def currentStatus : DrainStatus := ⟨g.draining, g.startedAt⟩

/-- `begin`; the metrics are left out. -/
def begin (now : Time) (source : ServiceRef) (payload : Payload) : Guard × Handling :=
  if payload ≠ .beginDrainRequest then (g, .reply (some .invalidGuard) ⟨false, 0⟩)
  else if source ≠ cfg.controller then (g, .reply (some .unauthorized) ⟨false, 0⟩)
  else if g.draining then (g, .reply none g.currentStatus)
  else (⟨true, now⟩, .reply none ⟨true, now⟩)

def status (payload : Payload) : Guard × Handling :=
  if payload ≠ .getDrainStatusRequest then (g, .reply (some .invalidGuard) ⟨false, 0⟩)
  else (g, .reply none g.currentStatus)

def handle (now : Time) (m : Message) : Guard × Handling :=
  if m.command = beginDrainCommand then g.begin cfg now m.source m.payload
  else if m.command = getDrainStatusCommand then g.status m.payload
  else if g.draining && m.command ∈ cfg.externalCommands then (g, .reject)
  else (g, .pass)

end Guard

/-- The command is neither external nor one of the guard. -/
def GuardConfig.internal (cfg : GuardConfig) (m : Message) : Bool :=
  m.command ∉ cfg.externalCommands && m.command ≠ beginDrainCommand &&
    m.command ≠ getDrainStatusCommand

section Guard

variable {cfg : GuardConfig} {g : Guard} {now : Time} {m : Message}

/-- **A guard never stops draining.** -/
theorem Guard.draining_handle (h : g.draining = true) : (g.handle cfg now m).1.draining = true := by
  unfold handle begin status
  split_ifs <;> exact h

/-- A reply that says that the guard is draining is one of a guard that is. -/
theorem Guard.draining_of_reply {err : Option GuardError} {status : DrainStatus}
    (h : (g.handle cfg now m).2 = .reply err status) (hs : status.draining = true) :
    (g.handle cfg now m).1.draining = true := by
  unfold handle begin Guard.status at h ⊢
  split_ifs at h ⊢ <;> cases h <;> first | exact hs | cases hs

/-- **A guard that is draining** passes the commands that are not external, and no others. -/
theorem Guard.pass_iff (h : g.draining = true) :
    (g.handle cfg now m).2 = .pass ↔ cfg.internal m = true := by
  unfold handle begin Guard.status GuardConfig.internal
  split_ifs <;> simp_all

end Guard

/-! ### A service with a guard -/

/-- The guard of a service, its mailbox, and what has become of the commands that were in it. -/
structure Target where
  guard : Guard := {}
  mailbox : List Message := []
  /-- The commands that were handled, in order. -/
  handled : List Message := []
  /-- The commands that were passed to the service inside, in order. -/
  passed : List Message := []
  /-- What the guard replied. -/
  replies : List Response := []

/-- The next command is handled. -/
def Target.handleNext (cfg : GuardConfig) (t : Target) (now : Time) : Option Target :=
  match t.mailbox with
  | [] => none
  | m :: mailbox =>
    let out := t.guard.handle cfg now m
    some
      { guard := out.1
        mailbox := mailbox
        handled := t.handled ++ [m]
        passed := if out.2 = .pass then t.passed ++ [m] else t.passed
        replies :=
          match out.2 with
          | .reply err status => .guardStatus (err.map GuardError.err) status :: t.replies
          | _ => t.replies }

/-- What a target does from a state in which its guard is draining. -/
structure Target.Drained (cfg : GuardConfig) (t t' : Target) : Prop where
  draining : t'.guard.draining = true
  handled : ∃ ms, t'.handled = t.handled ++ ms ∧ t'.passed = t.passed ++ ms.filter cfg.internal
  mailbox : ∃ arrived, t'.handled ++ t'.mailbox = t.handled ++ t.mailbox ++ arrived

/-- A guard that has said that it is draining is draining. -/
def Target.Truthful (t : Target) : Prop :=
  ∀ response ∈ t.replies, guardDraining (.ok response) = true → t.guard.draining = true

section Target

variable {cfg : GuardConfig} {t t₁ t' : Target} {now : Time}

theorem Target.Drained.refl (h : t.guard.draining = true) : t.Drained cfg t :=
  ⟨h, ⟨[], by simp, by simp⟩, [], by simp⟩

theorem Target.Drained.receive (h : t.Drained cfg t') (m : Message) :
    t.Drained cfg { t' with mailbox := t'.mailbox ++ [m] } := by
  obtain ⟨arrived, harrived⟩ := h.mailbox
  refine ⟨h.draining, h.handled, arrived ++ [m], ?_⟩
  rw [← List.append_assoc, harrived, List.append_assoc]

/-- **A command is handled** by a guard that is draining. -/
theorem Target.Drained.handleNext (h : t.Drained cfg t₁) (hnext : t₁.handleNext cfg now = some t') :
    t.Drained cfg t' := by
  unfold Target.handleNext at hnext
  split at hnext
  · cases hnext
  next m mailbox hmailbox =>
    cases hnext
    obtain ⟨ms, hhandled, hpassed⟩ := h.handled
    obtain ⟨arrived, harrived⟩ := h.mailbox
    refine ⟨Guard.draining_handle h.draining, ⟨ms ++ [m], ?_, ?_⟩, arrived, ?_⟩
    · rw [hhandled, List.append_assoc]
    · rw [List.filter_append, List.filter_singleton, hpassed]
      cases hinternal : cfg.internal m with
      | true => rw [if_pos ((Guard.pass_iff h.draining).2 hinternal), cond_true, List.append_assoc]
      | false =>
        rw [if_neg, cond_false, List.append_nil]
        intro hpass
        rw [(Guard.pass_iff h.draining).1 hpass] at hinternal
        cases hinternal
    · rw [← harrived, hmailbox, List.append_assoc, List.singleton_append]

theorem Target.draining_handleNext (h : t.guard.draining = true)
    (hnext : t.handleNext cfg now = some t') : t'.guard.draining = true :=
  ((Target.Drained.refl h).handleNext hnext).draining

theorem Target.Truthful.handleNext (h : t.Truthful) (hnext : t.handleNext cfg now = some t') :
    t'.Truthful := by
  have hkeep := fun hdraining => Target.draining_handleNext hdraining hnext
  unfold Target.handleNext at hnext
  split at hnext
  · cases hnext
  next m mailbox hmailbox =>
    cases hnext
    intro response hresponse hsays
    cases hout : (t.guard.handle cfg now m).2 with
    | reply err status =>
      simp only [hout, List.mem_cons] at hresponse
      rcases hresponse with rfl | hold
      · refine Guard.draining_of_reply hout ?_
        cases err with
        | some err => cases hsays
        | none =>
          unfold guardDraining guardStatusFromResponse at hsays
          simp only [Option.map_none] at hsays
          split at hsays
          · cases hsays
          · exact hsays
      · exact hkeep (h response hold hsays)
    | reject | pass =>
      simp only [hout] at hresponse
      exact hkeep (h response hresponse hsays)

end Target

/-! ### The coordinator and its targets -/

/-- The coordinator, and the services that have a guard whose controller it is. -/
structure Deployment where
  config : Config
  self : ServiceRef
  guards : ServiceRef → Option GuardConfig
  guards_valid : ∀ ref cfg, guards ref = some cfg → cfg.valid = true ∧ cfg.controller = self

namespace Fleet

/-- A command that the coordinator is handling: the calls made so far, and what is left to do. -/
structure Running where
  source : ServiceRef
  command : Command
  clock : Clock
  made : List Event
  rest : Handled

/-- The coordinator, what it is doing, and the services. -/
structure World where
  control : Control.World := {}
  running : Option Running := none
  targets : ServiceRef → Target := fun _ => {}

/-- What can happen. -/
inductive Action
  | command (source : ServiceRef) (command : Command) (clock : Clock)
  /-- the call the coordinator is waiting for returns -/
  | answer (answer : Answer)
  /-- the coordinator replies -/
  | finish
  | send (target : ServiceRef) (m : Message)
  | handle (target : ServiceRef) (now : Time)

variable (d : Deployment)

/-- A call may return this. -/
def answers (targets : ServiceRef → Target) (op : Op) : Answer → Bool
  | .error _ => true
  | .ok response =>
    match op with
    | .beginGuard target | .guardStatus target =>
      (d.guards target).isNone || response ∈ (targets target).replies
    | _ => true

/-- The effect of what happens, if it can. -/
def step (w : World) : Action → Option World
  | .command source command clock =>
    if w.running.isNone then
      let rest := Control.handle clock d.config w.control.state source command
      some { w with running := some ⟨source, command, clock, [], rest⟩ }
    else none
  | .answer answer =>
    match w.running with
    | some { source, command, clock, made, rest := .call op k } =>
      if answers d w.targets op answer then
        some { w with running := some ⟨source, command, clock, made ++ [(op, answer)], k answer⟩ }
      else none
    | _ => none
  | .finish =>
    match w.running with
    | some { made, rest := .ret (state, reply), .. } =>
      some { w with
        control := ⟨state, w.control.calls ++ made, w.control.replies ++ [reply]⟩
        running := none }
    | _ => none
  | .send target m =>
    let t := w.targets target
    let t := { t with mailbox := t.mailbox ++ [m] }
    some { w with targets := Function.update w.targets target t }
  | .handle target now =>
    (d.guards target).bind fun cfg => ((w.targets target).handleNext cfg now).map fun t =>
      { w with targets := Function.update w.targets target t }

/-- The coordinator with its targets. -/
def system : System World Action where
  init w := w = {}
  step := step d

/-- Whole turns of the loop of `advance` that all go on. -/
inductive Turns (clock : Clock) : DrainRecord → List Event → DrainRecord → Prop
  | refl (r : DrainRecord) : Turns clock r [] r
  | next {r r₁ r' : DrainRecord} {es₁ es₂ : List Event}
      (h : (advanceOnce clock r).Returns es₁ (r₁, true)) (ht : Turns clock r₁ es₂ r') :
      Turns clock r (es₁ ++ es₂) r'

/-- The record that a command starts to advance. -/
inductive Starts (s : State) (clock : Clock) : Command → Text → DrainRecord → Prop
  | new {request normalized : StartDrainRequest}
      (hnormal : normalizeStartDrainRequest request = .ok normalized) :
      Starts s clock (.start request) normalized.requestID (newDrainRecord clock normalized)
  | old {requestID principal : Text} {r : DrainRecord}
      (hold : s.operations.lookup requestID = some r) :
      Starts s clock (.resolve requestID principal) requestID r

/-- An operation is at a record: it is stored, or the coordinator has come to it with the calls it
has made so far. -/
inductive World.At (w : World) (requestID : Text) (r : DrainRecord) : Prop
  | stored (h : w.control.state.operations.lookup requestID = some r)
  | advancing {run : Running} {r₀ : DrainRecord} {es : List Event} (hrun : w.running = some run)
      (hstarts : Starts w.control.state run.clock run.command requestID r₀)
      (hturns : Turns run.clock r₀ es r) (hes : es <+: run.made)

variable {d} {w w' : World} {a : Action}

/-- A step leaves a service as it is, puts a command in its mailbox or handles the next one. -/
theorem step_targets (h : step d w a = some w') (ref : ServiceRef) :
    w'.targets ref = w.targets ref ∨
      (∃ m, w'.targets ref = { w.targets ref with mailbox := (w.targets ref).mailbox ++ [m] }) ∨
      ∃ cfg now, d.guards ref = some cfg ∧
        (w.targets ref).handleNext cfg now = some (w'.targets ref) := by
  cases a with
  | command source command clock =>
    rw [step, Option.ite_none_right_eq_some] at h
    cases h.2
    exact .inl rfl
  | answer answer =>
    rw [step] at h
    split at h
    · rw [Option.ite_none_right_eq_some] at h
      cases h.2
      exact .inl rfl
    · cases h
  | finish =>
    rw [step] at h
    split at h
    · cases h
      exact .inl rfl
    · cases h
  | send target m =>
    cases h
    by_cases href : ref = target
    · subst href
      exact .inr (.inl ⟨m, Function.update_self ..⟩)
    · exact .inl (Function.update_of_ne href ..)
  | handle target now =>
    obtain ⟨cfg, hcfg, hmap⟩ := Option.bind_eq_some_iff.1 h
    obtain ⟨t, ht, rfl⟩ := Option.map_eq_some_iff.1 hmap
    by_cases href : ref = target
    · subst href
      refine .inr (.inr ⟨cfg, now, hcfg, ?_⟩)
      show _ = some (Function.update w.targets ref t ref)
      rw [ht, Function.update_self]
    · exact .inl (Function.update_of_ne href ..)

variable {ref : ServiceRef} {cfg : GuardConfig}

/-- **A step of a service that is draining.** -/
theorem step_drained (hcfg : d.guards ref = some cfg)
    {t : Target} (ht : t.Drained cfg (w.targets ref)) (h : step d w a = some w') :
    t.Drained cfg (w'.targets ref) := by
  rcases step_targets h ref with heq | ⟨m, heq⟩ | ⟨cfg', now, hcfg', hnext⟩
  · rw [heq]
    exact ht
  · rw [heq]
    exact ht.receive m
  · rw [hcfg] at hcfg'
    cases hcfg'
    exact ht.handleNext hnext

/-- **A run of a service that is draining.** -/
theorem steps_drained (hcfg : d.guards ref = some cfg)
    {t : Target} {as : List Action} (ht : t.Drained cfg (w.targets ref))
    (h : (system d).Steps w as w') : t.Drained cfg (w'.targets ref) := by
  induction as generalizing w with
  | nil =>
    cases h
    exact ht
  | cons a as ih =>
    obtain ⟨u, hu, hrest⟩ := h
    exact ih (step_drained hcfg ht hu) hrest

theorem step_truthful (h : step d w a = some w') (ht : ∀ ref, (w.targets ref).Truthful)
    (ref : ServiceRef) : (w'.targets ref).Truthful := by
  rcases step_targets h ref with heq | ⟨m, heq⟩ | ⟨cfg, now, -, hnext⟩
  · rw [heq]
    exact ht ref
  · rw [heq]
    exact ht ref
  · exact (ht ref).handleNext hnext

/-- The calls the coordinator has made. -/
def World.made (w : World) : List Event :=
  w.control.calls ++ w.running.elim [] Running.made

/-- What the calls of the coordinator say of the guards is so, and it runs the handler of its
command. -/
structure Inv (d : Deployment) (w : World) : Prop where
  control : (Control.system d.config).Reachable w.control
  running : ∀ run, w.running = some run → ∀ es out, run.rest.Returns es out →
    (Control.handle run.clock d.config w.control.state run.source run.command).Returns
      (run.made ++ es) out
  truthful : ∀ ref, (w.targets ref).Truthful
  draining : ∀ e ∈ w.made, ∀ ref, e.Guards ref → ∀ cfg, d.guards ref = some cfg →
    (w.targets ref).guard.draining = true

/-- An answer that says that a guard is draining comes from that guard. -/
theorem draining_of_answers {targets : ServiceRef → Target} {op : Op} {answer : Answer}
    (htruthful : ∀ ref, (targets ref).Truthful) (h : answers d targets op answer = true)
    (hguards : Event.Guards (op, answer) ref)
    (hcfg : d.guards ref = some cfg) : (targets ref).guard.draining = true := by
  cases answer with
  | error err => cases hguards.2
  | ok response =>
    obtain ⟨hop, hsays⟩ := hguards
    rcases hop with rfl | rfl <;>
    · simp only [answers, hcfg, Option.isNone_some, Bool.false_or, decide_eq_true_eq] at h
      exact htruthful ref response h hsays

theorem Inv.step (hw : Inv d w) (h : Fleet.step d w a = some w') : Inv d w' := by
  have htruthful := step_truthful h hw.truthful
  have hkeep : ∀ ref cfg, d.guards ref = some cfg → (w.targets ref).guard.draining = true →
      (w'.targets ref).guard.draining = true := fun ref cfg hcfg hdraining =>
    (step_drained hcfg (.refl hdraining) h).draining
  cases a with
  | command source command clock =>
    rw [Fleet.step, Option.ite_none_right_eq_some] at h
    obtain ⟨hidle, hs⟩ := h
    cases hs
    refine ⟨hw.control, ?_, htruthful, ?_⟩
    · rintro _ ⟨⟩ es out hout
      exact hout
    · intro e he ref hguards cfg hcfg
      refine hw.draining e ?_ ref hguards cfg hcfg
      rw [World.made] at he ⊢
      rw [Option.isNone_iff_eq_none.1 hidle]
      exact he
  | answer answer =>
    rw [Fleet.step] at h
    split at h
    next source command clock made op k hrun =>
      rw [Option.ite_none_right_eq_some] at h
      obtain ⟨hanswers, hs⟩ := h
      cases hs
      refine ⟨hw.control, ?_, htruthful, ?_⟩
      · rintro _ ⟨⟩ es out hout
        rw [List.append_assoc]
        exact hw.running _ hrun _ _ (.call hout)
      · intro e he ref hguards cfg hcfg
        rw [World.made, Option.elim_some, ← List.append_assoc, List.mem_append] at he
        rcases he with hold | hnew
        · refine hw.draining e ?_ ref hguards cfg hcfg
          rw [World.made, hrun]
          exact hold
        · rw [List.mem_singleton.1 hnew] at hguards
          exact draining_of_answers hw.truthful hanswers hguards hcfg
    · cases h
  | finish =>
    rw [Fleet.step] at h
    split at h
    next source command clock made state reply hrun =>
      cases h
      have hreturns := hw.running _ hrun [] _ (.ret (state, reply))
      rw [List.append_nil] at hreturns
      have hout := Calls.run_of_returns hreturns
      refine ⟨?_, nofun, htruthful, ?_⟩
      · refine .step hw.control trivial (a := ⟨source, command, clock, made.map Prod.snd⟩) ?_
        exact congrArg (Option.map _) hout
      · intro e he ref hguards cfg hcfg
        refine hw.draining e ?_ ref hguards cfg hcfg
        rw [World.made, hrun]
        simpa [World.made] using he
    · cases h
  | send target m =>
    cases h
    exact ⟨hw.control, hw.running, htruthful, fun e he ref hguards cfg hcfg =>
      hkeep ref cfg hcfg (hw.draining e he ref hguards cfg hcfg)⟩
  | handle target now =>
    obtain ⟨cfg, hcfg, hmap⟩ := Option.bind_eq_some_iff.1 h
    obtain ⟨t, ht, rfl⟩ := Option.map_eq_some_iff.1 hmap
    exact ⟨hw.control, hw.running, htruthful, fun e he ref hguards cfg hcfg =>
      hkeep ref cfg hcfg (hw.draining e he ref hguards cfg hcfg)⟩

theorem reachable_inv (h : (system d).Reachable w) : Inv d w := by
  refine h.invariant (I := Inv d) ?_ fun w a w' hw _ hstep => hw.step hstep
  rintro _ rfl
  refine ⟨.init rfl, nofun, (fun _ _ hresponse => nomatch hresponse), fun e he => ?_⟩
  rw [World.made, Option.elim_none, List.append_nil] at he
  cases he

/-- The coordinator among its targets is the coordinator on its own. -/
theorem control_reachable (h : (system d).Reachable w) :
    (Control.system d.config).Reachable w.control := (reachable_inv h).control

theorem Turns.guarded {clock : Clock} {r r' : DrainRecord} {es calls : List Event}
    (h : Turns clock r es r') (hr : r.Guarded calls) : r'.Guarded (calls ++ es) := by
  induction h generalizing calls with
  | refl r =>
    rw [List.append_nil]
    exact hr
  | next h _ ih =>
    rw [← List.append_assoc]
    exact ih (hr.turn (advanceOnce_turn h))

/-- An operation is guarded by the calls made so far, wherever it is. -/
theorem World.At.guarded (hw : (system d).Reachable w) {requestID : Text} {r : DrainRecord}
    (h : w.At requestID r) : r.Guarded w.made := by
  have hdrained := reachable_drained (control_reachable hw)
  cases h with
  | stored h => exact ((hdrained.drains requestID r h).1).append _
  | @advancing run r₀ es hrun hstarts hturns hes =>
    obtain ⟨source, command, clock, made, rest⟩ := run
    obtain ⟨more, hmore⟩ := hes
    have hr₀ : r₀.Guarded w.control.calls := by
      cases hstarts with
      | new => exact .new _ _
      | old hold => exact (hdrained.drains _ _ hold).1
    have hr := (hturns.guarded hr₀).append more
    rw [List.append_assoc, hmore] at hr
    rw [World.made, hrun]
    exact hr

/-- **The targets of an operation that waits for visitors are draining.** -/
theorem draining_of_at (hw : (system d).Reachable w) {requestID : Text} {r : DrainRecord}
    (h : w.At requestID r) (hphase : r.operation.phase.drained = true) {t : DrainTarget}
    (ht : t ∈ r.operation.targets.elems) (hcfg : d.guards t.ref = some cfg) :
    (w.targets t.ref).guard.draining = true := by
  have hguarded := h.guarded hw
  obtain ⟨read, answer, set, hsub, -, -, hguards⟩ :=
    hguarded.marks t ht (hguarded.all hphase t ht)
  exact (reachable_inv hw).draining answer (hsub.subset (by simp)) t.ref hguards cfg hcfg

/-- **A drained target takes no more external work.** Once an operation waits for visitors or is
ready to stop, a target of it with a guard handles the commands in its mailbox and all that are sent
later in order, and passes those of them that are neither external nor the guard's own, and no
others. -/
theorem drained_passes_internal (d : Deployment) {w w' : World} (hw : (system d).Reachable w)
    {requestID : Text} {r : DrainRecord} (hr : w.At requestID r)
    (hphase : r.operation.phase = .waitingVisitors ∨ r.operation.phase = .readyToStop)
    {t : DrainTarget} (ht : t ∈ r.operation.targets.elems) {cfg : GuardConfig}
    (hcfg : d.guards t.ref = some cfg) {as : List Action} (hsteps : (system d).Steps w as w') :
    ∃ handled arrived,
      (w'.targets t.ref).handled = (w.targets t.ref).handled ++ handled ∧
      (w'.targets t.ref).handled ++ (w'.targets t.ref).mailbox =
        (w.targets t.ref).handled ++ (w.targets t.ref).mailbox ++ arrived ∧
      (w'.targets t.ref).passed = (w.targets t.ref).passed ++ handled.filter cfg.internal ∧
      ∀ m ∈ handled.filter cfg.internal, m.command ∉ cfg.externalCommands := by
  have hdrained : r.operation.phase.drained = true := by
    rcases hphase with h | h <;> rw [h] <;> rfl
  have hdraining := draining_of_at hw hr hdrained ht hcfg
  obtain ⟨-, ⟨handled, hhandled, hpassed⟩, arrived, harrived⟩ :=
    steps_drained hcfg (.refl hdraining) hsteps
  refine ⟨handled, arrived, hhandled, harrived, hpassed, fun m hm => ?_⟩
  have hinternal := (List.mem_filter.1 hm).2
  simp only [GuardConfig.internal, Bool.and_eq_true, decide_eq_true_eq] at hinternal
  exact hinternal.1.1

/-! ### A run -/

namespace Sample

/-- The guard of the target, with one external command. -/
def guard : GuardConfig := ⟨⟨"n", 9⟩, [5]⟩

def deployment : Deployment where
  config := Control.Sample.config
  self := ⟨"n", 9⟩
  guards ref := if ref = Control.Sample.target then some guard else none
  guards_valid ref cfg h := by
    rw [Option.ite_none_right_eq_some] at h
    cases h.2
    exact ⟨by decide +kernel, rfl⟩

/-- A command to the target. -/
def message (command : CommandID) (payload : Payload) : Message :=
  ⟨⟨"n", 9⟩, command, payload⟩

/-- The drain of the target: the guard handles its command before the call returns, and an external
command is in the mailbox behind it. -/
def drain : List Action :=
  [.command Control.Sample.drain.source Control.Sample.drain.command Control.Sample.clock,
    .send Control.Sample.target (message 5 (.other 0)),
    .send Control.Sample.target (message beginDrainCommand .beginDrainRequest),
    .send Control.Sample.target (message 5 (.other 1)),
    .handle Control.Sample.target 1, .handle Control.Sample.target 1] ++
  Control.Sample.drain.answers.map .answer ++ [.finish]

/-- A command of the guard. -/
def status : Message := message getDrainStatusCommand .getDrainStatusRequest

/-- What is sent after that, and handled. -/
def later : List Action :=
  [.send Control.Sample.target (message 6 (.other 2)), .send Control.Sample.target status,
    .handle Control.Sample.target 2, .handle Control.Sample.target 2,
    .handle Control.Sample.target 2]

/-- The commands that are handled after that. -/
def handled : List Message := [message 5 (.other 1), message 6 (.other 2), status]

end Sample

/-- The operation is ready, with the target in it, and there is a run from there. -/
theorem sample_run :
    ∃ w w' r, (system Sample.deployment).Reachable w ∧ w.At "r" r ∧
      r.operation.phase = .readyToStop ∧
      r.operation.targets.elems = [⟨Control.Sample.target, true, 0⟩] ∧
      (system Sample.deployment).Steps w Sample.later w' ∧
      (w.targets Control.Sample.target).passed = [Sample.message 5 (.other 0)] ∧
      (w'.targets Control.Sample.target).handled =
        (w.targets Control.Sample.target).handled ++ Sample.handled ∧
      (w'.targets Control.Sample.target).passed =
        [Sample.message 5 (.other 0), Sample.message 6 (.other 2)] := by
  obtain ⟨w, hw, hp⟩ := System.exists_reachableUnder_of_run (system Sample.deployment)
    (fun _ _ => True) Sample.drain (s := {})
    (fun w => ((w.control.state.operations.lookup (Text.ofString "r")).any fun r =>
        r.operation.phase = .readyToStop &&
          r.operation.targets.elems = [⟨Control.Sample.target, true, 0⟩]) &&
      ((w.targets Control.Sample.target).passed = [Sample.message 5 (.other 0)] &&
      ((system Sample.deployment).runUnder (fun _ _ => True) w Sample.later).any fun w' =>
        (w'.targets Control.Sample.target).handled =
          (w.targets Control.Sample.target).handled ++ Sample.handled &&
        (w'.targets Control.Sample.target).passed =
          [Sample.message 5 (.other 0), Sample.message 6 (.other 2)])) rfl (by decide +kernel)
  rw [Bool.and_eq_true, Bool.and_eq_true, Option.any_eq_true, Option.any_eq_true] at hp
  obtain ⟨⟨r, hr, hready⟩, hpassed, w', hw', hafter⟩ := hp
  rw [Bool.and_eq_true, decide_eq_true_eq, decide_eq_true_eq] at hready hafter
  exact ⟨w, w', r, hw, .stored hr, hready.1, hready.2, System.steps_of_run hw',
    of_decide_eq_true hpassed, hafter.1, hafter.2⟩

theorem drained_passes_internal_sample :
    ∃ w w' handled, (system Sample.deployment).Reachable w ∧
      (system Sample.deployment).Steps w Sample.later w' ∧
      (w'.targets Control.Sample.target).handled =
        (w.targets Control.Sample.target).handled ++ handled ∧
      handled = Sample.handled ∧
      (w'.targets Control.Sample.target).passed = (w.targets Control.Sample.target).passed ++
        handled.filter Sample.guard.internal := by
  obtain ⟨w, w', r, hw, hat, hphase, htargets, hsteps, -, hhandled, -⟩ := sample_run
  have hguard : Sample.deployment.guards Control.Sample.target = some Sample.guard := rfl
  obtain ⟨handled, arrived, hhandled', -, hpassed, -⟩ :=
    drained_passes_internal Sample.deployment hw
    hat (.inr hphase) (t := ⟨Control.Sample.target, true, 0⟩) (by simp [htargets]) hguard hsteps
  refine ⟨w, w', handled, hw, hsteps, hhandled', ?_, hpassed⟩
  exact List.append_cancel_left (hhandled'.symm.trans hhandled)

/-- A command of the guard is not external, and it is not passed. -/
theorem own_command_not_passed :
    ∃ w w' r, (system Sample.deployment).Reachable w ∧ w.At "r" r ∧
      r.operation.phase = .readyToStop ∧
      r.operation.targets.elems = [⟨Control.Sample.target, true, 0⟩] ∧
      Sample.deployment.guards Control.Sample.target = some Sample.guard ∧
      (system Sample.deployment).Steps w Sample.later w' ∧
      Sample.status.command ∉ Sample.guard.externalCommands ∧
      Sample.status ∈ (w'.targets Control.Sample.target).handled ∧
      Sample.status ∉ (w'.targets Control.Sample.target).passed := by
  obtain ⟨w, w', r, hw, hat, hphase, htargets, hsteps, -, hhandled, hpassed⟩ := sample_run
  refine ⟨w, w', r, hw, hat, hphase, htargets, rfl, hsteps, by decide, ?_, ?_⟩
  · rw [hhandled]
    exact List.mem_append_right _ (by decide)
  · rw [hpassed]
    decide

end Fleet

end GameServiceRuntime.Control
