import GameServiceRuntime.Control.Guard
import GameServiceRuntime.Record.Recorder
import GameServiceRuntime.Supervisor.Service

/-!
# Decorators

The supervisor, the drain guard and the recorder each come with a decorator that is put around a
Service, in any number and order. The Runtime sees the outermost one. It asks whether this declares
a startup Command, by a type assertion, and from then on calls `Init`, `Handle`, `Stop` and `Close`.

Here a Service is any state with these operations, and the Runtime is anything that decides on the
next call from the startup Command and the results so far: creation, the mailbox, other Services and
the reaction to errors and panics are all in there. `createService` is the Runtime of the source
with a given mailbox. A Service that keeps the list of the calls it gets tells what arrives inside.

The guard and the recorder pass the startup Command on. The decorator of the supervisor has no
`StartupCommand`, so that what is under it is not asked, at whatever depth.
-/

namespace GameServiceRuntime.Tooling

open Control (CommandID Payload Message)

/-- The errors of the decorators, and all others. -/
inductive Err
  | invalidRegistration
  | invalidGuard
  | draining
  | sequenceExhausted
  | invalidEntry
  | other (n : ℕ)
  deriving DecidableEq

/-- What a call ends with. -/
inductive Result
  | returned (err : Option Err)
  | panicked (value : ℕ)
  deriving DecidableEq

/-- What the decorators read of a `ServiceContext` and a `CommandContext`; the rest is the
Service's. -/
structure Context (κ : Type) where
  self : ServiceRef
  now : ℤ
  /-- what `Send` to a target returns -/
  send : ServiceRef → Option Err
  /-- what `Reply` returns -/
  reply : Option Err
  rest : κ

/-- A call of the Runtime. The source of a Command is in its message. -/
inductive Call (κ : Type)
  | init (ctx : Context κ)
  | handle (ctx : Context κ) (m : Message)
  | stop (rest : κ)
  | close

/-- `Service`. With `startup` it is a `StartupCommandDeclarer` too, which may declare no Command. -/
structure Service (κ : Type) where
  State : Type
  start : State
  startup : Option (Option (CommandID × Payload))
  invoke : Call κ → State → Result × State

variable {κ : Type}

def startupCommandFor (s : Service κ) : Option (CommandID × Payload) := s.startup.join

/-! ### The decorators -/

/-- `DecoratorConfig` of the supervisor -/
structure Supervised where
  key : Supervisor.ServiceKey
  generation : UInt64
  supervisor : ServiceRef

/-- The recorder's `Decorator` -/
structure Recorded where
  recorder : ServiceRef
  targetKey : Text
  encode : CommandID → Payload → Except Err (Slice UInt8)
  redact : Option (CommandID → Slice UInt8 → Except Err (Slice UInt8))
  strict : Bool

/-- A decorator. -/
inductive Layer
  | supervisor (cfg : Supervised)
  | guard (cfg : Control.GuardConfig)
  | record (cfg : Recorded)

/-- What a decorator remembers: the notices it has sent, whether it is draining, and the last
sequence number with the records it has sent. -/
structure Memo where
  notices : List (ServiceRef × Supervisor.FailureNotice) := []
  guard : Control.Guard := {}
  sequence : UInt64 := 0
  records : List Record.Entry := []

/-- `record`: the entry that was sent. -/
def Recorded.record (cfg : Recorded) (sequence : UInt64) (ctx : Context κ) (m : Message) :
    Except Err Record.Entry := do
  let next ← (Record.nextSequence sequence).elim (.error .sequenceExhausted) .ok
  let encoded ← cfg.encode m.command m.payload
  let payload ← match cfg.redact with
    | none => .ok encoded.copy
    | some redact => (redact m.command encoded.copy).map Slice.copy
  let entry : Record.Entry :=
    { formatVersion := Record.formatVersion
      targetKey := cfg.targetKey
      target := ctx.self
      source := m.source
      sequence := next
      recordedAt := ctx.now
      command := m.command
      payload := payload
      traceID := [] }
  if !Record.validEntry entry then .error .invalidEntry
  else match ctx.send cfg.recorder with
    | some err => .error err
    | none => .ok (Record.cloneEntry entry)

namespace Layer

/-- The `StartupCommand` of a decorator, if it has one. -/
def startup (l : Layer) (inner : Service κ) : Option (Option (CommandID × Payload)) :=
  match l with
  | .supervisor _ => none
  | .guard _ | .record _ => some (startupCommandFor inner)

/-- The check of `Init`. -/
def refuses (l : Layer) (self : ServiceRef) : Option Err :=
  match l with
  | .supervisor cfg => if self = cfg.supervisor then some .invalidRegistration else none
  | .guard cfg => if self = cfg.controller then some .invalidGuard else none
  | .record _ => none

/-- `Handle` up to the call of the Service inside, unless the decorator returns before. -/
def before (l : Layer) (ctx : Context κ) (m : Message) (memo : Memo) : Memo × Option Result :=
  match l with
  | .supervisor _ => (memo, none)
  | .guard cfg =>
    match memo.guard.handle cfg ctx.now m with
    | (g, .pass) => ({ memo with guard := g }, none)
    | (g, .reject) => ({ memo with guard := g }, some (.returned (some .draining)))
    | (g, .reply _ _) => ({ memo with guard := g }, some (.returned ctx.reply))
  | .record cfg =>
    match cfg.record memo.sequence ctx m with
    | .ok entry =>
      ({ memo with sequence := entry.sequence, records := memo.records ++ [entry] }, none)
    | .error err => (memo, if cfg.strict then some (.returned (some err)) else none)

/-- `Handle` after the call: the supervisor is told of a panic, which goes on. -/
def after (l : Layer) (ctx : Context κ) (r : Result) (memo : Memo) : Memo :=
  match l, r with
  | .supervisor cfg, .panicked _ =>
    { memo with notices := memo.notices ++
        [(cfg.supervisor, ⟨cfg.key, ctx.self, cfg.generation, ctx.now, true⟩)] }
  | _, _ => memo

/-- The decorator around a Service. -/
def wrap (l : Layer) (inner : Service κ) : Service κ where
  State := inner.State × Memo
  start := (inner.start, {})
  startup := l.startup inner
  invoke c st :=
    match c with
    | .init ctx =>
      match l.refuses ctx.self with
      | some err => (.returned (some err), st)
      | none => let r := inner.invoke c st.1; (r.1, r.2, st.2)
    | .handle ctx m =>
      match l.before ctx m st.2 with
      | (memo, some r) => (r, st.1, memo)
      | (memo, none) => let r := inner.invoke c st.1; (r.1, r.2, l.after ctx r.1 memo)
    | .stop _ | .close => let r := inner.invoke c st.1; (r.1, r.2, st.2)

/-- It is the supervisor's. -/
def supervises : Layer → Bool
  | .supervisor _ => true
  | _ => false

/-- It records, and refuses what it cannot record. -/
def strict : Layer → Bool
  | .record cfg => cfg.strict
  | _ => false

end Layer

/-- The decorators around a Service, the outermost first. -/
def decorate (layers : List Layer) (s : Service κ) : Service κ := layers.foldr Layer.wrap s

/-- The Service under the decorators. -/
def core {s : Service κ} : ∀ layers : List Layer, (decorate layers s).State → s.State
  | [], st => st
  | _ :: layers, st => core layers st.1

/-- The decorators' own states. -/
def memos {s : Service κ} : ∀ layers : List Layer, (decorate layers s).State → List Memo
  | [], _ => []
  | _ :: layers, st => st.2 :: memos layers st.1

/-- The Service, with the calls it has got and their results. -/
def Service.traced (s : Service κ) : Service κ where
  State := s.State × List (Call κ × Result)
  start := (s.start, [])
  startup := s.startup
  invoke c st := let r := s.invoke c st.1; (r.1, r.2, st.2 ++ [(c, r.1)])

/-! ### The Runtime -/

/-- How the Runtime goes on: by the startup Command and the results of its calls so far. -/
abbrev Scheduler (κ : Type) :=
  Option (CommandID × Payload) → List (Call κ × Result) → Option (Call κ)

/-- The first calls of the Runtime: the state they lead to, and their results. -/
def run (s : Service κ) (next : Scheduler κ) : ℕ → s.State × List (Call κ × Result)
  | 0 => (s.start, [])
  | n + 1 =>
    let r := run s next n
    match next (startupCommandFor s) r.2 with
    | none => r
    | some c => let out := s.invoke c r.1; (out.2, r.2 ++ [(c, out.1)])

/-- What `CreateService` and the dispatcher meet: whether the Runtime is still open after `Init` and
takes the startup Command, what is in the mailbox before and after it, and whether the Service is
stopped in the end. -/
structure Env (κ : Type) where
  ctx : Context κ
  running : Bool := true
  startupSent : Bool := true
  early : List (Context κ × Message) := []
  commands : List (Context κ × Message) := []
  stops : Bool := false

/-- `CreateService`, then the mailbox in its order. A panic ends in `Close`. -/
def createService (env : Env κ) : Scheduler κ := fun startup trace =>
  let own : List (Context κ × Message) :=
    startup.toList.map fun c => (env.ctx, ⟨env.ctx.self, c.1, c.2⟩)
  let plan := (env.early ++ own ++ env.commands).map (fun item => Call.handle item.1 item.2) ++
    if env.stops then [.stop env.ctx.rest, .close] else []
  match trace with
  | [] => some (.init env.ctx)
  | (_, r) :: rest =>
    if r ≠ .returned none || !env.running || startup.isSome && !env.startupSent then
      if rest.isEmpty then some .close else none
    else match rest.getLast? with
      | some (.handle _ _, .panicked _) => some .close
      | some (.close, _) => none
      | _ => plan[rest.length]?

/-! ### Transparency -/

/-- A call that no decorator answers by itself: `Init` of an instance that is nobody's supervisor or
controller, a Command that is not of a guard, `Stop` and `Close`. -/
def Allowed (layers : List Layer) : Call κ → Prop
  | .init ctx => ∀ l ∈ layers, l.refuses ctx.self = none
  | .handle _ m => m.command ≠ Control.beginDrainCommand ∧ m.command ≠ Control.getDrainStatusCommand
  | .stop _ | .close => True

section Transparent

variable {l : Layer} {layers : List Layer} {s inner : Service κ} {c : Call κ} {next : Scheduler κ}

theorem Allowed.of_cons (h : Allowed (l :: layers) c) : Allowed layers c := by
  cases c with
  | init ctx => exact fun l' hl' => h l' (List.mem_cons_of_mem l hl')
  | _ => exact h

/-- A Command passes through a decorator that is neither draining nor strict. -/
theorem Layer.before_of_idle {ctx : Context κ} {m : Message} {memo : Memo}
    (hstrict : l.strict = false) (hdrain : memo.guard.draining = false)
    (hm : m.command ≠ Control.beginDrainCommand ∧ m.command ≠ Control.getDrainStatusCommand) :
    (l.before ctx m memo).2 = none ∧ (l.before ctx m memo).1.guard.draining = false := by
  cases l with
  | supervisor cfg => exact ⟨rfl, hdrain⟩
  | guard cfg => simp [Layer.before, Control.Guard.handle, hm, hdrain]
  | record cfg =>
    simp only [Layer.strict] at hstrict
    simp only [Layer.before]
    split <;> simp [hstrict, hdrain]

/-- **One decorator** calls what is inside and returns what that returns. -/
theorem Layer.invoke_wrap (hstrict : l.strict = false) (hc : Allowed (l :: layers) c)
    (st : inner.State) (memo : Memo) (hdrain : memo.guard.draining = false) :
    ∃ memo' : Memo, memo'.guard.draining = false ∧ (l.wrap inner).invoke c (st, memo) =
      ((inner.invoke c st).1, (inner.invoke c st).2, memo') := by
  cases c with
  | init ctx =>
    have hrefuses : l.refuses ctx.self = none := hc l List.mem_cons_self
    exact ⟨memo, hdrain, by simp [Layer.wrap, hrefuses]⟩
  | handle ctx m =>
    obtain ⟨hnone, hidle⟩ := @Layer.before_of_idle _ l ctx m memo hstrict hdrain hc
    refine ⟨l.after ctx (inner.invoke (.handle ctx m) st).1 (l.before ctx m memo).1, ?_, ?_⟩
    · unfold Layer.after
      split <;> exact hidle
    · simp only [Layer.wrap]
      split <;> simp_all
  | stop rest => exact ⟨memo, hdrain, rfl⟩
  | close => exact ⟨memo, hdrain, rfl⟩

/-- The decorators leave the Service inside in a state, and none of them is draining. -/
def Hidden (layers : List Layer) (st : (decorate layers s).State) (inner : s.State) : Prop :=
  core layers st = inner ∧ ∀ memo ∈ memos layers st, memo.guard.draining = false

theorem hidden_start (layers : List Layer) (s : Service κ) :
    Hidden layers (decorate layers s).start s.start := by
  induction layers with
  | nil => exact ⟨rfl, nofun⟩
  | cons l layers ih => exact ⟨ih.1, List.forall_mem_cons.mpr ⟨rfl, ih.2⟩⟩

/-- **Any nesting of decorators**, over one call. -/
theorem Hidden.invoke (hstrict : ∀ l ∈ layers, l.strict = false) (hc : Allowed layers c)
    {st : (decorate layers s).State} {t : s.State} (h : Hidden layers st t) :
    ((decorate layers s).invoke c st).1 = (s.invoke c t).1 ∧
      Hidden layers ((decorate layers s).invoke c st).2 (s.invoke c t).2 := by
  induction layers with
  | nil =>
    obtain ⟨rfl, -⟩ := h
    exact ⟨rfl, rfl, nofun⟩
  | cons l layers ih =>
    obtain ⟨st, memo⟩ := st
    obtain ⟨hcore, hmemos⟩ := h
    obtain ⟨hdrain, hrest⟩ := List.forall_mem_cons.mp hmemos
    obtain ⟨memo', hdrain', heq⟩ :=
      @Layer.invoke_wrap _ l layers (decorate layers s) c (hstrict l List.mem_cons_self) hc st
        memo hdrain
    obtain ⟨hresult, hcore', hmemos'⟩ :=
      ih (fun l hl => hstrict l (List.mem_cons_of_mem _ hl)) hc.of_cons ⟨hcore, hrest⟩
    have hinvoke : (decorate (l :: layers) s).invoke c (st, memo) =
        (((decorate layers s).invoke c st).1, ((decorate layers s).invoke c st).2, memo') := heq
    rw [hinvoke]
    exact ⟨hresult, hcore', List.forall_mem_cons.mpr ⟨hdrain', hmemos'⟩⟩

/-- The startup Command comes through if no supervisor's decorator is in the way. -/
theorem startupCommandFor_decorate (layers : List Layer) (s : Service κ) :
    startupCommandFor (decorate layers s) =
      if layers.any Layer.supervises then none else startupCommandFor s := by
  induction layers with
  | nil => rfl
  | cons l layers ih =>
    cases l with
    | supervisor cfg =>
      simp [startupCommandFor, decorate, Layer.wrap, Layer.startup, Layer.supervises]
    | _ =>
      simp only [List.any_cons, Layer.supervises, Bool.false_or, ← ih]
      rfl

/-- **Whole runs.** -/
theorem run_decorate (hstrict : ∀ l ∈ layers, l.strict = false)
    (hstartup : startupCommandFor (decorate layers s) = startupCommandFor s) (next : Scheduler κ)
    (n : ℕ) (hcalls : ∀ e ∈ (run s next n).2, Allowed layers e.1) :
    (run (decorate layers s) next n).2 = (run s next n).2 ∧
      Hidden layers (run (decorate layers s) next n).1 (run s next n).1 := by
  induction n with
  | zero => exact ⟨rfl, hidden_start layers s⟩
  | succ n ih =>
    simp only [run, hstartup] at hcalls ⊢
    cases hnext : next (startupCommandFor s) (run s next n).2 with
    | none =>
      simp only [hnext] at hcalls
      obtain ⟨htrace, hstate⟩ := ih hcalls
      simp only [htrace, hnext]
      exact ⟨trivial, hstate⟩
    | some c =>
      simp only [hnext] at hcalls
      obtain ⟨htrace, hstate⟩ := ih fun e he => hcalls e (List.mem_append_left _ he)
      obtain ⟨hresult, hhidden⟩ :=
        hstate.invoke hstrict (hcalls (c, _) (List.mem_append_right _ List.mem_cons_self))
      simp only [htrace, hnext, hresult]
      exact ⟨trivial, hhidden⟩

/-- The trace is what the Runtime sees. -/
theorem run_traced (s : Service κ) (next : Scheduler κ) (n : ℕ) :
    (run s.traced next n).2 = (run s next n).2 ∧
      (run s.traced next n).1 = ((run s next n).1, (run s next n).2) := by
  induction n with
  | zero => exact ⟨rfl, rfl⟩
  | succ n ih =>
    simp only [run, ih.1, show startupCommandFor s.traced = startupCommandFor s from rfl]
    cases next (startupCommandFor s) (run s next n).2 with
    | none => exact ih
    | some c =>
      have hinvoke : s.traced.invoke c (run s.traced next n).1 =
          ((s.invoke c (run s next n).1).1, (s.invoke c (run s next n).1).2,
            (run s next n).2 ++ [(c, (s.invoke c (run s next n).1).1)]) := by
        rw [ih.2]
        rfl
      simp only [hinvoke, true_and]
      rfl

end Transparent

/-- **Decorators are transparent.** For every Service, every nesting of decorators and every run in
which the instance is not its own supervisor or controller and no Command of a guard is addressed to
it: if no recording is strict, and the Service declares no startup Command or no supervisor's
decorator is around it, the calls that the Service gets, with their results, are those it gets
without decorators, and so are the results for the Runtime. -/
theorem decorated_transparent (s : Service κ) (layers : List Layer)
    (hstrict : ∀ l ∈ layers, l.strict = false)
    (hstartup : (∀ l ∈ layers, l.supervises = false) ∨ startupCommandFor s = none)
    (next : Scheduler κ) (n : ℕ) (hcalls : ∀ e ∈ (run s next n).2, Allowed layers e.1) :
    (core layers (run (decorate layers s.traced) next n).1).2 = (run s next n).2 ∧
      (run (decorate layers s) next n).2 = (run s next n).2 := by
  have hsame : ∀ t : Service κ, startupCommandFor t = startupCommandFor s →
      startupCommandFor (decorate layers t) = startupCommandFor t := by
    intro t ht
    rw [startupCommandFor_decorate, ht]
    rcases hstartup with hnone | hnone
    · rw [if_neg (by simpa using hnone)]
    · rw [hnone, ite_self]
  obtain ⟨htrace, hstate⟩ := run_traced s next n
  refine ⟨?_, (run_decorate hstrict (hsame s rfl) next n hcalls).1⟩
  have htraced := run_decorate hstrict (hsame s.traced rfl) next n (htrace ▸ hcalls)
  rw [htraced.2.1, hstate]

/-! ### A Service with a startup Command -/

/-- A Service that accepts everything and declares Command 7. -/
def sample : Service Unit where
  State := Unit
  start := ()
  startup := some (some (7, .other 0))
  invoke _ st := (.returned none, st)

/-- The Command of a call. -/
def Call.command : Call κ → Option CommandID
  | .handle _ m => some m.command
  | _ => none

/-- The instance `n/1` is created and gets Command 8. -/
def sampleEnv : Env Unit :=
  let ctx : Context Unit := ⟨⟨"n", 1⟩, 1, fun _ => none, none, ()⟩
  { ctx := ctx, commands := [(ctx, ⟨⟨"n", 2⟩, 8, .other 0⟩)], stops := true }

/-- What reaches the Service in its first five calls. -/
def received (layers : List Layer) : List (Option CommandID) :=
  (core layers (run (decorate layers sample.traced) (createService sampleEnv) 5).1).2.map
    fun e => e.1.command

/-- **A supervisor's decorator loses the startup Command.** The Service alone gets Command 7 first,
and under the decorator it never does. -/
theorem startup_command_lost :
    received [] = [none, some 7, some 8, none, none] ∧
      received [.supervisor ⟨⟨"s", "k"⟩, 1, ⟨"n", 9⟩⟩] =
        [none, some 8, none, none] := by
  decide +kernel

/-- Under a guard the Service gets what it gets without. -/
theorem decorated_transparent_guard :
    received [.guard ⟨⟨"n", 9⟩, [8]⟩] =
      (run sample (createService sampleEnv) 5).2.map fun e => e.1.command := by
  refine congrArg (List.map fun e => e.1.command)
    (decorated_transparent sample [.guard ⟨⟨"n", 9⟩, [8]⟩] ?_ (.inl ?_)
      (createService sampleEnv) 5 ?_).1
  · simp [Layer.strict]
  · simp [Layer.supervises]
  · have hrun : (run sample (createService sampleEnv) 5).2.map Prod.fst = [.init sampleEnv.ctx,
        .handle sampleEnv.ctx ⟨sampleEnv.ctx.self, 7, .other 0⟩,
        .handle sampleEnv.ctx ⟨⟨"n", 2⟩, 8, .other 0⟩, .stop (), .close] := rfl
    refine List.forall_mem_map.mp (hrun ▸ ?_)
    simp only [List.forall_mem_cons, Allowed, Layer.refuses, List.not_mem_nil, IsEmpty.forall_iff,
      implies_true, and_true]
    decide

end GameServiceRuntime.Tooling
