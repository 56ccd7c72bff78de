import GameServiceRuntime.Lib.Table
import GameServiceRuntime.Lib.Transition
import GameServiceRuntime.Game.Types

/-!
# The Battle template

`game/battle.go` and `game/timeline.go`: one Battle's phase, participants, Timeline and accepted
settlement request, and the game Logic that runs inside its Handler.

Game Logic is arbitrary code that calls the `BattleContext` it is given, so it is a program tree
(`Prog`): it returns, panics, or performs one operation of the context and goes on with the
answer. Every operation of a running Logic is a step of the system of its own. A statement about
reachable states is thus also about the states in the middle of a Handler, in which Logic may
finish the Battle, be fired, or fail its snapshot.

What the Runtime answers (whether a `Send`, a timer or a reply is accepted, the clock, the order in
which a map is ranged over) comes with each step as an `Env`.

A definition without a text of its own has the name of what it models.
-/

namespace GameServiceRuntime.Game

/-! ### Records -/

inductive BattlePhase
  | created
  | running
  | settling
  | finished
  | failed
  deriving DecidableEq

inductive ParticipantStatus
  | connected
  | offline
  deriving DecidableEq

structure Participant where
  player : Text
  ref : ServiceRef
  deriving DecidableEq

structure ParticipantConnection where
  player : Text
  connected : Bool
  deriving DecidableEq

inductive TimelineState
  | scheduled
  | cancelled
  | fired
  deriving DecidableEq

/-- A point in time, in nanoseconds after the zero time. -/
abbrev Time := ℤ

structure TimelineItem where
  id : UInt64
  revision : UInt64
  dueAt : Time
  command : UInt32
  state : TimelineState
  deriving DecidableEq

structure TimelineSnapshot where
  nextID : UInt64 := 0
  items : Slice TimelineItem := .nil
  deriving DecidableEq

structure TimelineFire where
  id : UInt64
  revision : UInt64
  command : UInt32
  deriving DecidableEq

structure BattleSnapshot where
  id : UInt32
  phase : BattlePhase
  participants : AList fun _ : Text => ParticipantStatus
  timeline : TimelineSnapshot
  state : Slice UInt8
  deriving DecidableEq

/-- A value of type `any`: the types the framework asks for or hands out, and those of the game. -/
inductive Value (π : Type)
  | nil
  | unit
  | connection (c : ParticipantConnection)
  | finish (f : FinishBattle)
  | result (r : SettlementResult)
  | request (r : SettlementRequest)
  | fire (f : TimelineFire)
  | snapshot (s : BattleSnapshot)
  | status (s : ParticipantStatus)
  | phase (p : BattlePhase)
  | other (v : π)
  deriving DecidableEq

structure Command (π : Type) where
  id : UInt32
  payload : Value π
  deriving DecidableEq

def startBattleCommand : UInt32 := 0x03000101
def getBattleSnapshotCommand : UInt32 := 0x03000102
def setParticipantConnectedCommand : UInt32 := 0x03000103
def finishBattleCommand : UInt32 := 0x03000104
def applySettlementResultCommand : UInt32 := 0x03000105
def timelineFireCommand : UInt32 := 0x03000201
def commitSettlementCommand : UInt32 := 0x03000501

def reservedBattleCommand (command : UInt32) : Bool :=
  command ∈ [startBattleCommand, getBattleSnapshotCommand, setParticipantConnectedCommand,
    finishBattleCommand, applySettlementResultCommand, timelineFireCommand]

structure TimelineRecord (π : Type) where
  item : TimelineItem
  payload : Value π
  deriving DecidableEq

/-- The fields of `BattleService` that change. -/
structure Battle (π : Type) where
  statuses : AList fun _ : Text => ParticipantStatus
  phase : BattlePhase := .created
  finish : FinishBattle := default
  settlements : AList fun _ : Text => SettlementResult := ∅
  nextID : UInt64 := 0
  items : AList fun _ : UInt64 => TimelineRecord π := ∅

/-- What a Battle does to the world outside it, and the request it accepts. -/
inductive Event (π : Type)
  /-- a reply handed to the Runtime -/
  | reply (v : Value π)
  /-- `service.Send` and its outcome -/
  | send (target : ServiceRef) (command : UInt32) (payload : Value π) (err : Option Err)
  /-- `service.After` and its outcome -/
  | timer (delay : ℤ) (fire : TimelineFire) (err : Option Err)
  /-- `Metrics().Inc` -/
  | metric (name : String)
  /-- a timer intention handed to Logic -/
  | fired (id : UInt64) (command : Command π)
  /-- `finishBattle` stores the request -/
  | accepted (f : FinishBattle)
  /-- the Handler returns -/
  | returned (err : Option Err)

/-- `gsr.CommandContext` of the command being handled. -/
structure Call where
  source : ServiceRef
  /-- `session != 0`: the command came by `Call`. -/
  session : Bool
  replied : Bool := false

/-- The Battle while it handles a command, and everything it has done so far. -/
structure World (π : Type) where
  battle : Battle π
  call : Call
  events : List (Event π) := []

/-- What the Runtime answers during one step. -/
structure Env where
  /-- the outcome of the `n`-th `Send` of the step -/
  sendErr : ℕ → Option Err := fun _ => none
  replyErr : Option Err := none
  timerErr : Option Err := none
  /-- `Now()` when a due time is computed -/
  now : Time := 1
  /-- `Now()` when the timer for it is created -/
  later : Time := 1
  /-- the order in which the participants are ranged over -/
  order : List Participant := []

/-! ### Game Logic -/

/-- The operations of a `BattleContext` and of its `Timeline`. -/
inductive Op (π : Type)
  | reply (v : Value π)
  | finish (f : FinishBattle)
  | broadcast (command : UInt32) (payload : Value π)
  | send (target : ServiceRef) (command : UInt32) (payload : Value π)
  | now
  | after (delay : ℤ) (command : UInt32) (payload : Value π)
  | at (due : Time) (command : UInt32) (payload : Value π)
  | replace (id : UInt64) (delay : ℤ) (command : UInt32) (payload : Value π)
  | cancel (id : UInt64)
  | timeline

/-- What an operation answers. -/
def Op.Answer {π : Type} : Op π → Type
  | .reply _ | .finish _ | .send _ _ _ => Option Err
  | .broadcast _ _ => Except Err (ℕ × ℕ)
  | .now => Time
  | .after _ _ _ | .at _ _ _ | .replace _ _ _ _ => Except Err UInt64
  | .cancel _ => Bool
  | .timeline => TimelineSnapshot

/-- Logic inside a Handler: it returns, panics, or calls a context. The flag says whether it is the
context of this Handler; Logic may still hold one of an earlier Handler. -/
inductive Prog (π ρ : Type)
  | ret (r : ρ)
  | panic
  | op (usable : Bool) (o : Op π) (k : o.Answer → Prog π ρ)

/-- What a `BattleContext` tells without an effect. -/
structure Info where
  self : ServiceRef
  source : ServiceRef
  battleID : UInt32

/-- `BattleLogic`, with its state made explicit. -/
structure Logic (σ π : Type) where
  handleBattle : Info → σ → Command π → Prog π (σ × Option Err)
  snapshot : Info → σ → Prog π (σ × Except Err (Slice UInt8))

/-- The loop of `validateBattleConfig`. -/
def validParticipants : List Text → List Participant → Bool
  | _, [] => true
  | seen, p :: ps =>
    (validateID p.player).isNone && (p.ref = ⟨[], 0⟩ || validServiceRef p.ref) &&
      !seen.contains p.player && validParticipants (p.player :: seen) ps

/-- A `BattleConfig` that `validateBattleConfig` accepts, and what the Battle is created with. -/
structure Config (σ π : Type) where
  id : UInt32
  participants : List Participant
  wallet : ServiceRef
  logic : Logic σ π
  /-- the reference the Runtime gave the Battle -/
  self : ServiceRef
  /-- whether `json.Marshal` and `cloneValue` accept a payload -/
  cloneable : Value π → Bool
  valid : (id ≠ 0 && !participants.isEmpty && validParticipants [] participants) = true

/-- `NewBattleService` and `Init` -/
def newBattle {σ π : Type} (cfg : Config σ π) : Battle π where
  statuses := cfg.participants.foldl (fun m p => m.insert p.player .offline) ∅

section Commands

variable {σ π : Type} (cfg : Config σ π) (env : Env)

/-! ### Effects -/

/-- Record an event. -/
def World.log (w : World π) (e : Event π) : World π := { w with events := w.events ++ [e] }

/-- Change the Battle. -/
def World.update (w : World π) (f : Battle π → Battle π) : World π :=
  { w with battle := f w.battle }

/-- `reply`: the reply of a command that came by `Send` is dropped without an error. -/
def reply (w : World π) (v : Value π) : World π × Option Err :=
  if !w.call.session then (w, none)
  else if w.call.replied then (w, some .replyTwice)
  else
    ({ w with call := { w.call with replied := true } }.log (.reply v),
      if env.replyErr = some .replyUnavailable then none else env.replyErr)

/-- `range` over the participants. -/
def rangeParticipants : List Participant :=
  if env.order.isPerm cfg.participants then env.order else cfg.participants

/-! ### The Timeline -/

def cancelAll (b : Battle π) : Battle π :=
  { b with
    items := b.items.entries.foldl (fun m e =>
      if e.2.item.state = .scheduled then
        m.insert e.1 { e.2 with item := { e.2.item with state := .cancelled } }
      else m) b.items }

/-- `battleTimeline.snapshot` -/
def timelineSnapshot (b : Battle π) : TimelineSnapshot where
  nextID := b.nextID
  items := .of ((b.items.entries.map fun e => e.2.item).insertionSort fun x y => x.id ≤ y.id)

def validTimelineCommand (command : UInt32) : Bool :=
  command ≠ 0 && !reservedBattleCommand command

/-- `cloneTimelinePayload`: the clone is the same value. -/
def cloneTimelinePayload (payload : Value π) : Except Err (Value π) :=
  match payload with
  | .nil => .ok .nil
  | v => if cfg.cloneable v then .ok v else .error .invalidCommand

/-- `time.Duration` holds 64 bits, and `Sub` stops at its ends. -/
def timeSub (a b : Time) : ℤ := max (-2 ^ 63) (min (2 ^ 63 - 1) (a - b))

/-- `battleTimeline.schedule` -/
def scheduleTimer (w : World π) (record : TimelineRecord π) : World π × Option Err :=
  let delay := timeSub record.item.dueAt env.later
  let fire := ⟨record.item.id, record.item.revision, record.item.command⟩
  (w.log (.timer (if delay < 0 then 0 else delay) fire env.timerErr), env.timerErr)

def schedule (w : World π) (dueAt : Time) (command : UInt32) (payload : Value π) :
    World π × Except Err UInt64 :=
  if !validTimelineCommand command then (w, .error .invalidCommand)
  else match cloneTimelinePayload cfg payload with
    | .error err => (w, .error err)
    | .ok copy =>
      if w.battle.nextID = ~~~0 then (w, .error .stateConflict)
      else
        let id := w.battle.nextID + 1
        let record := ⟨⟨id, 1, dueAt, command, .scheduled⟩, copy⟩
        match scheduleTimer env w record with
        | (w, some err) => (w, .error err)
        | (w, none) =>
          (w.update fun b => { b with nextID := id, items := b.items.insert id record }, .ok id)

def after (w : World π) (delay : ℤ) (command : UInt32) (payload : Value π) :
    World π × Except Err UInt64 :=
  if delay < 0 then (w, .error .invalidCommand)
  else schedule cfg env w (env.now + delay) command payload

/-- `Timeline.At` -/
def scheduleAt (w : World π) (due : Time) (command : UInt32) (payload : Value π) :
    World π × Except Err UInt64 :=
  if due = 0 then (w, .error .invalidCommand)
  else schedule cfg env w (if due < env.now then env.now else due) command payload

def replace (w : World π) (id : UInt64) (delay : ℤ) (command : UInt32) (payload : Value π) :
    World π × Except Err UInt64 :=
  if delay < 0 then (w, .error .invalidCommand)
  else match w.battle.items.lookup id with
    | none => (w, .error .stateConflict)
    | some record =>
      if record.item.state ≠ .scheduled || record.item.revision = ~~~0 then
        (w, .error .stateConflict)
      else if !validTimelineCommand command then (w, .error .invalidCommand)
      else match cloneTimelinePayload cfg payload with
        | .error err => (w, .error err)
        | .ok copy =>
          let revision := record.item.revision + 1
          let record := ⟨⟨record.item.id, revision, env.now + delay, command, .scheduled⟩, copy⟩
          match scheduleTimer env w record with
          | (w, some err) => (w, .error err)
          | (w, none) =>
            (w.update fun b => { b with items := b.items.insert id record }, .ok revision)

def cancel (w : World π) (id : UInt64) : World π × Bool :=
  match w.battle.items.lookup id with
  | none => (w, false)
  | some record =>
    if record.item.state ≠ .scheduled then (w, false)
    else
      (w.update fun b => { b with
        items := b.items.insert id
          { record with item := { record.item with state := .cancelled } } }, true)

/-! ### Finishing and settling -/

/-- The first loop of `finishBattle`: the requests of the settlements, if all are valid and their
identities differ. -/
def buildRequests (self : ServiceRef) :
    List Text → List SettlementIntent → Option (List SettlementRequest)
  | _, [] => some []
  | seen, intent :: intents =>
    if (validateSettlementIntent intent).isSome then none
    else if seen.contains intent.requestID then none
    else
      (buildRequests self (intent.requestID :: seen) intents).map
        (⟨intent.requestID, self, intent.currency, intent.entries.copy⟩ :: ·)

/-- The second loop: record each settlement as pending and submit it to the Wallet. -/
def submit (w : World π) : ℕ → List SettlementRequest → World π
  | _, [] => w
  | n, request :: requests =>
    let pending := ⟨request.requestID, .pending, request.currency, .nil, []⟩
    let w := w.update fun b =>
      { b with settlements := b.settlements.insert request.requestID pending }
    let w := w.log (.send cfg.wallet commitSettlementCommand
      (.request (cloneSettlementRequest request)) (env.sendErr n))
    let w := if (env.sendErr n).isSome then
      w.log (.metric "battle_settlement_send_failed_total") else w
    submit w (n + 1) requests

def finishBattle (w : World π) (finish : FinishBattle) : World π × Option Err :=
  if (validateRequestID finish.requestID).isSome then (w, some .invalidRequestID)
  else if w.battle.phase ≠ .running then
    if w.battle.finish.requestID = finish.requestID then
      if w.battle.finish ≠ finish then (w, some .requestConflict)
      else reply env w (.phase w.battle.phase)
    else (w, some .stateConflict)
  else match buildRequests cfg.self [] finish.settlements.elems with
    | none => (w, some .invalidSettlement)
    | some requests =>
      if !requests.isEmpty && !validServiceRef cfg.wallet then (w, some .unavailable)
      else
        let w := (w.update fun b =>
          { b with finish := cloneFinishBattle finish, phase := .settling }).log (.accepted finish)
        let w := submit cfg env w 0 requests
        let w := if requests.isEmpty then
          w.update fun b => cancelAll { b with phase := .finished } else w
        reply env w (.phase w.battle.phase)

def applySettlement (w : World π) (result : SettlementResult) : World π × Option Err :=
  if w.call.source ≠ cfg.wallet then (w, some .unauthorized)
  else match w.battle.settlements.lookup result.requestID with
    | none => (w, some .notFound)
    | some current =>
      if current.state ≠ .pending then reply env w (.phase w.battle.phase)
      else if result.state ≠ .committed && result.state ≠ .rejected
          || result.currency ≠ current.currency then (w, some .invalidSettlement)
      else
        let w := w.update fun b =>
          { b with
            settlements := b.settlements.insert result.requestID (cloneSettlementResult result) }
        let w :=
          if result.state = .rejected then w.update fun b => cancelAll { b with phase := .failed }
          else if w.battle.settlements.entries.all fun e => e.2.state = .committed then
            w.update fun b => cancelAll { b with phase := .finished }
          else w
        reply env w (.phase w.battle.phase)

def setParticipantConnected (w : World π) (request : ParticipantConnection) :
    World π × Option Err :=
  if cfg.participants.all fun p => p.player ≠ request.player then (w, some .invalidParticipant)
  else
    let status := if request.connected then .connected else .offline
    reply env (w.update fun b => { b with statuses := b.statuses.insert request.player status })
      (.status status)

/-! ### The operations of a context -/

/-- The loop of `Broadcast`, counting deliveries and rejections. -/
def broadcastLoop (command : UInt32) (payload : Value π) :
    World π → ℕ → ℕ × ℕ → List Participant → World π × (ℕ × ℕ)
  | w, _, r, [] => (w, r)
  | w, n, r, p :: ps =>
    if !validServiceRef p.ref then broadcastLoop command payload w n r ps
    else
      broadcastLoop command payload (w.log (.send p.ref command payload (env.sendErr n))) (n + 1)
        (if (env.sendErr n).isSome then (r.1, r.2 + 1) else (r.1 + 1, r.2)) ps

/-- An operation of the context of the running Handler. -/
def perform (w : World π) : (o : Op π) → World π × o.Answer
  | .reply v => reply env w v
  | .finish f => finishBattle cfg env w f
  | .broadcast command payload =>
    let r := broadcastLoop env command payload w 0 (0, 0) (rangeParticipants cfg env)
    (r.1, .ok r.2)
  | .send target command payload =>
    if !validServiceRef target then (w, some .unavailable)
    else (w.log (.send target command payload (env.sendErr 0)), env.sendErr 0)
  | .now => (w, env.now)
  | .after delay command payload => after cfg env w delay command payload
  | .at due command payload => scheduleAt cfg env w due command payload
  | .replace id delay command payload => replace cfg env w id delay command payload
  | .cancel id => cancel w id
  | .timeline => (w, timelineSnapshot w.battle)

/-- What an operation of an expired context answers. `Now` needs no context. -/
def expired : (o : Op π) → o.Answer
  | .reply _ | .finish _ | .send _ _ _ => some Err.contextExpired
  | .broadcast _ _ => .error .contextExpired
  | .now => env.now
  | .after _ _ _ | .at _ _ _ | .replace _ _ _ _ => .error .contextExpired
  | .cancel _ => false
  | .timeline => {}

/-! ### The Handler -/

/-- The Logic call a Handler is in. -/
inductive Active (σ π : Type)
  /-- `HandleBattle`, from a game command or a fired timer -/
  | handling (p : Prog π (σ × Option Err))
  /-- `Snapshot`, from `start` or a snapshot command -/
  | snapshotting (p : Prog π (σ × Except Err (Slice UInt8)))

/-- A Handler ends with an error or none, or goes on in Logic. -/
abbrev Handling (σ π : Type) := World π × (Option Err ⊕ Active σ π)

/-- The part of a Handler that does not call Logic. -/
def World.done (r : World π × Option Err) : Handling σ π := (r.1, .inl r.2)

/-- The context of a world. -/
def info (w : World π) : Info := ⟨cfg.self, w.call.source, cfg.id⟩

def fire (w : World π) (l : σ) (fire : TimelineFire) : Handling σ π :=
  let ignored := (w.log (.metric "battle_timeline_ignored_total"), .inl none)
  match w.battle.items.lookup fire.id with
  | none => ignored
  | some record =>
    if record.item.state ≠ .scheduled || record.item.revision ≠ fire.revision
        || record.item.command ≠ fire.command then ignored
    else if w.battle.phase ≠ .running then ignored
    else
      let w := w.update fun b => { b with
        items := b.items.insert fire.id
          { record with item := { record.item with state := .fired } } }
      match cloneTimelinePayload cfg record.payload with
      | .error err => (w, .inl (some err))
      | .ok payload =>
        let command := ⟨record.item.command, payload⟩
        (w.log (.fired fire.id command),
          .inr (.handling (cfg.logic.handleBattle (info cfg w) l command)))

def start (w : World π) (l : σ) (payload : Value π) : Handling σ π :=
  match payload with
  | .nil | .unit =>
    if w.battle.phase ≠ .created then (w, .inl (some .stateConflict))
    else
      (w.update fun b => { b with phase := .running },
        .inr (.snapshotting (cfg.logic.snapshot (info cfg w) l)))
  | _ => (w, .inl (some .invalidCommand))

def handle (w : World π) (l : σ) (command : Command π) : Handling σ π :=
  if command.id = startBattleCommand then start cfg w l command.payload
  else if command.id = getBattleSnapshotCommand then
    match command.payload with
    | .nil | .unit => (w, .inr (.snapshotting (cfg.logic.snapshot (info cfg w) l)))
    | _ => (w, .inl (some .invalidCommand))
  else if command.id = setParticipantConnectedCommand then
    match command.payload with
    | .connection request => World.done (setParticipantConnected cfg env w request)
    | _ => (w, .inl (some .invalidCommand))
  else if command.id = finishBattleCommand then
    match command.payload with
    | .finish request => World.done (finishBattle cfg env w request)
    | _ => (w, .inl (some .invalidCommand))
  else if command.id = applySettlementResultCommand then
    match command.payload with
    | .result result => World.done (applySettlement cfg env w result)
    | _ => (w, .inl (some .invalidSettlement))
  else if command.id = timelineFireCommand then
    match command.payload with
    | .fire f => fire cfg w l f
    | _ => (w, .inl (some .invalidCommand))
  else if w.battle.phase ≠ .running then (w, .inl (some .stateConflict))
  else (w, .inr (.handling (cfg.logic.handleBattle (info cfg w) l command)))

/-- The reply of `snapshot` once Logic has given its part. -/
def replySnapshot (w : World π) (state : Slice UInt8) : World π × Option Err :=
  let timeline := timelineSnapshot w.battle
  reply env w (.snapshot
    { id := cfg.id
      phase := w.battle.phase
      participants := w.battle.statuses
      timeline := { timeline with items := timeline.items.copy }
      state := state.copy })

/-! ### Runs -/

/-- The state of a Battle between two operations of its Logic. -/
structure State (σ π : Type) where
  world : World π
  logic : σ
  active : Option (Active σ π) := none
  /-- Logic panicked, and the Runtime closed the Service. -/
  failed : Bool := false

/-- What can happen next. -/
inductive Action (π : Type)
  /-- the next command of the mailbox -/
  | command (source : ServiceRef) (session : Bool) (c : Command π) (env : Env)
  /-- the next operation of the running Logic, or its return -/
  | advance (env : Env)

/-- The Handler returns. -/
def State.return (s : State σ π) (l : σ) (r : World π × Option Err) : State σ π :=
  { s with world := r.1.log (.returned r.2), logic := l, active := none }

/-- One operation of the running Logic. -/
def runOp {ρ : Type} (w : World π) (usable : Bool) (o : Op π) (k : o.Answer → Prog π ρ) :
    World π × Prog π ρ :=
  if usable then
    let r := perform cfg env w o
    (r.1, k r.2)
  else (w, k (expired env o))

/-- One step of a Battle. -/
def step (s : State σ π) : Action π → Option (State σ π)
  | .command source session c env =>
    if s.failed || s.active.isSome then none
    else match handle cfg env { s.world with call := ⟨source, session, false⟩ } s.logic c with
      | (w, .inl err) => some (s.return s.logic (w, err))
      | (w, .inr active) => some { s with world := w, active := some active }
  | .advance env =>
    if s.failed then none
    else match s.active with
      | none => none
      | some (.handling (.ret (l, err))) => some (s.return l (s.world, err))
      | some (.snapshotting (.ret (l, .error err))) => some (s.return l (s.world, some err))
      | some (.snapshotting (.ret (l, .ok state))) =>
        some (s.return l (replySnapshot cfg env s.world state))
      | some (.handling .panic) | some (.snapshotting .panic) => some { s with failed := true }
      | some (.handling (.op usable o k)) =>
        let r := runOp cfg env s.world usable o k
        some { s with world := r.1, active := some (.handling r.2) }
      | some (.snapshotting (.op usable o k)) =>
        let r := runOp cfg env s.world usable o k
        some { s with world := r.1, active := some (.snapshotting r.2) }

/-- The Battle with any state its Logic may start in. -/
def system : System (State σ π) (Action π) where
  init s := ∃ l call, s = { world := { battle := newBattle cfg, call := call }, logic := l }
  step := step cfg

end Commands

/-- What a step can be: a command that is handled at once or enters Logic, or Logic that returns,
panics or performs an operation. -/
inductive Stepped {σ π : Type} (cfg : Config σ π) (s : State σ π) : Action π → State σ π → Prop
  | ended {source : ServiceRef} {session : Bool} {c : Command π} {env : Env} {w : World π}
      {err : Option Err} (hidle : s.active = none)
      (h : handle cfg env { s.world with call := ⟨source, session, false⟩ }
        s.logic c = (w, .inl err)) :
      Stepped cfg s (.command source session c env) (s.return s.logic (w, err))
  | entered {source : ServiceRef} {session : Bool} {c : Command π} {env : Env} {w : World π}
      {active : Active σ π} (hidle : s.active = none)
      (h : handle cfg env { s.world with call := ⟨source, session, false⟩ } s.logic c =
        (w, .inr active)) :
      Stepped cfg s (.command source session c env) { s with world := w, active := some active }
  | returned {env : Env} {l : σ} {err : Option Err}
      (h : s.active = some (.handling (.ret (l, err)))) :
      Stepped cfg s (.advance env) (s.return l (s.world, err))
  | snapshotFailed {env : Env} {l : σ} {err : Err}
      (h : s.active = some (.snapshotting (.ret (l, .error err)))) :
      Stepped cfg s (.advance env) (s.return l (s.world, some err))
  | snapshotReplied {env : Env} {l : σ} {state : Slice UInt8}
      (h : s.active = some (.snapshotting (.ret (l, .ok state)))) :
      Stepped cfg s (.advance env) (s.return l (replySnapshot cfg env s.world state))
  | panicked {env : Env}
      (h : s.active = some (.handling .panic) ∨ s.active = some (.snapshotting .panic)) :
      Stepped cfg s (.advance env) { s with failed := true }
  | handling {env : Env} {usable : Bool} {o : Op π} {k : o.Answer → Prog π (σ × Option Err)}
      (h : s.active = some (.handling (.op usable o k))) :
      Stepped cfg s (.advance env)
        { s with
          world := (runOp cfg env s.world usable o k).1
          active := some (.handling (runOp cfg env s.world usable o k).2) }
  | snapshotting {env : Env} {usable : Bool} {o : Op π}
      {k : o.Answer → Prog π (σ × Except Err (Slice UInt8))}
      (h : s.active = some (.snapshotting (.op usable o k))) :
      Stepped cfg s (.advance env)
        { s with
          world := (runOp cfg env s.world usable o k).1
          active := some (.snapshotting (runOp cfg env s.world usable o k).2) }

theorem stepped_of_step {σ π : Type} {cfg : Config σ π} {s s' : State σ π} {a : Action π}
    (h : step cfg s a = some s') : Stepped cfg s a s' := by
  cases a with
  | command source session c env =>
    rw [step] at h
    split at h
    · exact nomatch h
    next hidle =>
    have hidle' : s.active = none := by
      simp only [Bool.or_eq_true, not_or, Option.not_isSome_iff_eq_none] at hidle
      exact hidle.2
    split at h
    · next w err heq =>
      cases h
      exact .ended hidle' heq
    · next w active heq =>
      cases h
      exact .entered hidle' heq
  | advance env =>
    rw [step] at h
    split at h
    · exact nomatch h
    split at h
    · exact nomatch h
    · next hactive =>
      cases h
      exact .returned hactive
    · next hactive =>
      cases h
      exact .snapshotFailed hactive
    · next hactive =>
      cases h
      exact .snapshotReplied hactive
    · next hactive =>
      cases h
      exact .panicked (.inl hactive)
    · next hactive =>
      cases h
      exact .panicked (.inr hactive)
    · next hactive =>
      cases h
      exact .handling hactive
    · next hactive =>
      cases h
      exact .snapshotting hactive

end GameServiceRuntime.Game
