import Mathlib.Data.List.AList
import GameServiceRuntime.Lib.Transition
import GameServiceRuntime.Runtime.Ref

/-!
# Pending Calls

`pendingCalls` of `call.go` with everybody who completes a Call: local replies, the replies and the
node failures `cluster.go` receives, and the failures of a Service or of the whole Runtime. Taking a
Call out of the table and writing to its channel are two operations, so a completer is a goroutine
that may be interrupted between them, with the writes it still has to make.

Envelopes come from anywhere: `receive` is given any envelope and the peer that sent it.

What a step can do to the Calls is said once, in `Moved`; `step_moved` is the only case analysis
over the actions that the invariants need.
-/

namespace GameServiceRuntime.Runtime.Pending

variable {ν : Type}

/-! ### Envelopes -/

def coreResolveNameCommand : UInt32 := ~~~0

def maxCoreServiceNameLength : ℕ := 1024

/-- The errors of `validate`. -/
inductive EnvelopeErr
  | runtimeClosed
  | invalidClusterEnvelope
  deriving DecidableEq

/-- The call path of an envelope ends in its target. -/
def endsInTarget (wire : WireEnvelope) : Bool := wire.callPath.elems.getLast? = some wire.target

/-- `validate`, on node `node` whose Runtime is running or not. -/
def validate (node : Text) (running : Bool) (peer : Text) (wire : WireEnvelope) :
    Except EnvelopeErr Unit :=
  if !running then .error .runtimeClosed
  else if peer = [] ∨ wire.source.node ≠ peer ∨ wire.target.node ≠ node then
    .error .invalidClusterEnvelope
  else if wire.response then
    if wire.session = 0 ∨ wire.callPath.len ≠ 0 ∨ (wire.errorCode = [] ∧ wire.errorMessage ≠ []) ∨
        (wire.errorCode ≠ [] ∧ wire.payload.len ≠ 0) then .error .invalidClusterEnvelope
    else if wire.source.id = 0 ∧ (wire.command ≠ coreResolveNameCommand ∨ wire.target.id ≠ 0) then
      .error .invalidClusterEnvelope
    else if wire.source.id = 0 ∧ wire.errorCode = [] ∧ wire.payload.len ≠ 8 then
      .error .invalidClusterEnvelope
    else .ok ()
  else if wire.errorCode ≠ [] ∨ wire.errorMessage ≠ [] then .error .invalidClusterEnvelope
  else if wire.target.id = 0 then
    if wire.command ≠ coreResolveNameCommand ∨ wire.session = 0 ∨ wire.source.id ≠ 0 ∨
        wire.payload.len > maxCoreServiceNameLength then .error .invalidClusterEnvelope
    else if wire.callPath.len = 0 ∨ !endsInTarget wire then .error .invalidClusterEnvelope
    else .ok ()
  else if wire.session = 0 then
    if wire.callPath.len ≠ 0 then .error .invalidClusterEnvelope else .ok ()
  else if wire.callPath.len = 0 ∨ !endsInTarget wire then .error .invalidClusterEnvelope
  else .ok ()

/-- What `validate` says about the ends of an envelope it lets through. -/
theorem validate_ends {node : Text} {running : Bool} {peer : Text} {wire : WireEnvelope}
    (h : validate node running peer wire = .ok ()) :
    wire.source.node = peer ∧ wire.target.node = node := by
  rw [validate] at h
  split at h
  · cases h
  · split at h
    · cases h
    · next hends =>
      simp only [not_or, not_not, ne_eq] at hends
      exact hends.2

/-! ### Calls and who completes them -/

/-- The errors a Call is completed with. -/
inductive CallErr
  /-- `decodeRemoteError` of a code and a message -/
  | remote (code message : Text)
  | payloadDecode
  | invalidClusterEnvelope
  /-- the error of a local reply or the cause of a failure -/
  | cause (n : ℕ)
  deriving DecidableEq

/-- `callResult` -/
inductive Outcome (ν : Type)
  | value (v : ν)
  | error (err : CallErr)
  deriving DecidableEq

/-- Where a result comes from: a local reply, the `k`-th envelope received, or a failure of a node,
a Service or the Runtime. -/
inductive Origin
  | reply (responder caller : ServiceRef) (command : UInt32) (session : UInt64)
  | envelope (k : ℕ) (peer : Text) (wire : WireEnvelope)
  | failure
  deriving DecidableEq

/-- `pendingCall`, with the session it was created under and what was ever written to its
channel. -/
structure Call (ν : Type) where
  source : ServiceRef := .zero
  target : ServiceRef := .zero
  command : UInt32 := 0
  session : UInt64 := 0
  /-- the one slot of the channel `result` -/
  slot : Option (Outcome ν) := none
  written : List (Outcome ν × Origin) := []
  deriving DecidableEq

/-- A write a completer still has to make. -/
structure Write (ν : Type) where
  call : ℕ
  outcome : Outcome ν
  origin : Origin
  deriving DecidableEq

/-- A Reply that `receive` let through: the `k`-th envelope received, whose source is on the node of
the peer that sent it. -/
structure Received where
  k : ℕ
  peer : Text
  wire : WireEnvelope
  response : wire.response = true
  source : wire.source.node = peer
  deriving DecidableEq

/-- Where a goroutine is. -/
inductive Proc (ν : Type)
  | idle
  /-- `create`: `p.next.Add(1)` -/
  | drawing (source target : ServiceRef) (command : UInt32)
  /-- `create`: the critical section with a session that is not zero -/
  | inserting (source target : ServiceRef) (command : UInt32) (session : UInt64)
      (session_ne_zero : session ≠ 0)
  /-- `receiveReply`: before `take` -/
  | receiving (r : Received)
  /-- a completer that has taken these Calls out of the table -/
  | writing (ws : List (Write ν))
  deriving DecidableEq

/-- The writes a goroutine still has to make. -/
def Proc.hands : Proc ν → List (Write ν)
  | .writing ws => ws
  | _ => []

/-- A completer with these writes to make. -/
def Proc.holding : List (Write ν) → Proc ν
  | [] => .idle
  | ws => .writing ws

@[simp] theorem Proc.hands_holding (ws : List (Write ν)) : (Proc.holding ws).hands = ws := by
  cases ws <;> rfl

/-- The node, what its codec makes of the payload of a Reply, and the value that is a reference. -/
structure Config (ν : Type) where
  node : Text
  decode : UInt32 → List UInt8 → Option ν
  ofRef : ServiceRef → ν

/-- The state: `pendingCalls`, every Call ever created, every goroutine, whether the Runtime is
running and how many envelopes it has received. -/
structure State (ν : Type) where
  next : UInt64 := 0
  table : AList fun _ : UInt64 => ℕ := ∅
  calls : ℕ → Call ν := fun _ => {}
  numCalls : ℕ := 0
  procs : ℕ → Proc ν := fun _ => .idle
  running : Bool := true
  received : ℕ := 0

namespace State

/-- Move a goroutine. -/
def setProc (s : State ν) (g : ℕ) (p : Proc ν) : State ν :=
  { s with procs := Function.update s.procs g p }

/-- `take`: the Call recorded under the session, if everything else agrees too. -/
def take (s : State ν) (source target : ServiceRef) (command : UInt32)
    (session : UInt64) : Option ℕ :=
  (s.table.lookup session).filter fun c =>
    (s.calls c).source = source && (s.calls c).target = target && (s.calls c).command = command

/-- Take a Call out of the table and into the hands of goroutine `g`, if `take` finds one. -/
def takeFor (s : State ν) (g : ℕ) (source target : ServiceRef) (command : UInt32) (session : UInt64)
    (outcome : Outcome ν) (origin : Origin) : State ν :=
  match s.take source target command session with
  | none => s.setProc g .idle
  | some c => { s with table := s.table.erase session }.setProc g (.holding [⟨c, outcome, origin⟩])

/-- The sessions of the Calls a failure applies to, in the order of the table. -/
def matching (s : State ν) (p : Call ν → Bool) : List UInt64 :=
  (s.table.entries.filter fun e => p (s.calls e.2)).map Sigma.fst

/-- The Calls recorded under these sessions. -/
def recorded (s : State ν) (order : List UInt64) : List ℕ := order.filterMap s.table.lookup

/-- `failNode`, `failService`, `failAll`: all matching Calls are taken out of the table in one
critical section; `order` is the order in which the loop came across them. -/
def failFor (s : State ν) (g : ℕ) (p : Call ν → Bool) (err : CallErr) (order : List UInt64) :
    Option (State ν) :=
  if order.Perm (s.matching p) then
    some ({ s with table := order.foldl (fun t session => t.erase session) s.table }.setProc g
      (.holding ((s.recorded order).map fun c => ⟨c, .error err, .failure⟩)))
  else none

end State

/-- The result `receiveReply` makes of an envelope. -/
def replyOutcome (cfg : Config ν) (wire : WireEnvelope) : Outcome ν :=
  if wire.errorCode ≠ [] then .error (.remote wire.errorCode wire.errorMessage)
  else if wire.source.id = 0 ∧ wire.command = coreResolveNameCommand then
    let id := wire.payload.elems.foldl (fun v b => v * 256 + b.toNat) 0
    if wire.payload.len ≠ 8 ∨ id = 0 then .error .invalidClusterEnvelope
    else .value (cfg.ofRef ⟨wire.source.node, UInt64.ofNat id⟩)
  else match cfg.decode wire.command wire.payload.elems with
    | none => .error .payloadDecode
    | some v => .value v

/-- What can happen next. -/
inductive Action (ν : Type)
  | create (g : ℕ) (source target : ServiceRef) (command : UInt32)
  | draw (g : ℕ)
  | insert (g : ℕ)
  | remove (g : ℕ) (session : UInt64)
  /-- `Runtime.reply` by a Service of this node -/
  | reply (g : ℕ) (responder caller : ServiceRef) (command : UInt32) (session : UInt64)
      (outcome : Outcome ν)
  /-- the transport hands over an envelope of a peer -/
  | receive (g : ℕ) (peer : Text) (wire : WireEnvelope)
  /-- `receiveReply` of the envelope this goroutine has received -/
  | receiveReply (g : ℕ)
  | failNode (g : ℕ) (node : Text) (err : CallErr) (order : List UInt64)
  | failService (g : ℕ) (ref : ServiceRef) (err : CallErr) (order : List UInt64)
  | failAll (g : ℕ) (err : CallErr) (order : List UInt64)
  /-- the next channel write of a completer -/
  | write (g : ℕ)
  /-- the waiter receives from the channel -/
  | wait (c : ℕ)
  /-- the Runtime leaves the state `runtimeRunning` -/
  | close

/-- The effect of an action, if it is enabled. A goroutine starts an operation when it has none. -/
def step (cfg : Config ν) (s : State ν) : Action ν → Option (State ν)
  | .create g source target command =>
    match s.procs g with
    | .idle => some (s.setProc g (.drawing source target command))
    | _ => none
  | .draw g =>
    match s.procs g with
    | .drawing source target command =>
      let session := s.next + 1
      let s := { s with next := session }
      some (if h : session = 0 then s
        else s.setProc g (.inserting source target command session h))
    | _ => none
  | .insert g =>
    match s.procs g with
    | .inserting source target command session _ =>
      if (s.table.lookup session).isSome then some (s.setProc g (.drawing source target command))
      else some ({ s with
        table := s.table.insert session s.numCalls
        calls := Function.update s.calls s.numCalls
          { source := source, target := target, command := command, session := session }
        numCalls := s.numCalls + 1 }.setProc g .idle)
    | _ => none
  | .remove g session =>
    match s.procs g with
    | .idle => some { s with table := s.table.erase session }
    | _ => none
  | .reply g responder caller command session outcome =>
    match s.procs g with
    | .idle =>
      -- the responder is a Service of this node; a caller elsewhere is answered by an envelope
      if responder.node ≠ cfg.node then none
      else if caller.node ≠ cfg.node then some s
      else some (s.takeFor g caller responder command session outcome
        (.reply responder caller command session))
    | _ => none
  | .receive g peer wire =>
    match s.procs g with
    | .idle =>
      let t := { s with received := s.received + 1 }
      match hvalid : validate cfg.node s.running peer wire with
      | .error _ => some t
      | .ok () =>
        -- a command goes to a Service of this node and leaves the pending Calls alone
        if hresponse : wire.response then
          some (t.setProc g
            (.receiving ⟨s.received, peer, wire, hresponse, (validate_ends hvalid).1⟩))
        else some t
    | _ => none
  | .receiveReply g =>
    match s.procs g with
    | .receiving r =>
      some (s.takeFor g r.wire.target r.wire.source r.wire.command r.wire.session
        (replyOutcome cfg r.wire) (.envelope r.k r.peer r.wire))
    | _ => none
  | .failNode g node err order =>
    match s.procs g with
    | .idle => s.failFor g (fun c => c.source.node = node || c.target.node = node) err order
    | _ => none
  | .failService g ref err order =>
    match s.procs g with
    | .idle => s.failFor g (fun c => c.source = ref || c.target = ref) err order
    | _ => none
  | .failAll g err order =>
    match s.procs g with
    | .idle => s.failFor g (fun _ => true) err order
    | _ => none
  | .write g =>
    match s.procs g with
    | .writing (w :: ws) =>
      -- a send on the channel blocks while its slot is taken
      if (s.calls w.call).slot.isSome then none
      else some ({ s with calls := Function.update s.calls w.call { s.calls w.call with
        slot := some w.outcome
        written := (s.calls w.call).written ++ [(w.outcome, w.origin)] } }.setProc g (.holding ws))
    | _ => none
  | .wait c =>
    if (s.calls c).slot.isSome then
      some { s with calls := Function.update s.calls c { s.calls c with slot := none } }
    else none
  | .close => some { s with running := false }

/-- The pending Calls of a Runtime and all interleavings of those who use them. -/
def system (cfg : Config ν) : System (State ν) (Action ν) where
  init s := s = {}
  step := step cfg

/-! ### What a step can do -/

section Steps

variable {cfg : Config ν} {s s' : State ν} {g : ℕ}

/-- A result belongs to the Call. A reply names all the Call was recorded with, an envelope besides
comes from the node of the responder and is where the result was read from, and a failure is no
value. -/
def Origin.Names (cfg : Config ν) (c : Call ν) (outcome : Outcome ν) : Origin → Prop
  | .reply responder caller command session =>
    c.source = caller ∧ c.target = responder ∧ c.command = command ∧ c.session = session ∧
      responder.node = cfg.node
  | .envelope _ peer wire =>
    wire.response = true ∧ c.source = wire.target ∧ c.target = wire.source ∧
      c.command = wire.command ∧ c.session = wire.session ∧ peer = c.target.node ∧
      outcome = replyOutcome cfg wire
  | .failure => ∃ err, outcome = .error err

/-- The table without these sessions. -/
def eraseAll (t : AList fun _ : UInt64 => ℕ) (order : List UInt64) : AList fun _ : UInt64 => ℕ :=
  order.foldl (fun t session => t.erase session) t

theorem lookup_eraseAll (t : AList fun _ : UInt64 => ℕ) (order : List UInt64) (session : UInt64) :
    (eraseAll t order).lookup session = if session ∈ order then none else t.lookup session := by
  induction order generalizing t with
  | nil => simp [eraseAll]
  | cons first order ih =>
    show (eraseAll (t.erase first) order).lookup session = _
    rw [ih]
    by_cases h : session = first
    · rw [h, AList.lookup_erase]
      simp
    · simp [h, AList.lookup_erase_ne h]

/-- A completer takes the Calls of these sessions out of the table and into its hands. -/
structure Taken (cfg : Config ν) (s s' : State ν) (g : ℕ) (order : List UInt64)
    (ws : List (Write ν)) : Prop where
  empty : (s.procs g).hands = []
  nodup : order.Nodup
  calls : ws.map Write.call = s.recorded order
  table : s'.table = eraseAll s.table order
  procs : s'.procs = Function.update s.procs g (.holding ws)
  same : s'.calls = s.calls ∧ s'.numCalls = s.numCalls

/-- What one step does to the Calls. -/
inductive Moved (cfg : Config ν) (s s' : State ν) : Prop
  /-- neither the table nor a Call nor the hands of a completer change -/
  | none (htable : s'.table = s.table) (hcalls : s'.calls = s.calls)
      (hnum : s'.numCalls = s.numCalls) (hhands : ∀ g, (s'.procs g).hands = (s.procs g).hands)
  /-- a Call is created under a free session -/
  | insert {source target command session} (hzero : session ≠ 0)
      (hfree : s.table.lookup session = .none)
      (htable : s'.table = s.table.insert session s.numCalls)
      (hcalls : s'.calls = Function.update s.calls s.numCalls
        { source := source, target := target, command := command, session := session })
      (hnum : s'.numCalls = s.numCalls + 1) (hhands : ∀ g, (s'.procs g).hands = (s.procs g).hands)
  | remove {session} (htable : s'.table = s.table.erase session) (hcalls : s'.calls = s.calls)
      (hnum : s'.numCalls = s.numCalls) (hhands : ∀ g, (s'.procs g).hands = (s.procs g).hands)
  | take {g order ws} (h : Taken cfg s s' g order ws)
      (hnames : ∀ w ∈ ws, w.origin.Names cfg (s.calls w.call) w.outcome)
  | write {g w ws} (hhands : (s.procs g).hands = w :: ws) (hslot : (s.calls w.call).slot = .none)
      (hs' : s' = { s with calls := Function.update s.calls w.call { s.calls w.call with
        slot := some w.outcome
        written := (s.calls w.call).written ++ [(w.outcome, w.origin)] } }.setProc g (.holding ws))
  | wait {c} (hs' : s' = { s with
      calls := Function.update s.calls c { s.calls c with slot := .none } })

theorem hands_setProc {g g' : ℕ} {p : Proc ν} (h : p.hands = (s.procs g).hands) :
    ((s.setProc g p).procs g').hands = (s.procs g').hands := by
  by_cases hg : g' = g
  · subst hg
    simp [State.setProc, h]
  · simp [State.setProc, hg]

theorem take_eq_some {source target : ServiceRef} {command : UInt32} {session : UInt64} {c : ℕ}
    (h : s.take source target command session = some c) :
    s.table.lookup session = some c ∧ (s.calls c).source = source ∧ (s.calls c).target = target ∧
      (s.calls c).command = command := by
  rw [State.take, Option.filter_eq_some_iff] at h
  simpa [and_assoc] using h

theorem takeFor_moved {source target : ServiceRef} {command : UInt32} {session : UInt64}
    {outcome : Outcome ν} {origin : Origin} (hg : (s.procs g).hands = [])
    (hnames : ∀ c, s.take source target command session = some c →
      origin.Names cfg (s.calls c) outcome) :
    Moved cfg s (s.takeFor g source target command session outcome origin) := by
  rw [State.takeFor]
  cases htake : s.take source target command session with
  | none => exact .none rfl rfl rfl fun _ => hands_setProc hg.symm
  | some c =>
    refine .take (g := g) ⟨hg, List.nodup_singleton session, ?_, rfl, rfl, rfl, rfl⟩ ?_
    · simp [State.recorded, (take_eq_some htake).1]
    · simpa using hnames c htake

theorem failFor_moved {p : Call ν → Bool} {err : CallErr} {order : List UInt64}
    (hg : (s.procs g).hands = []) (h : s.failFor g p err order = some s') : Moved cfg s s' := by
  rw [State.failFor] at h
  split at h
  · next hperm =>
    cases h
    refine Moved.take ⟨hg, ?_, ?_, rfl, rfl, rfl, rfl⟩ ?_
    · refine hperm.nodup_iff.mpr ?_
      have hkeys : s.table.keys.Nodup := s.table.nodupKeys
      exact List.Nodup.sublist (List.Sublist.map _ List.filter_sublist) hkeys
    · simp [Function.comp_def]
    · intro w hw
      obtain ⟨c, -, rfl⟩ := List.mem_map.mp hw
      exact ⟨err, rfl⟩
  · cases h

/-- The table holds Calls under their own sessions, which are not zero. -/
def State.TableOk (s : State ν) : Prop :=
  ∀ session c, s.table.lookup session = some c →
    c < s.numCalls ∧ (s.calls c).session = session ∧ session ≠ 0

theorem hands_of_idle (h : s.procs g = .idle) : (s.procs g).hands = [] := by
  rw [h]
  rfl

/-- **What a step can do.** -/
theorem step_moved (hT : s.TableOk) {a : Action ν} (h : step cfg s a = some s') :
    Moved cfg s s' := by
  cases a with
  | create g source target command =>
    simp only [step] at h
    split at h <;> cases h
    next hg => exact .none rfl rfl rfl fun _ => hands_setProc (hands_of_idle hg).symm
  | draw g =>
    simp only [step] at h
    split at h <;> cases h
    next hg =>
    split
    · exact .none rfl rfl rfl fun _ => rfl
    · exact .none rfl rfl rfl fun _ => hands_setProc (by simp [hg, Proc.hands])
  | insert g =>
    simp only [step] at h
    split at h
    case h_2 => cases h
    next source target command session hzero hg =>
    split at h <;> cases h
    · exact .none rfl rfl rfl fun _ => hands_setProc (by simp [hg, Proc.hands])
    · next hfree =>
      exact .insert hzero (by simpa using hfree) rfl rfl rfl fun _ =>
        hands_setProc (by simp [hg, Proc.hands])
  | remove g session =>
    simp only [step] at h
    split at h <;> cases h
    exact .remove rfl rfl rfl fun _ => rfl
  | reply g responder caller command session outcome =>
    simp only [step] at h
    split at h
    case h_2 => cases h
    next hg =>
    split at h
    · cases h
    · next hnode =>
      split at h <;> cases h
      · exact .none rfl rfl rfl fun _ => rfl
      · refine takeFor_moved (hands_of_idle hg) fun c hc => ?_
        obtain ⟨hlook, hsource, htarget, hcommand⟩ := take_eq_some hc
        exact ⟨hsource, htarget, hcommand, (hT _ _ hlook).2.1, by simpa using hnode⟩
  | receive g peer wire =>
    simp only [step] at h
    split at h
    case h_2 => cases h
    next hg =>
    split at h
    · cases h
      exact .none rfl rfl rfl fun _ => rfl
    · split at h <;> cases h
      · exact .none rfl rfl rfl fun _ =>
          hands_setProc (s := { s with received := s.received + 1 }) (hands_of_idle hg).symm
      · exact .none rfl rfl rfl fun _ => rfl
  | receiveReply g =>
    simp only [step] at h
    split at h <;> cases h
    next r hg =>
    refine takeFor_moved (by rw [hg]; rfl) fun c hc => ?_
    obtain ⟨hlook, hsource, htarget, hcommand⟩ := take_eq_some hc
    refine ⟨r.response, hsource, htarget, hcommand, (hT _ _ hlook).2.1, ?_, rfl⟩
    rw [htarget]
    exact r.source.symm
  | failNode g | failService g | failAll g =>
    simp only [step] at h
    split at h
    case h_2 => cases h
    next hg => exact failFor_moved (hands_of_idle hg) h
  | write g =>
    simp only [step] at h
    split at h
    case h_2 => cases h
    next w ws hg =>
    split at h <;> cases h
    next hslot => exact .write (by rw [hg]; rfl) (by simpa using hslot) rfl
  | wait c =>
    simp only [step] at h
    split at h <;> cases h
    exact .wait rfl
  | close =>
    cases h
    exact .none rfl rfl rfl fun _ => rfl

end Steps

end GameServiceRuntime.Runtime.Pending
