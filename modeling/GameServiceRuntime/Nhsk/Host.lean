import GameServiceRuntime.Lib.Table
import GameServiceRuntime.Lib.Transition
import GameServiceRuntime.Runtime.Ref

/-!
# The Host

The Host knows which Battle has which ServiceRef, and keeps a bound on how many there are. It does
not create or stop a Battle itself: it asks the Factory, and the answer comes back as a Command,
late, more than once or not at all. A BattleID holds a place from the moment its creation is asked
for until a stop of its ref has succeeded, in one of two forms, as *Creating* or as *active*.

The answers are fenced by the number of the operation. `nextOp` has 64 bits and is not checked.
After `2 ^ 64` operations a number is used again, and a repeated answer to the first operation with
that number is taken for one to the second: see `repeated_answer_replaces`.

A definition without a text of its own has the name of what it models.

## Scope

An answer to a creation is one to a creation that the Host has asked for, any number of times and at
any time. An answer to a stop may be any at all. What a quarantined Battle keeps as evidence, the
times at which its external end was observed, metrics and logs are left out, and so are payloads of
a wrong type, which are refused.
-/

namespace GameServiceRuntime.Nhsk

inductive HostOperationPhase
  | creating
  | completed
  | failed
  | stopping
  | quarantined
  deriving DecidableEq

structure CreateBattleRequest where
  battleID : UInt32 := 0
  isNewbie : Bool := false
  connectionGeneration : UInt64 := 0
  deriving DecidableEq

structure CreateBattleOperation where
  operationID : UInt64 := 0
  battleID : UInt32 := 0
  phase : HostOperationPhase := .failed
  ref : ServiceRef := .zero
  rejection : String := ""

structure HostCommandResult where
  accepted : Bool := false
  rejection : String := ""
  operationID : UInt64 := 0

/-- `createBattleInternal`, without the Host, which is this one -/
structure CreateBattleInternal where
  operationID : UInt64
  request : CreateBattleRequest
  deriving DecidableEq

/-- `stopBattleInternal`, as the Host sends it -/
structure StopBattleInternal where
  operationID : UInt64
  battleID : UInt32
  ref : ServiceRef
  releaseQuarantined : Bool := false

/-- What the Host sends to the Factory. -/
inductive FactoryCommand
  | create (command : CreateBattleInternal)
  | stop (command : StopBattleInternal)

structure ApplyBattleCreated where
  operationID : UInt64
  battleID : UInt32
  ref : ServiceRef
  connectionGeneration : UInt64
  err : String

structure ApplyBattleStopped where
  operationID : UInt64
  battleID : UInt32
  ref : ServiceRef
  err : String

structure DiagnosticReceipt where
  receiptID : Text
  battleID : UInt32
  ref : ServiceRef
  digest : Text
  directory : Text
  createdAt : ℤ
  deriving DecidableEq

/-- `validDiagnosticReceipt` -/
def DiagnosticReceipt.valid (receipt : DiagnosticReceipt) : Bool :=
  receipt.receiptID ≠ [] && receipt.battleID ≠ 0 && receipt.ref.node ≠ [] && receipt.ref.id ≠ 0 &&
    receipt.digest.length = 64 && receipt.directory ≠ [] && receipt.createdAt ≠ 0

inductive DiagnosticExportStatus
  | pending
  | failed
  | exported
  deriving DecidableEq

structure QuarantinedBattle where
  ref : ServiceRef
  exportStatus : DiagnosticExportStatus := .pending
  receipt : Option DiagnosticReceipt := none
  releasePending : Bool := false

/-- The Commands of the Host. -/
inductive HostCommand
  | beginCreate (request : CreateBattleRequest)
  | getOperation (operationID : UInt64)
  | resolve (battleID : UInt32)
  | delete (battleID : UInt32) (ref : ServiceRef)
  | created (result : ApplyBattleCreated)
  | stopped (result : ApplyBattleStopped)
  /-- with the Command that failed -/
  | quarantined (battleID : UInt32) (ref : ServiceRef) (failedCommand : UInt32)
  | diagnosed (battleID : UInt32) (ref : ServiceRef) (receipt : DiagnosticReceipt) (err : String)
  /-- with or without an exporter, which may refuse the evidence -/
  | retryDiagnostic (battleID : UInt32) (ref : ServiceRef) (exporter : Bool)
      (submitErr : Option String)
  | release (receipt : DiagnosticReceipt)

/-- A Command, and whether the Factory's mailbox refuses what the Host sends. -/
structure HostEvent where
  source : ServiceRef
  sendErr : Option String := none
  command : HostCommand

/-- What the Host replies or returns. -/
inductive HostReply
  | none
  | error (text : String)
  | operation (operation : CreateBattleOperation)
  | result (result : HostCommandResult)
  | binding (battleID : UInt32) (ref : ServiceRef)

/-- `NHSKHostService`. The last two fields are history: what was sent to the Factory, and how many
operations there have been. -/
structure Host where
  max : UInt32
  factory : ServiceRef
  self : ServiceRef
  nextOp : UInt64 := 0
  active : Table UInt32 ServiceRef := ∅
  states : Table UInt32 HostOperationPhase := ∅
  operations : Table UInt64 CreateBattleOperation := ∅
  createRequests : Table UInt32 CreateBattleRequest := ∅
  battleOperations : Table UInt32 UInt64 := ∅
  replacements : Table UInt32 UInt64 := ∅
  quarantine : Table UInt32 QuarantinedBattle := ∅
  sent : List FactoryCommand := []
  started : ℕ := 0

namespace Host

def isLocalAdmin (h : Host) (source : ServiceRef) : Bool :=
  source.node = h.self.node && source.id = 0

def creatingCount (h : Host) : ℕ := (h.states.values.filter (· = .creating)).length

/-- `nextOp++` -/
def allocate (h : Host) : Host := { h with nextOp := h.nextOp + 1, started := h.started + 1 }

/-- `operations[operationID] = operation` -/
def note (h : Host) (operationID : UInt64) (operation : CreateBattleOperation) : Host :=
  { h with operations := h.operations.insert operationID operation }

/-- The creation of a BattleID is not pending any more. -/
def settle (h : Host) (battleID : UInt32) : Host :=
  { h with
    createRequests := h.createRequests.erase battleID
    battleOperations := h.battleOperations.erase battleID }

/-- `states[battleID] = phase` -/
def setState (h : Host) (battleID : UInt32) (phase : HostOperationPhase) : Host :=
  { h with states := h.states.insert battleID phase }

/-- The operation with the present number becomes the current one of the BattleID. -/
def enter (h : Host) (request : CreateBattleRequest) (phase : HostOperationPhase) : Host :=
  { h.setState request.battleID phase with
    createRequests := h.createRequests.insert request.battleID request
    battleOperations := h.battleOperations.insert request.battleID h.nextOp }

/-- The Battle stays, and what was to replace it is given up. -/
def withdraw (h : Host) (battleID : UInt32) : Host :=
  { (h.setState battleID .completed).settle battleID with
    replacements := h.replacements.erase battleID }

/-- `submitCreate`; a Send that fails takes the operation back. -/
def submitCreate (h : Host) (sendErr : Option String) (operationID : UInt64)
    (operation : CreateBattleOperation) (request : CreateBattleRequest) (battleID : UInt32) :
    Host × CreateBattleOperation :=
  match sendErr with
  | none => ({ h with sent := h.sent ++ [.create ⟨operationID, request⟩] }, operation)
  | some err =>
    let operation := { operation with phase := .failed, rejection := err }
    ({ (h.note operationID operation).settle battleID with states := h.states.erase battleID },
      operation)

/-- `beginCreate`, once the BattleID is free. -/
def createNew (h : Host) (sendErr : Option String) (request : CreateBattleRequest) :
    Host × HostReply :=
  if h.max ≤ UInt32.ofNat h.active.len + UInt32.ofNat h.creatingCount then
    (h, .operation { battleID := request.battleID, rejection := "nhsk: Host capacity exhausted" })
  else
    let h := h.allocate
    let operation : CreateBattleOperation :=
      { operationID := h.nextOp, battleID := request.battleID, phase := .creating }
    let h := (h.note h.nextOp operation).enter request .creating
    let (h, operation) := h.submitCreate sendErr h.nextOp operation request request.battleID
    (h, .operation operation)

def beginLegacyReplacement (h : Host) (sendErr : Option String) (request : CreateBattleRequest) :
    Host × HostReply :=
  let ref := (h.active.lookup request.battleID).getD .zero
  let h := h.allocate
  let operation : CreateBattleOperation :=
    { operationID := h.nextOp, battleID := request.battleID, phase := .stopping }
  let h := { (h.note h.nextOp operation).enter request .stopping with
    replacements := h.replacements.insert request.battleID h.nextOp }
  match sendErr with
  | none =>
    ({ h with sent := h.sent ++ [.stop ⟨h.nextOp, request.battleID, ref, false⟩] },
      .operation operation)
  | some err =>
    let operation := { operation with phase := .failed, rejection := err }
    ((h.note h.nextOp operation).withdraw request.battleID, .operation operation)

/-- `beginCreate`, when the BattleID has a state. -/
def createAgain (h : Host) (sendErr : Option String) (request : CreateBattleRequest)
    (phase : HostOperationPhase) : Host × HostReply :=
  let operationID := (h.battleOperations.lookup request.battleID).getD 0
  if operationID ≠ 0 ∧ (h.createRequests.lookup request.battleID).getD {} = request ∧
      (phase = .creating ∨ (h.replacements.lookup request.battleID).getD 0 = operationID) then
    (h, .operation ((h.operations.lookup operationID).getD {}))
  else if phase = .completed ∧ request.connectionGeneration ≠ 0 then
    h.beginLegacyReplacement sendErr request
  else
    (h, .operation { battleID := request.battleID, phase, rejection := "nhsk: battle id in use" })

def beginCreate (h : Host) (source : ServiceRef) (sendErr : Option String)
    (request : CreateBattleRequest) : Host × HostReply :=
  if request.battleID = 0 then (h, .operation { rejection := "nhsk: invalid BattleID" })
  else if request.connectionGeneration ≠ 0 ∧ h.isLocalAdmin source = false then
    (h, .operation { battleID := request.battleID, rejection :=
      "nhsk: connection generation is reserved for the local Legacy adapter" })
  else
    match h.states.lookup request.battleID with
    | none => h.createNew sendErr request
    | some .failed => h.createNew sendErr request
    | some phase => h.createAgain sendErr request phase

def getOperation (h : Host) (operationID : UInt64) : HostReply :=
  if operationID = 0 then .error "gsr: invalid cluster envelope"
  else
    match h.operations.lookup operationID with
    | none => .error "gsr: service not found"
    | some operation => .operation operation

def resolve (h : Host) (battleID : UInt32) : HostReply :=
  if battleID = 0 then .error "nhsk: invalid BattleID"
  else
    match h.active.lookup battleID with
    | none => .error "gsr: service not found"
    | some ref =>
      if h.states.lookup battleID = some .quarantined then .error "nhsk: battle quarantined"
      else .binding battleID ref

def delete (h : Host) (sendErr : Option String) (battleID : UInt32) (asked : ServiceRef) :
    Host × HostReply :=
  if battleID = 0 then (h, .result { rejection := "nhsk: invalid BattleID" })
  else
    match h.active.lookup battleID with
    | none => (h, .result { rejection := "gsr: service not found" })
    | some ref =>
      if asked.id ≠ 0 ∧ asked ≠ ref then (h, .result { rejection := "gsr: service not found" })
      else if (h.quarantine.lookup battleID).isSome then (h, .result { accepted := true })
      else if h.states.lookup battleID = some .stopping then (h, .result { accepted := true })
      else
        let h := (h.setState battleID .stopping).allocate
        match sendErr with
        | none =>
          ({ h with sent := h.sent ++ [.stop ⟨h.nextOp, battleID, ref, false⟩] },
            .result { accepted := true, operationID := h.nextOp })
        | some err => (h.setState battleID .completed, .result { rejection := err })

/-- The test of `applyCreated`: the operation and the request that a result belongs to. -/
def pendingCreate (h : Host) (result : ApplyBattleCreated) : Option CreateBattleOperation :=
  match h.operations.lookup result.operationID, h.createRequests.lookup result.battleID with
  | some operation, some request =>
    if operation.battleID = result.battleID ∧
        (h.battleOperations.lookup result.battleID).getD 0 = result.operationID ∧
        request.connectionGeneration = result.connectionGeneration then some operation
    else none
  | _, _ => none

def applyCreated (h : Host) (source : ServiceRef) (result : ApplyBattleCreated) :
    Host × HostReply :=
  if source ≠ h.factory then (h, .error "game: unauthorized")
  else
    match h.pendingCreate result with
    | none => (h, .none)
    | some operation =>
      if result.err ≠ "" ∨ result.ref.id = 0 then
        let operation := { operation with phase := .failed, rejection := result.err }
        ({ (h.settle result.battleID).note result.operationID operation with
          states := h.states.erase result.battleID }, .none)
      else
        let operation := { operation with phase := .completed, ref := result.ref }
        let h := (h.setState result.battleID .completed).settle result.battleID
        ({ h.note result.operationID operation with
          active := h.active.insert result.battleID result.ref }, .none)

/-- `applyStopped`, for the stop that a replacement waits for. -/
def replaced (h : Host) (sendErr : Option String) (result : ApplyBattleStopped) : Host :=
  let operation := (h.operations.lookup result.operationID).getD {}
  if result.err ≠ "" then
    let operation := { operation with phase := .failed, rejection := result.err }
    (h.note result.operationID operation).withdraw result.battleID
  else
    let operation := { operation with phase := .creating, ref := .zero }
    let request := (h.createRequests.lookup result.battleID).getD {}
    let h := { (h.note result.operationID operation).setState result.battleID .creating with
      active := h.active.erase result.battleID
      replacements := h.replacements.erase result.battleID }
    (h.submitCreate sendErr result.operationID operation request result.battleID).1

/-- `applyStopped`, for a quarantined Battle. -/
def released (h : Host) (retained : QuarantinedBattle) (result : ApplyBattleStopped) : Host :=
  if retained.releasePending = false then h
  else if result.err ≠ "" then
    { h with quarantine :=
      h.quarantine.insert result.battleID { retained with releasePending := false } }
  else
    { h with
      quarantine := h.quarantine.erase result.battleID
      active := h.active.erase result.battleID
      states := h.states.erase result.battleID }

def applyStopped (h : Host) (source : ServiceRef) (sendErr : Option String)
    (result : ApplyBattleStopped) : Host × HostReply :=
  if source ≠ h.factory then (h, .error "game: unauthorized")
  else if h.active.lookup result.battleID ≠ some result.ref then (h, .none)
  else
    let operationID := (h.replacements.lookup result.battleID).getD 0
    if operationID ≠ 0 ∧ operationID = result.operationID then (h.replaced sendErr result, .none)
    else
      match h.quarantine.lookup result.battleID with
      | some retained => (h.released retained result, .none)
      | none =>
        if result.err ≠ "" then (h.setState result.battleID .completed, .none)
        else
          ({ h with
            active := h.active.erase result.battleID
            states := h.states.erase result.battleID }, .none)

def applyQuarantined (h : Host) (source : ServiceRef) (battleID : UInt32) (ref : ServiceRef)
    (failedCommand : UInt32) : Host × HostReply :=
  if battleID = 0 ∨ ref.id = 0 ∨ failedCommand = 0 then (h, .error "gsr: invalid cluster envelope")
  else if source ≠ ref ∧ source ≠ h.factory ∧ h.isLocalAdmin source = false then
    (h, .error "game: unauthorized")
  else if h.active.lookup battleID ≠ some ref then (h, .none)
  else if (h.quarantine.lookup battleID).isSome then (h, .none)
  else
    ({ h.setState battleID .quarantined with
      quarantine := h.quarantine.insert battleID { ref } }, .none)

def applyDiagnosticResult (h : Host) (source : ServiceRef) (battleID : UInt32) (ref : ServiceRef)
    (receipt : DiagnosticReceipt) (err : String) : Host × HostReply :=
  if h.isLocalAdmin source = false then (h, .error "game: unauthorized")
  else
    match h.quarantine.lookup battleID with
    | none => (h, .none)
    | some retained =>
      if retained.ref ≠ ref then (h, .none)
      else if err ≠ "" ∨ receipt.valid = false ∨ receipt.battleID ≠ battleID ∨
        receipt.ref ≠ ref then
        let retained := { retained with exportStatus := .failed }
        ({ h with quarantine := h.quarantine.insert battleID retained }, .none)
      else
        let retained := { retained with exportStatus := .exported, receipt := some receipt }
        ({ h with quarantine := h.quarantine.insert battleID retained }, .none)

def retryDiagnostic (h : Host) (source : ServiceRef) (battleID : UInt32) (ref : ServiceRef)
    (exporter : Bool) (submitErr : Option String) : Host × HostReply :=
  if h.isLocalAdmin source = false then (h, .error "game: unauthorized")
  else
    match h.quarantine.lookup battleID with
    | none => (h, .result { rejection := "gsr: service not found" })
    | some retained =>
      if retained.ref ≠ ref then (h, .result { rejection := "gsr: service not found" })
      else if retained.exportStatus = .exported then (h, .result { accepted := true })
      else if exporter = false then
        (h, .result { rejection := "nhsk: invalid diagnostic artifact" })
      else
        ({ h with quarantine :=
          h.quarantine.insert battleID { retained with exportStatus := .pending } },
          .result { accepted := submitErr.isNone, rejection := submitErr.getD "" })

def releaseQuarantined (h : Host) (source : ServiceRef) (sendErr : Option String)
    (receipt : DiagnosticReceipt) : Host × HostReply :=
  if h.isLocalAdmin source = false then (h, .error "game: unauthorized")
  else
    match h.quarantine.lookup receipt.battleID with
    | none => (h, .result { rejection := "nhsk: diagnostic receipt mismatch" })
    | some retained =>
      if retained.receipt ≠ some receipt then
        (h, .result { rejection := "nhsk: diagnostic receipt mismatch" })
      else if retained.releasePending then (h, .result { accepted := true })
      else
        let h := h.allocate
        match sendErr with
        | some err => (h, .result { rejection := err })
        | none =>
          ({ h with
            sent := h.sent ++ [.stop ⟨h.nextOp, receipt.battleID, receipt.ref, true⟩]
            quarantine :=
              h.quarantine.insert receipt.battleID { retained with releasePending := true } },
            .result { accepted := true, operationID := h.nextOp })

def handle (h : Host) (e : HostEvent) : Host × HostReply :=
  match e.command with
  | .beginCreate request => h.beginCreate e.source e.sendErr request
  | .getOperation operationID => (h, h.getOperation operationID)
  | .resolve battleID => (h, h.resolve battleID)
  | .delete battleID ref => h.delete e.sendErr battleID ref
  | .created result => h.applyCreated e.source result
  | .stopped result => h.applyStopped e.source e.sendErr result
  | .quarantined battleID ref failedCommand =>
    h.applyQuarantined e.source battleID ref failedCommand
  | .diagnosed battleID ref receipt err => h.applyDiagnosticResult e.source battleID ref receipt err
  | .retryDiagnostic battleID ref exporter submitErr =>
    h.retryDiagnostic e.source battleID ref exporter submitErr
  | .release receipt => h.releaseQuarantined e.source e.sendErr receipt

/-- The creations that the Host has asked for. -/
def creates (h : Host) : List CreateBattleInternal :=
  h.sent.filterMap fun
    | .create command => some command
    | .stop _ => none

/-- The result answers one of these creations. -/
def answers (creates : List CreateBattleInternal) (result : ApplyBattleCreated) : Bool :=
  creates.any fun c => c.operationID = result.operationID && c.request.battleID = result.battleID &&
    c.request.connectionGeneration = result.connectionGeneration

/-- A result comes from the Factory only if it answers a creation. -/
def arrives (h : Host) (e : HostEvent) : Bool :=
  match e.command with
  | .created result => e.source ≠ h.factory || answers h.creates result
  | _ => true

end Host

/-- The runs of a Host. -/
def hosts : System Host HostEvent where
  init h := ∃ max factory self, 0 < max ∧ h = { max, factory, self }
  step h e := if h.arrives e then some (h.handle e).1 else none

/-! ### One BattleID at a time -/

/-- What the Host keeps for one BattleID. -/
structure View where
  active : Option ServiceRef
  state : Option HostOperationPhase
  request : Option CreateBattleRequest
  operation : Option UInt64
  replacement : Option UInt64
  deriving DecidableEq

/-- The places that a BattleID holds. -/
def View.slot (v : View) : ℕ :=
  v.active.elim 0 (fun _ => 1) + if v.state = some .creating then 1 else 0

theorem View.slot_eq (v : View) : (v.slot : ℤ) = v.active.elim 0 (fun _ => 1) +
    v.state.elim 0 fun phase => if phase = .creating then 1 else 0 := by
  obtain ⟨active, state, -, -, -⟩ := v
  cases active <;> cases state <;> simp [slot]

/-- What holds of each BattleID. An operation is the current one of a BattleID from the request on,
but while a replacement waits for the stop its creation has not been asked for. -/
structure View.Sound (creates : List CreateBattleInternal) (nextOp : UInt64) (battleID : UInt32)
    (v : View) : Prop where
  known : ∀ ref, v.active = some ref → ∃ phase, v.state = some phase ∧ phase ≠ .creating
  unfailed : v.state ≠ some .failed
  request : ∀ r, v.request = some r → r.battleID = battleID ∧ battleID ≠ 0
  together : v.request.isSome = v.operation.isSome
  current : ∀ op, v.operation = some op →
    ∀ c ∈ creates, c.operationID = op → c.request.battleID = battleID → v.state = some .creating
  earlier : ∀ op, v.replacement = some op → op.toNat ≤ nextOp.toNat

/-- The operation that is current for an active BattleID has not been asked for. -/
theorem View.Sound.unasked {creates : List CreateBattleInternal} {nextOp : UInt64}
    {battleID : UInt32} {v : View}
    (hv : v.Sound creates nextOp battleID) {ref : ServiceRef}
    (hactive : v.active = some ref) {op : UInt64} (hop : v.operation = some op) :
    ∀ c ∈ creates, c.operationID = op → c.request.battleID ≠ battleID := by
  intro c hc hcop hid
  obtain ⟨phase, hphase, hne⟩ := hv.known ref hactive
  exact hne (Option.some.inj (hphase.symm.trans (hv.current op hop c hc hcop hid)))

namespace Host

def view (h : Host) (battleID : UInt32) : View where
  active := h.active.lookup battleID
  state := h.states.lookup battleID
  request := h.createRequests.lookup battleID
  operation := h.battleOperations.lookup battleID
  replacement := h.replacements.lookup battleID

/-- The places that are held. -/
def slots (h : Host) : ℕ := h.active.len + h.creatingCount

/-- The invariant. -/
structure Sound (h : Host) : Prop where
  views : ∀ battleID, (h.view battleID).Sound h.creates h.nextOp battleID
  created : ∀ c ∈ h.creates, c.operationID.toNat ≤ h.nextOp.toNat
  capacity : h.slots ≤ h.max.toNat

variable {h h' : Host} {battleID : UInt32} {v : View} {request : CreateBattleRequest}
  {sendErr : Option String} {operation : CreateBattleOperation} {e : HostEvent}

theorem creatingCount_eq (h : Host) :
    (h.creatingCount : ℤ) = Table.sum (fun phase => if phase = .creating then 1 else 0)
    h.states := by
  rw [creatingCount, Table.sum]
  induction h.states.values with
  | nil => rfl
  | cons phase phases ih =>
    rw [List.filter_cons, List.map_cons, List.sum_cons, ← ih]
    by_cases hphase : phase = .creating
    · simp [hphase, Int.add_comm]
    · simp [hphase]

theorem slots_eq (h : Host) : (h.slots : ℤ) = Table.sum (fun _ => 1) h.active +
    Table.sum (fun phase => if phase = .creating then 1 else 0) h.states := by
  rw [slots, Nat.cast_add, Table.len_eq_sum, creatingCount_eq]

/-- **A place changes hands.** What happens to one BattleID changes the places that are held by its
own. -/
theorem slots_touch (hview : ∀ j, j ≠ battleID → h'.view j = h.view j) :
    h'.slots + (h.view battleID).slot = h.slots + (h'.view battleID).slot := by
  have hactive := Table.sum_update (fun _ => 1) fun j hj => congrArg View.active (hview j hj)
  have hstates := Table.sum_update (fun phase => if phase = .creating then 1 else 0)
    fun j hj => congrArg View.state (hview j hj)
  have hslots := slots_eq h
  have hslots' := slots_eq h'
  have hslot := (h.view battleID).slot_eq
  have hslot' := (h'.view battleID).slot_eq
  simp only [view] at hslot hslot' ⊢
  omega

/-- The step changes what is kept for one BattleID, and nothing for the others. -/
structure Touches (h h' : Host) (battleID : UInt32) (v : View) : Prop where
  self : h'.view battleID = v
  other : ∀ j, j ≠ battleID → h'.view j = h.view j

/-- A step that concerns one BattleID. -/
theorem Sound.touch (hs : Sound h) (battleID : UInt32) (v : View) (ht : Touches h h' battleID v)
    (hmax : h'.max = h.max) (hnext : h.nextOp.toNat ≤ h'.nextOp.toNat)
    (hcreates : ∀ c ∈ h'.creates, c ∈ h.creates ∨ c.operationID.toNat ≤ h'.nextOp.toNat ∧
      (c.request.battleID = battleID ∨ c.request.battleID = 0))
    (hv : v.Sound h'.creates h'.nextOp battleID)
    (hslot : h.slots + v.slot ≤ h.max.toNat + (h.view battleID).slot) : Sound h' where
  views j := by
    by_cases hj : j = battleID
    · rw [hj, ht.self]
      exact hv
    have hold := hs.views j
    rw [ht.other j hj]
    refine ⟨hold.known, hold.unfailed, hold.request, hold.together, ?_, ?_⟩
    · intro op hop c hc hcop hcj
      rcases hcreates c hc with hc | ⟨-, hid | hzero⟩
      · exact hold.current op hop c hc hcop hcj
      · exact absurd (hcj.symm.trans hid) hj
      · -- No creation is pending for the BattleID zero.
        have hpending : (h.view j).request.isSome = true := by rw [hold.together, hop]; rfl
        obtain ⟨r, hr⟩ := Option.isSome_iff_exists.mp hpending
        exact absurd (hcj.symm.trans hzero) (hold.request r hr).2
    · exact fun op hop => (hold.earlier op hop).trans hnext
  created c hc := by
    rcases hcreates c hc with hc | ⟨hle, -⟩
    · exact (hs.created c hc).trans hnext
    · exact hle
  capacity := by
    have hslots := slots_touch ht.other
    rw [ht.self] at hslots
    rw [hmax]
    omega

/-- A step that leaves all BattleIDs as they are. -/
theorem Sound.quiet (hs : Sound h) (hmax : h'.max = h.max) (hview : ∀ j, h'.view j = h.view j)
    (hnext : h.nextOp.toNat ≤ h'.nextOp.toNat) (hcreates : h'.creates = h.creates) : Sound h' := by
  have hsound := hs.views 0
  refine hs.touch 0 _ ⟨hview 0, fun j _ => hview j⟩ hmax hnext (fun c hc => .inl (hcreates ▸ hc)) ?_
    (Nat.add_le_add_right hs.capacity _)
  rw [hcreates]
  exact ⟨hsound.known, hsound.unfailed, hsound.request, hsound.together, hsound.current,
    fun op hop => (hsound.earlier op hop).trans hnext⟩

/-- An active BattleID changes its state. -/
theorem Sound.setState (hs : Sound h) {ref : ServiceRef}
    (hactive : h.active.lookup battleID = some ref)
    (phase : HostOperationPhase) (hphase : phase ≠ .creating ∧ phase ≠ .failed) :
    Sound (h.setState battleID phase) := by
  have hold := hs.views battleID
  have ht : Touches h (h.setState battleID phase) battleID
      { h.view battleID with state := some phase } :=
    ⟨by simp [view, Host.setState], fun j hj => by simp [view, Host.setState, hj]⟩
  refine hs.touch battleID _ ht rfl (Nat.le_refl _) (fun c hc => .inl hc) ?_ ?_
  · refine ⟨fun _ _ => ⟨phase, rfl, hphase.1⟩, ?_, hold.request, hold.together, ?_, hold.earlier⟩
    · exact fun hfailed => hphase.2 (Option.some.inj hfailed)
    · exact fun op hop c hc hcop hcid => absurd hcid (hold.unasked hactive hop c hc hcop)
  · have hcapacity := hs.capacity
    simp only [View.slot, Option.some.injEq, hphase.1, if_false]
    omega

/-- A BattleID gives its place back. -/
theorem Sound.remove (hs : Sound h) {ref : ServiceRef}
    (hactive : h.active.lookup battleID = some ref) :
    Sound { h with active := h.active.erase battleID, states := h.states.erase battleID } := by
  have hold := hs.views battleID
  have ht :
    Touches h { h with active := h.active.erase battleID, states := h.states.erase battleID }
      battleID { h.view battleID with active := none, state := none } :=
    ⟨by simp [view], fun j hj => by simp [view, hj]⟩
  refine hs.touch battleID _ ht rfl (Nat.le_refl _) (fun c hc => .inl hc) ?_ ?_
  · refine ⟨nofun, nofun, hold.request, hold.together, ?_, hold.earlier⟩
    exact fun op hop c hc hcop hcid => absurd hcid (hold.unasked hactive hop c hc hcop)
  · exact Nat.add_le_add hs.capacity (Nat.zero_le _)

/-! ### The handlers -/

theorem creates_create (h : Host) (c : CreateBattleInternal) :
    creates { h with sent := h.sent ++ [.create c] } = h.creates ++ [c] := by
  simp [creates]

theorem creates_stop (h : Host) (c : StopBattleInternal) :
    creates { h with sent := h.sent ++ [.stop c] } = h.creates := by
  simp [creates]

theorem nextOp_add_one (hroom : h.nextOp.toNat + 1 < 2 ^ 64) :
    (h.nextOp + 1).toNat = h.nextOp.toNat + 1 := by
  rw [UInt64.toNat_add]
  exact Nat.mod_eq_of_lt hroom

/-- A new number is not that of a creation that has been asked for. -/
theorem Sound.fresh (hs : Sound h) (hroom : h.nextOp.toNat + 1 < 2 ^ 64) :
    ∀ c ∈ h.creates, c.operationID ≠ h.nextOp + 1 := by
  intro c hc heq
  have hle := hs.created c hc
  rw [heq, nextOp_add_one hroom] at hle
  omega

theorem Sound.allocate (hs : Sound h) (hroom : h.nextOp.toNat + 1 < 2 ^ 64) : Sound h.allocate :=
  hs.quiet rfl (fun _ => rfl) (by rw [Host.allocate, nextOp_add_one hroom]; omega) rfl

/-- The sum of the counts does not wrap. -/
theorem Sound.slots_lt (hs : Sound h)
    (hfree : ¬ h.max ≤ UInt32.ofNat h.active.len + UInt32.ofNat h.creatingCount) :
    h.slots < h.max.toNat := by
  have hcapacity := hs.capacity
  have hmax := h.max.toNat_lt
  rw [UInt32.le_iff_toNat_le, UInt32.toNat_add, UInt32.toNat_ofNat', UInt32.toNat_ofNat'] at hfree
  rw [slots] at hcapacity ⊢
  omega

theorem Sound.note (hs : Sound h) (operationID : UInt64) (operation : CreateBattleOperation) :
    Sound (h.note operationID operation) :=
  hs.quiet rfl (fun _ => rfl) (Nat.le_refl _) rfl

/-- A creation begins. -/
theorem Sound.enter (hs : Sound h) (hbattle : request.battleID ≠ 0)
    (hnone : h.active.lookup request.battleID = none) (hfree : h.slots < h.max.toNat) :
    Sound (h.enter request .creating) := by
  have hold := hs.views request.battleID
  refine hs.touch request.battleID
    ⟨none, some .creating, some request, some h.nextOp, (h.view request.battleID).replacement⟩
    ⟨?_, ?_⟩ rfl (Nat.le_refl _) (fun c hc => .inl hc) ?_ ?_
  · simp [view, Host.enter, Host.setState, hnone]
  · intro j hj
    simp [view, Host.enter, Host.setState, hj]
  · refine ⟨nofun, nofun, ?_, rfl, fun _ _ _ _ _ _ => rfl, hold.earlier⟩
    rintro r ⟨⟩
    exact ⟨rfl, hbattle⟩
  · simp only [View.slot, Option.elim_none, if_true]
    omega

/-- A replacement begins. -/
theorem Sound.enter_replacement (hs : Sound h) (hbattle : request.battleID ≠ 0)
    (hfresh : ∀ c ∈ h.creates, c.operationID ≠ h.nextOp) :
    Sound { h.enter request .stopping with
      replacements := h.replacements.insert request.battleID h.nextOp } := by
  refine hs.touch request.battleID
    ⟨h.active.lookup request.battleID, some .stopping, some request, some h.nextOp, some h.nextOp⟩
    ⟨?_, ?_⟩ rfl (Nat.le_refl _) (fun c hc => .inl hc) ?_ ?_
  · simp [view, Host.enter, Host.setState]
  · intro j hj
    simp [view, Host.enter, Host.setState, hj]
  · refine ⟨fun _ _ => ⟨.stopping, rfl, nofun⟩, nofun, ?_, rfl, ?_, ?_⟩
    · rintro r ⟨⟩
      exact ⟨rfl, hbattle⟩
    · rintro op ⟨⟩ c hc hcop -
      exact absurd hcop (hfresh c hc)
    · rintro op ⟨⟩
      exact Nat.le_refl _
  · have hcapacity := hs.capacity
    simp only [View.slot, view, Option.some.injEq, reduceCtorEq, if_false]
    omega

theorem Sound.withdraw (hs : Sound h) (battleID : UInt32) : Sound (h.withdraw battleID) := by
  refine hs.touch battleID ⟨h.active.lookup battleID, some .completed, none, none, none⟩
    ⟨?_, ?_⟩ rfl (Nat.le_refl _) (fun c hc => .inl hc) ?_ ?_
  · simp [view, Host.withdraw, Host.setState, settle]
  · intro j hj
    simp [view, Host.withdraw, Host.setState, settle, hj]
  · exact ⟨fun _ _ => ⟨.completed, rfl, nofun⟩, nofun, nofun, rfl, nofun, nofun⟩
  · have hcapacity := hs.capacity
    simp only [View.slot, view, Option.some.injEq, reduceCtorEq, if_false]
    omega

/-- A creation has failed. -/
theorem Sound.abandon (hs : Sound h) (hnone : h.active.lookup battleID = none) :
    Sound { h.settle battleID with states := h.states.erase battleID } := by
  have hold := hs.views battleID
  refine hs.touch battleID ⟨none, none, none, none, (h.view battleID).replacement⟩
    ⟨?_, ?_⟩ rfl (Nat.le_refl _) (fun c hc => .inl hc) ?_ ?_
  · simp [view, settle, hnone]
  · intro j hj
    simp [view, settle, hj]
  · exact ⟨nofun, nofun, nofun, rfl, nofun, hold.earlier⟩
  · exact Nat.add_le_add hs.capacity (Nat.zero_le _)

theorem Sound.submitCreate (hs : Sound h) {operationID : UInt64}
    (hnone : h.active.lookup battleID = none)
    (hcreating : h.states.lookup battleID = some .creating)
    (hop : operationID.toNat ≤ h.nextOp.toNat)
    (hrequest : request.battleID = battleID ∨ request.battleID = 0) :
    Sound (h.submitCreate sendErr operationID operation request battleID).1 := by
  cases sendErr with
  | some err => exact (hs.note operationID _).abandon hnone
  | none =>
    have hold := hs.views battleID
    simp only [Host.submitCreate]
    refine hs.touch battleID (h.view battleID) ⟨rfl, fun _ _ => rfl⟩ rfl (Nat.le_refl _) ?_ ?_ ?_
    · intro c hc
      rw [creates_create] at hc
      rcases List.mem_append.mp hc with hc | hc
      · exact .inl hc
      · rw [List.mem_singleton.mp hc]
        exact .inr ⟨hop, hrequest⟩
    · exact ⟨hold.known, hold.unfailed, hold.request, hold.together, fun _ _ _ _ _ _ => hcreating,
        hold.earlier⟩
    · exact Nat.add_le_add_right hs.capacity _

theorem Sound.createNew (hs : Sound h) (hroom : h.nextOp.toNat + 1 < 2 ^ 64)
    (hbattle : request.battleID ≠ 0)
    (hidle : ∀ phase, h.states.lookup request.battleID = some phase → phase = .failed) :
    Sound (h.createNew sendErr request).1 := by
  have hold := hs.views request.battleID
  have hnone : h.active.lookup request.battleID = none := by
    by_contra hactive
    obtain ⟨ref, href⟩ := Option.ne_none_iff_exists'.mp hactive
    obtain ⟨phase, hphase, -⟩ := hold.known ref href
    exact hold.unfailed (hidle phase hphase ▸ hphase)
  simp only [Host.createNew]
  split_ifs with hfull
  · exact hs
  have hentered := ((hs.allocate hroom).note h.allocate.nextOp
    { operationID := h.allocate.nextOp, battleID := request.battleID, phase := .creating }).enter
    hbattle
    hnone (hs.slots_lt hfull)
  refine hentered.submitCreate hnone ?_ (Nat.le_refl _) (.inl rfl)
  simp [Host.enter, Host.setState]

theorem Sound.beginLegacyReplacement (hs : Sound h) (hroom : h.nextOp.toNat + 1 < 2 ^ 64)
    (hbattle : request.battleID ≠ 0) : Sound (h.beginLegacyReplacement sendErr request).1 := by
  have hentered := ((hs.allocate hroom).note h.allocate.nextOp
    { operationID := h.allocate.nextOp, battleID := request.battleID,
      phase := .stopping }).enter_replacement hbattle (hs.fresh hroom)
  cases sendErr with
  | none => exact hentered.quiet rfl (fun _ => rfl) (Nat.le_refl _) (creates_stop _ _)
  | some err => exact (hentered.note _ _).withdraw request.battleID

theorem Sound.beginCreate (hs : Sound h) {source : ServiceRef}
    (hroom : h.nextOp.toNat + 1 < 2 ^ 64) :
    Sound (h.beginCreate source sendErr request).1 := by
  rw [Host.beginCreate]
  split_ifs with hbattle hadmin
  · exact hs
  · exact hs
  split
  · next hnone => exact hs.createNew hroom hbattle (by simp [hnone])
  · next hfailed => exact hs.createNew hroom hbattle (by simp [hfailed])
  · simp only [createAgain]
    split_ifs
    · exact hs
    · exact hs.beginLegacyReplacement hroom hbattle
    · exact hs

theorem Sound.delete (hs : Sound h) {asked : ServiceRef} (hroom : h.nextOp.toNat + 1 < 2 ^ 64) :
    Sound (h.delete sendErr battleID asked).1 := by
  rw [Host.delete]
  split
  · exact hs
  split
  · exact hs
  next ref hactive =>
  have hstopping := (hs.setState hactive .stopping ⟨nofun, nofun⟩).allocate hroom
  split_ifs
  · exact hs
  · exact hs
  · exact hs
  cases sendErr with
  | none => exact hstopping.quiet rfl (fun _ => rfl) (Nat.le_refl _) (creates_stop _ _)
  | some err => exact hstopping.setState hactive .completed ⟨nofun, nofun⟩

/-- What an accepted result of a creation says. -/
theorem pendingCreate_some {result : ApplyBattleCreated}
    (hpending : h.pendingCreate result = some operation) :
    (∃ request, h.createRequests.lookup result.battleID = some request ∧
      request.connectionGeneration = result.connectionGeneration) ∧
      (h.battleOperations.lookup result.battleID).getD 0 = result.operationID := by
  rw [pendingCreate] at hpending
  split at hpending
  · next operation' request hoperation hrequest =>
    split_ifs at hpending with htest
    exact ⟨⟨request, hrequest, htest.2.2⟩, htest.2.1⟩
  · cases hpending

/-- A result of a creation that was asked for finds its BattleID Creating. -/
theorem Sound.creating (hs : Sound h) {result : ApplyBattleCreated}
    (hanswers : answers h.creates result = true)
    (hpending : h.pendingCreate result = some operation) :
    h.battleOperations.lookup result.battleID = some result.operationID ∧
      h.states.lookup result.battleID = some .creating ∧
      h.active.lookup result.battleID = none := by
  have hold := hs.views result.battleID
  obtain ⟨⟨request, hrequest, -⟩, hoperation⟩ := pendingCreate_some hpending
  have hcurrent : h.battleOperations.lookup result.battleID = some result.operationID := by
    have hsome := hold.together
    simp only [view, hrequest, Option.isSome_some] at hsome
    obtain ⟨op, hop⟩ := Option.isSome_iff_exists.mp hsome.symm
    rw [hop, ← hoperation, hop, Option.getD_some]
  obtain ⟨c, hc, htest⟩ := List.any_eq_true.mp hanswers
  simp only [Bool.and_eq_true, decide_eq_true_eq] at htest
  have hcreating := hold.current result.operationID hcurrent c hc htest.1.1 htest.1.2
  refine ⟨hcurrent, hcreating, ?_⟩
  by_contra hactive
  obtain ⟨ref, href⟩ := Option.ne_none_iff_exists'.mp hactive
  obtain ⟨phase, hphase, hne⟩ := hold.known ref href
  exact hne (Option.some.inj (hphase.symm.trans hcreating))

/-- A creation has succeeded. -/
theorem Sound.complete (hs : Sound h) (hcreating : h.states.lookup battleID = some .creating)
    (ref : ServiceRef) :
    Sound { (h.setState battleID .completed).settle battleID with
      active := h.active.insert battleID ref } := by
  have hold := hs.views battleID
  refine hs.touch battleID ⟨some ref, some .completed, none, none, (h.view battleID).replacement⟩
    ⟨?_, ?_⟩ rfl (Nat.le_refl _) (fun c hc => .inl hc) ?_ ?_
  · simp [view, Host.setState, settle]
  · intro j hj
    simp [view, Host.setState, settle, hj]
  · exact ⟨fun _ _ => ⟨.completed, rfl, nofun⟩, nofun, nofun, rfl, nofun, hold.earlier⟩
  · have hcapacity := hs.capacity
    simp only [View.slot, view, hcreating, Option.elim_some, Option.some.injEq,
      reduceCtorEq, if_false, if_true]
    omega

theorem Sound.applyCreated (hs : Sound h) {source : ServiceRef} {result : ApplyBattleCreated}
    (hanswers : source = h.factory → answers h.creates result = true) :
    Sound (h.applyCreated source result).1 := by
  rw [Host.applyCreated]
  split
  · exact hs
  next hsource =>
  cases hpending : h.pendingCreate result with
  | none => exact hs
  | some operation =>
    obtain ⟨-, hcreating, hnone⟩ := hs.creating (hanswers (not_not.mp hsource)) hpending
    dsimp only
    split
    · exact (hs.note result.operationID _).abandon hnone
    · exact (hs.note result.operationID _).complete hcreating result.ref

/-- The Battle that is replaced is gone, and its place is that of the creation. -/
theorem Sound.replace (hs : Sound h) {ref : ServiceRef}
    (hactive : h.active.lookup battleID = some ref) : Sound { h.setState battleID .creating with
      active := h.active.erase battleID
      replacements := h.replacements.erase battleID } := by
  have hold := hs.views battleID
  obtain ⟨phase, hphase, hne⟩ := hold.known ref hactive
  refine hs.touch battleID ⟨none, some .creating, (h.view battleID).request,
    (h.view battleID).operation, none⟩ ⟨?_, ?_⟩ rfl (Nat.le_refl _) (fun c hc => .inl hc) ?_ ?_
  · simp [view, Host.setState]
  · intro j hj
    simp [view, Host.setState, hj]
  · exact ⟨nofun, nofun, hold.request, hold.together, fun _ _ _ _ _ _ => rfl, nofun⟩
  · have hcapacity := hs.capacity
    simp only [View.slot, view, hactive, Option.elim_some, Option.elim_none, if_true]
    omega

theorem Sound.replaced (hs : Sound h) {result : ApplyBattleStopped}
    (hactive : h.active.lookup result.battleID = some result.ref)
    (hreplacement : h.replacements.lookup result.battleID = some result.operationID) :
    Sound (h.replaced sendErr result) := by
  have hold := hs.views result.battleID
  simp only [Host.replaced]
  split_ifs
  · exact (hs.note result.operationID _).withdraw result.battleID
  · refine ((hs.note result.operationID _).replace hactive).submitCreate ?_ ?_
      (hold.earlier result.operationID hreplacement) ?_
    · simp
    · simp [Host.setState]
    · cases hrequest : h.createRequests.lookup result.battleID with
      | none => exact .inr rfl
      | some request => exact .inl (hold.request request hrequest).1

theorem Sound.applyStopped (hs : Sound h) {source : ServiceRef} {result : ApplyBattleStopped} :
    Sound (h.applyStopped source sendErr result).1 := by
  rw [Host.applyStopped]
  split
  · exact hs
  split
  · exact hs
  next href =>
  rw [ne_eq, not_not] at href
  dsimp only
  split
  · next hreplacement =>
    refine hs.replaced href ?_
    cases hlookup : h.replacements.lookup result.battleID with
    | none => simp [hlookup] at hreplacement
    | some op => rw [← hreplacement.2, hlookup, Option.getD_some]
  split
  · rw [released]
    split_ifs
    · exact hs
    · exact hs.quiet rfl (fun _ => rfl) (Nat.le_refl _) rfl
    · exact (hs.remove href).quiet rfl (fun _ => rfl) (Nat.le_refl _) rfl
  · split_ifs
    · exact hs.setState href .completed ⟨nofun, nofun⟩
    · exact hs.remove href

theorem Sound.applyQuarantined (hs : Sound h) {source ref : ServiceRef} {failedCommand : UInt32} :
    Sound (h.applyQuarantined source battleID ref failedCommand).1 := by
  rw [Host.applyQuarantined]
  split_ifs with hinvalid hsource href hretained
  · exact hs
  · exact hs
  · exact hs
  · exact hs
  · rw [ne_eq, not_not] at href
    exact (hs.setState href .quarantined ⟨nofun, nofun⟩).quiet rfl (fun _ => rfl)
      (Nat.le_refl _) rfl

/-- The Commands about the evidence of a quarantined Battle leave the BattleIDs alone. -/
theorem Sound.applyDiagnosticResult (hs : Sound h) {source ref : ServiceRef}
    {receipt : DiagnosticReceipt} {err : String} :
    Sound (h.applyDiagnosticResult source battleID ref receipt err).1 := by
  rw [Host.applyDiagnosticResult]
  repeat' split
  all_goals exact hs.quiet rfl (fun _ => rfl) (Nat.le_refl _) rfl

theorem Sound.retryDiagnostic (hs : Sound h) {source ref : ServiceRef} {exporter : Bool}
    {submitErr : Option String} :
    Sound (h.retryDiagnostic source battleID ref exporter submitErr).1 := by
  rw [Host.retryDiagnostic]
  repeat' split
  all_goals exact hs.quiet rfl (fun _ => rfl) (Nat.le_refl _) rfl

theorem Sound.releaseQuarantined (hs : Sound h) {source : ServiceRef} {receipt : DiagnosticReceipt}
    (hroom : h.nextOp.toNat + 1 < 2 ^ 64) :
    Sound (h.releaseQuarantined source sendErr receipt).1 := by
  rw [Host.releaseQuarantined]
  split
  · exact hs
  split
  · exact hs
  split_ifs
  · exact hs
  · exact hs
  have hallocated := hs.allocate hroom
  cases sendErr with
  | some err => exact hallocated
  | none => exact hallocated.quiet rfl (fun _ => rfl) (Nat.le_refl _) (creates_stop _ _)

theorem Sound.handle (hs : Sound h) (hroom : h.nextOp.toNat + 1 < 2 ^ 64)
    (harrives : h.arrives e = true) : Sound (h.handle e).1 := by
  obtain ⟨source, sendErr, command⟩ := e
  cases command with
  | beginCreate request => exact hs.beginCreate hroom
  | getOperation operationID => exact hs
  | resolve battleID => exact hs
  | delete battleID ref => exact hs.delete hroom
  | created result =>
    refine hs.applyCreated fun hsource => ?_
    rcases Bool.or_eq_true_iff.mp harrives with hother | hanswers
    · exact absurd hsource (of_decide_eq_true hother)
    · exact hanswers
  | stopped result => exact hs.applyStopped
  | quarantined battleID ref failedCommand => exact hs.applyQuarantined
  | diagnosed battleID ref receipt err => exact hs.applyDiagnosticResult
  | retryDiagnostic battleID ref exporter submitErr => exact hs.retryDiagnostic
  | release receipt => exact hs.releaseQuarantined hroom

/-! ### Runs -/

/-- Every Command starts at most one operation. -/
def Counts (h h' : Host) : Prop :=
  h'.started = h.started ∧ h'.nextOp = h.nextOp ∨ h'.started = h.started + 1 ∧
    h'.nextOp = h.nextOp + 1

/-- What a Command does to the bindings. -/
inductive Binds (h : Host) (e : HostEvent) (h' : Host) : Prop
  | same (hactive : h'.active = h.active)
  | created (result : ApplyBattleCreated) (operation : CreateBattleOperation)
      (hcommand : e.command = .created result) (hsource : e.source = h.factory)
      (hpending : h.pendingCreate result = some operation) (herr : result.err = "")
      (hactive : h'.active = h.active.insert result.battleID result.ref)
  | stopped (result : ApplyBattleStopped) (hcommand : e.command = .stopped result)
      (hsource : e.source = h.factory) (hbound : h.active.lookup result.battleID = some result.ref)
      (herr : result.err = "") (hactive : h'.active = h.active.erase result.battleID)

/-- A Command starts no operation and leaves the bindings, or it starts one and leaves them. -/
theorem still (hcounts : h'.started = h.started) (hnext : h'.nextOp = h.nextOp)
    (hactive : h'.active = h.active) : Counts h h' ∧ Binds h e h' :=
  ⟨.inl ⟨hcounts, hnext⟩, .same hactive⟩

theorem starts (hcounts : h'.started = h.started + 1) (hnext : h'.nextOp = h.nextOp + 1)
    (hactive : h'.active = h.active) : Counts h h' ∧ Binds h e h' :=
  ⟨.inr ⟨hcounts, hnext⟩, .same hactive⟩

theorem createNew_binds (h : Host) (e : HostEvent) (sendErr : Option String)
    (request : CreateBattleRequest) :
    Counts h (h.createNew sendErr request).1 ∧ Binds h e (h.createNew sendErr request).1 := by
  rw [createNew]
  split
  · exact still rfl rfl rfl
  · cases sendErr <;>
      exact starts rfl rfl (by simp only [submitCreate, settle, enter, setState, note, allocate])

theorem beginLegacyReplacement_binds (h : Host) (e : HostEvent) (sendErr : Option String)
    (request : CreateBattleRequest) :
    Counts h (h.beginLegacyReplacement sendErr request).1 ∧
      Binds h e (h.beginLegacyReplacement sendErr request).1 := by
  cases sendErr <;>
    exact starts rfl rfl (by
      simp only [beginLegacyReplacement, withdraw, settle, enter, setState, note, allocate])

theorem beginCreate_binds (h : Host) (e : HostEvent) (source : ServiceRef) (sendErr : Option String)
    (request : CreateBattleRequest) :
    Counts h (h.beginCreate source sendErr request).1 ∧
      Binds h e (h.beginCreate source sendErr request).1 := by
  rw [beginCreate]
  split
  · exact still rfl rfl rfl
  split
  · exact still rfl rfl rfl
  split
  · exact h.createNew_binds e sendErr request
  · exact h.createNew_binds e sendErr request
  · rw [createAgain]
    split_ifs
    · exact still rfl rfl rfl
    · exact h.beginLegacyReplacement_binds e sendErr request
    · exact still rfl rfl rfl

theorem delete_binds (h : Host) (e : HostEvent) (sendErr : Option String) (battleID : UInt32)
    (asked : ServiceRef) :
    Counts h (h.delete sendErr battleID asked).1 ∧
    Binds h e (h.delete sendErr battleID asked).1 := by
  rw [delete]
  split
  · exact still rfl rfl rfl
  split
  · exact still rfl rfl rfl
  split_ifs
  · exact still rfl rfl rfl
  · exact still rfl rfl rfl
  · exact still rfl rfl rfl
  · cases sendErr <;> exact starts rfl rfl (by simp only [setState, allocate])

theorem releaseQuarantined_binds (h : Host) (e : HostEvent) (source : ServiceRef)
    (sendErr : Option String) (receipt : DiagnosticReceipt) :
    Counts h (h.releaseQuarantined source sendErr receipt).1 ∧
      Binds h e (h.releaseQuarantined source sendErr receipt).1 := by
  rw [releaseQuarantined]
  split
  · exact still rfl rfl rfl
  split
  · exact still rfl rfl rfl
  split_ifs
  · exact still rfl rfl rfl
  · exact still rfl rfl rfl
  · cases sendErr <;> exact starts rfl rfl (by simp only [allocate])

theorem applyCreated_binds {result : ApplyBattleCreated} (hcommand : e.command = .created result) :
    Counts h (h.applyCreated e.source result).1 ∧ Binds h e (h.applyCreated e.source result).1 := by
  rw [applyCreated]
  split
  · exact still rfl rfl rfl
  next hsource =>
  cases hpending : h.pendingCreate result with
  | none => exact still rfl rfl rfl
  | some operation =>
    dsimp only
    split
    · exact still rfl rfl rfl
    · next hok =>
      have herr : result.err = "" := by
        by_contra herr
        exact hok (.inl herr)
      exact ⟨.inl ⟨rfl, rfl⟩,
        .created result operation hcommand (not_not.mp hsource) hpending herr rfl⟩

theorem applyStopped_binds {result : ApplyBattleStopped} (hcommand : e.command = .stopped result) :
    Counts h (h.applyStopped e.source sendErr result).1 ∧
      Binds h e (h.applyStopped e.source sendErr result).1 := by
  rw [applyStopped]
  split
  · exact still rfl rfl rfl
  next hsource =>
  split
  · exact still rfl rfl rfl
  next href =>
  have hgone : ∀ h' : Host, h'.started = h.started → h'.nextOp = h.nextOp → result.err = "" →
      h'.active = h.active.erase result.battleID → Counts h h' ∧ Binds h e h' :=
    fun h' hstarted hnext herr hactive => ⟨.inl ⟨hstarted, hnext⟩,
      .stopped result hcommand (not_not.mp hsource) (not_not.mp href) herr hactive⟩
  dsimp only
  split
  · rw [replaced]
    dsimp only
    split
    · exact still rfl rfl rfl
    · next herr => cases sendErr <;> exact hgone _ rfl rfl (not_not.mp herr) rfl
  split
  · rw [released]
    split_ifs with hpending herr
    · exact still rfl rfl rfl
    · exact still rfl rfl rfl
    · exact hgone _ rfl rfl (not_not.mp herr) rfl
  · split_ifs with herr
    · exact still rfl rfl rfl
    · exact hgone _ rfl rfl (not_not.mp herr) rfl

theorem handle_binds (h : Host) (e : HostEvent) :
    Counts h (h.handle e).1 ∧ Binds h e (h.handle e).1 := by
  rw [handle]
  split
  · exact h.beginCreate_binds e _ _ _
  · exact still rfl rfl rfl
  · exact still rfl rfl rfl
  · exact h.delete_binds e _ _ _
  · next hcommand => exact applyCreated_binds hcommand
  · next hcommand => exact applyStopped_binds hcommand
  · rw [applyQuarantined]
    repeat' split
    all_goals exact still rfl rfl rfl
  · rw [applyDiagnosticResult]
    repeat' split
    all_goals exact still rfl rfl rfl
  · rw [retryDiagnostic]
    repeat' split
    all_goals exact still rfl rfl rfl
  · exact h.releaseQuarantined_binds e _ _ _

end Host

open Host

theorem hosts_step {h h' : Host} {e : HostEvent} (hstep : hosts.step h e = some h') :
    h.arrives e = true ∧ h' = (h.handle e).1 := by
  simp only [hosts] at hstep
  split_ifs at hstep with harrives
  cases hstep
  exact ⟨harrives, rfl⟩

variable {h : Host}

/-- The numbers of the operations are not used again. -/
theorem sound_of_reachable (hr : hosts.Reachable h) (hfew : h.started + 1 < 2 ^ 64) :
    h.nextOp.toNat = h.started ∧ Sound h := by
  revert hfew
  refine hr.invariant (I :=
    fun h => h.started + 1 < 2 ^ 64 → h.nextOp.toNat = h.started ∧ Sound h) ?_ ?_
  · rintro h ⟨max, factory, self, -, rfl⟩ -
    refine ⟨rfl, fun battleID => ?_, nofun, Nat.zero_le _⟩
    exact ⟨nofun, nofun, nofun, rfl, nofun, nofun⟩
  · intro h e h' ih _ hstep hfew
    obtain ⟨harrives, rfl⟩ := hosts_step hstep
    rcases (h.handle_binds e).1 with ⟨hstarted, hnext⟩ | ⟨hstarted, hnext⟩
    · obtain ⟨hcount, hs⟩ := ih (by rw [hstarted] at hfew; exact hfew)
      exact ⟨by rw [hnext, hstarted, hcount],
        hs.handle (by rw [hcount, ← hstarted]; exact hfew) harrives⟩
    · rw [hstarted] at hfew
      obtain ⟨hcount, hs⟩ := ih (by omega)
      refine ⟨?_, hs.handle (by omega) harrives⟩
      rw [hnext, nextOp_add_one (by omega), hstarted, hcount]

/-- **The capacity of the Host.** As long as the numbers of the operations are not used again: the
active and the Creating BattleIDs are together at most `max`, an active BattleID has a state, which
is not Creating, and a ref is bound only by the result of the current creation of its BattleID,
under its connection generation, and unbound only by a stop of it that succeeded. -/
theorem host_capacity {h : Host} (hr : hosts.Reachable h) (hfew : h.started + 1 < 2 ^ 64) :
    h.active.len + h.creatingCount ≤ h.max.toNat ∧
    (∀ battleID ref, h.active.lookup battleID = some ref →
      ∃ phase, h.states.lookup battleID = some phase ∧ phase ≠ .creating) ∧
    ∀ e h', hosts.step h e = some h' → ∀ battleID ref,
      (h'.active.lookup battleID = some ref → h.active.lookup battleID ≠ some ref →
        ∃ result request, e.command = .created result ∧ e.source = h.factory ∧
        result.battleID = battleID ∧
          result.ref = ref ∧ result.err = "" ∧
          h.battleOperations.lookup battleID = some result.operationID ∧
          h.createRequests.lookup battleID = some request ∧
          request.connectionGeneration = result.connectionGeneration) ∧
      (h.active.lookup battleID = some ref → h'.active.lookup battleID ≠ some ref →
        ∃ result, e.command = .stopped result ∧ e.source = h.factory ∧ result.battleID = battleID ∧
          result.ref = ref ∧ result.err = "") := by
  obtain ⟨-, hs⟩ := sound_of_reachable hr hfew
  refine ⟨hs.capacity, fun battleID => (hs.views battleID).known, ?_⟩
  intro e h' hstep battleID ref
  obtain ⟨harrives, rfl⟩ := hosts_step hstep
  rcases (h.handle_binds e).2 with hactive
    | ⟨result, operation, hcommand, hsource, hpending, herr, hactive⟩ |
    ⟨result, hcommand, hsource, hbound, herr, hactive⟩
  · rw [hactive]
    exact ⟨fun hnew hold => absurd hnew hold, fun hold hnew => absurd hold hnew⟩
  · -- The BattleID of a result that is accepted was not active.
    have hanswers : answers h.creates result = true := by
      simp only [arrives, hcommand, hsource] at harrives
      simpa using harrives
    obtain ⟨hoperation, -, hnone⟩ := hs.creating hanswers hpending
    obtain ⟨⟨request, hrequest, hgeneration⟩, -⟩ := pendingCreate_some hpending
    rw [hactive, Table.lookup_insert_ite]
    by_cases hid : battleID = result.battleID
    · subst hid
      rw [if_pos rfl]
      refine ⟨fun hnew _ => ?_, fun hold => absurd (hnone.symm.trans hold) nofun⟩
      exact ⟨result, request, hcommand, hsource, rfl, Option.some.inj hnew, herr,
        hoperation, hrequest, hgeneration⟩
    · rw [if_neg hid]
      exact ⟨fun hnew hold => absurd hnew hold, fun hold hnew => absurd hold hnew⟩
  · rw [hactive, Table.lookup_erase_ite]
    by_cases hid : battleID = result.battleID
    · subst hid
      rw [if_pos rfl]
      refine ⟨nofun, fun hold _ => ⟨result, hcommand, hsource, rfl, ?_, herr⟩⟩
      exact Option.some.inj (hbound.symm.trans hold)
    · rw [if_neg hid]
      exact ⟨fun hnew hold => absurd hnew hold, fun hold hnew => absurd hold hnew⟩

/-- The Factory of the examples. -/
def factoryRef : ServiceRef := ⟨[102], 1⟩

/-- The Host of the examples. -/
def hostRef : ServiceRef := ⟨[104], 2⟩

/-- The source of the Commands that come from the Host's own node. -/
def adminRef : ServiceRef := ⟨[104], 0⟩

/-- The first instance of Battle 1. -/
def firstRef : ServiceRef := ⟨[104], 5⟩

/-- The second instance of Battle 1. -/
def secondRef : ServiceRef := ⟨[104], 6⟩

/-- The request for Battle 1 over the first connection. -/
def firstRequest : CreateBattleRequest := { battleID := 1, connectionGeneration := 1 }

/-- Battle 1 is asked for, and the Factory creates it. -/
def firstBattle : List HostEvent :=
  [{ source := adminRef, command := .beginCreate firstRequest },
    { source := factoryRef, command := .created ⟨1, 1, firstRef, 1, ""⟩ }]

theorem host_capacity_first : ∃ h : Host, hosts.Reachable h ∧ h.active.lookup 1 = some firstRef ∧
    h.active.len + h.creatingCount ≤ h.max.toNat ∧
    ∃ phase, h.states.lookup 1 = some phase ∧ phase ≠ .creating := by
  obtain ⟨h, hr, hend⟩ := hosts.exists_reachableUnder_of_run (fun _ _ => True) firstBattle
    (fun h => decide (h.active.lookup 1 = some firstRef ∧ h.started = 1))
    ⟨2, factoryRef, hostRef, by decide, rfl⟩ (by decide +kernel)
  obtain ⟨hactive, hstarted⟩ := of_decide_eq_true hend
  have hfew : h.started + 1 < 2 ^ 64 := by
    rw [hstarted]
    decide
  obtain ⟨hcapacity, hknown, -⟩ := host_capacity hr hfew
  exact ⟨h, hr, hactive, hcapacity, hknown 1 firstRef hactive⟩

/-! ### Numbers that are used again -/

/-- A new Host for two Battles. -/
def newHost : Host := { max := 2, factory := factoryRef, self := hostRef }

/-- What the Factory answers to the first operation. -/
def firstAnswer : HostEvent := { source := factoryRef, command := .created ⟨1, 1, firstRef, 1, ""⟩ }

/-- Battle 1 is created, deleted and created again. -/
def createdTwice : List HostEvent :=
  [{ source := adminRef, command := .beginCreate firstRequest }, firstAnswer,
    { source := adminRef, command := .delete 1 firstRef },
    { source := factoryRef, command := .stopped ⟨2, 1, firstRef, ""⟩ },
    { source := adminRef, command := .beginCreate firstRequest },
    { source := factoryRef, command := .created ⟨3, 1, secondRef, 1, ""⟩ }]

/-- A creation of Battle 2 that the Factory's mailbox refuses. -/
def refusedCreate : HostEvent where
  source := adminRef
  sendErr := some "gsr: mailbox full"
  command := .beginCreate { battleID := 2 }

/-- A Host with the second instance of Battle 1, after `n` creations of Battle 2 that were
refused. -/
structure Refused (h : Host) (n : ℕ) : Prop where
  reached : ∃ as, hosts.Steps newHost as h ∧ firstAnswer ∈ as
  max_eq : h.max = 2
  factory_eq : h.factory = factoryRef
  self_eq : h.self = hostRef
  nextOp_eq : h.nextOp = UInt64.ofNat (n + 3)
  creates_eq : h.creates = [⟨1, firstRequest⟩, ⟨3, firstRequest⟩]
  first : h.view 1 = ⟨some secondRef, some .completed, none, none, none⟩
  second : h.view 2 = ⟨none, none, none, none, none⟩
  slots_eq : h.slots = 1

theorem exists_steps_concat {h h' : Host} {e : HostEvent}
    (h₀ : ∃ as, hosts.Steps newHost as h ∧ firstAnswer ∈ as) (hstep : hosts.step h e = some h') :
    ∃ as, hosts.Steps newHost as h' ∧ firstAnswer ∈ as := by
  obtain ⟨as, hsteps, hmem⟩ := h₀
  exact ⟨as ++ [e], hsteps.concat hstep, List.mem_append_left _ hmem⟩

/-- A creation that is refused leaves a number and nothing else. -/
theorem createNew_refused (request : CreateBattleRequest) (err : String)
    (hfree : ¬ h.max ≤ UInt32.ofNat h.active.len + UInt32.ofNat h.creatingCount) :
    ∃ h', (h.createNew (some err) request).1 = h' ∧
      (h'.max = h.max ∧ h'.factory = h.factory ∧ h'.self = h.self ∧ h'.sent = h.sent) ∧
      h'.nextOp = h.nextOp + 1 ∧
      Touches h h' request.battleID ⟨h.active.lookup request.battleID, none, none, none,
        h.replacements.lookup request.battleID⟩ := by
  rw [createNew, if_neg hfree]
  simp only [submitCreate, settle, enter, setState, note, allocate]
  refine ⟨_, rfl, ⟨rfl, rfl, rfl, rfl⟩, rfl, ?_, ?_⟩
  · simp [view]
  · intro j hj
    simp [view, hj]

theorem Refused.next {n : ℕ} (hn : Refused h n) : ∃ h', Refused h' (n + 1) := by
  have hfree : ¬ h.max ≤ UInt32.ofNat h.active.len + UInt32.ofNat h.creatingCount := by
    rw [← UInt32.ofNat_add, ← slots, hn.slots_eq, hn.max_eq]
    decide
  have hidle : h.states.lookup 2 = none := congrArg View.state hn.second
  have hactive : h.active.lookup 2 = none := congrArg View.active hn.second
  have hreplacement : h.replacements.lookup 2 = none := congrArg View.replacement hn.second
  obtain ⟨h', heq, ⟨hmax, hfactory, hself, hsent⟩, hnext, htouch⟩ := createNew_refused
    { battleID := 2 } "gsr: mailbox full" hfree
  have hstep : hosts.step h refusedCreate = some h' := by
    simp [hosts, arrives, refusedCreate, handle, beginCreate, hidle, heq]
  have hsecond := htouch.self
  rw [hactive, hreplacement] at hsecond
  refine ⟨h', exists_steps_concat hn.reached hstep, hmax.trans hn.max_eq,
    hfactory.trans hn.factory_eq, hself.trans hn.self_eq, ?_, ?_, ?_, hsecond, ?_⟩
  · rw [hnext, hn.nextOp_eq, Nat.add_right_comm]
    exact (UInt64.ofNat_add (n + 3) 1).symm
  · rw [creates, hsent]
    exact hn.creates_eq
  · rw [htouch.other 1 (by decide), hn.first]
  · have hslots := slots_touch htouch.other
    rw [hsecond, hn.second] at hslots
    rw [← hn.slots_eq]
    exact Nat.add_right_cancel hslots

theorem exists_refused (n : ℕ) : ∃ h, Refused h n := by
  induction n with
  | zero =>
    have hrun : (hosts.runUnder (fun _ _ => True) newHost createdTwice).map
        (fun h => decide (h.max = 2 ∧ h.factory = factoryRef ∧ h.self = hostRef ∧ h.nextOp = 3 ∧
          h.creates = [⟨1, firstRequest⟩, ⟨3, firstRequest⟩] ∧
          h.view 1 = ⟨some secondRef, some .completed, none, none, none⟩ ∧
          h.view 2 = ⟨none, none, none, none, none⟩ ∧ h.slots = 1)) = some true := by
      decide +kernel
    obtain ⟨h, hr, hend⟩ := Option.map_eq_some_iff.mp hrun
    obtain ⟨hmax, hfactory, hself, hnext, hcreates, hfirst, hsecond, hslots⟩ :=
      of_decide_eq_true hend
    have hmem : firstAnswer ∈ createdTwice := List.mem_cons_of_mem _ List.mem_cons_self
    exact ⟨h, ⟨_, System.steps_of_run hr, hmem⟩, hmax, hfactory, hself, hnext, hcreates, hfirst,
      hsecond, hslots⟩
  | succ n ih =>
    obtain ⟨h, hn⟩ := ih
    exact hn.next

/-- The replacement of Battle 1 when `nextOp` is zero again. -/
theorem Refused.replace (hn : Refused h (2 ^ 64 - 3)) :
    ∃ h', (∃ as, hosts.Steps newHost as h' ∧ firstAnswer ∈ as) ∧ h'.factory = factoryRef ∧
      h'.creates = [⟨1, firstRequest⟩, ⟨3, firstRequest⟩] ∧
      h'.view 1 = ⟨some secondRef, some .stopping, some firstRequest, some 1, some 1⟩ ∧
      (h'.operations.lookup 1).map (·.battleID) = some 1 := by
  have hnext : h.nextOp = 0 := by
    rw [hn.nextOp_eq]
    decide
  have hstate : h.states.lookup 1 = some .completed := congrArg View.state hn.first
  have hoperation : h.battleOperations.lookup 1 = none := congrArg View.operation hn.first
  have hactive : h.active.lookup 1 = some secondRef := congrArg View.active hn.first
  have hstep : hosts.step h { source := adminRef, command := .beginCreate firstRequest } =
      some (h.beginLegacyReplacement none firstRequest).1 := by
    simp [hosts, arrives, handle, beginCreate, firstRequest, hstate, createAgain, hoperation,
      isLocalAdmin, adminRef, hn.self_eq, hostRef]
  refine ⟨_, exists_steps_concat hn.reached hstep, ?_, ?_, ?_, ?_⟩
  · simp only [beginLegacyReplacement, enter, setState, note, allocate, hn.factory_eq]
  · simpa [creates, beginLegacyReplacement, enter, setState, note, allocate] using hn.creates_eq
  · simp [view, beginLegacyReplacement, enter, setState, note, allocate, firstRequest,
      hnext, hactive]
  · simp [beginLegacyReplacement, enter, setState, note, allocate, firstRequest, hnext]

/-- **After `2 ^ 64` operations** the replacement of Battle 1 has the number of its first creation.
The answer to that creation comes once more, and Battle 1 is bound to the instance that was stopped
long ago, without a stop of the present one. -/
theorem repeated_answer_replaces : ∃ as h h', hosts.Steps newHost as h ∧ firstAnswer ∈ as ∧
    hosts.step h firstAnswer = some h' ∧ h.active.lookup 1 = some secondRef ∧
    h'.active.lookup 1 = some firstRef ∧ firstRef ≠ secondRef := by
  obtain ⟨h₀, h₀n⟩ := exists_refused (2 ^ 64 - 3)
  obtain ⟨h, ⟨as, hsteps, hmem⟩, hfactory, hcreates, hview, hoperation⟩ := h₀n.replace
  obtain ⟨operation, hlookup, hbattle⟩ := Option.map_eq_some_iff.mp hoperation
  have hactive : h.active.lookup 1 = some secondRef := congrArg View.active hview
  have hrequest : h.createRequests.lookup 1 = some firstRequest := congrArg View.request hview
  have hcurrent : h.battleOperations.lookup 1 = some 1 := congrArg View.operation hview
  have hpending : h.pendingCreate ⟨1, 1, firstRef, 1, ""⟩ = some operation := by
    simp [pendingCreate, hlookup, hrequest, hcurrent, hbattle, firstRequest]
  have hstep :
    hosts.step h firstAnswer = some (h.applyCreated factoryRef ⟨1, 1, firstRef, 1, ""⟩).1 := by
    simp [hosts, arrives, firstAnswer, handle, answers, hcreates, firstRequest]
  refine ⟨as, h, _, hsteps, hmem, hstep, hactive, ?_, by decide⟩
  have hid : firstRef.id ≠ 0 := by decide
  simp [applyCreated, hfactory, hpending, hid, note, settle]

end GameServiceRuntime.Nhsk
