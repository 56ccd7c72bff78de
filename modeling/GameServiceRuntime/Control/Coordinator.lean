import GameServiceRuntime.Lib.Calls
import GameServiceRuntime.Lib.Transition
import GameServiceRuntime.Control.Types

/-!
# The drain coordinator

`tooling/control/drain_service.go` with the clients it calls through: drain, stop and recovery
operations, one record each per RequestID, advanced by commands of the Gateway.

A handler calls the Directory, drain guards, the visitor registry and NodeAgents before it
replies, so it is a program over those calls (`Calls`). What comes back is not assumed to be well
formed: an answer is an error or a value of any response type, and the clients check it as the
source does (`serviceSetFromResponse`, `nodeStopReceiptFromResponse`,
`recoveryReceiptFromResponse`).

Three readings of the clock are enough for a handler. `CreatedAt` is the first one; `UpdatedAt` is
only ever raised, so the readings after that matter through their maximum, which is the second; the
audit log has the last.

A definition without a text of its own has the name of what it models.
-/

namespace GameServiceRuntime.Control

/-- The errors of the control and service group packages that the coordinator tells apart or
returns, and any other one. -/
inductive Err
  | unauthorized
  | invalidPrincipal
  | invalidRequestID
  | invalidDrainRequest
  | requestConflict
  | drainOperationNotFound
  | operationOwnerMismatch
  | invalidResponse
  | invalidStopRequest
  | stopOperationNotFound
  | stopRequestConflict
  | stopNotReady
  | stopTargetMismatch
  | invalidRecoveryRequest
  | recoveryRequestConflict
  | recoveryNotReady
  | recoveryOperationNotFound
  | unknownCommand
  /-- of the service group package -/
  | invalidGroup
  | invalidServiceSet
  | versionConflict
  | invalidTarget
  | other (n : ℕ)
  deriving DecidableEq

/-! ### Requests -/

structure StartDrainRequest where
  requestID : Text
  principal : Text
  group : Text
  expected : Version
  nextRefs : Slice ServiceRef
  nextTags : Tags
  deriving DecidableEq

structure BeginStopRequest where
  requestID : Text
  principal : Text
  targets : Slice StopTargetRequest
  deriving DecidableEq

structure BeginRecoveryRequest where
  requestID : Text
  principal : Text
  group : Text
  expected : ServiceSet
  targets : Slice RecoveryTargetRequest
  deriving DecidableEq

structure NodeStopTask where
  agent : ServiceRef
  requestID : Text
  target : ServiceRef
  group : Text
  published : ServiceSet
  deriving DecidableEq

/-- The references of a list in order, each once. -/
def canonicalRefs (refs : List ServiceRef) : List ServiceRef :=
  (sortByRef id refs).destutter (· ≠ ·)

def normalizeStartDrainRequest (request : StartDrainRequest) : Except Err StartDrainRequest :=
  if !request.requestID.trimmed then .error .invalidRequestID
  else if !request.principal.trimmed then .error .invalidPrincipal
  else if !request.group.trimmed || !validVersion request.expected ||
      !request.nextTags.all validTags then .error .invalidDrainRequest
  else if !request.nextRefs.elems.all validServiceRef then .error .invalidDrainRequest
  else
    .ok { request with
      nextRefs := .of (canonicalRefs request.nextRefs.elems)
      nextTags := cloneTags request.nextTags }

def normalizeBeginStopRequest (request : BeginStopRequest) : Except Err BeginStopRequest :=
  if !request.requestID.trimmed then .error .invalidRequestID
  else if !request.principal.trimmed then .error .invalidPrincipal
  else if !request.targets.elems.all validStopTargetRequest then .error .invalidStopRequest
  else
    let targets := sortByRef StopTargetRequest.target request.targets.elems
    if !neighboursDiffer StopTargetRequest.target targets then .error .invalidStopRequest
    else .ok { request with targets := .of targets }

def normalizeBeginRecoveryRequest (request : BeginRecoveryRequest) :
    Except Err BeginRecoveryRequest :=
  if !request.requestID.trimmed then .error .invalidRequestID
  else if !request.principal.trimmed then .error .invalidPrincipal
  else if !request.group.trimmed || !validDrainServiceSet request.expected ||
      request.expected.name ≠ request.group then .error .invalidRecoveryRequest
  else if request.targets.len = 0 then .error .invalidRecoveryRequest
  else if !request.targets.elems.all validRecoveryTargetRequest then .error .invalidRecoveryRequest
  else
    let targets := sortByRef RecoveryTargetRequest.removed request.targets.elems
    if !neighboursDiffer RecoveryTargetRequest.removed targets then .error .invalidRecoveryRequest
    else .ok { request with
      expected := cloneDrainServiceSet request.expected, targets := .of targets }

def sameStartDrainRequest (left right : StartDrainRequest) : Bool :=
  left.requestID = right.requestID && left.principal = right.principal &&
    left.group = right.group && left.expected = right.expected &&
    left.nextRefs.elems = right.nextRefs.elems && sameTags left.nextTags right.nextTags

def sameBeginStopRequest (left right : BeginStopRequest) : Bool :=
  left.requestID = right.requestID && left.principal = right.principal &&
    left.targets.elems = right.targets.elems

def sameBeginRecoveryRequest (left right : BeginRecoveryRequest) : Bool :=
  left.requestID = right.requestID && left.principal = right.principal &&
    left.group = right.group && sameDrainServiceSet left.expected right.expected &&
    left.targets.elems = right.targets.elems

/-! ### Calls -/

/-- The calls of the coordinator. -/
inductive Op
  | getServiceSet (name : Text)
  | publishServiceSet (name : Text) (expected : Version) (refs : List ServiceRef) (tags : Tags)
  | beginGuard (target : ServiceRef)
  | guardStatus (target : ServiceRef)
  | listVisitors (target : ServiceRef)
  | beginNodeStop (task : NodeStopTask)
  | getNodeStopReceipt (agent : ServiceRef) (requestID : Text) (target : ServiceRef)
  | beginRecoveryCreate (task : RecoveryCreateTask)
  | getRecoveryReceipt (agent : ServiceRef) (requestID : Text) (removed : ServiceRef)
  deriving DecidableEq

structure DrainStatus where
  draining : Bool
  startedAt : Time
  deriving DecidableEq

def validDrainStatus (status : DrainStatus) : Bool :=
  if status.draining then status.startedAt ≠ 0 else status.startedAt = 0

structure VisitorRef where
  visitor : ServiceRef
  generation : UInt64
  weak : Bool
  expiresAt : Time
  deriving DecidableEq

def validVisitorRef (visitor : VisitorRef) : Bool :=
  validGroupRef visitor.visitor && visitor.generation ≠ 0 && visitor.expiresAt ≠ 0

def validVisitorRefs (visitors : Slice VisitorRef) : Bool :=
  !visitors.isNil && visitors.elems.all validVisitorRef &&
    ascending VisitorRef.visitor visitors.elems

/-- The response types: an error code, and the rest of the response. -/
inductive Response
  | serviceSet (err : Option Err) (set : ServiceSet)
  | guardStatus (err : Option Err) (status : DrainStatus)
  | visitors (err : Option Err) (visitors : Slice VisitorRef)
  | stopReceipt (err : Option Err) (receipt : NodeStopReceipt)
  | recoveryReceipt (err : Option Err) (receipt : RecoveryReceipt)
  | other
  deriving DecidableEq

/-- What a call returns. -/
abbrev Answer := Except Err Response

/-- A program over the coordinator's calls. -/
abbrev Run (α : Type) := Calls Op Answer α

/-- `serviceSetFromResponse` of the service group client. -/
def serviceSetFromResponse (answer : Answer) (name : Text) : Except Err ServiceSet :=
  match answer with
  | .error err => .error err
  | .ok (.serviceSet (some err) _) => .error err
  | .ok (.serviceSet none set) =>
    if !validServiceSet (cloneServiceSet set) || set.name ≠ name then .error .invalidResponse
    else .ok (cloneServiceSet (cloneServiceSet set))
  | .ok _ => .error .invalidResponse

/-- `getDirectory`, with `Client.Get`. -/
def getDirectory (group : Text) : Run (Except Err ServiceSet) :=
  if !group.trimmed then pure (.error .invalidGroup)
  else do
    let answer ← Calls.ask (.getServiceSet group)
    pure (serviceSetFromResponse answer group)

/-- `normalizeServiceSet` of the service group package. -/
def normalizeServiceSet (name : Text) (refs : List ServiceRef) (tags : Tags) :
    Except Err ServiceSet :=
  if !name.trimmed then .error .invalidGroup
  else if !refs.all validGroupRef then .error .invalidServiceSet
  else if !tags.all validTags then .error .invalidServiceSet
  else .ok { name := name, refs := .of (canonicalRefs refs), tags := cloneTags tags }

/-- The checks of `Client.Publish` on the response. -/
def publishedFromResponse (answer : Answer) (expected : Version) (input : ServiceSet) :
    Except Err ServiceSet :=
  match serviceSetFromResponse answer input.name with
  | .error err => .error err
  | .ok set =>
    if expected = ⟨0, 0⟩ && set.version.revision ≠ 1 then .error .invalidResponse
    else if expected ≠ ⟨0, 0⟩ && (set.version.authorityEpoch ≠ expected.authorityEpoch ||
        set.version.revision ≠ expected.revision + 1) then .error .invalidResponse
    else if !sameServiceSetContent set input then .error .invalidResponse
    else .ok (cloneServiceSet set)

def publish (name : Text) (expected : Version) (refs : List ServiceRef) (tags : Tags) :
    Run (Except Err ServiceSet) :=
  if expected ≠ ⟨0, 0⟩ && !validVersion expected then pure (.error .invalidServiceSet)
  else match normalizeServiceSet name refs tags with
    | .error err => pure (.error err)
    | .ok input => do
      let answer ← Calls.ask (.publishServiceSet name expected input.refs.elems input.tags)
      pure (publishedFromResponse answer expected input)

def guardStatusFromResponse : Answer → Except Err DrainStatus
  | .error err => .error err
  | .ok (.guardStatus (some err) _) => .error err
  | .ok (.guardStatus none status) =>
    if !validDrainStatus status then .error .invalidResponse else .ok status
  | .ok _ => .error .invalidResponse

/-- The guard's answer says that it is draining. -/
def guardDraining (answer : Answer) : Bool :=
  (guardStatusFromResponse answer).toOption.any DrainStatus.draining

/-- The checks of `Client.List` on the response. -/
def visitorsFromResponse : Answer → Except Err (List VisitorRef)
  | .error err => .error err
  | .ok (.visitors (some err) _) => .error err
  | .ok (.visitors none visitors) =>
    if !validVisitorRefs visitors then .error .invalidResponse else .ok visitors.elems
  | .ok _ => .error .invalidResponse

/-- `Client.List` of the visitor registry. -/
def listVisitors (target : ServiceRef) : Run (Except Err (List VisitorRef)) :=
  if !validGroupRef target then pure (.error .invalidTarget)
  else do pure (visitorsFromResponse (← Calls.ask (.listVisitors target)))

def nodeStopReceiptFromResponse (answer : Answer) (requestID : Text) (target : ServiceRef) :
    Except Err NodeStopReceipt :=
  match answer with
  | .error err => .error err
  | .ok (.stopReceipt (some err) _) => .error err
  | .ok (.stopReceipt none receipt) =>
    if !validNodeStopReceipt receipt || receipt.requestID ≠ requestID ||
      receipt.target ≠ target then
      .error .invalidResponse
    else .ok receipt
  | .ok _ => .error .invalidResponse

def recoveryReceiptFromResponse (answer : Answer) (requestID : Text) (target : RecoveryTarget) :
    Except Err RecoveryReceipt :=
  match answer with
  | .error err => .error err
  | .ok (.recoveryReceipt (some err) _) => .error err
  | .ok (.recoveryReceipt none receipt) =>
    if !validRecoveryReceipt receipt || receipt.requestID ≠ requestID ||
        receipt.removed ≠ target.removed || receipt.blueprint ≠ target.blueprint then
      .error .invalidResponse
    else .ok receipt
  | .ok _ => .error .invalidResponse

/-! ### Drain -/

/-- The clock as a handler reads it: never the zero time. -/
structure Clock where
  now : Time
  later : Time
  audited : Time
  now_ne_zero : now ≠ 0
  later_ne_zero : later ≠ 0
  audited_ne_zero : audited ≠ 0

/-- `drainOperationRecord` -/
structure DrainRecord where
  request : StartDrainRequest
  operation : DrainOperation
  deriving DecidableEq

variable (clock : Clock)

def DrainRecord.touch (r : DrainRecord) : DrainRecord :=
  if clock.later < r.operation.updatedAt then r
  else { r with operation := { r.operation with updatedAt := clock.later } }

def DrainRecord.setPhase (r : DrainRecord) (phase : DrainPhase) : DrainRecord :=
  { r with operation := { r.operation with phase := phase } : DrainRecord }.touch clock

def confirmPublish (r : DrainRecord) (published : ServiceSet) : DrainRecord :=
  { r with operation := { r.operation with
    published := cloneDrainServiceSet published
    targets := drainTargets r.operation.original published } : DrainRecord }.setPhase
      clock .guarding

/-- `prepare`, with whether the loop goes on. -/
def prepare (r : DrainRecord) : Run (DrainRecord × Bool) := do
  match ← getDirectory r.request.group with
  | .error _ => pure (r, false)
  | .ok set =>
    if set.version ≠ r.request.expected then pure (r.setPhase clock .conflict, false)
    else
      let r := { r with operation := { r.operation with original := cloneDrainServiceSet set } }
      match ← publish r.request.group r.request.expected r.request.nextRefs.elems
        r.request.nextTags with
      | .error .versionConflict => pure (r.setPhase clock .conflict, false)
      | .error _ => pure (r.setPhase clock .publishUnknown, false)
      | .ok published => pure (confirmPublish clock r published, true)

def expectedPublishedSet (request : StartDrainRequest) (version : Version) : ServiceSet where
  name := request.group
  version := version
  refs := request.nextRefs.copy
  tags := cloneTags request.nextTags

def isExpectedNextVersion (expected actual : Version) : Bool :=
  actual.authorityEpoch = expected.authorityEpoch && actual.revision = expected.revision + 1

def isVersionAfter (expected actual : Version) : Bool :=
  if actual.authorityEpoch ≠ expected.authorityEpoch then actual.authorityEpoch ≠ 0
  else actual.revision > expected.revision

/-- `confirmPublished`, with whether the loop goes on. -/
def confirmPublished (r : DrainRecord) : Run (DrainRecord × Bool) := do
  match ← getDirectory r.request.group with
  | .error _ => pure (r, false)
  | .ok set =>
    if sameDrainServiceSet set (expectedPublishedSet r.request set.version) &&
        isExpectedNextVersion r.request.expected set.version then
      pure (confirmPublish clock r set, true)
    else if isVersionAfter r.request.expected set.version then
      pure (r.setPhase clock .superseded, false)
    else pure (r, false)

def directoryStillPublished (r : DrainRecord) : Run (DrainRecord × Bool) := do
  match ← getDirectory r.request.group with
  | .error _ => pure (r, false)
  | .ok set =>
    if sameDrainServiceSet set r.operation.published then pure (r, true)
    else pure (r.setPhase clock .superseded, false)

/-- The loop of `guard`: the targets, and whether all are guarded now. -/
def guardTargets : List DrainTarget → Run (List DrainTarget × Bool)
  | [] => pure ([], true)
  | target :: targets => do
    let (target, guarded) ← guardTarget target
    let (targets, allGuarded) ← guardTargets targets
    pure (target :: targets, guarded && allGuarded)
where
  guardTarget (target : DrainTarget) : Run (DrainTarget × Bool) :=
    if target.guarded then pure (target, true)
    else if !validGroupRef target.ref then pure (target, false)
    else do
      if guardDraining (← Calls.ask (.beginGuard target.ref)) then
        pure ({ target with guarded := true }, true)
      else if guardDraining (← Calls.ask (.guardStatus target.ref)) then
        pure ({ target with guarded := true }, true)
      else pure (target, false)

/-- `guard`, with whether the loop goes on. -/
def guard (r : DrainRecord) : Run (DrainRecord × Bool) := do
  match ← directoryStillPublished clock r with
  | (r, false) => pure (r, false)
  | (r, true) => do
    let (targets, allGuarded) ← guardTargets r.operation.targets.elems
    let r := { r with operation :=
      { r.operation with targets := r.operation.targets.refill targets } }
    if allGuarded then pure (r.setPhase clock .waitingVisitors, true)
    else pure (r.touch clock, false)

/-- The loop of `waitForVisitors`: the targets, and whether no strong visitor was seen. -/
def countVisitors : List DrainTarget → Run (List DrainTarget × Bool)
  | [] => pure ([], true)
  | target :: targets => do
    let (target, clear) ← countTarget target
    let (targets, allClear) ← countVisitors targets
    pure (target :: targets, clear && allClear)
where
  countTarget (target : DrainTarget) : Run (DrainTarget × Bool) := do
    match ← listVisitors target.ref with
    | .error _ => pure (target, false)
    | .ok visitors =>
      let strong := visitors.countP fun visitor => !visitor.weak
      pure ({ target with strongVisitorCount := strong }, strong = 0)

def waitForVisitors (r : DrainRecord) : Run (DrainRecord × Bool) := do
  match ← directoryStillPublished clock r with
  | (r, false) => pure (r, false)
  | (r, true) => do
    let (targets, allClear) ← countVisitors r.operation.targets.elems
    let r := { r with operation :=
      { r.operation with targets := r.operation.targets.refill targets } }
    if allClear then pure (r.setPhase clock .readyToStop, false)
    else pure (r.touch clock, false)

/-- One turn of the loop of `advance`. -/
def advanceOnce (r : DrainRecord) : Run (DrainRecord × Bool) :=
  match r.operation.phase with
  | .preparing => prepare clock r
  | .publishUnknown => confirmPublished clock r
  | .guarding => guard clock r
  | .waitingVisitors => waitForVisitors clock r
  | _ => pure (r, false)

/-- `advance`, for a number of turns. Four are enough: a turn that goes on ends in a later phase. -/
def advance : ℕ → DrainRecord → Run DrainRecord
  | 0, r => pure r
  | n + 1, r => do
    match ← advanceOnce clock r with
    | (r, true) => advance n r
    | (r, false) => pure r

/-! ### Stop -/

/-- `stopOperationRecord` -/
structure StopRecord where
  request : BeginStopRequest
  operation : StopOperation
  deriving DecidableEq

def stopTerminal : StopPhase → Bool
  | .completed | .failed | .superseded => true
  | _ => false

/-- `touchStop` -/
def StopRecord.touch (r : StopRecord) : StopRecord :=
  if clock.later < r.operation.updatedAt then r
  else { r with operation := { r.operation with updatedAt := clock.later } }

/-- `setStopPhase` -/
def StopRecord.setPhase (r : StopRecord) (phase : StopPhase) : StopRecord :=
  if r.operation.phase = phase then r
  else { r with operation := { r.operation with phase := phase } : StopRecord }.touch clock

def matchesStopDirectory (published : ServiceSet) : Run (Except Err Bool) := do
  match ← getDirectory published.name with
  | .error err => pure (.error err)
  | .ok current => pure (.ok (sameDrainServiceSet current published))

/-- The target after `applyNodeStopReceipt`, unless there is no receipt, and whether there is. -/
def applyNodeStopReceipt (target : StopTarget) : Except Err NodeStopReceipt → StopTarget × Bool
  | .error _ => (target, false)
  | .ok receipt => ({ target with state := receipt.state, failure := receipt.failure }, true)

/-- The first loop of `advanceStop`: the receipts there already are. -/
def readStopReceipts (requestID : Text) : List StopTarget → Run (List StopTarget × Bool)
  | [] => pure ([], false)
  | target :: targets => do
    let answer ← Calls.ask (.getNodeStopReceipt target.agent requestID target.target)
    let (target, applied) := applyNodeStopReceipt target
      (nodeStopReceiptFromResponse answer requestID target.target)
    let (targets, anyApplied) ← readStopReceipts requestID targets
    pure (target :: targets, applied || anyApplied)

/-- The task of `beginNodeStop`. -/
def stopTask (operation : StopOperation) (target : StopTarget) : NodeStopTask where
  agent := target.agent
  requestID := operation.requestID
  target := target.target
  group := operation.group
  published := cloneDrainServiceSet operation.published

/-- What the second loop of `advanceStop` leaves: the targets, whether a receipt was applied, and
the phase to set when it ended early. -/
structure BegunStops where
  targets : List StopTarget
  applied : Bool := false
  phase : Option StopPhase := none

/-- A target in front of those the loop still went through. -/
def BegunStops.cons (b : BegunStops) (target : StopTarget) (applied : Bool) : BegunStops :=
  { b with targets := target :: b.targets, applied := applied || b.applied }

/-- The second loop of `advanceStop`: a stop for every pending target, each after another look at
the Directory, until the Directory does not agree. -/
def beginStops (operation : StopOperation) : List StopTarget → Run BegunStops
  | [] => pure ⟨[], false, none⟩
  | target :: targets =>
    if target.state ≠ .pending then do
      pure ((← beginStops operation targets).cons target false)
    else do
      match ← matchesStopDirectory operation.published with
      | .error _ => pure ⟨target :: targets, false, some .waiting⟩
      | .ok false => pure ⟨target :: targets, false, some .superseded⟩
      | .ok true => do
        let answer ← Calls.ask (.beginNodeStop (stopTask operation target))
        let (target, applied) := applyNodeStopReceipt target
          (nodeStopReceiptFromResponse answer operation.requestID target.target)
        pure ((← beginStops operation targets).cons target applied)

/-- `concludeStop`: the phase the targets call for. -/
def concludedPhase (targets : List StopTarget) : StopPhase :=
  if targets.any fun target => target.state = .superseded then .superseded
  else if targets.all fun target => target.state = .stopped then .completed
  else if (targets.all fun target => target.state = .stopped || target.state = .failed) &&
      targets.any fun target => target.state = .failed then .failed
  else .waiting

/-- The record with other targets, touched if a receipt was applied. -/
def StopRecord.setTargets (r : StopRecord) (targets : List StopTarget) (applied : Bool) :
    StopRecord :=
  let r := { r with operation :=
    { r.operation with targets := r.operation.targets.refill targets } }
  if applied then r.touch clock else r

def advanceStop (r : StopRecord) : Run StopRecord :=
  if stopTerminal r.operation.phase then pure r
  else do
    match ← matchesStopDirectory r.operation.published with
    | .error _ => pure (r.setPhase clock .waiting)
    | .ok false => pure (r.setPhase clock .superseded)
    | .ok true => do
      let (targets, read) ← readStopReceipts r.operation.requestID r.operation.targets.elems
      let b ← beginStops r.operation targets
      let r := r.setTargets clock b.targets (read || b.applied)
      pure (r.setPhase clock (b.phase.getD (concludedPhase b.targets)))

/-! ### Recovery -/

/-- `recoveryOperationRecord` -/
structure RecoveryRecord where
  request : BeginRecoveryRequest
  operation : RecoveryOperation
  deriving DecidableEq

def recoveryTerminal : RecoveryPhase → Bool
  | .completed | .failed | .abandoned => true
  | _ => false

/-- `touchRecovery` -/
def RecoveryRecord.touch (r : RecoveryRecord) : RecoveryRecord :=
  if clock.later < r.operation.updatedAt then r
  else { r with operation := { r.operation with updatedAt := clock.later } }

/-- `setRecoveryPhase` -/
def RecoveryRecord.setPhase (r : RecoveryRecord) (phase : RecoveryPhase) : RecoveryRecord :=
  if r.operation.phase = phase then r
  else { r with operation := { r.operation with phase := phase } : RecoveryRecord }.touch clock

/-- The inner loop of `recoveryPublishedSet`: the least of a reference and the ones after it, and
the list left by the exchanges. -/
def exchangeLeast (left : ServiceRef) : List ServiceRef → ServiceRef × List ServiceRef
  | [] => (left, [])
  | right :: refs =>
    if right.less left then
      let r := exchangeLeast right refs
      (r.1, left :: r.2)
    else
      let r := exchangeLeast left refs
      (r.1, right :: r.2)

/-- The outer loop of `recoveryPublishedSet`, for a number of rounds. -/
def exchangeRounds : ℕ → List ServiceRef → List ServiceRef
  | _, [] => []
  | 0, refs => refs
  | n + 1, left :: refs =>
    let r := exchangeLeast left refs
    r.1 :: exchangeRounds n r.2

/-- The two loops of `recoveryPublishedSet`. -/
def exchangeSort (refs : List ServiceRef) : List ServiceRef := exchangeRounds refs.length refs

/-- The references of the candidate of a recovery, before they are sorted. -/
def recoveryRefs : List ServiceRef → List RecoveryTarget → List ServiceRef
  | refs, [] => refs
  | refs, target :: targets =>
    recoveryRefs (if target.created ∈ refs then refs else refs ++ [target.created]) targets

def recoveryPublishedSet (operation : RecoveryOperation) : ServiceSet where
  name := operation.group
  version := ⟨operation.expected.version.authorityEpoch, operation.expected.version.revision + 1⟩
  refs := (Slice.of (exchangeSort
    (recoveryRefs operation.expected.refs.elems operation.targets.elems))).copy
  tags := cloneTags operation.expected.tags

/-- The task of `beginNodeRecovery`. -/
def recoveryTask (requestID : Text) (target : RecoveryTarget) : RecoveryCreateTask where
  agent := target.agent
  requestID := requestID
  removed := target.removed
  blueprint := target.blueprint

/-- The target after `applyNodeRecoveryReceipt`, unless there is no receipt. -/
def applyNodeRecoveryReceipt (target : RecoveryTarget) :
    Except Err RecoveryReceipt → RecoveryTarget
  | .error _ => target
  | .ok receipt =>
    { target with created := receipt.created, state := receipt.state, failure := receipt.failure }

/-- The loop of `advanceRecovery`: ask the agent of every target that is not settled. -/
def recoverTargets (requestID : Text) : List RecoveryTarget → Run (List RecoveryTarget)
  | [] => pure []
  | target :: targets =>
    if target.state = .created || target.state = .failed then do
      pure (target :: (← recoverTargets requestID targets))
    else do
      let answer ← Calls.ask (if target.state = .pending
        then .beginRecoveryCreate (recoveryTask requestID target)
        else .getRecoveryReceipt target.agent requestID target.removed)
      let targets ← recoverTargets requestID targets
      pure (applyNodeRecoveryReceipt target
        (recoveryReceiptFromResponse answer requestID target) :: targets)

/-- The record with other targets, touched as each receipt touches it. -/
def RecoveryRecord.setTargets (r : RecoveryRecord) (targets : List RecoveryTarget) :
    RecoveryRecord :=
  { r with operation :=
    { r.operation with targets := r.operation.targets.refill targets } : RecoveryRecord }.touch
      clock

def completeRecoveryPublish (r : RecoveryRecord) (published : ServiceSet) : RecoveryRecord :=
  { r with operation := { r.operation with
    published := cloneDrainServiceSet published
    targets := r.operation.targets.refill (r.operation.targets.elems.map fun target =>
      { target with state := .published, failure := .none }) } : RecoveryRecord }.setPhase
    clock .completed

/-- `resolveRecoveryPublish`, on what `getDirectory` returned. -/
def resolveRecoveryPublish (r : RecoveryRecord) : Except Err ServiceSet → RecoveryRecord
  | .error _ => r.touch clock
  | .ok current =>
    if sameDrainServiceSet current (recoveryPublishedSet r.operation) then
      completeRecoveryPublish clock r current
    else if !sameDrainServiceSet current r.operation.expected then r.setPhase clock .failed
    else r

/-- The phase after the loop of `advanceRecovery`. -/
def concludeRecovery (r : RecoveryRecord) : RecoveryRecord :=
  let targets := r.operation.targets.elems
  if targets.all fun target => target.state = .created then
    r.setPhase clock .awaitingConfirmation
  else if (targets.all fun target => target.state ≠ .pending && target.state ≠ .creating) &&
      targets.any fun target => target.state = .failed then r.setPhase clock .failed
  else r.touch clock

def advanceRecovery (r : RecoveryRecord) : Run RecoveryRecord :=
  match r.operation.phase with
  | .publishing => do pure (resolveRecoveryPublish clock r (← getDirectory r.operation.group))
  | .creating => do
    match ← getDirectory r.operation.group with
    | .error _ => pure (r.touch clock)
    | .ok current =>
      if !sameDrainServiceSet current r.operation.expected then pure (r.setPhase clock .failed)
      else do
        let targets ← recoverTargets r.operation.requestID r.operation.targets.elems
        pure (concludeRecovery clock (r.setTargets clock targets))
  | _ => pure r

/-! ### Commands -/

/-- `DrainAudit` -/
structure Audit where
  sequence : UInt64
  requestID : Text
  principal : Text
  action : String
  outcome : String
  occurredAt : Time
  deriving DecidableEq

/-- `DrainCoordinatorConfig` -/
structure Config where
  gateway : ServiceRef
  allowedPrincipals : List Text
  auditLimit : ℕ

/-- What the coordinator answers. -/
inductive Reply
  | drain (r : Except Err DrainOperation)
  | stop (r : Except Err StopOperation)
  | recovery (r : Except Err RecoveryOperation)
  | audits (r : Except Err (List Audit))
  deriving DecidableEq

/-- The state of `drainCoordinatorService`. -/
structure State where
  operations : Table Text DrainRecord := ∅
  stops : Table Text StopRecord := ∅
  recoveries : Table Text RecoveryRecord := ∅
  audits : List Audit := []
  sequence : UInt64 := 0

/-- The commands of the coordinator. The last four are for a payload of another type. -/
inductive Command
  | start (request : StartDrainRequest)
  | resolve (requestID principal : Text)
  | get (requestID principal : Text)
  | listAudit (principal : Text)
  | beginStop (request : BeginStopRequest)
  | resolveStop (requestID principal : Text)
  | getStop (requestID principal : Text)
  | beginRecovery (request : BeginRecoveryRequest)
  | confirmRecovery (requestID principal : Text)
  | resolveRecovery (requestID principal : Text)
  | getRecovery (requestID principal : Text)
  | abandonRecovery (requestID principal : Text)
  | malformedDrain
  | malformedAudit
  | malformedStop
  | malformedRecovery
  deriving DecidableEq

variable (cfg : Config)

def State.appendAudit (s : State) (requestID principal : Text) (action outcome : String) : State :=
  let sequence := if s.sequence + 1 = 0 then 1 else s.sequence + 1
  let audits := s.audits ++ [⟨sequence, requestID, principal, action, outcome, clock.audited⟩]
  { s with sequence := sequence, audits := audits.drop (audits.length - cfg.auditLimit) }

def replyOperation (r : Except Err DrainOperation) : Reply := .drain (r.map cloneDrainOperation)

def replyStopOperation (r : Except Err StopOperation) : Reply := .stop (r.map cloneStopOperation)

def replyRecoveryOperation (r : Except Err RecoveryOperation) : Reply :=
  .recovery (r.map cloneRecoveryOperation)

/-- The texts of the phases, as the audit log has them. -/
def DrainPhase.text : DrainPhase → String
  | .preparing => "preparing"
  | .publishUnknown => "publish_unknown"
  | .guarding => "guarding"
  | .waitingVisitors => "waiting_visitors"
  | .readyToStop => "ready_to_stop"
  | .conflict => "conflict"
  | .superseded => "superseded"

/-- See `DrainPhase.text`. -/
def StopPhase.text : StopPhase → String
  | .dispatching => "dispatching"
  | .waiting => "waiting"
  | .completed => "completed"
  | .failed => "failed"
  | .superseded => "superseded"

/-- See `DrainPhase.text`. -/
def RecoveryPhase.text : RecoveryPhase → String
  | .creating => "creating"
  | .awaitingConfirmation => "awaiting_confirmation"
  | .publishing => "publishing"
  | .completed => "completed"
  | .failed => "failed"
  | .abandoned => "abandoned"

/-- The checks every command on an existing operation makes: who sends it and for whom. -/
def authorize (s : State) (source : ServiceRef) (requestID principal : Text) (action : String) :
    State × Option Err :=
  if source ≠ cfg.gateway then (s, some .unauthorized)
  else if !requestID.trimmed then (s, some .invalidRequestID)
  else if !principal.trimmed then (s, some .invalidPrincipal)
  else if principal ∉ cfg.allowedPrincipals then
    (s.appendAudit clock cfg requestID principal action "denied", some .unauthorized)
  else (s, none)

/-- What a handler returns: the state and the reply. -/
abbrev Handled := Run (State × Reply)

def handleStart (s : State) (source : ServiceRef) (request : StartDrainRequest) : Handled :=
  if source ≠ cfg.gateway then pure (s, replyOperation (.error .unauthorized))
  else match normalizeStartDrainRequest request with
    | .error err => pure (s, replyOperation (.error err))
    | .ok normalized =>
      let audit := fun (s : State) => s.appendAudit clock cfg normalized.requestID
        normalized.principal "start"
      if normalized.principal ∉ cfg.allowedPrincipals then
        pure (audit s "denied", replyOperation (.error .unauthorized))
      else match s.operations.lookup normalized.requestID with
        | some existing =>
          if !sameStartDrainRequest existing.request normalized then
            pure (s, replyOperation (.error .requestConflict))
          else pure (audit s "duplicate", replyOperation (.ok existing.operation))
        | none => do
          let record ← advance clock 4
            { request := normalized
              operation :=
                { requestID := normalized.requestID
                  principal := normalized.principal
                  group := normalized.group
                  expected := normalized.expected
                  phase := .preparing
                  createdAt := clock.now
                  updatedAt := clock.now } }
          let s := { s with operations := s.operations.insert normalized.requestID record }
          pure (audit s record.operation.phase.text, replyOperation (.ok record.operation))

def handleResolve (s : State) (source : ServiceRef) (requestID principal : Text) : Handled :=
  match authorize clock cfg s source requestID principal "resolve" with
  | (s, some err) => pure (s, replyOperation (.error err))
  | (s, none) =>
    match s.operations.lookup requestID with
    | none => pure (s, replyOperation (.error .drainOperationNotFound))
    | some record =>
      if record.operation.principal ≠ principal then
        pure (s, replyOperation (.error .operationOwnerMismatch))
      else do
        let record ← advance clock 4 record
        let s := { s with operations := s.operations.insert requestID record }
        pure (s.appendAudit clock cfg requestID principal "resolve" record.operation.phase.text,
          replyOperation (.ok record.operation))

def handleGet (s : State) (source : ServiceRef) (requestID principal : Text) : Handled :=
  match authorize clock cfg s source requestID principal "get" with
  | (s, some err) => pure (s, replyOperation (.error err))
  | (s, none) =>
    match s.operations.lookup requestID with
    | none => pure (s, replyOperation (.error .drainOperationNotFound))
    | some record =>
      if record.operation.principal ≠ principal then
        pure (s, replyOperation (.error .operationOwnerMismatch))
      else pure (s, replyOperation (.ok record.operation))

def handleListAudit (s : State) (source : ServiceRef) (principal : Text) : Handled :=
  if source ≠ cfg.gateway then pure (s, .audits (.error .unauthorized))
  else if !principal.trimmed then pure (s, .audits (.error .invalidPrincipal))
  else if principal ∉ cfg.allowedPrincipals then
    pure (s.appendAudit clock cfg "denied" principal "list_audit" "denied",
      .audits (.error .unauthorized))
  else pure (s, .audits (.ok s.audits))

/-- The operation `handleBeginStop` starts with. -/
def newStopOperation (request : BeginStopRequest) (drain : DrainOperation) : StopOperation where
  requestID := request.requestID
  principal := request.principal
  group := drain.group
  published := cloneDrainServiceSet drain.published
  targets := request.targets.map fun target => { target := target.target, agent := target.agent }
  phase := .dispatching
  createdAt := clock.now
  updatedAt := clock.now

def handleBeginStop (s : State) (source : ServiceRef) (request : BeginStopRequest) : Handled :=
  if source ≠ cfg.gateway then pure (s, replyStopOperation (.error .unauthorized))
  else match normalizeBeginStopRequest request with
    | .error err => pure (s, replyStopOperation (.error err))
    | .ok normalized =>
      let refuse := fun (err : Err) (outcome : String) =>
        (pure
          (s.appendAudit clock cfg normalized.requestID normalized.principal "begin_stop" outcome,
          replyStopOperation (.error err)) : Handled)
      if normalized.principal ∉ cfg.allowedPrincipals then refuse .unauthorized "denied"
      else match s.stops.lookup normalized.requestID with
        | some existing =>
          if !sameBeginStopRequest existing.request normalized then
            refuse .stopRequestConflict "conflict"
          else
            pure (s.appendAudit clock cfg normalized.requestID normalized.principal "begin_stop"
              "duplicate", replyStopOperation (.ok existing.operation))
        | none =>
          match s.operations.lookup normalized.requestID with
          | none => refuse .stopNotReady "not_ready"
          | some drain =>
            if drain.operation.phase ≠ .readyToStop then refuse .stopNotReady "not_ready"
            else if drain.operation.principal ≠ normalized.principal then
              refuse .operationOwnerMismatch "owner_mismatch"
            else if normalized.targets.elems.map StopTargetRequest.target ≠
                drain.operation.targets.elems.map DrainTarget.ref then
              refuse .stopTargetMismatch "target_mismatch"
            else do
              match ← matchesStopDirectory drain.operation.published with
              | .error _ => refuse .invalidResponse "directory_unavailable"
              | .ok false => refuse .stopNotReady "superseded"
              | .ok true => do
                let record ← advanceStop clock
                  ⟨normalized, newStopOperation clock normalized drain.operation⟩
                let s := { s with stops := s.stops.insert normalized.requestID record }
                pure (s.appendAudit clock cfg normalized.requestID normalized.principal "begin_stop"
                  record.operation.phase.text, replyStopOperation (.ok record.operation))

def handleResolveStop (s : State) (source : ServiceRef) (requestID principal : Text) : Handled :=
  match authorize clock cfg s source requestID principal "resolve_stop" with
  | (s, some err) => pure (s, replyStopOperation (.error err))
  | (s, none) =>
    let audit := fun (s : State) => s.appendAudit clock cfg requestID principal "resolve_stop"
    match s.stops.lookup requestID with
    | none => pure (audit s "not_found", replyStopOperation (.error .stopOperationNotFound))
    | some record =>
      if record.operation.principal ≠ principal then
        pure (audit s "owner_mismatch", replyStopOperation (.error .operationOwnerMismatch))
      else if stopTerminal record.operation.phase then
        pure (audit s record.operation.phase.text, replyStopOperation (.ok record.operation))
      else do
        let record ← advanceStop clock record
        let s := { s with stops := s.stops.insert requestID record }
        pure (audit s record.operation.phase.text, replyStopOperation (.ok record.operation))

def handleGetStop (s : State) (source : ServiceRef) (requestID principal : Text) : Handled :=
  match authorize clock cfg s source requestID principal "get_stop" with
  | (s, some err) => pure (s, replyStopOperation (.error err))
  | (s, none) =>
    match s.stops.lookup requestID with
    | none => pure (s, replyStopOperation (.error .stopOperationNotFound))
    | some record =>
      if record.operation.principal ≠ principal then
        pure (s, replyStopOperation (.error .operationOwnerMismatch))
      else pure (s, replyStopOperation (.ok record.operation))

/-- The operation `handleBeginRecovery` starts with. -/
def newRecoveryOperation (request : BeginRecoveryRequest) : RecoveryOperation where
  requestID := request.requestID
  principal := request.principal
  group := request.group
  expected := cloneDrainServiceSet request.expected
  targets := request.targets.map fun target =>
    { removed := target.removed, agent := target.agent, blueprint := target.blueprint }
  phase := .creating
  createdAt := clock.now
  updatedAt := clock.now

def handleBeginRecovery (s : State) (source : ServiceRef) (request : BeginRecoveryRequest) :
    Handled :=
  let refuse := fun (err : Err) => (pure (s, replyRecoveryOperation (.error err)) : Handled)
  if source ≠ cfg.gateway then refuse .unauthorized
  else match normalizeBeginRecoveryRequest request with
    | .error err => refuse err
    | .ok normalized =>
      let audit := fun (s : State) => s.appendAudit clock cfg normalized.requestID
        normalized.principal "begin_recovery"
      if normalized.principal ∉ cfg.allowedPrincipals then
        pure (audit s "denied", replyRecoveryOperation (.error .unauthorized))
      else match s.recoveries.lookup normalized.requestID with
        | some existing =>
          if !sameBeginRecoveryRequest existing.request normalized then
            pure (audit s "conflict", replyRecoveryOperation (.error .recoveryRequestConflict))
          else pure (s, replyRecoveryOperation (.ok existing.operation))
        | none =>
          match s.stops.lookup normalized.requestID with
          | none => refuse .stopOperationNotFound
          | some stop =>
            if stop.operation.principal ≠ normalized.principal then refuse .operationOwnerMismatch
            else if !stopTerminal stop.operation.phase ||
                stop.operation.targets.elems.map StopTarget.target ≠
                  normalized.targets.elems.map RecoveryTargetRequest.removed then
              refuse .recoveryNotReady
            else if normalized.targets.elems.any fun target =>
                target.removed ∈ normalized.expected.refs.elems then refuse .invalidRecoveryRequest
            else do
              match ← getDirectory normalized.group with
              | .error _ => refuse .recoveryNotReady
              | .ok current =>
                if !sameDrainServiceSet current normalized.expected then refuse .recoveryNotReady
                else do
                  let record ← advanceRecovery clock
                    ⟨normalized, newRecoveryOperation clock normalized⟩
                  let s := { s with recoveries := s.recoveries.insert normalized.requestID record }
                  pure (audit s record.operation.phase.text,
                    replyRecoveryOperation (.ok record.operation))

def authorizedRecovery (s : State) (source : ServiceRef) (requestID principal : Text)
    (action : String) : State × Except Err RecoveryRecord :=
  match authorize clock cfg s source requestID principal action with
  | (s, some err) => (s, .error err)
  | (s, none) =>
    match s.recoveries.lookup requestID with
    | none => (s, .error .recoveryOperationNotFound)
    | some record =>
      if record.operation.principal ≠ principal then (s, .error .operationOwnerMismatch)
      else (s, .ok record)

def handleResolveRecovery (s : State) (source : ServiceRef)
    (requestID principal : Text) : Handled :=
  match authorizedRecovery clock cfg s source requestID principal "resolve_recovery" with
  | (s, .error err) => pure (s, replyRecoveryOperation (.error err))
  | (s, .ok record) =>
    let audit := fun (s : State) => s.appendAudit clock cfg requestID principal "resolve_recovery"
    if recoveryTerminal record.operation.phase then
      pure (audit s record.operation.phase.text, replyRecoveryOperation (.ok record.operation))
    else do
      let record ← advanceRecovery clock record
      let s := { s with recoveries := s.recoveries.insert requestID record }
      pure (audit s record.operation.phase.text, replyRecoveryOperation (.ok record.operation))

def handleGetRecovery (s : State) (source : ServiceRef) (requestID principal : Text) : Handled :=
  match authorizedRecovery clock cfg s source requestID principal "get_recovery" with
  | (s, .error err) => pure (s, replyRecoveryOperation (.error err))
  | (s, .ok record) => pure (s, replyRecoveryOperation (.ok record.operation))

def handleConfirmRecovery (s : State) (source : ServiceRef)
    (requestID principal : Text) : Handled :=
  match authorizedRecovery clock cfg s source requestID principal "confirm_recovery" with
  | (s, .error err) => pure (s, replyRecoveryOperation (.error err))
  | (s, .ok record) =>
    let store := fun (record : RecoveryRecord) =>
      { s with recoveries := s.recoveries.insert requestID record }
    let audit := fun (s : State) => s.appendAudit clock cfg requestID principal "confirm_recovery"
    if record.operation.phase ≠ .awaitingConfirmation then
      pure (s, replyRecoveryOperation (.error .recoveryNotReady))
    else do
      let current ← getDirectory record.operation.group
      if !(current.toOption.any fun set => sameDrainServiceSet set record.operation.expected) then
        pure (store (record.setPhase clock .failed),
          replyRecoveryOperation (.error .recoveryNotReady))
      else
        let candidate := recoveryPublishedSet record.operation
        let record := record.setPhase clock .publishing
        match ← publish record.operation.group record.operation.expected.version
          candidate.refs.elems candidate.tags with
        | .error _ =>
          pure (audit (store record) "publishing", replyRecoveryOperation (.ok record.operation))
        | .ok published =>
          let record := completeRecoveryPublish clock record published
          pure (audit (store record) record.operation.phase.text,
            replyRecoveryOperation (.ok record.operation))

def handleAbandonRecovery (s : State) (source : ServiceRef)
    (requestID principal : Text) : Handled :=
  match authorizedRecovery clock cfg s source requestID principal "abandon_recovery" with
  | (s, .error err) => pure (s, replyRecoveryOperation (.error err))
  | (s, .ok record) =>
    if record.operation.phase = .completed || record.operation.phase = .publishing then
      pure (s, replyRecoveryOperation (.error .recoveryNotReady))
    else
      let targets := record.operation.targets.elems.map fun target =>
        { target with state := .abandoned, failure := .none }
      let record := { record with operation := { record.operation with
        targets := record.operation.targets.refill targets } : RecoveryRecord }.setPhase clock
        .abandoned
      let s := { s with recoveries := s.recoveries.insert requestID record }
      pure
        (s.appendAudit clock cfg requestID principal "abandon_recovery" record.operation.phase.text,
        replyRecoveryOperation (.ok record.operation))

def handle (s : State) (source : ServiceRef) : Command → Handled
  | .start request => handleStart clock cfg s source request
  | .resolve requestID principal => handleResolve clock cfg s source requestID principal
  | .get requestID principal => handleGet clock cfg s source requestID principal
  | .listAudit principal => handleListAudit clock cfg s source principal
  | .beginStop request => handleBeginStop clock cfg s source request
  | .resolveStop requestID principal => handleResolveStop clock cfg s source requestID principal
  | .getStop requestID principal => handleGetStop clock cfg s source requestID principal
  | .beginRecovery request => handleBeginRecovery clock cfg s source request
  | .confirmRecovery requestID principal =>
    handleConfirmRecovery clock cfg s source requestID principal
  | .resolveRecovery requestID principal =>
    handleResolveRecovery clock cfg s source requestID principal
  | .getRecovery requestID principal => handleGetRecovery clock cfg s source requestID principal
  | .abandonRecovery requestID principal =>
    handleAbandonRecovery clock cfg s source requestID principal
  | .malformedDrain => pure (s, replyOperation (.error .invalidDrainRequest))
  | .malformedAudit => pure (s, .audits (.error .invalidDrainRequest))
  | .malformedStop => pure (s, replyStopOperation (.error .invalidStopRequest))
  | .malformedRecovery => pure (s, replyRecoveryOperation (.error .invalidRecoveryRequest))

/-! ### Runs -/

/-- A call and what it returned. -/
abbrev Event := Op × Answer

/-- The coordinator with the calls it has made, in order, and the replies it has sent. -/
structure World where
  state : State := {}
  calls : List Event := []
  replies : List Reply := []

/-- A command that arrives, the readings of the clock and the answers to the calls. -/
structure Action where
  source : ServiceRef
  command : Command
  clock : Clock
  answers : List Answer

/-- What the handling of a command comes to: the state, the reply and the calls. -/
def outcome (s : State) (a : Action) : Option ((State × Reply) × List Event) :=
  (handle a.clock cfg s a.source a.command).run a.answers

/-- One command, handled. -/
def step (w : World) (a : Action) : Option World :=
  (outcome cfg w.state a).map fun out =>
    { state := out.1.1
      calls := w.calls ++ out.2
      replies := w.replies ++ [out.1.2] }

/-- The coordinator from its creation on. -/
def system : System World Action where
  init w := w = {}
  step := step cfg

end GameServiceRuntime.Control
