import GameServiceRuntime.Lib.Table
import GameServiceRuntime.Runtime.Ref

/-!
# Values of the control plane

The records of `tooling/servicegroup` and `tooling/control` that a drain, stop or recovery operation
is made of, their validators and their clones.

The clones are made just before a reply is sent, and two of them copy the list of targets by
`append`, which makes the nil slice of an empty one.

The service group package and the control package each have a validator for sets of services. They
differ in what they ask of a node's name only, so they are one definition here.

A definition without a text of its own has the name of what it models.
-/

namespace GameServiceRuntime.Control

/-! ### Service sets -/

/-- `servicegroup.ServiceSetVersion` -/
structure Version where
  authorityEpoch : UInt64
  revision : UInt64
  deriving DecidableEq

/-- A `map[string]string`, which may be nil. -/
abbrev Tags := Option (Table Text Text)

structure ServiceSet where
  name : Text := []
  version : Version := ⟨0, 0⟩
  refs : Slice ServiceRef := .nil
  tags : Tags := none
  deriving DecidableEq

/-- `validNode` of the control package. -/
def validNode (node : Text) : Bool := !node.blank

/-- `validServiceRef` of the control package. -/
def validServiceRef (ref : ServiceRef) : Bool := validNode ref.node && ref.id ≠ 0

/-- `validServiceRef` of the service group and drain packages, which want UTF-8. -/
def validGroupRef (ref : ServiceRef) : Bool :=
  ref.node.validString && !ref.node.blank && ref.id ≠ 0

/-- `validDrainVersion`, `validVersion` -/
def validVersion (version : Version) : Bool := version.authorityEpoch ≠ 0 && version.revision ≠ 0

/-- `validDrainTags`, `validTags` -/
def validTags (tags : Table Text Text) : Bool :=
  tags.entries.all fun e => e.1.trimmed && e.2.validString

/-- The common text of the two validators of service sets. -/
def validSet (validRef : ServiceRef → Bool) (set : ServiceSet) : Bool :=
  set.name.trimmed && validVersion set.version && !set.refs.isNil && set.tags.any validTags &&
    set.refs.elems.all validRef && ascending id set.refs.elems

/-- `validServiceSet` of the service group package. -/
def validServiceSet : ServiceSet → Bool := validSet validGroupRef

def validDrainServiceSet : ServiceSet → Bool := validSet validServiceRef

/-- The pairs of a map. -/
def Tags.pairs (tags : Tags) : List (Sigma fun _ : Text => Text) := (tags.map AList.entries).getD []

/-- The tags of two sets agree: as many, and every one of the first in the second. -/
def sameTags (left right : Tags) : Bool :=
  left.pairs.length = right.pairs.length &&
    left.pairs.all fun e => right.any fun m => m.lookup e.1 = some e.2

/-- The tags are the same map, of which nil is the empty one. -/
def SameTags (left right : Tags) : Prop :=
  ∀ key, (left.getD ∅).lookup key = (right.getD ∅).lookup key

def sameServiceSetContent (left right : ServiceSet) : Bool :=
  left.name = right.name && left.refs.elems = right.refs.elems && sameTags left.tags right.tags

def sameDrainServiceSet (left right : ServiceSet) : Bool :=
  left.version = right.version && sameServiceSetContent left right

/-- `cloneTags`, `cloneDrainTags`: never nil. -/
def cloneTags (tags : Tags) : Tags := some (tags.getD ∅)

/-- `cloneServiceSet` of the service group package. -/
def cloneServiceSet (set : ServiceSet) : ServiceSet :=
  { set with refs := .of set.refs.elems, tags := cloneTags set.tags }

/-- `cloneDrainServiceSet`: a nil list and a nil map stay nil. -/
def cloneDrainServiceSet (set : ServiceSet) : ServiceSet :=
  { set with
    refs := set.refs.remake
    tags := set.tags.map id }

@[simp] theorem cloneDrainServiceSet_eq (set : ServiceSet) : cloneDrainServiceSet set = set := by
  simp [cloneDrainServiceSet]

/-! ### Drain operations -/

inductive DrainPhase
  | preparing
  | publishUnknown
  | guarding
  | waitingVisitors
  | readyToStop
  | conflict
  | superseded
  deriving DecidableEq

structure DrainTarget where
  ref : ServiceRef
  guarded : Bool := false
  strongVisitorCount : ℤ := 0
  deriving DecidableEq

/-- A point in time; the zero time is `0`. -/
abbrev Time := ℤ

structure DrainOperation where
  requestID : Text
  principal : Text
  group : Text
  expected : Version
  original : ServiceSet := {}
  published : ServiceSet := {}
  targets : Slice DrainTarget := .nil
  phase : DrainPhase
  createdAt : Time
  updatedAt : Time
  deriving DecidableEq

/-- `drainTargets`: the references of the original set that were not published. -/
def drainTargets (original published : ServiceSet) : Slice DrainTarget :=
  .of (sortByRef DrainTarget.ref
    ((original.refs.elems.filter fun ref => ref ∉ published.refs.elems).map
      fun ref => { ref := ref }))

def cloneDrainOperation (operation : DrainOperation) : DrainOperation :=
  { operation with
    original := cloneDrainServiceSet operation.original
    published := cloneDrainServiceSet operation.published
    targets := operation.targets.remake }

/-! ### Stop operations -/

inductive StopTargetState
  | pending
  | queued
  | stopped
  | superseded
  | failed
  deriving DecidableEq

inductive StopFailure
  | none
  | queueFull
  | runnerClosed
  | directoryUnavailable
  | runtimeStop
  deriving DecidableEq

structure NodeStopReceipt where
  requestID : Text
  target : ServiceRef
  state : StopTargetState
  failure : StopFailure
  updatedAt : Time
  deriving DecidableEq

structure StopTargetRequest where
  target : ServiceRef
  agent : ServiceRef
  deriving DecidableEq

structure StopTarget where
  target : ServiceRef
  agent : ServiceRef
  state : StopTargetState := .pending
  failure : StopFailure := .none
  deriving DecidableEq

inductive StopPhase
  | dispatching
  | waiting
  | completed
  | failed
  | superseded
  deriving DecidableEq

structure StopOperation where
  requestID : Text
  principal : Text
  group : Text
  published : ServiceSet
  targets : Slice StopTarget
  phase : StopPhase
  createdAt : Time
  updatedAt : Time
  deriving DecidableEq

def validNodeStopReceipt (receipt : NodeStopReceipt) : Bool :=
  receipt.requestID.trimmed && validServiceRef receipt.target && receipt.updatedAt ≠ 0 &&
    match receipt.state with
    | .queued | .stopped | .superseded => receipt.failure = .none
    | .pending => receipt.failure = .queueFull || receipt.failure = .directoryUnavailable
    | .failed => receipt.failure = .runtimeStop || receipt.failure = .runnerClosed

def validStopTargetRequest (target : StopTargetRequest) : Bool :=
  validServiceRef target.target && validServiceRef target.agent && target.target ≠ target.agent &&
    target.target.node = target.agent.node

def cloneStopOperation (operation : StopOperation) : StopOperation :=
  { operation with
    published := cloneDrainServiceSet operation.published
    targets := if operation.targets.isNil then .nil else operation.targets.copy }

/-! ### Recovery operations -/

inductive RecoveryTargetState
  | pending
  | creating
  | created
  | published
  | failed
  | abandoned
  deriving DecidableEq

inductive RecoveryFailure
  | none
  | queueFull
  | runnerClosed
  | blueprintUnavailable
  | create
  | directoryUnavailable
  | directoryChanged
  | publish
  deriving DecidableEq

structure RecoveryTargetRequest where
  removed : ServiceRef
  agent : ServiceRef
  blueprint : Text
  deriving DecidableEq

structure RecoveryTarget where
  removed : ServiceRef
  agent : ServiceRef
  blueprint : Text
  created : ServiceRef := .zero
  state : RecoveryTargetState := .pending
  failure : RecoveryFailure := .none
  deriving DecidableEq

inductive RecoveryPhase
  | creating
  | awaitingConfirmation
  | publishing
  | completed
  | failed
  | abandoned
  deriving DecidableEq

structure RecoveryOperation where
  requestID : Text
  principal : Text
  group : Text
  expected : ServiceSet
  published : ServiceSet := {}
  targets : Slice RecoveryTarget
  phase : RecoveryPhase
  createdAt : Time
  updatedAt : Time
  deriving DecidableEq

structure RecoveryCreateTask where
  agent : ServiceRef
  requestID : Text
  removed : ServiceRef
  blueprint : Text
  deriving DecidableEq

structure RecoveryReceipt where
  requestID : Text
  removed : ServiceRef
  blueprint : Text
  created : ServiceRef := .zero
  state : RecoveryTargetState
  failure : RecoveryFailure := .none
  updatedAt : Time
  deriving DecidableEq

def validRecoveryTargetRequest (target : RecoveryTargetRequest) : Bool :=
  validServiceRef target.removed && validServiceRef target.agent && target.removed ≠ target.agent &&
    target.removed.node = target.agent.node && target.blueprint.trimmed

/-- `validRecoveryCreateResult`, for a result that carries the fields of a receipt. -/
def validRecoveryCreateResult (result : RecoveryReceipt) : Bool :=
  result.requestID.trimmed && validServiceRef result.removed && result.blueprint.trimmed &&
    match result.state with
    | .created =>
      validServiceRef result.created && result.created ≠ result.removed && result.failure = .none
    | .failed =>
      result.created = .zero && (result.failure = .queueFull ||
        result.failure = .blueprintUnavailable || result.failure = .create ||
        result.failure = .runnerClosed)
    | _ => false

def validRecoveryReceipt (receipt : RecoveryReceipt) : Bool :=
  receipt.updatedAt ≠ 0 && receipt.requestID.trimmed && validServiceRef receipt.removed &&
    receipt.blueprint.trimmed &&
    match receipt.state with
    | .creating => receipt.created = .zero && receipt.failure = .none
    | .created | .failed => validRecoveryCreateResult receipt
    | _ => false

def cloneRecoveryOperation (operation : RecoveryOperation) : RecoveryOperation :=
  { operation with
    expected := cloneDrainServiceSet operation.expected
    published := cloneDrainServiceSet operation.published
    targets := if operation.targets.isNil then .nil else operation.targets.copy }

end GameServiceRuntime.Control
