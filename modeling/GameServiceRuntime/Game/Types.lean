import Mathlib.Data.List.AList
import GameServiceRuntime.Runtime.Ref

/-!
# Values of the business templates

The records of `game/types.go` that a Battle reads or writes, the errors of `game/errors.go` and
the validators and clones of `game/validation.go`. Identifiers are byte strings, fixed-width
numbers keep their width, and a slice remembers whether it is nil, because the Battle compares
a stored request with a repeated one by `reflect.DeepEqual`.

`cloneSettlementIntent` copies its entries by `append`. `cloneFinishBattle` puts a new slice in the
place of the settlements before it goes through them, so it clones zero values.

A definition without a text of its own has the name of what it models.
-/

namespace GameServiceRuntime.Game

def validServiceRef (ref : ServiceRef) : Bool := ref.node ≠ [] && ref.id ≠ 0

/-- The errors a Battle returns or passes on. -/
inductive Err
  | invalidID
  | invalidRequestID
  | invalidParticipant
  | requestConflict
  | stateConflict
  | unavailable
  | contextExpired
  | invalidConfig
  | invalidCommand
  | invalidSettlement
  | notFound
  | unauthorized
  /-- `gsr.ErrReplyUnavailable` -/
  | replyUnavailable
  /-- `gsr.ErrReplyTwice` -/
  | replyTwice
  /-- any other error of the Runtime or of game Logic -/
  | other (n : ℕ)
  deriving DecidableEq

/-! ### Settlements -/

structure SettlementEntry where
  player : Text
  delta : Int64
  deriving DecidableEq

structure SettlementIntent where
  requestID : Text
  currency : Text
  entries : Slice SettlementEntry
  deriving DecidableEq

/-- `SettlementIntent{}` -/
instance : Inhabited SettlementIntent := ⟨[], [], .nil⟩

/-- `FinishBattle`. Equality of this type is `reflect.DeepEqual`. -/
structure FinishBattle where
  requestID : Text
  settlements : Slice SettlementIntent
  deriving DecidableEq

/-- `FinishBattle{}` -/
instance : Inhabited FinishBattle := ⟨[], .nil⟩

structure SettlementRequest where
  requestID : Text
  source : ServiceRef
  currency : Text
  entries : Slice SettlementEntry
  deriving DecidableEq

/-- `SettlementState`, with the texts the code does not use as one more value. -/
inductive SettlementState
  | pending
  | committed
  | rejected
  | invalid (text : Text)
  deriving DecidableEq

structure Balance where
  player : Text
  currency : Text
  amount : Int64
  deriving DecidableEq

structure SettlementResult where
  requestID : Text
  state : SettlementState
  currency : Text
  balances : Slice Balance := .nil
  reason : Text := []
  deriving DecidableEq

/-! ### Validation -/

def maxBusinessIDBytes : ℕ := 128

def validateID (value : Text) : Option Err :=
  if value.valid maxBusinessIDBytes then none else some .invalidID

def validateRequestID (value : Text) : Option Err :=
  if value.valid maxBusinessIDBytes then none else some .invalidRequestID

/-- The loop of `validateSettlementRequest`: every entry names a player and a delta, and the players
are strictly increasing. -/
def validEntries : Option Text → List SettlementEntry → Bool
  | _, [] => true
  | previous, entry :: entries =>
    (validateID entry.player).isNone && entry.delta ≠ 0 &&
      previous.all (fun p => p.less entry.player) && validEntries (some entry.player) entries

def validateSettlementRequest (request : SettlementRequest) : Option Err :=
  if (validateRequestID request.requestID).isSome || !validServiceRef request.source ||
      !request.currency.valid maxBusinessIDBytes || request.entries.len = 0 ||
      request.entries.len > 256 then some .invalidSettlement
  else if validEntries none request.entries.elems then none
  else some .invalidSettlement

def validateSettlementIntent (intent : SettlementIntent) : Option Err :=
  validateSettlementRequest
    { requestID := intent.requestID
      source := ⟨"intent", 1⟩
      currency := intent.currency
      entries := intent.entries }

theorem requestID_ne_nil_of_valid {intent : SettlementIntent}
    (h : validateSettlementIntent intent = none) : intent.requestID ≠ [] := by
  intro hid
  have hinvalid : (validateRequestID []).isSome = true := by decide
  simp [validateSettlementIntent, validateSettlementRequest, hid, hinvalid] at h

/-! ### Clones -/

def cloneSettlementRequest (request : SettlementRequest) : SettlementRequest :=
  { request with entries := request.entries.copy }

def cloneSettlementIntent (intent : SettlementIntent) : SettlementIntent :=
  { intent with entries := intent.entries.copy }

def cloneFinishBattle (finish : FinishBattle) : FinishBattle :=
  let finish := { finish with settlements := .of (List.replicate finish.settlements.len default) }
  -- the range is over the slice that has just been made
  { finish with settlements := finish.settlements.map cloneSettlementIntent }

def cloneSettlementResult (result : SettlementResult) : SettlementResult :=
  { result with balances := result.balances.copy }

/-- A settlement as a value: its identity, its currency and the sequence of its entries. -/
def SettlementIntent.value (intent : SettlementIntent) : Text × Text × List SettlementEntry :=
  (intent.requestID, intent.currency, intent.entries.elems)

/-- A request as a value: its identity and the sequence of its settlements, with nothing said
about which empty slice is nil. -/
def FinishBattle.value (finish : FinishBattle) :
    Text × List (Text × Text × List SettlementEntry) :=
  (finish.requestID, finish.settlements.elems.map SettlementIntent.value)

end GameServiceRuntime.Game
