import GameServiceRuntime.Lib.Table
import GameServiceRuntime.Lib.Text
import GameServiceRuntime.Nhsk.Cards

/-!
# The state of an NHSK Battle

What a Battle keeps, and the outputs it makes of it for the players.

The fields after `panicked` are history, which no handler reads: what was dealt last and what has
happened since, the Sends with what the Battle held when they were made, the timers that have not
come back, and where each timer and each AI request comes from. A *ticket* counts the subgames, the
action opportunities and the turn revisions of the Battle's whole life, without the width of its
counters.
-/

namespace GameServiceRuntime.Nhsk

/-- `NHSKBattlePhase` -/
inductive Phase
  | awaitingInit
  | preparing
  | playing
  | awaitingSettlement
  | finalizingReplay
  | finished
  | stopping
  deriving DecidableEq

/-- `BattlePlayer`, without the PlayerID, which is its key. -/
structure BattlePlayer where
  userID : ℕ
  seatID : ℕ
  automated : Bool
  exited : Bool

structure CustomDeck where
  cards : List Card
  bankerSeat : ℤ

/-- What `NHSKConfig` says about the deal, about timeouts and about automation. -/
structure Rules where
  singleCountToSwap : ℤ
  timeoutAutoMove : Bool
  offlineAutoUsesAI : Bool

/-- `ReplayMoveSource` -/
inductive Source
  | player
  | timeout
  | auto
  | ai
  deriving DecidableEq

/-- What happens in a subgame. -/
inductive Event
  | played (seat : Fin 4) (cards : List Card)
  | passed (seat : Fin 4)
  /-- `advanceSeat` goes past a seat; whether its hand was empty and whether its player had
  exited -/
  | skipped (seat : Fin 4) (empty exited : Bool)
  /-- `finishTrick` -/
  | awarded (seat : Fin 4)
  /-- `awardFinalScoreCards`, and whether the hand of the seat was empty -/
  | awardedFinal (seat : Fin 4) (empty : Bool)
  deriving DecidableEq

structure ActionDeadline where
  turnRevision : UInt64
  source : Source
  cards : List Card
  deriving DecidableEq

/-- The part of `AIRequest` that comes back with the result. -/
structure AIRequest where
  gameNum : UInt16
  subgameNum : UInt16
  userID : ℕ
  seatID : ℕ
  turnRevision : UInt64
  verifyCode : UInt32
  startedAt : ℤ

/-- Where a timer or a request comes from. -/
structure Ticket where
  subgame : ℕ
  opportunity : ℕ
  revision : ℕ
  deriving DecidableEq

/-! ### Outputs -/

structure GameScenePlayer where
  player : Text
  automated : Bool
  offline : Bool
  handCount : ℕ
  handCards : List Card
  lastPlayedCards : List Card
  lastPlayCount : ℤ
  capturedPoints : ℕ
  rank : ℕ

/-- `GameScenePayload`, without the seconds that are left. -/
structure GameScenePayload where
  showingResult : Bool
  activeSeat : ℕ
  previousPlayerSeat : Option (Fin 4)
  trickScoreCards : List Card
  trickScoreCardCount : ℕ
  finishedPlayerCount : ℕ
  players : Fin 4 → GameScenePlayer

structure ShowCardsPayload where
  players : Fin 4 → Text
  handCounts : Fin 4 → ℕ
  cards : Fin 4 → List Card

/-- `OutputPayload`. Scores, fees and durations are left out. -/
inductive Payload
  | gameStart
  | gameInfo
  | deal (players : Fin 4 → Text) (seatID : Fin 4) (cards : List Card)
  | askOutCard (activePlayer : Text) (verifyCode : UInt32)
  | outCardInfo (player : Text) (cards : List Card) (cardCount : ℕ)
  | turnEnd (winner : Text) (capturedPoints : ℕ)
  | showCards (payload : ShowCardsPayload)
  | gameScene (payload : GameScenePayload)
  | outCardRejection
  | cardSelectionPreview (player : Text) (cards : List Card) (cardCount : ℕ)
  | playerAutoState (player : Text) (enabled : Bool)
  | gameResult
  | roundStat

/-- `GameOutput`: what clients get, and what goes to the connection. -/
inductive Output
  | client (targets : List Text) (payload : Payload)
  | gameStarted
  | settlementRequest
  | gameOver
  | noticeRoundOver

/-- A Send, with what the Battle held when it was made. -/
structure Sent where
  output : Output
  phase : Phase
  bySeat : Fin 4 → Text
  hands : Table Text (List Card)

/-- `NHSKBattleService` -/
structure Battle where
  isNewbie : Bool
  /-- whether there is an `aiSubmitter` -/
  hasAI : Bool := false
  initialized : Bool := false
  rules : Rules := ⟨4, true, false⟩
  phase : Phase := .awaitingInit
  gameNum : UInt16 := 0
  subgameNum : UInt16 := 0
  players : Table Text BattlePlayer := ∅
  bySeat : Fin 4 → Text := fun _ => []
  customDeckCatalog : List CustomDeck := []
  hands : Table Text (List Card) := ∅
  auto : Text → Bool := fun _ => false
  offline : Text → Bool := fun _ => false
  activeSeat : ℕ := 0
  verifyCode : UInt32 := 0
  turnRevision : UInt64 := 0
  actionStartedAt : ℤ := 0
  lastCards : List Card := []
  preOutSeat : Option (Fin 4) := none
  passCount : ℕ := 0
  scoreCards : List Card := []
  lastPlayedCards : Fin 4 → List Card := fun _ => List.replicate 8 0
  lastPlayCounts : Fin 4 → ℤ := fun _ => -1
  capturedPoints : Fin 4 → ℕ := fun _ => 0
  finished : Fin 4 → Bool := fun _ => false
  ranks : Fin 4 → ℕ := fun _ => 0
  outedCards : List (List Card) := []
  replayFinalized : Bool := false
  /-- what the clock says in this handler -/
  now : ℤ := 0
  /-- how many Sends of this handler succeed before one is refused -/
  refused : Option ℕ := none
  /-- whether `After` fails in this handler -/
  afterFails : Bool := false
  panicked : Bool := false
  started : Bool := false
  custom : Option CustomDeck := none
  log : List Event := []
  /-- whether a Send has been refused since the subgame started -/
  sendFailed : Bool := false
  /-- whether a timer has been refused since the subgame started -/
  timerFailed : Bool := false
  sent : List Sent := []
  pending : List ActionDeadline := []
  timers : List (Ticket × ActionDeadline) := []
  requests : List (Ticket × AIRequest) := []
  subgames : ℕ := 0
  opportunities : ℕ := 0
  revisions : ℕ := 0
  /-- the action opportunities of the subgame: the code and the active seat of each -/
  opened : List (UInt32 × ℕ) := []
  /-- the accepted plays of the subgame: the code and the seat of each -/
  accepted : List (UInt32 × ℕ) := []

namespace Battle

/-- `emit`s with nothing written between them, and returning the error of one if there is one -/
def emit : List Output → Battle → (Battle → Battle) → Battle
  | [], b, rest => rest b
  | output :: outputs, b, rest =>
    let sent := ⟨output, b.phase, b.bySeat, b.hands⟩ :: b.sent
    match b.refused with
    | none => emit outputs { b with sent } rest
    | some 0 => b
    | some (n + 1) => emit outputs { b with sent, refused := some n } rest

/-- `battle.hands[player]` -/
def hand (b : Battle) (player : Text) : List Card := (b.hands.lookup player).getD []

/-- The hand of the player at a seat. -/
def seatHand (b : Battle) (seat : Fin 4) : List Card := b.hand (b.bySeat seat)

/-- `battle.players[player].Exited` -/
def exited (b : Battle) (player : Text) : Bool := (b.players.lookup player).any (·.exited)

/-- `battle.players[player].Automated` -/
def automated (b : Battle) (player : Text) : Bool := (b.players.lookup player).any (·.automated)

/-- `battle.players[player].UserID` -/
def userID (b : Battle) (player : Text) : ℕ := ((b.players.lookup player).map (·.userID)).getD 0

/-- `battle.bySeat[battle.activeSeat]`, which panics out of range. -/
def withActive (b : Battle) (rest : Fin 4 → Battle) : Battle :=
  if h : b.activeSeat < 4 then rest ⟨b.activeSeat, h⟩ else { b with panicked := true }

def activePlayers (b : Battle) : List Text :=
  ((List.finRange 4).map b.bySeat).filter fun player => player ≠ [] && !b.exited player

def seatOf (b : Battle) (player : Text) : Option (Fin 4) :=
  (List.finRange 4).find? fun seat => b.bySeat seat = player

instance : NeZero 4 := ⟨by decide⟩

def partnerSeat (seat : Fin 4) : Fin 4 := seat + 2

def finishedPlayerCount (b : Battle) : ℕ := (Finset.univ.filter fun seat => b.finished seat).card

/-- `copy` into an array that holds `old` -/
def copyInto (old cards : List Card) : List Card :=
  (cards ++ old.drop cards.length).take old.length

/-- `toFixedCards`, and `copy` into a new `[26]byte` -/
def toFixedCards (cards : List Card) : List Card := copyInto (List.replicate 26 0) cards

/-- The payload of the Deal of a seat. -/
def dealPayload (b : Battle) (seat : Fin 4) : Payload :=
  .deal b.bySeat seat (toFixedCards (b.seatHand seat))

def scenePayload (b : Battle) (target : Text) : GameScenePayload where
  showingResult := b.phase = .awaitingSettlement
  activeSeat := b.activeSeat
  previousPlayerSeat := b.preOutSeat
  trickScoreCards := copyInto (List.replicate 24 0) b.scoreCards
  trickScoreCardCount := b.scoreCards.length
  finishedPlayerCount := b.finishedPlayerCount
  players seat :=
    { player := b.bySeat seat
      automated := b.auto (b.bySeat seat)
      offline := b.offline (b.bySeat seat)
      handCount := (b.seatHand seat).length
      handCards :=
        if b.bySeat seat = target ∨
            b.hand target = [] ∧ some seat = (b.seatOf target).map partnerSeat then
          toFixedCards (b.seatHand seat)
        else toFixedCards []
      lastPlayedCards := b.lastPlayedCards seat
      lastPlayCount := b.lastPlayCounts seat
      capturedPoints := b.capturedPoints seat
      rank := b.ranks seat }

/-- `showCardsPayload`; no finished seat reveals everything. -/
def showCardsPayload (b : Battle) (finishedSeat : Option (Fin 4)) : ShowCardsPayload where
  players := b.bySeat
  handCounts seat := (b.seatHand seat).length
  cards seat :=
    if finishedSeat = none ∨ some seat = finishedSeat.map partnerSeat then
      toFixedCards (b.seatHand seat)
    else toFixedCards []

/-- `askOutCardPayload` for the active seat -/
def askOutCardPayload (b : Battle) (seat : Fin 4) : Payload :=
  .askOutCard (b.bySeat seat) b.verifyCode

/-- `service.After` for an action -/
def after (b : Battle) (deadline : ActionDeadline) : Battle :=
  if b.afterFails then b
  else
    { b with
      pending := deadline :: b.pending
      timers := (⟨b.subgames, b.opportunities, b.revisions⟩, deadline) :: b.timers }

/-- `buildAIRequest`, for the seat that acts, and submitting it -/
def submitAI (b : Battle) (seat : Fin 4) : Battle :=
  { b with
    requests :=
      (⟨b.subgames, b.opportunities, b.revisions⟩,
        { gameNum := b.gameNum
          subgameNum := b.subgameNum
          userID := b.userID (b.bySeat seat)
          seatID := seat
          turnRevision := b.turnRevision
          verifyCode := b.verifyCode
          startedAt := b.actionStartedAt }) :: b.requests }

/-- `battle.turnRevision++` -/
def nextRevision (b : Battle) : Battle :=
  { b with turnRevision := b.turnRevision + 1, revisions := b.revisions + 1 }

end Battle

end GameServiceRuntime.Nhsk
