import GameServiceRuntime.Lib.Transition
import GameServiceRuntime.Nhsk.State

/-!
# The NHSK Battle

Four players play 26 cards each. A Battle is a Service that handles one Command at a time, and the
timers it sets and the results it asks for come back to it as Commands.

A handler sends as it goes, and it returns with the state as it stands when the Runtime refuses a
Send. The action says which Send of the handler is refused, if any, whether its timer is refused,
and what the clock reads. An index out of range is a panic, after which the Battle handles nothing
any more.

A definition without a text of its own has the name of what it models.
-/

namespace GameServiceRuntime.Nhsk

namespace Battle

/-! ### Before a subgame -/

/-- `initialize`; `valid` says whether the request passes the checks of its identity. -/
def initializeBattle (b : Battle) (valid : Bool) (rules : Rules) : Battle :=
  if valid ∧ ¬b.initialized then { b with initialized := true, rules } else b

/-- One entry of `UpdatePlayersRequest` -/
structure PlayerUpdate extends BattlePlayer where
  player : Text

def updatePlayers (b : Battle) (request : List PlayerUpdate) : Battle :=
  if b.initialized ∧ (b.phase = .awaitingInit ∨ b.phase = .preparing) ∧ request ≠ [] ∧
      (∀ u ∈ request, u.player ≠ [] ∧ u.userID ≠ 0 ∧ u.seatID < 4) ∧
      (request.map (·.player)).Nodup ∧ (request.map (·.seatID)).Nodup then
    let candidate := request.foldl (fun t u => t.insert u.player u.toBattlePlayer) b.players
    if (candidate.values.map (·.seatID)).Nodup then
      { b with
        players := candidate
        bySeat := fun seat =>
          ((candidate.entries.find? fun e => e.2.seatID = seat.val).map (·.1)).getD [] }
    else b
  else b

def hasFourPlayers (b : Battle) : Bool := (∀ seat, b.bySeat seat ≠ []) ∧ 4 ≤ b.players.len

def prepare (b : Battle) (gameNum subgameNum : UInt16) : Battle :=
  if ¬b.initialized ∨ gameNum = 0 ∨ subgameNum = 0 ∨ ¬b.hasFourPlayers then b
  else if b.phase = .preparing ∧ b.gameNum = gameNum ∧ b.subgameNum = subgameNum then b
  else if b.phase = .awaitingInit ∨ b.phase = .finished ∨ b.phase = .preparing then
    { b with gameNum, subgameNum, phase := .preparing, customDeckCatalog := [] }
  else b

/-- `CustomDeckCatalog.valid` -/
def validCatalog (decks : List CustomDeck) : Bool := decks ≠ [] ∧ ∀ d ∈ decks, d.cards.length = 104

def provideCustomDeck (b : Battle) (gameNum subgameNum : UInt16)
    (decks : List CustomDeck) : Battle :=
  if gameNum ≠ 0 ∧ subgameNum ≠ 0 ∧ validCatalog decks ∧ b.initialized ∧ b.phase = .preparing ∧
      b.gameNum = gameNum ∧ b.subgameNum = subgameNum then
    { b with customDeckCatalog := decks }
  else b

def customDeckForSubgame (b : Battle) : Option CustomDeck :=
  if validCatalog b.customDeckCatalog then
    b.customDeckCatalog[(b.subgameNum - 1).toNat % b.customDeckCatalog.length]?
  else none

def exit (b : Battle) (player : Text) : Battle :=
  match b.players.lookup player with
  | none => b
  | some v => { b with players := b.players.insert player { v with exited := true } }

/-! ### The deal -/

/-- The deck that `deal` cuts. -/
def dealtDeck (b : Battle) (custom : Option CustomDeck) (swaps : List (Fin 104 × Fin 104)) :
    List Card :=
  match custom with
  | some d => d.cards
  | none =>
    let deck := shuffle swaps ordinaryDeck
    if b.isNewbie then
      match (List.finRange 4).find? fun seat =>
        b.bySeat seat ≠ [] && !b.automated (b.bySeat seat) with
      | some seat => adjustNewbieCards deck seat
      | none => deck
    else swapSingleCards deck b.rules.singleCountToSwap

def dealDeck (b : Battle) (bankerSeat : ℕ) (deck : List Card) : Table Text (List Card) :=
  (List.range 4).foldl
    (fun hands offset => hands.insert (b.bySeat (Fin.ofNat 4 (bankerSeat + offset)))
      (part deck offset))
    ∅

def resetTrick (b : Battle) : Battle :=
  { b with
    lastCards := []
    preOutSeat := none
    passCount := 0
    scoreCards := []
    lastPlayedCards := fun _ => List.replicate 8 0
    lastPlayCounts := fun _ => -1 }

/-- `useAI` of `startAction` -/
def useAI (b : Battle) (player : Text) : Bool :=
  player ≠ [] && b.hasAI &&
    (b.automated player || b.offline player && b.auto player && b.rules.offlineAutoUsesAI)

/-- `source` of `startAction` -/
def actionSource (b : Battle) (player : Text) : Source :=
  if !b.useAI player && player ≠ [] && (b.auto player || b.automated player) then .auto
  else .timeout

/-- What `startAction` writes first. -/
def openAction (b : Battle) : Battle :=
  { b.nextRevision with
    verifyCode := b.verifyCode + 2
    actionStartedAt := b.now
    opportunities := b.opportunities + 1
    opened := (b.verifyCode + 2, b.activeSeat) :: b.opened }

/-- What `startAction` does once its timer is set. -/
def askAction (b : Battle) (seat : Fin 4) : Battle :=
  let b := if b.useAI (b.bySeat seat) then b.submitAI seat else b
  if b.phase ≠ .playing ∨ b.bySeat seat = [] then b
  else emit [.client b.activePlayers (b.askOutCardPayload seat)] b id

def startAction (b : Battle) : Battle :=
  let b := b.openAction
  b.withActive fun seat =>
    if b.afterFails then b
    else (b.after ⟨b.turnRevision, b.actionSource (b.bySeat seat), []⟩).askAction seat

/-- What `start` writes before it sends. -/
def dealSubgame (b : Battle) (custom : Option CustomDeck) (bankerSeat : ℕ)
    (deck : List Card) : Battle :=
  resetTrick
    { b with
      hands := b.dealDeck bankerSeat deck
      phase := .playing
      activeSeat := bankerSeat
      verifyCode := 1
      finished := fun _ => false
      ranks := fun _ => 0
      capturedPoints := fun _ => 0
      outedCards := []
      replayFinalized := false
      started := true
      custom
      log := []
      sendFailed := b.refused.isSome
      timerFailed := b.afterFails
      subgames := b.subgames + 1
      opened := []
      accepted := [] }

/-- The outputs of `start`. -/
def startOutputs (b : Battle) : List Output :=
  [.client b.activePlayers .gameStart, .gameStarted, .client b.activePlayers .gameInfo] ++
    (List.finRange 4).map fun seat => .client [b.bySeat seat] (b.dealPayload seat)

/-- `start`. The random source gives `intn` and `swaps`. The banker's seat is an `int`, so that
going around the table from one of the two greatest gives a negative index. -/
def start (b : Battle) (intn : ℤ) (swaps : List (Fin 104 × Fin 104)) : Battle :=
  if b.phase ≠ .preparing ∨ ¬b.hasFourPlayers ∨ intn < 0 ∨ 4 ≤ intn then b
  else
    let custom := b.customDeckForSubgame
    let bankerSeat := ((custom.map (·.bankerSeat)).filter (0 ≤ ·)).getD intn
    if 2 ^ 63 - 2 ≤ bankerSeat then { b with hands := ∅, started := false, panicked := true }
    else
      let b := b.dealSubgame custom bankerSeat.toNat (b.dealtDeck custom swaps)
      emit b.startOutputs b startAction

/-! ### Plays -/

/-- The loop of `validateCards`: every card is found in what is left of the hand. -/
def holds : List Card → List Card → Bool
  | _, [] => true
  | hand, card :: cards => hand.contains card && holds (hand.erase card) cards

def validateCards (b : Battle) (player : Text) (cards : List Card) : Bool :=
  cards = [] || (classifyCards cards).isSome && holds (b.hand player) cards

/-- `validActionCandidate`. `playWithSource` makes the same tests, each with a rejection of its
own. -/
def validActionCandidate (b : Battle) (player : Text) (cards : List Card) : Bool :=
  cards.length ≤ 8 && !(cards = [] && b.lastCards = []) && b.validateCards player cards &&
    (cards = [] || b.lastCards = [] || 0 < compareCardSets cards b.lastCards)

def localAutoCards (b : Battle) (player : Text) : List Card :=
  match b.lastCards, b.hand player with
  | [], card :: cards =>
    [cards.foldl (fun card candidate =>
      let c := cardLogicValue (cardValue candidate)
      let v := cardLogicValue (cardValue card)
      if c < v ∨ c = v ∧ candidate < card then candidate else card) card]
  | _, _ => []

def changeAutoState (b : Battle) (player : Text) (enabled : Bool)
    (rest : Battle → Battle) : Battle :=
  if b.auto player = enabled then rest b
  else emit [.client b.activePlayers (.playerAutoState player enabled)]
    { b with auto := Function.update b.auto player enabled } rest

/-- The test of `advanceSeat`. -/
def playable (b : Battle) (seat : Fin 4) : Bool :=
  b.bySeat seat ≠ [] && b.seatHand seat ≠ [] && !b.exited (b.bySeat seat)

/-- The loop of `advanceSeat` over the steps that are left. -/
def advanceLoop : List ℕ → Battle → Battle
  | [], b => b
  | step :: steps, b =>
    let seat := Fin.ofNat 4 (b.activeSeat + step)
    if b.playable seat then { b with activeSeat := seat }
    else advanceLoop steps
      { b with
        passCount := b.passCount + if b.preOutSeat.isSome then 1 else 0
        log := .skipped seat (b.seatHand seat = []) (b.exited (b.bySeat seat)) :: b.log }

def advanceSeat : Battle → Battle := advanceLoop [1, 2, 3, 4]

/-- Points that a seat captures, as a `uint16`. -/
def capture (b : Battle) (seat : Fin 4) : Fin 4 → ℕ :=
  Function.update b.capturedPoints seat ((b.capturedPoints seat + score b.scoreCards) % 2 ^ 16)

def finishTrick (b : Battle) : Battle :=
  match b.preOutSeat with
  | none => b
  | some winner =>
    if b.bySeat winner = [] then b
    else
      emit [.client b.activePlayers (.turnEnd (b.bySeat winner) (score b.scoreCards))]
        { b with capturedPoints := b.capture winner, log := .awarded winner :: b.log } fun b =>
        startAction (resetTrick
          { b with
            activeSeat := (if b.seatHand winner = [] then partnerSeat winner else winner : Fin 4) })

def advanceTurn (b : Battle) : Battle :=
  let b := b.advanceSeat
  if b.preOutSeat.isSome ∧ 3 ≤ b.passCount then b.finishTrick else b.startAction

def awardFinalScoreCards (b : Battle) : Battle :=
  match b.preOutSeat with
  | none => { b with scoreCards := [] }
  | some seat =>
    { b with
      capturedPoints := b.capture seat
      scoreCards := []
      log := .awardedFinal seat (b.seatHand seat = []) :: b.log }

/-- What an accepted play or pass writes before it is sent to the players. -/
def recordPlay (b : Battle) (seat : Fin 4) (cards : List Card) : Battle :=
  let b :=
    { b with
      hands := b.hands.insert (b.bySeat seat) ((b.seatHand seat).diff cards)
      outedCards := b.outedCards ++ [cards]
      accepted := (b.verifyCode, seat.val) :: b.accepted }
  if cards ≠ [] then
    { b with
      lastCards := cards
      preOutSeat := some seat
      passCount := 0
      scoreCards := b.scoreCards ++ Nhsk.scoreCards cards
      lastPlayedCards :=
        Function.update b.lastPlayedCards seat (copyInto (b.lastPlayedCards seat) cards)
      lastPlayCounts := Function.update b.lastPlayCounts seat cards.length
      log := .played seat cards :: b.log }
  else
    { b with
      passCount := b.passCount + 1
      lastPlayedCards := Function.update b.lastPlayedCards seat (List.replicate 8 0)
      lastPlayCounts := Function.update b.lastPlayCounts seat 0
      log := .passed seat :: b.log }

/-- What follows a play that empties the hand. -/
def finishSeat (b : Battle) (seat : Fin 4) : Battle :=
  let finished := Function.update b.finished seat true
  let b :=
    { b with
      finished
      ranks := Function.update b.ranks seat (Finset.univ.filter fun s => finished s).card }
  if b.seatHand (partnerSeat seat) = [] then
    let b := { b.awardFinalScoreCards with phase := .awaitingSettlement }
    emit [.client b.activePlayers (.showCards (b.showCardsPayload none)), .settlementRequest] b id
  else
    emit [.client [b.bySeat seat] (.showCards (b.showCardsPayload (some seat)))] b advanceTurn

/-- What `playWithSource` does once a play or a pass is accepted. -/
def move (b : Battle) (seat : Fin 4) (cards : List Card) : Battle :=
  let b := b.recordPlay seat cards
  emit
    [.client b.activePlayers
      (.outCardInfo (b.bySeat seat) (copyInto (List.replicate 8 0) cards) cards.length)]
    b fun b => if b.seatHand seat = [] ∧ ¬b.finished seat then b.finishSeat seat else b.advanceTurn

/-- `playWithSource`. A player is told of a rejection, and the error of that Send is dropped. -/
def playWithSource (b : Battle) (player : Text) (cards : List Card) (verifyCode : UInt32)
    (source : Source) : Battle :=
  let reject := if source = .player then emit [.client [player] .outCardRejection] b id else b
  if b.phase ≠ .playing then reject
  else b.withActive fun seat =>
    if player ≠ b.bySeat seat ∨ verifyCode = 0 ∨ verifyCode ≠ b.verifyCode ∨
        ¬b.validActionCandidate player cards then reject
    else if source = .player then b.changeAutoState player false fun b => b.move seat cards
    else b.move seat cards

/-- `setAuto`; `early` says whether more than 100 ms are left. -/
def setAuto (b : Battle) (player : Text) (enabled early : Bool) : Battle :=
  if (b.players.lookup player).isNone ∨ b.phase ≠ .playing then b
  else b.changeAutoState player enabled fun b =>
    emit [.client [player] (.playerAutoState player enabled)] b fun b =>
      if ¬enabled then b
      else b.withActive fun seat =>
        if player = b.bySeat seat ∧ early then
          b.nextRevision.playWithSource player (b.localAutoCards player) b.verifyCode .auto
        else b

/-- `timer`, for the deadline of an action -/
def timer (b : Battle) (deadline : ActionDeadline) : Battle :=
  if deadline.turnRevision ≠ b.turnRevision ∨ b.phase ≠ .playing then b
  else b.withActive fun seat =>
    let player := b.bySeat seat
    let play := fun b : Battle =>
      b.playWithSource player
        (if deadline.source = .ai then deadline.cards else b.localAutoCards player) b.verifyCode
        deadline.source
    if player = [] ∨ b.hand player = [] then b
    else if deadline.source = .timeout ∧ ¬b.auto player ∧ ¬b.automated player then
      if b.rules.timeoutAutoMove then b.changeAutoState player true play else b
    else play b

/-- `aiResult`; `failed` stands for an error and for another Battle's result. -/
structure AIResult extends AIRequest where
  cards : List Card
  failed : Bool

/-- `applyAIResult`; `early` says that a part of `MsOutCardRobot` is left. -/
def applyAIResult (b : Battle) (result : AIResult) (early : Bool) : Battle :=
  if result.failed ∨ b.phase ≠ .playing ∨ result.gameNum ≠ b.gameNum ∨
      result.subgameNum ≠ b.subgameNum ∨ result.turnRevision ≠ b.turnRevision ∨
      result.verifyCode ≠ b.verifyCode ∨ result.startedAt ≠ b.actionStartedAt ∨
      result.seatID ≠ b.activeSeat then b
  else b.withActive fun seat =>
    let player := b.bySeat seat
    if player = [] ∨ b.userID player ≠ result.userID ∨
      ¬b.validActionCandidate player result.cards then b
    else
      let b := b.nextRevision
      if ¬b.automated player ∧ early then b.after ⟨b.turnRevision, .ai, result.cards⟩
      else b.playWithSource player result.cards b.verifyCode .ai

/-! ### Views and the end of a subgame -/

def restorePlayerView (b : Battle) (player : Text) : Battle :=
  emit [.client [player] .gameInfo, .client [player] (.gameScene (b.scenePayload player))]
    b fun b =>
    if b.phase = .playing then
      b.withActive fun seat =>
        if b.bySeat seat = player then
          emit [.client [player] (b.askOutCardPayload seat)] b id else b
    else b

def reconnect (b : Battle) (player : Text) : Battle :=
  if (b.players.lookup player).isNone then b
  else
    let b := { b with offline := Function.update b.offline player false }
    if b.phase = .playing then
      b.changeAutoState player false fun b => b.restorePlayerView player
    else b

def scene (b : Battle) (player : Text) : Battle :=
  if (b.players.lookup player).isNone ∨ b.gameNum = 0 ∨ b.subgameNum = 0 then b
  else b.changeAutoState player false fun b =>
    if b.phase = .playing ∨ b.phase = .awaitingSettlement then b.restorePlayerView player else b

def setOffline (b : Battle) (player : Text) (offline : Bool) : Battle :=
  if (b.players.lookup player).isNone then b
  else { b with offline := Function.update b.offline player offline }

def preview (b : Battle) (player : Text) (cards : List Card) : Battle :=
  if 26 < cards.length ∨ b.phase ≠ .playing then b
  else b.withActive fun seat =>
    if player ≠ b.bySeat seat then b
    else
      emit
        [.client b.activePlayers (.cardSelectionPreview player (toFixedCards cards) cards.length)]
        b id

/-- `finishReplay`; `stat` and `notice` say whether somebody gets the statistics and whether the end
of the round is announced. -/
def finishReplay (b : Battle) (stat : List Text) (notice : Bool) : Battle :=
  if b.phase ≠ .finalizingReplay ∨ b.replayFinalized then b
  else
    emit
      ((if stat = [] then [] else [.client stat .roundStat]) ++
        [.gameOver] ++ if notice then [.noticeRoundOver] else [])
      { b with replayFinalized := true } fun b => { b with phase := .finished }

/-- The end of `forceFinish` and of `completeSettlement`: the result is sent and the replay is
handed over; `waits` says whether its outcome comes later. -/
def finish (b : Battle) (reveal waits : Bool) (stat : List Text) : Battle :=
  let b := { b with phase := .finished }
  emit
    ((if reveal then [.client b.activePlayers (.showCards (b.showCardsPayload none))] else []) ++
      [.client b.activePlayers .gameResult])
    b fun b =>
      let b := { b with phase := .finalizingReplay }
      if waits then b else b.finishReplay stat reveal

def forceFinish (b : Battle) (waits : Bool) (stat : List Text) : Battle :=
  if b.phase = .playing ∨ b.phase = .awaitingSettlement then b.nextRevision.finish true waits stat
  else b

/-- `completeSettlement`; `accepted` is what `settlementPlan` says. -/
def completeSettlement (b : Battle) (accepted waits : Bool) (stat : List Text) : Battle :=
  if b.phase = .awaitingSettlement ∧ accepted then b.finish false waits stat else b

def deleteBarrier (b : Battle) : Battle := { b.nextRevision with phase := .stopping }

end Battle

/-! ### Runs -/

/-- The Commands of a Battle. Those that only reply are left out, apart from the one that reads the
active seat first. -/
inductive Command
  | initializeBattle (valid : Bool) (rules : Rules)
  | updatePlayers (request : List Battle.PlayerUpdate)
  | prepare (gameNum subgameNum : UInt16)
  | provideCustomDeck (gameNum subgameNum : UInt16) (decks : List CustomDeck)
  | start (intn : ℤ) (swaps : List (Fin 104 × Fin 104))
  | exit (player : Text)
  | setAuto (player : Text) (enabled early : Bool)
  | setOffline (player : Text) (offline : Bool)
  | play (player : Text) (cards : List Card) (verifyCode : UInt32)
  | preview (player : Text) (cards : List Card)
  | timer (deadline : ActionDeadline)
  | aiResult (result : Battle.AIResult) (early : Bool)
  | reconnect (player : Text)
  | scene (player : Text)
  | snapshot
  | forceFinish (waits : Bool) (stat : List Text)
  | completeSettlement (accepted waits : Bool) (stat : List Text)
  | replayDone (stat : List Text) (notice : Bool)
  | deleteBarrier

/-- `Handle`. A timer that comes back is no longer pending. -/
def Battle.handle (b : Battle) : Command → Battle
  | .initializeBattle valid rules => b.initializeBattle valid rules
  | .updatePlayers request => b.updatePlayers request
  | .prepare gameNum subgameNum => b.prepare gameNum subgameNum
  | .provideCustomDeck gameNum subgameNum decks => b.provideCustomDeck gameNum subgameNum decks
  | .start intn swaps => b.start intn swaps
  | .exit player => b.exit player
  | .setAuto player enabled early => b.setAuto player enabled early
  | .setOffline player offline => b.setOffline player offline
  | .play player cards verifyCode => b.playWithSource player cards verifyCode .player
  | .preview player cards => b.preview player cards
  | .timer deadline => { b with pending := b.pending.erase deadline }.timer deadline
  | .aiResult result early => b.applyAIResult result early
  | .reconnect player => b.reconnect player
  | .scene player => b.scene player
  | .snapshot => b.withActive fun _ => b
  | .forceFinish waits stat => b.forceFinish waits stat
  | .completeSettlement accepted waits stat => b.completeSettlement accepted waits stat
  | .replayDone stat notice => b.finishReplay stat notice
  | .deleteBarrier => b.deleteBarrier

/-- A Command, and what the Runtime answers to its handler. -/
structure Action where
  command : Command
  refused : Option ℕ := none
  afterFails : Bool := false
  now : ℤ := 0

/-- What a handler starts from. -/
def Battle.receive (b : Battle) (a : Action) : Battle :=
  { b with
    refused := a.refused
    afterFails := a.afterFails
    now := a.now
    sendFailed := b.sendFailed || a.refused.isSome
    timerFailed := b.timerFailed || a.afterFails }

/-- The runs of a Battle. A Battle being deleted ignores what it is sent. -/
def battles : System Battle Action where
  init b := ∃ isNewbie hasAI, b = { isNewbie, hasAI }
  step b a :=
    if b.panicked then none
    else if b.phase = .stopping then some b
    else some ((b.receive a).handle a.command)

/-- Four players, without automation. -/
def fourPlayers : List Battle.PlayerUpdate :=
  (List.range 4).map fun seat =>
    { player := [UInt8.ofNat (97 + seat)]
      userID := seat + 1
      seatID := seat
      automated := false
      exited := false }

/-- The Commands that lead to the first turn of a subgame, with an ordinary deal that is not
shuffled. -/
def opening : List Action :=
  [⟨.initializeBattle true ⟨0, true, false⟩, none, false, 0⟩,
    ⟨.updatePlayers fourPlayers, none, false, 0⟩,
    ⟨.prepare 1 1, none, false, 0⟩, ⟨.start 0 [], none, false, 1⟩]

/-- A pair of the hands of the opening. -/
def pairOf (value : ℕ) : List Card := [value + 1, value + 17]

/-- Seat 0 plays its pairs and then seat 2 does, and everybody else passes. -/
def pairMoves : List (ℕ × List Card) :=
  ((List.range 13).flatMap fun value => [(0, pairOf value), (1, []), (2, []), (3, [])]) ++
    ((List.range 12).flatMap fun value => [(2, pairOf value), (3, []), (1, [])]) ++ [(2, pairOf 12)]

/-- The Commands that play it. -/
def pairGame : List Action :=
  pairMoves.mapIdx fun i m =>
    ⟨.play [UInt8.ofNat (97 + m.1)] m.2 (UInt32.ofNat (2 * i + 3)), none, false, 1⟩

end GameServiceRuntime.Nhsk
