import GameServiceRuntime.Nhsk.Ranks
import GameServiceRuntime.Nhsk.Setting

/-!
# Results and settlements

When play has ended the Battle works out who has won, sends the payments that follow from it as a
settlement request, and waits for an acknowledgement. The acknowledgement is read by code that was
written apart from it: it adds up the payments that it finds, as `int64`s, and it does not know the
result. The two agree because a list of payments only matters through its `net`, which is the same
for every order and sums to zero.

An acknowledgement names its players by their user IDs. `updatePlayers` does not ask that user IDs
are different, and a Battle in which two are the same rejects every acknowledgement of a success
(`injective_of_settlementPlan`).

A definition without a text of its own has the name of what it models.
-/

namespace GameServiceRuntime.Nhsk

/-! ### Results -/

inductive GameOverReason
  | success
  | escape
  | offline
  | exception
  | dissolve
  deriving DecidableEq

inductive SubgameResult
  | single
  | double
  | peace
  deriving DecidableEq

inductive PlayerOutcome
  | win
  | loss
  | peace
  deriving DecidableEq

structure SubgameResultSnapshot where
  reason : GameOverReason
  result : SubgameResult
  winningTeam : ℕ
  multiples : Fin 4 → Int32
  outcomes : Fin 4 → PlayerOutcome
  points : Fin 4 → UInt16
  ranks : Fin 4 → UInt8
  automated : Fin 4 → Bool

def rankAt (ranks : Fin 4 → UInt8) (seat : ℕ) : UInt8 := if h : seat < 4 then ranks ⟨seat, h⟩ else 4

def pointAt (points : Fin 4 → UInt16) (seat : ℕ) : UInt16 :=
  if h : seat < 4 then points ⟨seat, h⟩ else 0

/-- The team of the seat that finished first. -/
def firstTeam (ranks : Fin 4 → UInt8) : ℕ :=
  if rankAt ranks 1 = 1 ∨ rankAt ranks 3 = 1 then 1 else 0

/-- The result, and the team that has won. Sums are those of `uint8` and `uint16`. -/
def decideSubgame (ranks : Fin 4 → UInt8) (points : Fin 4 → UInt16) : SubgameResult × ℕ :=
  let first := firstTeam ranks
  let other := (first + 1) % 2
  if rankAt ranks 0 + rankAt ranks 2 = 3 ∨ rankAt ranks 1 + rankAt ranks 3 = 3 then (.double, first)
  else if rankAt ranks ((first + 2) % 4) = 3 ∨ rankAt ranks first = 3 then
    let second := if rankAt ranks (first + 1) = 2 then first + 1 else (first + 3) % 4
    if pointAt points second = 200 then (.double, other)
    else if pointAt points first + pointAt points ((first + 2) % 4) = 200 then (.double, first)
    else if pointAt points second < 105 then (.single, first)
    else (.single, other)
  else
    let second := if rankAt ranks first = 1 then first else (first + 2) % 4
    if pointAt points second = 200 then (.double, first)
    else if pointAt points (first + 1) + pointAt points ((first + 3) % 4) = 200 then
      (.double, other)
    else if pointAt points ((first + 2) % 4) + pointAt points first < 100 then (.single, other)
    else (.single, first)

/-- The multiples, with the penalties of automation, which are taken seat by seat. -/
def subgameMultiples (winner : ℕ) (unit : Int32) (automated : Fin 4 → Bool) : Fin 4 → Int32 :=
  (List.finRange 4).foldl
    (fun multiples seat =>
      let partner := Battle.partnerSeat seat
      if automated seat && automated partner then multiples
      else if automated seat && decide (multiples seat < 0) then
        Function.update multiples seat (multiples seat - unit)
      else if automated partner && decide (multiples seat < 0) then Function.update multiples seat 0
      else multiples)
    fun seat => if seat.val % 2 = winner then unit else -unit

/-- The outcome of a multiple. -/
def playerOutcome (score : Int32) : PlayerOutcome :=
  if 0 < score then .win else if score < 0 then .loss else .peace

/-- The `unit` of a result. -/
def SubgameResult.unit (result : SubgameResult) : Int32 := if result = .double then 2 else 1

def calculateSubgameResult (reason : GameOverReason) (ranks : Fin 4 → UInt8)
    (points : Fin 4 → UInt16) (automated : Fin 4 → Bool) : SubgameResultSnapshot :=
  let ranks := fun seat => if ranks seat = 0 then 4 else ranks seat
  if reason ≠ .success then
    { reason, points, ranks, automated
      result := .peace
      winningTeam := 0
      multiples := fun _ => 0
      outcomes := fun _ => .peace }
  else
    let decided := decideSubgame ranks points
    let multiples := subgameMultiples decided.2 decided.1.unit automated
    { reason, points, ranks, automated, multiples
      result := decided.1
      winningTeam := decided.2
      outcomes := fun seat => playerOutcome (multiples seat) }

theorem decideSubgame_cases (ranks : Fin 4 → UInt8) (points : Fin 4 → UInt16) :
    (decideSubgame ranks points).1 ≠ .peace ∧ (decideSubgame ranks points).2 < 2 := by
  have hfirst : firstTeam ranks < 2 := by
    rw [firstTeam]
    split <;> decide
  have hother : (firstTeam ranks + 1) % 2 < 2 := Nat.mod_lt _ (by decide)
  simp only [decideSubgame]
  split_ifs
  all_goals first | exact ⟨nofun, hfirst⟩ | exact ⟨nofun, hother⟩

/-! ### The settlement request -/

structure SettlementGain where
  payTeamID : ℕ
  gainTeamID : ℕ
  score : Int32
  deriving DecidableEq

/-- The matrix of a result. -/
def scoreMatrix (result : SubgameResult) (winningTeam : ℕ) (multiples : Fin 4 → Int32) :
    Fin 4 → Fin 4 → Int32 :=
  if result = .peace ∨ 1 < winningTeam then fun _ _ => 0
  else
    let winner := Fin.ofNat 4 winningTeam
    let loser := Fin.ofNat 4 (1 - winningTeam)
    let unit := multiples winner
    let near := if multiples loser ≠ 0 then unit else 0
    let far := if multiples (loser + 2) ≠ 0 then unit else 0
    fun pay gain =>
      if pay = loser ∧ gain = winner then near
      else if pay = loser ∧ gain = winner + 2 then -multiples loser - near
      else if pay = loser + 2 ∧ gain = winner + 2 then far
      else if pay = loser + 2 ∧ gain = winner then -multiples (loser + 2) - far
      else 0

def resultScoreMatrix (result : SubgameResultSnapshot) : Fin 4 → Fin 4 → Int32 :=
  scoreMatrix result.result result.winningTeam result.multiples

/-- The positive entries of a matrix, row by row. -/
def matrixGains (matrix : Fin 4 → Fin 4 → Int32) : List SettlementGain :=
  (List.finRange 4).flatMap fun pay => (List.finRange 4).filterMap fun gain =>
    if 0 < matrix pay gain then some ⟨pay, gain, matrix pay gain⟩ else none

/-- `SettlementPlayerResult`, without what no function here reads. -/
structure SettlementPlayerResult where
  playerID : ℕ
  flag : Int32
  teamID : ℕ

/-- The flag of a player: what has become of them, and `settlementFlagAsAuto`. -/
def settlementFlag (outcome : PlayerOutcome) (automated : Bool) : Int32 :=
  (match outcome with
    | .win => 0
    | .loss => 1
    | .peace => 2) ||| if automated then 16 else 0

structure SettlementRequestOutput where
  gains : List SettlementGain
  players : List SettlementPlayerResult

/-- `buildSettlementRequest`, for the user IDs of the four players -/
def buildSettlementRequest (result : SubgameResultSnapshot) (userIDs : Fin 4 → ℕ) :
    SettlementRequestOutput where
  gains := matrixGains (resultScoreMatrix result)
  players := (List.finRange 4).map fun seat =>
    ⟨userIDs seat, settlementFlag (result.outcomes seat) (result.automated seat), seat⟩

/-! ### Acknowledgements -/

structure CompleteSettlementRequest where
  success : Bool
  teamCount : ℤ
  gains : List SettlementGain
  players : List SettlementPlayerResult

/-- `settlementPlan`, the type -/
structure SettlementPlan where
  scores : Fin 4 → Int32 := fun _ => 0
  isBreak : Fin 4 → Bool := fun _ => false
  isSeal : Fin 4 → Bool := fun _ => false
  failed : Bool := false

/-- Why an acknowledgement is rejected. -/
inductive SettlementRejection
  | stateConflict
  | invalidRequest
  | playerMatrix
  | battlePlayer
  | playerIdentity
  | duplicateIdentity
  | playerTeam
  | duplicatePlayer
  | incompletePlayers
  | gain
  | duplicateGain
  | scoreOverflow
  deriving DecidableEq

/-- The text of the error. -/
def SettlementRejection.text : SettlementRejection → String
  | .stateConflict => "nhsk: battle state conflict"
  | .invalidRequest => "nhsk: invalid Battle request"
  | .playerMatrix => "nhsk: invalid Battle request: settlement player matrix"
  | .battlePlayer => "nhsk: invalid Battle request: settlement Battle player"
  | .playerIdentity => "nhsk: invalid Battle request: settlement player identity"
  | .duplicateIdentity => "nhsk: invalid Battle request: duplicate settlement identity"
  | .playerTeam => "nhsk: invalid Battle request: settlement player/team"
  | .duplicatePlayer => "nhsk: invalid Battle request: duplicate settlement player"
  | .incompletePlayers => "nhsk: invalid Battle request: incomplete settlement players"
  | .gain => "nhsk: invalid Battle request: settlement gain"
  | .duplicateGain => "nhsk: invalid Battle request: duplicate settlement gain"
  | .scoreOverflow => "nhsk: invalid Battle request: settlement score overflow"

/-- The loop over the seats, which collects `playerSeats`. -/
def playerSeats (b : Battle) :
    List (Fin 4) → Table ℕ (Fin 4) → Except SettlementRejection (Table ℕ (Fin 4))
  | [], seats => .ok seats
  | seat :: rest, seats =>
    match b.players.lookup (b.bySeat seat) with
    | none => .error .battlePlayer
    | some player =>
      if b.bySeat seat = [] then .error .battlePlayer
      else if player.userID = 0 then .error .playerIdentity
      else if (seats.lookup player.userID).isSome then .error .duplicateIdentity
      else playerSeats b rest (seats.insert player.userID seat)

/-- The loop over the players of the acknowledgement. -/
def readPlayers (seats : Table ℕ (Fin 4)) : List SettlementPlayerResult → List ℕ → SettlementPlan →
    Except SettlementRejection (List ℕ × SettlementPlan)
  | [], seen, plan => .ok (seen, plan)
  | result :: rest, seen, plan =>
    match seats.lookup result.playerID with
    | none => .error .playerTeam
    | some seat =>
      if result.teamID ≠ seat then .error .playerTeam
      else if result.playerID ∈ seen then .error .duplicatePlayer
      else readPlayers seats rest (result.playerID :: seen)
        { plan with
          isSeal := Function.update plan.isSeal seat (decide (result.flag &&& 0x100 ≠ 0))
          isBreak := Function.update plan.isBreak seat (decide (result.flag &&& 0x200 ≠ 0)) }

/-- The key of a gain. -/
def SettlementGain.key (gain : SettlementGain) : ℕ × ℕ := (gain.payTeamID, gain.gainTeamID)

/-- The test of a gain. -/
def SettlementGain.Valid (gain : SettlementGain) : Prop :=
  0 < gain.score ∧ gain.payTeamID < 4 ∧ gain.gainTeamID < 4 ∧ gain.payTeamID ≠ gain.gainTeamID

instance (gain : SettlementGain) : Decidable gain.Valid := inferInstanceAs (Decidable (_ ∧ _))

/-- The loop over the gains, which collects `values`. -/
def readGains : List SettlementGain → List (ℕ × ℕ) → (Fin 4 → Int64) →
    Except SettlementRejection (Fin 4 → Int64)
  | [], _, values => .ok values
  | gain :: rest, seen, values =>
    if ¬gain.Valid then .error .gain
    else if gain.key ∈ seen then .error .duplicateGain
    else
      let pay := Fin.ofNat 4 gain.payTeamID
      let paid := Function.update values pay (values pay - gain.score.toInt64)
      let payee := Fin.ofNat 4 gain.gainTeamID
      readGains rest (gain.key :: seen)
        (Function.update paid payee (paid payee + gain.score.toInt64))

/-- The values as `int32`s. -/
def planScores (values : Fin 4 → Int64) : Except SettlementRejection (Fin 4 → Int32) :=
  if ∀ seat, -2147483648 ≤ values seat ∧ values seat ≤ 2147483647 then
    .ok fun seat => (values seat).toInt32
  else .error .scoreOverflow

def settlementPlan (b : Battle) (request : CompleteSettlementRequest) :
    Except SettlementRejection SettlementPlan :=
  if ¬request.success then .ok { failed := true }
  else if request.teamCount ≠ 4 ∨ request.players.length ≠ 4 then .error .playerMatrix
  else do
    let seats ← playerSeats b (List.finRange 4) ∅
    let (seen, plan) ← readPlayers seats request.players [] {}
    if seen.length ≠ seats.len then .error .incompletePlayers
    else
      let values ← readGains request.gains [] fun _ => 0
      let scores ← planScores values
      .ok { plan with scores }

/-- What a settlement writes about a player. -/
structure Account where
  score : Int32
  isBreak : Bool
  isSeal : Bool

/-- A Battle with what a settlement writes. -/
structure Ledger where
  battle : Battle
  accounts : Text → Account
  settlementFailed : Bool

structure SettlementCommandResult where
  accepted : Bool
  rejection : String

def settlementReject (rejection : SettlementRejection) : SettlementCommandResult :=
  ⟨false, rejection.text⟩

/-- The loop of `completeSettlement` over the seats; whether it gets to the end. -/
def writeAccounts (plan : SettlementPlan) : List (Fin 4) → Ledger → Ledger × Bool
  | [], ledger => (ledger, true)
  | seat :: rest, ledger =>
    let player := ledger.battle.bySeat seat
    if player = [] ∨ (ledger.battle.players.lookup player).isNone then (ledger, false)
    else writeAccounts plan rest
      { ledger with
        accounts := Function.update ledger.accounts player
          ⟨plan.scores seat, plan.isBreak seat, plan.isSeal seat⟩ }

/-- `completeSettlement`. A Send that is refused later is an error of the handler and no
rejection. -/
def completeSettlement (ledger : Ledger) (request : CompleteSettlementRequest) (waits : Bool)
    (stat : List Text) : Ledger × SettlementCommandResult :=
  if ledger.battle.phase ≠ .awaitingSettlement then (ledger, settlementReject .stateConflict)
  else match settlementPlan ledger.battle request with
    | .error rejection => (ledger, settlementReject rejection)
    | .ok plan =>
      match writeAccounts plan (List.finRange 4) ledger with
      | (written, false) => (written, settlementReject .invalidRequest)
      | (written, true) =>
        ({ written with
            settlementFailed := plan.failed
            battle := written.battle.completeSettlement true waits stat }, ⟨true, ""⟩)

/-! ### Payments -/

/-- What a seat gets from a payment. -/
def SettlementGain.share (gain : SettlementGain) (seat : Fin 4) : ℤ :=
  (if gain.gainTeamID = seat then gain.score.toInt else 0) -
    if gain.payTeamID = seat then gain.score.toInt else 0

/-- What a seat gets from a list of payments. -/
def net (gains : List SettlementGain) (seat : Fin 4) : ℤ := (gains.map (·.share seat)).sum

theorem net_perm {gains gains' : List SettlementGain} (h : gains.Perm gains') :
    net gains = net gains' :=
  funext fun _ => (h.map _).sum_eq

theorem sum_share {gain : SettlementGain} (h : gain.Valid) : ∑ seat, gain.share seat = 0 := by
  have hsum : ∀ k < 4, ∑ seat :
    Fin 4, (if k = seat.val then gain.score.toInt else 0) = gain.score.toInt := by
    intro k hk
    rw [Finset.sum_eq_single (⟨k, hk⟩ : Fin 4)]
    · exact if_pos rfl
    · exact fun seat _ hne => if_neg fun heq => hne (Fin.ext heq.symm)
    · exact fun hout => absurd (Finset.mem_univ _) hout
  simp only [SettlementGain.share, Finset.sum_sub_distrib]
  rw [hsum _ h.2.2.1, hsum _ h.2.1, sub_self]

variable {gains : List SettlementGain}

theorem sum_net (h : ∀ gain ∈ gains, gain.Valid) : ∑ seat, net gains seat = 0 := by
  induction gains with
  | nil => simp [net]
  | cons gain rest ih =>
    obtain ⟨hgain, hrest⟩ := List.forall_mem_cons.mp h
    simp only [net, List.map_cons, List.sum_cons, Finset.sum_add_distrib] at ih ⊢
    rw [sum_share hgain, ih hrest, add_zero]

/-- Reading a payment adds the shares of it. -/
theorem update_share {gain : SettlementGain} (h : gain.Valid) (values : Fin 4 → Int64)
    (seat : Fin 4) : let pay := Fin.ofNat 4 gain.payTeamID
    let paid := Function.update values pay (values pay - gain.score.toInt64)
    let payee := Fin.ofNat 4 gain.gainTeamID
    Function.update paid payee (paid payee + gain.score.toInt64) seat =
      values seat + Int64.ofInt (gain.share seat) := by
  obtain ⟨-, hpay, hgain, hne⟩ := h
  have hat : ∀ k < 4, k = seat.val ↔ seat = Fin.ofNat 4 k := by
    intro k hk
    rw [Fin.ext_iff, Fin.val_ofNat, Nat.mod_eq_of_lt hk, eq_comm]
  have hdiff : Fin.ofNat 4 gain.gainTeamID ≠ Fin.ofNat 4 gain.payTeamID := by
    rw [ne_eq, Fin.ext_iff, Fin.val_ofNat, Fin.val_ofNat]
    omega
  have hzero : Int64.ofInt 0 = 0 := rfl
  dsimp only
  rw [SettlementGain.share, Int64.ofInt_sub, if_congr (hat _ hgain) rfl rfl,
    if_congr (hat _ hpay) rfl rfl]
  generalize Fin.ofNat 4 gain.payTeamID = pay at hdiff ⊢
  generalize Fin.ofNat 4 gain.gainTeamID = payee at hdiff ⊢
  by_cases h1 : seat = payee
  · subst h1
    rw [Function.update_self, Function.update_of_ne hdiff, if_pos rfl, if_neg hdiff,
      Int64.ofInt_int32ToInt, hzero, Int64.sub_zero]
  · rw [Function.update_of_ne h1, if_neg h1, hzero, Int64.zero_sub]
    by_cases h2 : seat = pay
    · subst h2
      rw [Function.update_self, if_pos rfl, Int64.ofInt_int32ToInt, Int64.sub_eq_add_neg]
    · rw [Function.update_of_ne h2, if_neg h2, hzero, Int64.neg_zero, Int64.add_zero]

theorem readGains_eq {seen : List (ℕ × ℕ)} {values out : Fin 4 → Int64}
    (h : readGains gains seen values = .ok out) :
    (∀ gain ∈ gains, gain.Valid) ∧
    ∀ seat, out seat = values seat + Int64.ofInt (net gains seat) := by
  induction gains generalizing seen values with
  | nil =>
    cases h
    exact ⟨nofun, fun seat => by simp [net]⟩
  | cons gain rest ih =>
    rw [readGains] at h
    split_ifs at h with hvalid hseen
    obtain ⟨hrest, hout⟩ := ih h
    refine ⟨List.forall_mem_cons.mpr ⟨hvalid, hrest⟩, fun seat => ?_⟩
    rw [hout, update_share hvalid values seat]
    simp only [net, List.map_cons, List.sum_cons, Int64.ofInt_add, Int64.add_assoc]

theorem readGains_ok (seen : List (ℕ × ℕ)) (values : Fin 4 → Int64)
    (hvalid : ∀ gain ∈ gains, gain.Valid) (hkeys : (gains.map (·.key)).Nodup)
    (hseen : ∀ gain ∈ gains, gain.key ∉ seen) : ∃ out, readGains gains seen values = .ok out := by
  induction gains generalizing seen values with
  | nil => exact ⟨values, rfl⟩
  | cons gain rest ih =>
    obtain ⟨hgain, hrest⟩ := List.forall_mem_cons.mp hvalid
    obtain ⟨hfresh, hlater⟩ := List.forall_mem_cons.mp hseen
    obtain ⟨hkey, hkeys⟩ := List.nodup_cons.mp hkeys
    rw [readGains, if_neg (not_not.mpr hgain), if_neg hfresh]
    refine ih _ _ hrest hkeys fun other hmem hin => ?_
    obtain heq | hin := List.mem_cons.mp hin
    · exact hkey (List.mem_map.mpr ⟨other, hmem, heq⟩)
    · exact hlater other hmem hin

/-- Values that are a net modulo `2 ^ 64` and fit into `int32`s are the net. -/
theorem sum_planScores {values : Fin 4 → Int64} {scores : Fin 4 → Int32} {w : Fin 4 → ℤ}
    (hvalues : ∀ seat, values seat = Int64.ofInt (w seat)) (hw : ∑ seat, w seat = 0)
    (h : planScores values = .ok scores) : ∑ seat, (scores seat).toInt = 0 := by
  rw [planScores] at h
  split_ifs at h with hrange
  cases h
  have hscore : ∀ seat, ((values seat).toInt32).toInt = (values seat).toInt ∧
      -2 ^ 31 ≤ (values seat).toInt ∧ (values seat).toInt < 2 ^ 31 := by
    intro seat
    obtain ⟨hlow, hhigh⟩ := hrange seat
    rw [Int64.le_iff_toInt_le] at hlow hhigh
    have hlow : -2147483648 ≤ (values seat).toInt := hlow
    have hhigh : (values seat).toInt ≤ 2147483647 := hhigh
    rw [Int64.toInt_toInt32]
    refine ⟨Int.bmod_eq_of_le (by omega) (by omega), by omega, by omega⟩
  have hmod : ∀ seat, ∃ k : ℤ, (values seat).toInt = w seat + 2 ^ 64 * k := by
    intro seat
    rw [hvalues seat, Int64.toInt_ofInt]
    obtain ⟨k, hk⟩ := Int.dvd_bmod_sub_self (x := w seat) (m := Int64.size)
    have hk : (w seat).bmod Int64.size - w seat = 2 ^ 64 * k := hk
    exact ⟨k, by omega⟩
  simp only [Fin.sum_univ_four] at hw ⊢
  obtain ⟨k0, hk0⟩ := hmod 0
  obtain ⟨k1, hk1⟩ := hmod 1
  obtain ⟨k2, hk2⟩ := hmod 2
  obtain ⟨k3, hk3⟩ := hmod 3
  have h0 := hscore 0
  have h1 := hscore 1
  have h2 := hscore 2
  have h3 := hscore 3
  omega

/-! ### The players -/

section Players

variable {b : Battle}

/-- The four players of a Battle can be told apart. -/
structure Identified (b : Battle) (userIDs : Fin 4 → ℕ) : Prop where
  seated : ∀ seat, b.bySeat seat ≠ [] ∧
    ∃ player, b.players.lookup (b.bySeat seat) = some player ∧ player.userID = userIDs seat
  pos : ∀ seat, userIDs seat ≠ 0
  injective : Function.Injective userIDs

theorem playerSeats_ok {userIDs : Fin 4 → ℕ} (h : Identified b userIDs) {seats : List (Fin 4)}
    (table : Table ℕ (Fin 4)) (hnodup : seats.Nodup)
    (hfresh : ∀ seat ∈ seats, table.lookup (userIDs seat) = none) :
    ∃ out, playerSeats b seats table = .ok out ∧ out.len = table.len + seats.length ∧
      (∀ seat ∈ seats, out.lookup (userIDs seat) = some seat) ∧
      ∀ seat ∉ seats, out.lookup (userIDs seat) = table.lookup (userIDs seat) := by
  induction seats generalizing table with
  | nil => exact ⟨table, rfl, rfl, nofun, fun _ _ => rfl⟩
  | cons seat rest ih =>
    obtain ⟨hnone, hrest⟩ := List.forall_mem_cons.mp hfresh
    obtain ⟨hout, hnodup⟩ := List.nodup_cons.mp hnodup
    obtain ⟨hname, player, hplayer, huser⟩ := h.seated seat
    have hlookup : ∀ other, AList.lookup (userIDs other) (table.insert (userIDs seat) seat) =
        if other = seat then some seat else table.lookup (userIDs other) := by
      intro other
      rw [Table.lookup_insert_ite]
      exact if_congr h.injective.eq_iff rfl rfl
    obtain ⟨out, hok, hlen, hin, hothers⟩ := ih (table.insert (userIDs seat) seat) hnodup
      fun other hmem => (hlookup other).trans
        ((if_neg fun heq : other = seat => hout (heq ▸ hmem)).trans (hrest other hmem))
    refine ⟨out, ?_, ?_, ?_, ?_⟩
    · rw [playerSeats, hplayer]
      dsimp only
      rw [if_neg hname, huser, if_neg (h.pos seat), hnone, if_neg (by simp), hok]
    · have herase := table.len_erase (userIDs seat)
      rw [hnone, Option.elim_none] at herase
      rw [hlen, Table.len_insert, List.length_cons]
      omega
    · rw [List.forall_mem_cons]
      refine ⟨?_, hin⟩
      rw [hothers seat hout, hlookup, if_pos rfl]
    · intro other hother
      rw [List.mem_cons, not_or] at hother
      rw [hothers other hother.2, hlookup, if_neg hother.1]

theorem readPlayers_ok {table : Table ℕ (Fin 4)} {players : List SettlementPlayerResult}
    (seen : List ℕ) (plan : SettlementPlan)
    (hplayers : ∀ p ∈ players, ∃ seat, table.lookup p.playerID = some seat ∧ p.teamID = seat.val)
    (hnodup : (players.map (·.playerID)).Nodup) (hseen : ∀ p ∈ players, p.playerID ∉ seen) :
    ∃ seen' plan', readPlayers table players seen plan = .ok (seen', plan') ∧
      seen'.length = seen.length + players.length ∧ plan'.failed = plan.failed := by
  induction players generalizing seen plan with
  | nil => exact ⟨seen, plan, rfl, rfl, rfl⟩
  | cons p rest ih =>
    obtain ⟨⟨seat, hseat, hteam⟩, hrest⟩ := List.forall_mem_cons.mp hplayers
    obtain ⟨hnew, hlater⟩ := List.forall_mem_cons.mp hseen
    obtain ⟨hid, hnodup⟩ := List.nodup_cons.mp hnodup
    rw [readPlayers, hseat]
    simp only [hteam, ne_eq, not_true, if_false, hnew]
    obtain ⟨seen', plan', hok, hlen, hfailed⟩ := ih (p.playerID :: seen) _ hrest hnodup
      fun other hmem hin => by
        obtain heq | hin := List.mem_cons.mp hin
        · exact hid (List.mem_map.mpr ⟨other, hmem, heq⟩)
        · exact hlater other hmem hin
    refine ⟨seen', plan', hok, ?_, hfailed⟩
    rw [hlen, List.length_cons, List.length_cons]
    omega

/-- The user IDs of the four players. -/
def Battle.userIDs (b : Battle) (seat : Fin 4) : ℕ := b.userID (b.bySeat seat)

theorem identified_of_reachable (h : battles.Reachable b) (hphase : b.phase = .awaitingSettlement)
    (hdistinct : Function.Injective b.userIDs) : Identified b b.userIDs := by
  have hfour := (Battle.standing_of_reachable h).four (.inr hphase)
  have hseated := (conserved_of_reachable h).seated
  have huser : ∀ seat, ∃ player, b.players.lookup (b.bySeat seat) = some player ∧
      player.userID = b.userIDs seat := by
    intro seat
    obtain ⟨player, hplayer, -⟩ := hseated seat (hfour seat)
    refine ⟨player, hplayer, ?_⟩
    rw [Battle.userIDs, Battle.userID, hplayer]
    rfl
  refine ⟨fun seat => ⟨hfour seat, huser seat⟩, fun seat => ?_, hdistinct⟩
  obtain ⟨player, hplayer, heq⟩ := huser seat
  rw [← heq]
  exact Battle.named_of_reachable h _ player hplayer

/-- The loop over the seats gets to the end only if the user IDs are different. -/
theorem nodup_of_playerSeats {seats : List (Fin 4)} {table out : Table ℕ (Fin 4)}
    (h : playerSeats b seats table = .ok out) :
    (seats.map b.userIDs).Nodup ∧ ∀ seat ∈ seats, table.lookup (b.userIDs seat) = none := by
  induction seats generalizing table with
  | nil => exact ⟨.nil, nofun⟩
  | cons seat rest ih =>
    rw [playerSeats] at h
    split at h
    · cases h
    next player hplayer =>
    split_ifs at h with hname hzero htaken
    obtain ⟨hnodup, hfresh⟩ := ih h
    have huser : b.userIDs seat = player.userID := by
      rw [Battle.userIDs, Battle.userID, hplayer]
      rfl
    have hother : ∀ other ∈ rest, b.userIDs other ≠ player.userID ∧
        table.lookup (b.userIDs other) = none := by
      intro other hmem
      have hnone := hfresh other hmem
      rw [Table.lookup_insert_ite] at hnone
      split_ifs at hnone with heq
      exact ⟨heq, hnone⟩
    refine ⟨List.nodup_cons.mpr ⟨fun hmem => ?_, hnodup⟩,
      List.forall_mem_cons.mpr ⟨?_, fun other hmem =>
      (hother other hmem).2⟩⟩
    · obtain ⟨other, hmem, heq⟩ := List.mem_map.mp hmem
      exact (hother other hmem).1 (heq.trans huser)
    · rw [huser]
      simpa using htaken

/-- The loop over the seats gets to the end when four players are seated. -/
theorem writeAccounts_end (plan : SettlementPlan) (seats : List (Fin 4)) (ledger : Ledger)
    (h : ∀ seat, ledger.battle.bySeat seat ≠ [] ∧
      (ledger.battle.players.lookup (ledger.battle.bySeat seat)).isSome) :
    (writeAccounts plan seats ledger).2 = true := by
  induction seats generalizing ledger with
  | nil => rfl
  | cons seat rest ih =>
    rw [writeAccounts, if_neg]
    · exact ih _ h
    · rintro (hname | hnone)
      · exact (h seat).1 hname
      · rw [Option.isNone_iff_eq_none] at hnone
        exact absurd (hnone ▸ (h seat).2) nofun

end Players

/-! ### The round trip -/

/-- What is true of the payments of a result, which is one of 64. -/
theorem payments_of_decided : ∀ result ∈ [SubgameResult.single, .double], ∀ winner < 2,
    ∀ automated : Fin 4 → Bool,
    let multiples := subgameMultiples winner result.unit automated
    let gains := matrixGains (scoreMatrix result winner multiples)
    ∑ seat, (multiples seat).toInt = 0 ∧
      (∀ gain ∈ gains, gain.Valid ∧ gain.payTeamID % 2 ≠ gain.gainTeamID % 2) ∧
      (gains.map (·.key)).Nodup ∧ ∀ seat, net gains seat = (multiples seat).toInt := by
  decide +kernel

theorem payments_of_result {ranks : Fin 4 → UInt8} {points : Fin 4 → UInt16}
    {automated : Fin 4 → Bool}
    {r : SubgameResultSnapshot} (hr : calculateSubgameResult .success ranks points automated = r) :
    ∑ seat, (r.multiples seat).toInt = 0 ∧
      (∀ gain ∈ matrixGains (resultScoreMatrix r),
        gain.Valid ∧ gain.payTeamID % 2 ≠ gain.gainTeamID % 2) ∧
      ((matrixGains (resultScoreMatrix r)).map (·.key)).Nodup ∧
      ∀ seat, net (matrixGains (resultScoreMatrix r)) seat = (r.multiples seat).toInt := by
  obtain ⟨hresult, hwinner⟩ :=
    decideSubgame_cases (fun seat => if ranks seat = 0 then 4 else ranks seat) points
  have hmem : r.result ∈ [SubgameResult.single, .double] := by
    rw [← hr]
    change (decideSubgame _ points).1 ∈ _
    generalize (decideSubgame _ points).1 = result at hresult
    cases result <;> simp at hresult ⊢
  have hmultiples : r.multiples = subgameMultiples r.winningTeam r.result.unit automated := by
    rw [← hr]
    rfl
  have hfacts :=
    payments_of_decided r.result hmem r.winningTeam (by rw [← hr]; exact hwinner) automated
  rw [resultScoreMatrix, hmultiples]
  exact hfacts

variable {b : Battle} {request : CompleteSettlementRequest}

/-- An acknowledgement of the payments of a result. -/
theorem settlementPlan_ok {userIDs : Fin 4 → ℕ} (h : Identified b userIDs)
    {multiples : Fin 4 → Int32} (hvalid : ∀ gain ∈ gains, gain.Valid)
    (hkeys : (gains.map (·.key)).Nodup) (hnet : ∀ seat, net gains seat = (multiples seat).toInt)
    (hsuccess : request.success = true)
    (hteams : request.teamCount = 4) (hgains : request.gains.Perm gains)
    (hplayers : (request.players.map fun p => (p.playerID, p.teamID)).Perm
      ((List.finRange 4).map fun seat => (userIDs seat, seat.val))) :
    ∃ plan, settlementPlan b request = .ok plan ∧ plan.scores = multiples ∧
    plan.failed = false := by
  have hcount : request.players.length = 4 := by simpa using hplayers.length_eq
  obtain ⟨seats, hseats, hlen, hlookup, -⟩ := playerSeats_ok h ∅ (List.nodup_finRange 4)
    fun _ _ => rfl
  have hids : (request.players.map (·.playerID)).Nodup := by
    have hperm := hplayers.map Prod.fst
    rw [List.map_map, List.map_map] at hperm
    exact hperm.nodup_iff.mpr ((List.nodup_finRange 4).map h.injective)
  have hread : ∀ p ∈ request.players, ∃ seat, seats.lookup p.playerID = some seat ∧
      p.teamID = seat.val := by
    intro p hp
    obtain ⟨seat, hmem, heq⟩ := List.mem_map.mp (hplayers.subset (List.mem_map_of_mem hp))
    obtain ⟨hid, hteam⟩ := Prod.mk.inj heq
    exact ⟨seat, hid ▸ hlookup seat hmem, hteam.symm⟩
  obtain ⟨seen, plan, hok, hseen, hfailed⟩ := readPlayers_ok [] {} hread hids
    fun _ _ => List.not_mem_nil
  obtain ⟨values, hvalues⟩ := readGains_ok [] (fun _ => 0)
    (fun gain hg => hvalid gain (hgains.subset hg)) ((hgains.map _).nodup_iff.mpr hkeys)
    fun _ _ => List.not_mem_nil
  have hscores : planScores values = .ok multiples := by
    have hvalue : ∀ seat, values seat = (multiples seat).toInt64 := by
      intro seat
      rw [(readGains_eq hvalues).2, net_perm hgains, hnet, Int64.ofInt_int32ToInt, Int64.zero_add]
    rw [planScores, if_pos]
    · refine congrArg Except.ok (funext fun seat => ?_)
      rw [hvalue, Int32.toInt32_toInt64]
    · intro seat
      rw [hvalue, Int64.le_iff_toInt_le, Int64.le_iff_toInt_le, Int32.toInt_toInt64]
      exact ⟨Int32.le_toInt _, Int.le_of_lt_add_one (Int32.toInt_lt _)⟩
  refine ⟨{ plan with scores := multiples }, ?_, rfl, hfailed⟩
  rw [settlementPlan, if_neg (by simp [hsuccess]), if_neg (by simp [hteams, hcount])]
  have hfull : seen.length = seats.len := by
    rw [hseen, hlen, hcount]
    rfl
  simp only [hseats, hok, hvalues, hscores, hfull, bind, Except.bind, ne_eq, not_true, if_false]

/-- A success is acknowledged only if the user IDs are different. -/
theorem injective_of_settlementPlan {plan : SettlementPlan} (hsuccess : request.success = true)
    (h : settlementPlan b request = .ok plan) : Function.Injective b.userIDs := by
  rw [settlementPlan, if_neg (by simp [hsuccess])] at h
  split at h
  · cases h
  simp only [bind, Except.bind] at h
  split at h
  · cases h
  next seats hseats =>
    intro s s' heq
    exact List.inj_on_of_nodup_map (nodup_of_playerSeats hseats).1 (List.mem_finRange s)
      (List.mem_finRange s') heq

theorem sum_settlementPlan {plan : SettlementPlan} (h : settlementPlan b request = .ok plan) :
    ∑ seat, (plan.scores seat).toInt = 0 := by
  rw [settlementPlan] at h
  split at h
  · cases h
    rfl
  split at h
  · cases h
  simp only [bind, Except.bind] at h
  split at h
  · cases h
  split at h
  · cases h
  split at h
  · cases h
  split at h
  · cases h
  next values hvalues =>
    split at h
    · cases h
    next scores hscores =>
      cases h
      obtain ⟨hvalid, hout⟩ := readGains_eq hvalues
      refine sum_planScores (fun seat => ?_) (sum_net hvalid) hscores
      rw [hout, Int64.zero_add]

theorem completeSettlement_rejected {ledger : Ledger} (h : battles.Reachable ledger.battle)
    {waits : Bool} {stat : List Text}
    (hrejected : (completeSettlement ledger request waits stat).2.accepted = false) :
    (completeSettlement ledger request waits stat).1 = ledger := by
  rw [completeSettlement] at hrejected ⊢
  split_ifs at hrejected ⊢ with hphase
  · rfl
  · split at hrejected
    next => rfl
    next plan hplan =>
      have hseats : ∀ seat, ledger.battle.bySeat seat ≠ [] ∧
          (ledger.battle.players.lookup (ledger.battle.bySeat seat)).isSome := by
        intro seat
        have hname := (Battle.standing_of_reachable h).four (.inr (not_not.mp hphase)) seat
        obtain ⟨player, hplayer, -⟩ := (conserved_of_reachable h).seated seat hname
        exact ⟨hname, hplayer ▸ rfl⟩
      have hend := writeAccounts_end plan (List.finRange 4) ledger hseats
      split at hrejected
      next written hwritten => exact absurd (hwritten ▸ hend) nofun
      next => cases hrejected

/-- **The settlement round trip.** The multiples of a result sum to zero and its payments are
positive, from one team to the other and at most one from a seat to a seat. An acknowledgement that
returns them in any order, with the four players, is accepted and gives the multiples back exactly
if the four user IDs are different. Scores that are accepted sum to zero, and a rejection leaves the
Battle as it is. -/
theorem settlement_round_trip (ranks : Fin 4 → UInt8) (points : Fin 4 → UInt16)
    (automated : Fin 4 → Bool) :
    let r := calculateSubgameResult .success ranks points automated
    ∑ seat, (r.multiples seat).toInt = 0 ∧
    (∀ userIDs, (∀ gain ∈ (buildSettlementRequest r userIDs).gains,
        0 < gain.score ∧ gain.payTeamID < 4 ∧ gain.gainTeamID < 4 ∧
          gain.payTeamID % 2 ≠ gain.gainTeamID % 2) ∧
      ((buildSettlementRequest r userIDs).gains.map (·.key)).Nodup) ∧
    (∀ b : Battle, battles.Reachable b → b.phase = .awaitingSettlement →
      ∀ request : CompleteSettlementRequest, request.success = true → request.teamCount = 4 →
      request.gains.Perm (buildSettlementRequest r b.userIDs).gains →
      (request.players.map fun p => (p.playerID, p.teamID)).Perm
        ((buildSettlementRequest r b.userIDs).players.map fun p => (p.playerID, p.teamID)) →
      ((∃ plan, settlementPlan b request = .ok plan ∧ plan.scores = r.multiples ∧
        plan.failed = false) ↔ Function.Injective b.userIDs)) ∧
    (∀ (b : Battle) request plan, settlementPlan b request = .ok plan →
      ∑ seat, (plan.scores seat).toInt = 0) ∧
    ∀ (ledger : Ledger) request waits stat, battles.Reachable ledger.battle →
      (completeSettlement ledger request waits stat).2.accepted = false →
      (completeSettlement ledger request waits stat).1 = ledger := by
  intro r
  obtain ⟨hsum, hgains, hkeys, hnet⟩ := payments_of_result (r := r) rfl
  clear_value r
  refine ⟨hsum, fun userIDs => ⟨fun gain hgain => ?_, hkeys⟩, ?_, ?_, ?_⟩
  · obtain ⟨⟨hpos, hpay, hto, -⟩, hteams⟩ := hgains gain hgain
    exact ⟨hpos, hpay, hto, hteams⟩
  · intro b h hphase request hsuccess hteams hperm hplayers
    constructor
    · rintro ⟨plan, hplan, -⟩
      exact injective_of_settlementPlan hsuccess hplan
    · intro hdistinct
      rw [buildSettlementRequest, List.map_map] at hplayers
      exact settlementPlan_ok (identified_of_reachable h hphase hdistinct)
        (fun gain hg => (hgains gain hg).1) hkeys hnet hsuccess hteams hperm hplayers
  · exact fun b request plan => sum_settlementPlan
  · exact fun ledger request waits stat h => completeSettlement_rejected h

/-- The Commands of a whole subgame, for four players with these user IDs. -/
def pairSubgame (userID : ℕ → ℕ) : List Action :=
  [⟨.initializeBattle true ⟨0, true, false⟩, none, false, 0⟩,
    ⟨.updatePlayers (fourPlayers.map fun u => { u with userID := userID u.seatID }), none,
      false, 0⟩,
    ⟨.prepare 1 1, none, false, 0⟩, ⟨.start 0 [], none, false, 0⟩] ++ pairGame

/-- The acknowledgement that returns what a Battle has asked for. -/
def acknowledge (b : Battle) : CompleteSettlementRequest :=
  let sent :=
    buildSettlementRequest (calculateSubgameResult .success (fun seat => UInt8.ofNat (b.ranks seat))
    (fun seat => UInt16.ofNat (b.capturedPoints seat)) fun _ => false) b.userIDs
  ⟨true, 4, sent.gains, sent.players⟩

/-- What `settlementPlan` says about it. -/
def rejectsTwins (b : Battle) : Bool :=
  match settlementPlan b (acknowledge b) with
  | .error .duplicateIdentity => true
  | _ => false

/-- **Two players with one user ID.** A Battle accepts them, plays a subgame, and then rejects the
acknowledgement that returns what it has asked for. -/
theorem twins_rejected : ∃ b, battles.Reachable b ∧ b.phase = .awaitingSettlement ∧
    settlementPlan b (acknowledge b) = .error .duplicateIdentity := by
  obtain ⟨b, h, hp⟩ := battles.exists_reachableUnder_of_run (fun _ _ => True)
    (s := { isNewbie := false }) (pairSubgame fun seat => seat / 2 + 1)
    (fun b => decide (b.phase = .awaitingSettlement ∧ rejectsTwins b = true)) ⟨false, false, rfl⟩
    (by decide +kernel)
  obtain ⟨hphase, hrejects⟩ := of_decide_eq_true hp
  refine ⟨b, h, hphase, ?_⟩
  unfold rejectsTwins at hrejects
  split at hrejects
  · assumption
  · cases hrejects

theorem settlement_round_trip_pairs : ∃ b, battles.Reachable b ∧ b.phase = .awaitingSettlement ∧
    ∃ plan, settlementPlan b (acknowledge b) = .ok plan := by
  obtain ⟨b, h⟩ := pairs_reachable
  obtain ⟨-, -, hround, -⟩ := settlement_round_trip (fun seat => UInt8.ofNat (b.ranks seat))
    (fun seat => UInt16.ofNat (b.capturedPoints seat)) fun _ => false
  obtain ⟨plan, hplan, -⟩ := (hround b h.reachable h.phase_eq (acknowledge b) rfl rfl (.refl _)
    (.refl _)).mpr fun s s' => h.distinct s s'
  exact ⟨b, h.reachable, h.phase_eq, plan, hplan⟩

end GameServiceRuntime.Nhsk
