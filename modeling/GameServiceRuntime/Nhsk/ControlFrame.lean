import GameServiceRuntime.Lib.Reader
import GameServiceRuntime.Lib.Text
import Mathlib.Data.List.DropRight

/-!
# Control frames

`legacywire/control.go`: the frames that a GameMaster sends. A frame has a fixed part, laid out by
its message type, and after it the variable-length fields. The fixed part has a suffix index for
each of them: an offset and a size, both chosen by the sender.

The decoder checks that a region lies in the frame and that it starts late enough. For a settlement
acknowledgement, "late enough" for the results is the end of their own index at 59 and not the end
of the fixed part at 67, so the results may be read from the index of the players: see
`results_read_from_index`.

An `int` has 64 bits, and so have the sums that the checks compute; they are sums of natural numbers
here. The bounds of a slice are computed in 32 bits.

A definition without a text of its own has the name of what it models.
-/

namespace GameServiceRuntime.Nhsk.LegacyWire

open ReadFault Reader

/-! ### Reading numbers -/

/-- What a decoder returns: a value, an error, or a panic. -/
abbrev Decoded (α : Type) := Except (ReadFault String) α

/-- `binary.LittleEndian` of a slice. -/
def littleEndian (bs : Text) : ℕ := value bs.reverse

/-- `binary.LittleEndian.Uint16(data[at:at+2])` -/
def uint16At (data : Text) (i : ℕ) : Decoded UInt16 := do
  return .ofNat (littleEndian (← slice data i (i + 2)))

/-- `binary.LittleEndian.Uint32(data[at:at+4])` -/
def uint32At (data : Text) (i : ℕ) : Decoded UInt32 := do
  return .ofNat (littleEndian (← slice data i (i + 4)))

/-- `int32(binary.LittleEndian.Uint32(data[at:at+4]))` -/
def int32At (data : Text) (i : ℕ) : Decoded Int32 := do
  return (← uint32At data i).toInt32

/-- `data[at]` -/
def byteAt (data : Text) (i : ℕ) : Decoded UInt8 :=
  match data[i]? with
  | some b => .ok b
  | none => .error .outOfRange

def trimZero (data : Text) : Text := data.rdropWhile (· = 0)

/-! ### The header -/

def headerSize : ℕ := 24

def maxFrameSize : ℕ := 8 * 1024

structure BsHeader where
  magic : UInt32
  serial : UInt32
  origin : UInt16
  reserve : UInt16
  type : UInt32
  param : UInt32
  length : UInt32

def decodeHeader (data : Text) : Decoded BsHeader := do
  require (headerSize ≤ data.length) "legacywire: short BSHeader"
  return {
    magic := ← uint32At data 0
    serial := ← uint32At data 4
    origin := ← uint16At data 8
    reserve := ← uint16At data 10
    type := ← uint32At data 12
    param := ← uint32At data 16
    length := ← uint32At data 20 }

/-! ### The messages -/

def messageGM2GLInitGame : UInt32 := 0x8600
def messageGM2GLUpdatePlayer : UInt32 := 0x8601
def messageGM2GLCommand : UInt32 := 0x8602
def messageGM2GLChangeSeat : UInt32 := 0x8603
def messageGM2GLUpdateGame : UInt32 := 0x8604
def messageGM2GLGameMessage : UInt32 := 0x8605
def messageGM2GLPlayerExit : UInt32 := 0x8606
def messageGM2GLReplayMove : UInt32 := 0x8607
def messageGM2GLPlayerMoneyLimit : UInt32 := 0x8608
def messageGM2GLChangeRound : UInt32 := 0x8609
def messageGM2GLWithholdMoney : UInt32 := 0x860a
def messageGM2GLWithholdRefund : UInt32 := 0x860b
def messageGM2GLTakePoints : UInt32 := 0x860c
def messageGM2GLStartNewGame : UInt32 := 0x860d
def messageGM2GLDelOneGame : UInt32 := 0x860e
def messageGM2GLDress : UInt32 := 0x8610
def messageGM2GLNewGame : UInt32 := 0x86c1
def messageGM2GLDeleteGame : UInt32 := 0x86c2
def messageGM2GLSettlementAck : UInt32 := 0x80008650

def controlGLHeaderSize : ℕ := 34

def controlSuffixSize : ℕ := 8

def controlPlayerSize : ℕ := 90

def settlementGainSize : ℕ := 12

def settlementPlayerResultSize : ℕ := 20

inductive ControlKind
  | newGame
  | initGame
  | updatePlayers
  | command
  | updateGame
  | startNewGame
  | dress
  | playerExit
  | deleteGame
  | settlementAck
  | unsupported
  deriving DecidableEq

structure LegacyPlayer where
  userID : UInt32
  clientID : UInt32
  connectionID : UInt32
  seatID : UInt8
  score : Int32
  flag : UInt32
  isAI : Bool
  scoreChangeReason : Int32
  playerState : Int32
  playerFlag : Int32
  scoreChange : Int32
  exp : Int32
  nickname : Text

structure LegacySettlementGain where
  payTeamID : UInt32
  gainTeamID : UInt32
  score : Int32
  deriving DecidableEq

structure LegacySettlementPlayerResult where
  playerID : UInt32
  flag : Int32
  score : Int32
  exp : Int32
  teamID : UInt32

/-- The variable-length fields of a `LegacyControl`. -/
structure Suffixes where
  baseRule : Text := []
  gameRule : Text := []
  matchName : Text := []
  roundUniCode : Text := []
  players : List LegacyPlayer := []
  roomInfo : Text := []
  dress : Text := []
  resultDetails : List LegacySettlementGain := []
  playerResults : List LegacySettlementPlayerResult := []

/-- `LegacyControl`, with its variable-length fields together. -/
structure LegacyControl extends Suffixes where
  /-- of no use before a message type has set it -/
  kind : ControlKind := .unsupported
  type : UInt32 := 0
  battleID : UInt32 := 0
  userID : UInt32 := 0
  productID : UInt32 := 0
  gameID : UInt32 := 0
  isNewbie : Bool := false
  matchID : UInt32 := 0
  roundID : UInt32 := 0
  maxGameNum : UInt32 := 0
  maxSubgameNum : UInt32 := 0
  fee : Int32 := 0
  scoreBase : Int32 := 0
  scoreDenominator : Int32 := 0
  gameType : UInt32 := 0
  scoreType : Int32 := 0
  scoreMode : Int32 := 0
  roomID : UInt32 := 0
  creatorID : UInt32 := 0
  createTime : UInt32 := 0
  gameNum : UInt32 := 0
  subgameNum : UInt32 := 0
  secRoundTotal : UInt32 := 0
  secRoundUsed : UInt32 := 0
  forceExit : UInt8 := 0
  command : Int32 := 0
  settlementSuccess : Bool := false
  resultType : Int32 := 0
  resultCount : Int32 := 0
  playerCount : Int32 := 0
  teamCount : Int32 := 0

/-! ### Suffixes -/

def readSuffixIndex (data : Text) (indexOffset fixed : ℕ) : Decoded (UInt32 × UInt32) := do
  require (indexOffset + controlSuffixSize ≤ data.length) "legacywire: suffix index outside frame"
  let offset ← uint32At data indexOffset
  let size ← uint32At data (indexOffset + 4)
  require (offset.toNat + size.toNat ≤ data.length ∧ fixed ≤ offset.toNat)
    "legacywire: suffix boundary"
  return (offset, size)

/-- `data[int(offset):int(offset+size)]` -/
def suffix (data : Text) (offset size : UInt32) : Decoded Text :=
  slice data offset.toNat (offset + size).toNat

def suffixBytes (data : Text) (indexOffset fixed : ℕ) : Decoded Text := do
  let (offset, size) ← readSuffixIndex data indexOffset fixed
  require (offset.toNat + size.toNat = data.length) "legacywire: suffix boundary"
  suffix data offset size

def suffixString (data : Text) (indexOffset fixed : ℕ) : Decoded Text := do
  return trimZero (← suffixBytes data indexOffset fixed)

def allZero (data : Text) : Bool := data.all (· = 0)

def decodeInitRuleSuffixes (data : Text) : Decoded (Text × Text × Text) := do
  if allZero (← slice data 68 92) then
    return ([], [], [])
  let (baseOffset, baseSize) ← readSuffixIndex data 68 144
  let (gameOffset, gameSize) ← readSuffixIndex data 76 144
  let (matchOffset, matchSize) ← readSuffixIndex data 84 144
  let (roundOffset, _) ← readSuffixIndex data 136 144
  require (baseOffset = 144 ∧ baseOffset.toNat + baseSize.toNat = gameOffset.toNat ∧
      gameOffset.toNat + gameSize.toNat = matchOffset.toNat ∧
      matchOffset.toNat + matchSize.toNat = roundOffset.toNat)
    "legacywire: INIT_GAME suffix boundary"
  let baseRule := trimZero (← suffix data baseOffset baseSize)
  let gameRule := trimZero (← suffix data gameOffset gameSize)
  let matchName := trimZero (← suffix data matchOffset matchSize)
  return (baseRule, gameRule, matchName)

/-! ### Records -/

def decodeLegacyPlayer (data : Text) : Decoded LegacyPlayer := do
  return {
    userID := ← uint32At data 0
    clientID := ← uint32At data 4
    connectionID := ← uint32At data 8
    seatID := ← byteAt data 12
    score := ← int32At data 13
    flag := ← uint32At data 17
    isAI := (← byteAt data 21) ≠ 0
    scoreChangeReason := ← int32At data 22
    playerState := ← int32At data 26
    playerFlag := ← int32At data 30
    scoreChange := ← int32At data 34
    exp := ← int32At data 38
    nickname := trimZero (← slice data 42 90) }

/-- The loop over the players of an UPDATE_PLAYER. -/
def decodePlayers (suffix : Text) (count : ℕ) : Decoded (List LegacyPlayer) :=
  (List.range count).mapM fun index => do
    decodeLegacyPlayer
      (← slice suffix (index * controlPlayerSize) ((index + 1) * controlPlayerSize))

/-- The loop over the results of a settlement. -/
def decodeResultDetails (suffix : Text) (count : ℕ) : Decoded (List LegacySettlementGain) :=
  (List.range count).mapM fun index => do
    let offset := index * settlementGainSize
    return {
      payTeamID := ← uint32At suffix offset
      gainTeamID := ← uint32At suffix (offset + 4)
      score := ← int32At suffix (offset + 8) }

/-- The loop over the players of a settlement. -/
def decodePlayerResults (suffix : Text) (count : ℕ) : Decoded (List LegacySettlementPlayerResult) :=
  (List.range count).mapM fun index => do
    let offset := index * settlementPlayerResultSize
    return {
      playerID := ← uint32At suffix offset
      flag := ← int32At suffix (offset + 4)
      score := ← int32At suffix (offset + 8)
      exp := ← int32At suffix (offset + 12)
      teamID := ← uint32At suffix (offset + 16) }

/-! ### The cases of `DecodeControl` -/

/-- The error of a frame whose length does not fit its message type. -/
def lengthErr (message : String) (data : Text) : String :=
  "legacywire: " ++ message ++ " length " ++ toString data.length

/-- `messageGM2GLNewGame` -/
def decodeNewGame (data : Text) (control : LegacyControl) : Decoded LegacyControl := do
  require (data.length = 44) (lengthErr "NEW_GAME" data)
  return { control with
    kind := .newGame
    battleID := ← uint32At data 24
    productID := ← uint32At data 28
    isNewbie := (← uint32At data 32) ≠ 0
    gameID := ← uint32At data 40 }

/-- `messageGM2GLDeleteGame` -/
def decodeDeleteGame (data : Text) (control : LegacyControl) : Decoded LegacyControl := do
  require (data.length = 28) (lengthErr "DEL_GAME" data)
  return { control with kind := .deleteGame, battleID := ← uint32At data 24 }

/-- `messageGM2GLInitGame` -/
def decodeInitGame (data : Text) (control : LegacyControl) : Decoded LegacyControl := do
  require (144 ≤ data.length) (lengthErr "INIT_GAME" data)
  let control := { control with
    kind := .initGame
    productID := ← uint32At data 34
    matchID := ← uint32At data 46
    roundID := ← uint32At data 56
    gameID := ← uint32At data 64
    gameType := ← uint32At data 92
    scoreType := ← int32At data 96
    scoreMode := ← int32At data 100
    fee := ← int32At data 104
    scoreBase := ← int32At data 108
    scoreDenominator := ← int32At data 112
    maxGameNum := ← uint32At data 116
    maxSubgameNum := ← uint32At data 120
    roomID := ← uint32At data 124
    creatorID := ← uint32At data 128
    createTime := ← uint32At data 132 }
  let (baseRule, gameRule, matchName) ← decodeInitRuleSuffixes data
  let roundUniCode ← suffixString data 136 144
  return { control with baseRule, gameRule, matchName, roundUniCode }

/-- `messageGM2GLUpdatePlayer` -/
def decodeUpdatePlayer (data : Text) (control : LegacyControl) : Decoded LegacyControl := do
  require (46 ≤ data.length) (lengthErr "UPDATE_PLAYER" data)
  let count ← uint32At data 34
  let suffix ← orFail (suffixBytes data 38 46) "legacywire: UPDATE_PLAYER players"
  require (count.toNat ≤ (maxFrameSize - 46) / controlPlayerSize ∧
      count.toNat * controlPlayerSize = suffix.length) "legacywire: UPDATE_PLAYER players"
  return { control with kind := .updatePlayers, players := ← decodePlayers suffix count.toNat }

/-- `messageGM2GLCommand` -/
def decodeCommand (data : Text) (control : LegacyControl) : Decoded LegacyControl := do
  require (data.length = 38) (lengthErr "COMMAND" data)
  return { control with kind := .command, command := ← int32At data 34 }

/-- `messageGM2GLUpdateGame` -/
def decodeUpdateGame (data : Text) (control : LegacyControl) : Decoded LegacyControl := do
  require (data.length = 42) (lengthErr "UPDATE_GAME" data)
  return { control with
    kind := .updateGame
    gameNum := ← uint32At data 34
    subgameNum := ← uint32At data 38 }

/-- `messageGM2GLStartNewGame` -/
def decodeStartNewGame (data : Text) (control : LegacyControl) : Decoded LegacyControl := do
  require (50 ≤ data.length) (lengthErr "START_NEW_GAME" data)
  return { control with
    kind := .startNewGame
    secRoundTotal := ← uint32At data 34
    secRoundUsed := ← uint32At data 38
    roomInfo := ← suffixString data 42 50 }

/-- `messageGM2GLDress` -/
def decodeDress (data : Text) (control : LegacyControl) : Decoded LegacyControl := do
  require (42 ≤ data.length) (lengthErr "DRESS" data)
  return { control with kind := .dress, dress := ← suffixString data 34 42 }

/-- `messageGM2GLPlayerExit` -/
def decodePlayerExit (data : Text) (control : LegacyControl) : Decoded LegacyControl := do
  require (data.length = 35) (lengthErr "PLAYER_EXIT" data)
  return { control with kind := .playerExit, forceExit := ← byteAt data 34 }

/-- `messageGM2GLSettlementAck` -/
def decodeSettlementAck (data : Text) (control : LegacyControl) : Decoded LegacyControl := do
  require (67 ≤ data.length) (lengthErr "settlement" data)
  let settlementSuccess := (← byteAt data 34) ≠ 0
  let resultType ← int32At data 35
  let resultCount ← int32At data 39
  let playerCount ← int32At data 43
  let teamCount ← int32At data 47
  let (resultOffset, resultSize) ← readSuffixIndex data 51 59
  let (playerOffset, playerSize) ← readSuffixIndex data 59 67
  require (resultOffset.toNat + resultSize.toNat = playerOffset.toNat)
    "legacywire: settlement result boundary"
  require (playerOffset.toNat + playerSize.toNat = data.length)
    "legacywire: settlement player boundary"
  let resultSuffix ← suffix data resultOffset resultSize
  let playerSuffix ← suffix data playerOffset playerSize
  require (0 ≤ resultCount.toInt ∧ 0 ≤ playerCount.toInt ∧
      resultCount.toInt.toNat * settlementGainSize = resultSuffix.length ∧
      playerCount.toInt.toNat * settlementPlayerResultSize = playerSuffix.length)
    "legacywire: settlement record count"
  let resultDetails ← decodeResultDetails resultSuffix resultCount.toInt.toNat
  let playerResults ← decodePlayerResults playerSuffix playerCount.toInt.toNat
  return { control with
    kind := .settlementAck
    settlementSuccess, resultType, resultCount, playerCount, teamCount, resultDetails,
    playerResults }

/-- The types that the first `switch` of `DecodeControl` ignores. -/
def ignored : List UInt32 :=
  [messageGM2GLChangeSeat, messageGM2GLReplayMove, messageGM2GLPlayerMoneyLimit,
    messageGM2GLChangeRound, messageGM2GLWithholdMoney, messageGM2GLWithholdRefund,
    messageGM2GLTakePoints, messageGM2GLDelOneGame, messageGM2GLGameMessage]

/-- The second `switch` of `DecodeControl`. -/
def decodeMessage (data : Text) (control : LegacyControl) : Decoded LegacyControl :=
  if control.type = messageGM2GLInitGame then decodeInitGame data control
  else if control.type = messageGM2GLUpdatePlayer then decodeUpdatePlayer data control
  else if control.type = messageGM2GLCommand then decodeCommand data control
  else if control.type = messageGM2GLUpdateGame then decodeUpdateGame data control
  else if control.type = messageGM2GLStartNewGame then decodeStartNewGame data control
  else if control.type = messageGM2GLDress then decodeDress data control
  else if control.type = messageGM2GLPlayerExit then decodePlayerExit data control
  else if control.type = messageGM2GLSettlementAck then decodeSettlementAck data control
  else .error (.failed ("legacywire: unsupported GameMaster control message: 0x" ++
    String.ofList (Nat.toDigits 16 control.type.toNat)))

/-- The part of `DecodeControl` after the first `switch`. -/
def decodeWithGLHeader (data : Text) (control : LegacyControl) : Decoded LegacyControl := do
  require (controlGLHeaderSize ≤ data.length) "legacywire: control GLHeader length"
  require ((← uint16At data 24).toNat = controlGLHeaderSize) "legacywire: control GLHeader length"
  decodeMessage data { control with battleID := ← uint32At data 26, userID := ← uint32At data 30 }

def decodeControl (data : Text) : Decoded LegacyControl := do
  require (headerSize ≤ data.length ∧ data.length ≤ maxFrameSize)
    ("legacywire: control frame length " ++ toString data.length)
  let header ← orFail (decodeHeader data) "legacywire: control header length"
  require (header.length.toNat = data.length) "legacywire: control header length"
  let control : LegacyControl := { type := header.type }
  if header.type = messageGM2GLNewGame then decodeNewGame data control
  else if header.type = messageGM2GLDeleteGame then decodeDeleteGame data control
  else if header.type ∈ ignored then return { control with kind := .unsupported }
  else decodeWithGLHeader data control

/-! ### Regions -/

/-- Bytes of a frame, from an offset on. -/
structure Region where
  offset : ℕ
  size : ℕ

namespace Region

def stop (r : Region) : ℕ := r.offset + r.size

def bytes (r : Region) (data : Text) : Text := (data.drop r.offset).take r.size

/-- The two have no byte in common. -/
def Apart (r r' : Region) : Prop := r.stop ≤ r'.offset ∨ r'.stop ≤ r.offset

theorem length_bytes {r : Region} {data : Text} (h : r.stop ≤ data.length) :
    (r.bytes data).length = r.size := by
  rw [stop] at h
  rw [bytes, List.length_take, List.length_drop]
  omega

end Region

/-- The four bytes at a position, as a number. -/
def word (data : Text) (i : ℕ) : UInt32 := .ofNat (littleEndian ((data.drop i).take 4))

/-- The region that the suffix index at a position names. -/
def region (data : Text) (i : ℕ) : Region := ⟨(word data i).toNat, (word data (i + 4)).toNat⟩

/-- The size of the fixed part of a message, with all its suffix indexes. -/
def fixedPart : ControlKind → ℕ
  | .newGame => 44
  | .initGame => 144
  | .updatePlayers => 46
  | .command => 38
  | .updateGame => 42
  | .startNewGame => 50
  | .dress => 42
  | .playerExit => 35
  | .deleteGame => 28
  | .settlementAck => 67
  | .unsupported => headerSize

/-- The three indexes of the rules are zero: there are no rules. -/
def noRules (data : Text) : Bool := allZero ((data.drop 68).take 24)

/-- Where the suffix indexes of a message are. -/
def suffixIndexes (data : Text) : ControlKind → List ℕ
  | .initGame => if noRules data then [136] else [68, 76, 84, 136]
  | .updatePlayers => [38]
  | .startNewGame => [42]
  | .dress => [34]
  | .settlementAck => [51, 59]
  | _ => []

/-- The regions of the variable-length fields. -/
def regions (data : Text) (kind : ControlKind) : List Region :=
  (suffixIndexes data kind).map (region data)

theorem suffixIndexes_fixed (data : Text) (kind : ControlKind) :
    ∀ i ∈ suffixIndexes data kind, i + controlSuffixSize ≤ fixedPart kind := by
  cases kind with
  | initGame =>
    rw [suffixIndexes]
    split <;> decide
  | _ => simp [suffixIndexes, fixedPart, controlSuffixSize]

/-- The text in the region of a suffix index. -/
def text (data : Text) (i : ℕ) : Text := trimZero ((region data i).bytes data)

/-- A region holds records of one size and nothing else. -/
def Records (r : Region) (recordSize count : ℕ) : Prop :=
  recordSize ∣ r.size ∧ count = r.size / recordSize

theorem Records.of_mul {r : Region} {recordSize count : ℕ} (hpos : 0 < recordSize)
    (h : count * recordSize = r.size) : Records r recordSize count :=
  ⟨⟨count, by rw [← h, Nat.mul_comm]⟩, by rw [← h, Nat.mul_div_cancel _ hpos]⟩

/-- Each variable-length field of the message is what the region of its index holds, and the message
has no other one. -/
def ReadFrom (data : Text) (control : LegacyControl) : Prop :=
  match control.kind with
  | .initGame =>
    control.toSuffixes =
      if noRules data then { roundUniCode := text data 136 }
      else { baseRule := text data 68, gameRule := text data 76, matchName := text data 84,
             roundUniCode := text data 136 }
  | .updatePlayers =>
    Records (region data 38) controlPlayerSize control.players.length ∧
      decodePlayers ((region data 38).bytes data) control.players.length = .ok control.players ∧
      control.toSuffixes = { players := control.players }
  | .startNewGame => control.toSuffixes = { roomInfo := text data 42 }
  | .dress => control.toSuffixes = { dress := text data 34 }
  | .settlementAck =>
    Records (region data 51) settlementGainSize control.resultDetails.length ∧
      Records (region data 59) settlementPlayerResultSize control.playerResults.length ∧
      control.resultCount.toInt = control.resultDetails.length ∧
      control.playerCount.toInt = control.playerResults.length ∧
      decodeResultDetails ((region data 51).bytes data) control.resultDetails.length =
        .ok control.resultDetails ∧
      decodePlayerResults ((region data 59).bytes data) control.playerResults.length =
        .ok control.playerResults ∧
      control.toSuffixes =
        { resultDetails := control.resultDetails, playerResults := control.playerResults }
  | _ => control.toSuffixes = {}

/-- What holds of an accepted frame with a message type. The results of a settlement are an
exception: they start after their own index, at 59 or later. -/
structure WellFormed (data : Text) (type : UInt32) (control : LegacyControl) : Prop where
  ack : control.kind = .settlementAck ↔ type = messageGM2GLSettlementAck
  readFrom : ReadFrom data control
  inside : ∀ r ∈ regions data control.kind, r.stop ≤ data.length
  after : ∀ r ∈ regions data control.kind,
    (control.kind = .settlementAck → 67 ≤ (region data 51).offset) →
    fixedPart control.kind ≤ r.offset
  apart : (regions data control.kind).Pairwise Region.Apart

/-! ### Reads inside the frame -/

section Reads

variable {data : Text} {i count : ℕ}

@[simp] theorem ok_bind {α β : Type} (a : α) (f : α → Decoded β) : (.ok a >>= f) = f a := rfl

theorem uint16At_eq (h : i + 2 ≤ data.length) :
    uint16At data i = .ok (.ofNat (littleEndian ((data.drop i).take 2))) := by
  simp [uint16At, slice_eq (Nat.le_add_right i 2) h, pure, Except.pure]

theorem uint32At_eq (h : i + 4 ≤ data.length) : uint32At data i = .ok (word data i) := by
  simp [uint32At, slice_eq (Nat.le_add_right i 4) h, word, pure, Except.pure]

theorem int32At_eq (h : i + 4 ≤ data.length) : int32At data i = .ok (word data i).toInt32 := by
  simp [int32At, uint32At_eq h, pure, Except.pure]

theorem byteAt_eq (h : i + 1 ≤ data.length) : byteAt data i = .ok (data.get ⟨i, h⟩) := by
  simp [byteAt, List.getElem?_eq_getElem h]

/-- A suffix index that has been accepted. -/
theorem readSuffixIndex_checked (data : Text) (i fixed : ℕ) :
    Checked (readSuffixIndex data i fixed) fun p =>
      p.1.toNat = (region data i).offset ∧ p.2.toNat = (region data i).size ∧
        (region data i).stop ≤ data.length ∧ fixed ≤ (region data i).offset := by
  rw [readSuffixIndex]
  refine Checked.require_bind fun hindex => ?_
  rw [controlSuffixSize] at hindex
  simp (disch := omega) only [uint32At_eq, ok_bind]
  refine Checked.require_bind fun hbound => ?_
  exact .pure ⟨rfl, rfl, hbound.1, hbound.2⟩

/-- The bounds of the slice do not wrap: the frame is short. -/
theorem suffix_eq {offset size : UInt32} (hlen : data.length ≤ maxFrameSize)
    (h : offset.toNat + size.toNat ≤ data.length) :
    suffix data offset size = .ok ((data.drop offset.toNat).take size.toNat) := by
  have hsum : (offset + size).toNat = offset.toNat + size.toNat := by
    rw [maxFrameSize] at hlen
    rw [UInt32.toNat_add, Nat.mod_eq_of_lt (by omega)]
  rw [suffix, slice_eq (by omega) (by omega), hsum, Nat.add_sub_cancel_left]

theorem suffix_region {offset size : UInt32} (hlen : data.length ≤ maxFrameSize)
    (hoffset : offset.toNat = (region data i).offset) (hsize : size.toNat = (region data i).size)
    (h : (region data i).stop ≤ data.length) :
    suffix data offset size = .ok ((region data i).bytes data) := by
  rw [suffix_eq hlen (by rw [hoffset, hsize]; exact h), hoffset, hsize, Region.bytes]

/-- A suffix that goes to the end of the frame. -/
theorem suffixBytes_checked {fixed : ℕ} (hlen : data.length ≤ maxFrameSize) :
    Checked (suffixBytes data i fixed) fun bs =>
      bs = (region data i).bytes data ∧ (region data i).stop = data.length ∧
        fixed ≤ (region data i).offset := by
  rw [suffixBytes]
  refine (readSuffixIndex_checked data i fixed).bind ?_
  rintro ⟨offset, size⟩ ⟨hoffset, hsize, hstop, hfixed⟩
  refine Checked.require_bind fun hend => ?_
  rw [suffix_region hlen hoffset hsize hstop]
  exact .ok ⟨rfl, by rw [Region.stop, ← hoffset, ← hsize]; exact hend, hfixed⟩

theorem suffixString_checked {fixed : ℕ} (hlen : data.length ≤ maxFrameSize) :
    Checked (suffixString data i fixed) fun t =>
      t = text data i ∧ (region data i).stop = data.length ∧ fixed ≤ (region data i).offset := by
  rw [suffixString]
  refine (suffixBytes_checked hlen).bind ?_
  rintro bs ⟨rfl, hstop, hfixed⟩
  exact .pure ⟨rfl, hstop, hfixed⟩

/-- The rules of an INIT_GAME: none, or three texts one after another that end where the next one
starts. -/
theorem decodeInitRuleSuffixes_checked (hlen : data.length ≤ maxFrameSize)
    (hmin : 144 ≤ data.length) : Checked (decodeInitRuleSuffixes data) fun rules =>
      if noRules data then rules = ([], [], [])
      else rules = (text data 68, text data 76, text data 84) ∧ (region data 68).offset = 144 ∧
        (region data 68).stop = (region data 76).offset ∧
        (region data 76).stop = (region data 84).offset ∧
        (region data 84).stop = (region data 136).offset := by
  rw [decodeInitRuleSuffixes, slice_eq (by omega) (by omega), ok_bind,
    show allZero ((data.drop 68).take (92 - 68)) = noRules data from rfl]
  by_cases hzero : noRules data = true
  · simp only [if_pos hzero]
    exact .pure rfl
  simp only [if_neg hzero]
  refine (readSuffixIndex_checked data 68 144).bind ?_
  rintro ⟨baseOffset, baseSize⟩ ⟨hbase, hbaseSize, hbaseStop, -⟩
  refine (readSuffixIndex_checked data 76 144).bind ?_
  rintro ⟨gameOffset, gameSize⟩ ⟨hgame, hgameSize, hgameStop, -⟩
  refine (readSuffixIndex_checked data 84 144).bind ?_
  rintro ⟨matchOffset, matchSize⟩ ⟨hmatch, hmatchSize, hmatchStop, -⟩
  refine (readSuffixIndex_checked data 136 144).bind ?_
  rintro ⟨roundOffset, roundSize⟩ ⟨hround, -, -, -⟩
  refine Checked.require_bind fun hbound => ?_
  obtain ⟨hfirst, hbaseGame, hgameMatch, hmatchRound⟩ := hbound
  simp only [suffix_region hlen hbase hbaseSize hbaseStop,
    suffix_region hlen hgame hgameSize hgameStop,
    suffix_region hlen hmatch hmatchSize hmatchStop, ok_bind]
  refine .pure ⟨rfl, ?_, ?_, ?_, ?_⟩
  · rw [← hbase, hfirst]
    rfl
  · rw [Region.stop, ← hbase, ← hbaseSize, ← hgame, hbaseGame]
  · rw [Region.stop, ← hgame, ← hgameSize, ← hmatch, hgameMatch]
  · rw [Region.stop, ← hmatch, ← hmatchSize, ← hround, hmatchRound]

theorem decodeLegacyPlayer_checked (h : data.length = controlPlayerSize) :
    Checked (decodeLegacyPlayer data) fun _ => True := by
  rw [controlPlayerSize] at h
  rw [decodeLegacyPlayer, slice_eq (by omega) (by omega)]
  simp (disch := omega) only [uint32At_eq, int32At_eq, byteAt_eq, ok_bind]
  exact .pure trivial

/-- A record of the loop lies in the suffix. -/
theorem record_le {index count recordSize length : ℕ} (hindex : index < count)
    (h : count * recordSize = length) : index * recordSize + recordSize ≤ length := by
  rw [← Nat.succ_mul, ← h]
  exact Nat.mul_le_mul_right recordSize hindex

theorem decodePlayers_checked (h : count * controlPlayerSize = data.length) :
    Checked (decodePlayers data count) fun players => players.length = count := by
  refine (Checked.mapM ?_).mono fun players hplayers => by rw [hplayers, List.length_range]
  intro index hindex
  have hrecord := record_le (List.mem_range.mp hindex) h
  rw [slice_eq (by rw [Nat.succ_mul]; omega) (by rw [Nat.succ_mul]; omega), ok_bind]
  refine decodeLegacyPlayer_checked ?_
  rw [List.length_take, List.length_drop, Nat.succ_mul]
  omega

theorem decodeResultDetails_checked (h : count * settlementGainSize = data.length) :
    Checked (decodeResultDetails data count) fun details => details.length = count := by
  refine (Checked.mapM ?_).mono fun details hdetails => by rw [hdetails, List.length_range]
  intro index hindex
  have hrecord := record_le (List.mem_range.mp hindex) h
  rw [settlementGainSize] at hrecord ⊢
  simp (disch := omega) only [uint32At_eq, int32At_eq, ok_bind]
  exact .pure trivial

theorem decodePlayerResults_checked (h : count * settlementPlayerResultSize = data.length) :
    Checked (decodePlayerResults data count) fun results => results.length = count := by
  refine (Checked.mapM ?_).mono fun results hresults => by rw [hresults, List.length_range]
  intro index hindex
  have hrecord := record_le (List.mem_range.mp hindex) h
  rw [settlementPlayerResultSize] at hrecord ⊢
  simp (disch := omega) only [uint32At_eq, int32At_eq, ok_bind]
  exact .pure trivial

end Reads

/-! ### Each message -/

section Messages

variable {data : Text} {type : UInt32} {control : LegacyControl}

/-- A message without variable-length fields. -/
theorem WellFormed.of_no_suffix (htype : type ≠ messageGM2GLSettlementAck)
    (hnone : suffixIndexes data control.kind = []) (hread : ReadFrom data control) :
    WellFormed data type control where
  ack := iff_of_false (fun hkind => by rw [hkind] at hnone; cases hnone) htype
  readFrom := hread
  inside := by simp [regions, hnone]
  after := by simp [regions, hnone]
  apart := by simp [regions, hnone]

/-- A message with one variable-length field, up to the end of the frame. -/
theorem WellFormed.of_one_suffix {i : ℕ} (htype : type ≠ messageGM2GLSettlementAck)
    (hone : suffixIndexes data control.kind = [i]) (hread : ReadFrom data control)
    (hstop : (region data i).stop = data.length)
    (hfixed : fixedPart control.kind ≤ (region data i).offset) : WellFormed data type control where
  ack := iff_of_false (fun hkind => by rw [hkind] at hone; cases hone) htype
  readFrom := hread
  inside := by simp [regions, hone, hstop]
  after := by simp [regions, hone, hfixed]
  apart := by simp [regions, hone]

variable (hbare : control.toSuffixes = {}) (hlen : data.length ≤ maxFrameSize)
  (htype : type ≠ messageGM2GLSettlementAck)

include hbare htype

theorem decodeNewGame_checked : Checked (decodeNewGame data control) (WellFormed data type) := by
  rw [decodeNewGame]
  refine Checked.require_bind fun h => ?_
  simp (disch := omega) only [uint32At_eq, ok_bind]
  exact .pure (.of_no_suffix htype rfl hbare)

theorem decodeDeleteGame_checked :
    Checked (decodeDeleteGame data control) (WellFormed data type) := by
  rw [decodeDeleteGame]
  refine Checked.require_bind fun h => ?_
  simp (disch := omega) only [uint32At_eq, ok_bind]
  exact .pure (.of_no_suffix htype rfl hbare)

theorem decodeCommand_checked : Checked (decodeCommand data control) (WellFormed data type) := by
  rw [decodeCommand]
  refine Checked.require_bind fun h => ?_
  simp (disch := omega) only [int32At_eq, ok_bind]
  exact .pure (.of_no_suffix htype rfl hbare)

theorem decodeUpdateGame_checked :
    Checked (decodeUpdateGame data control) (WellFormed data type) := by
  rw [decodeUpdateGame]
  refine Checked.require_bind fun h => ?_
  simp (disch := omega) only [uint32At_eq, ok_bind]
  exact .pure (.of_no_suffix htype rfl hbare)

theorem decodePlayerExit_checked :
    Checked (decodePlayerExit data control) (WellFormed data type) := by
  rw [decodePlayerExit]
  refine Checked.require_bind fun h => ?_
  simp (disch := omega) only [byteAt_eq, ok_bind]
  exact .pure (.of_no_suffix htype rfl hbare)

include hlen

theorem decodeStartNewGame_checked :
    Checked (decodeStartNewGame data control) (WellFormed data type) := by
  rw [decodeStartNewGame]
  refine Checked.require_bind fun h => ?_
  simp (disch := omega) only [uint32At_eq, ok_bind]
  refine (suffixString_checked hlen).bind ?_
  rintro roomInfo ⟨rfl, hstop, hfixed⟩
  refine .pure (.of_one_suffix htype rfl ?_ hstop hfixed)
  simp [ReadFrom, hbare]

theorem decodeDress_checked : Checked (decodeDress data control) (WellFormed data type) := by
  rw [decodeDress]
  refine Checked.require_bind fun h => ?_
  refine (suffixString_checked hlen).bind ?_
  rintro dress ⟨rfl, hstop, hfixed⟩
  refine .pure (.of_one_suffix htype rfl ?_ hstop hfixed)
  simp [ReadFrom, hbare]

theorem decodeUpdatePlayer_checked :
    Checked (decodeUpdatePlayer data control) (WellFormed data type) := by
  rw [decodeUpdatePlayer]
  refine Checked.require_bind fun h => ?_
  simp (disch := omega) only [uint32At_eq, ok_bind]
  refine (suffixBytes_checked hlen).orFail.bind ?_
  rintro suffix ⟨rfl, hstop, hfixed⟩
  refine Checked.require_bind fun hcount => ?_
  have hsize : (word data 34).toNat * controlPlayerSize = (region data 38).size := by
    rw [hcount.2, Region.length_bytes hstop.le]
  refine (decodePlayers_checked hcount.2).and_eq.bind ?_
  rintro players ⟨hlength, hplayers⟩
  refine .pure (.of_one_suffix htype rfl ⟨?_, ?_, ?_⟩ hstop hfixed)
  · exact .of_mul (by decide) (by rw [hlength]; exact hsize)
  · rw [hlength]
    exact hplayers
  · simp [hbare]

theorem decodeInitGame_checked : Checked (decodeInitGame data control) (WellFormed data type) := by
  rw [decodeInitGame]
  refine Checked.require_bind fun h => ?_
  simp (disch := omega) only [uint32At_eq, int32At_eq, ok_bind]
  refine (decodeInitRuleSuffixes_checked hlen h).bind ?_
  rintro ⟨baseRule, gameRule, matchName⟩ hrules
  refine (suffixString_checked hlen).bind ?_
  rintro roundUniCode ⟨rfl, hstop, hfixed⟩
  by_cases hzero : noRules data = true
  · rw [if_pos hzero] at hrules
    obtain ⟨rfl, rfl, rfl⟩ := hrules
    refine .pure (.of_one_suffix htype (if_pos hzero) ?_ hstop hfixed)
    simp [ReadFrom, hzero, hbare]
  -- The four regions follow each other, and the first one starts where the fixed part ends.
  rw [if_neg hzero] at hrules
  obtain ⟨⟨rfl, rfl, rfl⟩, hfirst, hbase, hgame, hmatch⟩ := hrules
  have hindexes : suffixIndexes data .initGame = [68, 76, 84, 136] := if_neg hzero
  simp only [Region.stop] at hbase hgame hmatch hstop
  refine .pure ⟨iff_of_false (by rintro ⟨⟩) htype, ?_, ?_, ?_, ?_⟩
  · simp [ReadFrom, hzero, hbare]
  · simp only [regions, hindexes, List.map_cons, List.map_nil, List.forall_mem_cons, Region.stop]
    refine ⟨by omega, by omega, by omega, by omega, nofun⟩
  · simp only [regions, hindexes, List.map_cons, List.map_nil, List.forall_mem_cons, fixedPart]
    refine ⟨fun _ => by omega, fun _ => by omega, fun _ => by omega, fun _ => by omega, nofun⟩
  · simp only [regions, hindexes, List.map_cons, List.map_nil, List.pairwise_cons,
      List.forall_mem_cons, Region.Apart, Region.stop]
    refine ⟨⟨by omega, by omega, by omega, nofun⟩, ⟨by omega, by omega, nofun⟩,
      ⟨by omega, nofun⟩, nofun, .nil⟩

omit htype

theorem decodeSettlementAck_checked (htype : type = messageGM2GLSettlementAck) :
    Checked (decodeSettlementAck data control) (WellFormed data type) := by
  rw [decodeSettlementAck]
  refine Checked.require_bind fun h => ?_
  simp (disch := omega) only [int32At_eq, byteAt_eq, ok_bind]
  refine (readSuffixIndex_checked data 51 59).bind ?_
  rintro ⟨resultOffset, resultSize⟩ ⟨hresult, hresultSize, hresultStop, -⟩
  refine (readSuffixIndex_checked data 59 67).bind ?_
  rintro ⟨playerOffset, playerSize⟩ ⟨hplayer, hplayerSize, hplayerStop, hplayerFixed⟩
  refine Checked.require_bind fun hboundary => Checked.require_bind fun hend => ?_
  simp only [suffix_region hlen hresult hresultSize hresultStop,
    suffix_region hlen hplayer hplayerSize hplayerStop, ok_bind]
  refine Checked.require_bind fun hcounts => ?_
  obtain ⟨hresultPos, hplayerPos, hresultCount, hplayerCount⟩ := hcounts
  refine (decodeResultDetails_checked hresultCount).and_eq.bind ?_
  rintro resultDetails ⟨hdetails, hresults⟩
  refine (decodePlayerResults_checked hplayerCount).and_eq.bind ?_
  rintro playerResults ⟨hlength, hplayers⟩
  rw [Region.length_bytes hresultStop] at hresultCount
  rw [Region.length_bytes hplayerStop] at hplayerCount
  have happart : (region data 51).stop = (region data 59).offset := by
    rw [Region.stop, ← hresult, ← hresultSize, ← hplayer, hboundary]
  refine .pure ⟨iff_of_true rfl htype, ⟨?_, ?_, ?_, ?_, ?_, ?_, ?_⟩, ?_, ?_, ?_⟩
  · exact .of_mul (by decide) (by rw [hdetails]; exact hresultCount)
  · exact .of_mul (by decide) (by rw [hlength]; exact hplayerCount)
  · rw [hdetails]
    exact (Int.toNat_of_nonneg hresultPos).symm
  · rw [hlength]
    exact (Int.toNat_of_nonneg hplayerPos).symm
  · rw [hdetails]
    exact hresults
  · rw [hlength]
    exact hplayers
  · simp [hbare]
  · simp [regions, suffixIndexes, hresultStop, hplayerStop]
  · simp only [regions, suffixIndexes, List.map_cons, List.map_nil, List.forall_mem_cons, fixedPart]
    exact ⟨fun hlate => hlate trivial, fun _ => hplayerFixed, nofun⟩
  · simp [regions, suffixIndexes, Region.Apart, happart]

theorem decodeMessage_checked :
    Checked (decodeMessage data control) (WellFormed data control.type) := by
  rw [decodeMessage]
  split_ifs with hinit hupdate hcommand hgame hstart hdress hexit hack
  · exact decodeInitGame_checked hbare hlen (by rw [hinit]; decide)
  · exact decodeUpdatePlayer_checked hbare hlen (by rw [hupdate]; decide)
  · exact decodeCommand_checked hbare (by rw [hcommand]; decide)
  · exact decodeUpdateGame_checked hbare (by rw [hgame]; decide)
  · exact decodeStartNewGame_checked hbare hlen (by rw [hstart]; decide)
  · exact decodeDress_checked hbare hlen (by rw [hdress]; decide)
  · exact decodePlayerExit_checked hbare (by rw [hexit]; decide)
  · exact decodeSettlementAck_checked hbare hlen hack
  · exact .failed

theorem decodeWithGLHeader_checked :
    Checked (decodeWithGLHeader data control) (WellFormed data control.type) := by
  rw [decodeWithGLHeader]
  refine Checked.require_bind fun h => ?_
  rw [controlGLHeaderSize] at h
  simp (disch := omega) only [uint16At_eq, uint32At_eq, ok_bind]
  exact Checked.require_bind fun _ => decodeMessage_checked hbare hlen

end Messages

theorem decodeHeader_checked (data : Text) :
    Checked (decodeHeader data) fun header => header.type = word data 12 := by
  rw [decodeHeader]
  refine Checked.require_bind fun h => ?_
  rw [headerSize] at h
  simp (disch := omega) only [uint16At_eq, uint32At_eq, ok_bind]
  exact .pure rfl

theorem decodeControl_checked (data : Text) :
    Checked (decodeControl data) (WellFormed data (word data 12)) := by
  rw [decodeControl]
  refine Checked.require_bind fun hlen => ?_
  refine (decodeHeader_checked data).orFail.bind fun header htype => ?_
  refine Checked.require_bind fun _ => ?_
  rw [← htype]
  split_ifs with hnew hdelete hignored
  · exact decodeNewGame_checked rfl (by rw [hnew]; decide)
  · exact decodeDeleteGame_checked rfl (by rw [hdelete]; decide)
  · refine .pure (.of_no_suffix (fun hack => ?_) rfl rfl)
    rw [hack] at hignored
    revert hignored
    decide
  · exact decodeWithGLHeader_checked rfl hlen.2

/-- **Decoding a control frame.** No index or slice is outside the frame. The variable-length fields
of an accepted frame are what their regions hold, with as many records as fit; the regions are in
the frame and have no byte in common; and they are after the fixed part with all the suffix indexes
exactly if the frame, where its type at 12 is that of a settlement acknowledgement, has its results
at 67 or later. -/
theorem decodeControl_regions (data : Text) :
    decodeControl data ≠ .error .outOfRange ∧
      ∀ control, decodeControl data = .ok control →
        ReadFrom data control ∧
        (∀ r ∈ regions data control.kind, r.stop ≤ data.length) ∧
        (regions data control.kind).Pairwise Region.Apart ∧
        (∀ i ∈ suffixIndexes data control.kind, i + controlSuffixSize ≤ fixedPart control.kind) ∧
        ((∀ r ∈ regions data control.kind, fixedPart control.kind ≤ r.offset) ↔
          (word data 12 = messageGM2GLSettlementAck → 67 ≤ (region data 51).offset)) := by
  have hchecked := decodeControl_checked data
  refine ⟨hchecked.safe, fun control hcontrol => ?_⟩
  have hformed := hchecked.of_ok hcontrol
  refine ⟨hformed.readFrom, hformed.inside, hformed.apart, suffixIndexes_fixed data control.kind,
    fun hafter htype => ?_, fun hlate r hr => ?_⟩
  · rw [hformed.ack.mpr htype] at hafter
    exact hafter _ (List.mem_cons_self ..)
  · exact hformed.after r hr fun hkind => hlate (hformed.ack.mp hkind)

/-- A settlement acknowledgement for one result and no players, with the results at an offset. -/
def ackFrame (offset : UInt8) (length : UInt8) (rest : Text) : Text :=
  [0, 0, 0, 0, 0, 0, 0, 0, 0, 0, 0, 0, 0x50, 0x86, 0, 0x80, 0, 0, 0, 0, length, 0, 0, 0] ++
    [34, 0, 1, 0, 0, 0, 2, 0, 0, 0] ++
    [1, 1, 0, 0, 0, 1, 0, 0, 0, 0, 0, 0, 0, 0, 0, 0, 0] ++
    [offset, 0, 0, 0, 12, 0, 0, 0] ++ [length, 0, 0, 0, 0, 0, 0, 0] ++ rest

theorem decodeControl_regions_ack :
    ∃ control, decodeControl (ackFrame 67 79 [3, 0, 0, 0, 4, 0, 0, 0, 5, 0, 0, 0]) = .ok control ∧
      control.resultDetails = [⟨3, 4, 5⟩] ∧
      ∀ r ∈ regions (ackFrame 67 79 [3, 0, 0, 0, 4, 0, 0, 0, 5, 0, 0, 0]) control.kind,
        fixedPart control.kind ≤ r.offset := by
  refine ⟨_, rfl, by decide +kernel, ?_⟩
  exact ((decodeControl_regions
    (ackFrame 67 79 [3, 0, 0, 0, 4, 0, 0, 0, 5, 0, 0, 0])).2 _ rfl).2.2.2.2.mpr
    fun _ => by decide +kernel

/-- The results of this frame start at 59, in the fixed part. The team that pays is the offset of
the players, read a second time. -/
theorem results_read_from_index :
    ∃ control, decodeControl (ackFrame 59 71 [5, 0, 0, 0]) = .ok control ∧
      control.kind = .settlementAck ∧ control.resultDetails = [⟨71, 0, 5⟩] ∧
      region (ackFrame 59 71 [5, 0, 0, 0]) 51 ∈ regions (ackFrame 59 71 [5, 0, 0, 0]) control.kind ∧
      (region (ackFrame 59 71 [5, 0, 0, 0]) 51).offset = 59 ∧ fixedPart control.kind = 67 ∧
      (word (ackFrame 59 71 [5, 0, 0, 0]) 59).toNat = 71 := by
  refine ⟨_, rfl, rfl, by decide +kernel, List.mem_cons_self .., ?_, rfl, ?_⟩ <;> decide +kernel

end GameServiceRuntime.Nhsk.LegacyWire
