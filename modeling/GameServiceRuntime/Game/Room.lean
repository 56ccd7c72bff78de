import GameServiceRuntime.Game.Types
import GameServiceRuntime.Lib.Table
import GameServiceRuntime.Lib.Transition

/-!
# Rooms

`game/room.go`: a Room keeps its members, the Battles it has asked for and the Battles that run.
What makes a repeated start harmless is the entry under its request identifier. The entry is written
before the factory is asked, removed if the factory refuses, and removed again when the Battle is
reported as created. So the requests the factory has taken are counted by the entries and the
reports together (`accepted_eq`), and once the report is in, nothing is left that would recognise
the start.

A definition without a text of its own has the name of what it models.
-/

namespace GameServiceRuntime.Game

inductive RoomPhase
  | open
  | closed
  deriving DecidableEq

/-- `BattleCreateRequest`. Its players are never empty where it is compared. -/
structure BattleCreateRequest where
  requestID : Text
  room : Text
  players : List Text
  deriving DecidableEq

structure BattleCreatedResult where
  requestID : Text
  battle : UInt32
  ref : ServiceRef

structure BattleFinishedNotice where
  battle : UInt32
  ref : ServiceRef

structure RoomSnapshot where
  id : Text
  phase : RoomPhase
  members : List Text
  battles : Table UInt32 ServiceRef
  deriving DecidableEq

/-- A `RoomConfig` that `NewRoomService` accepts; `factory` says whether there is one. -/
structure RoomConfig where
  id : Text
  capacity : ℤ
  factory : Bool
  factoryRef : ServiceRef
  valid : ((validateID id).isNone && 0 < capacity &&
    if factory then validServiceRef factoryRef else factoryRef = ⟨[], 0⟩) = true

/-- The errors of a Room: its own, and those it shares with a Battle. -/
inductive RoomErr
  | closed
  | unknownCommand
  | of (err : Err)
  deriving DecidableEq

/-- What a Room does to the world outside it, and the reports it takes. -/
inductive RoomEvent
  /-- `RequestBattle` and its outcome -/
  | requested (request : BattleCreateRequest) (err : Option Err)
  /-- `applyCreated` takes a report -/
  | created (requestID : Text)
  | replied (snapshot : RoomSnapshot)
  deriving DecidableEq

/-- `RoomService`, and what it has done so far. -/
structure Room where
  phase : RoomPhase := .open
  members : List Text := []
  pending : Table Text BattleCreateRequest := ∅
  battles : Table UInt32 ServiceRef := ∅
  events : List RoomEvent := []
  deriving DecidableEq

/-- The commands of a Room; a payload of another type is `none`. -/
inductive RoomCommand
  | join (player : Option Text)
  | leave (player : Option Text)
  | start (request : Option BattleCreateRequest)
  | created (result : Option BattleCreatedResult)
  | finished (notice : Option BattleFinishedNotice)
  | snapshot
  | unknown

/-- The request that a command starts. -/
def RoomCommand.started : RoomCommand → Option BattleCreateRequest
  | .start request => request
  | _ => none

/-- What the factory and the Runtime answer. -/
structure RoomEnv where
  factoryErr : Option Err := none
  replyErr : Option Err := none

namespace Room

section Commands

variable (cfg : RoomConfig) (env : RoomEnv) (source : ServiceRef) (room : Room)

/-- Record an event. -/
def log (e : RoomEvent) : Room := { room with events := room.events ++ [e] }

def snapshot : RoomSnapshot where
  id := cfg.id
  phase := room.phase
  members := room.members.insertionSort fun a b => !b.less a
  battles := room.battles

/-- `reply` of the snapshot -/
def reply : Room × Option RoomErr :=
  (room.log (.replied (room.snapshot cfg)),
    if env.replyErr = some .replyUnavailable then none else env.replyErr.map .of)

/-- The loop of `validateCreateRequest`: the players are valid, strictly increasing and members. -/
def validatePlayers : Option Text → List Text → Option Err
  | _, [] => none
  | previous, player :: players =>
    if (validateID player).isSome || previous.any (fun p => !p.less player) then
      some .invalidCommand
    else if !room.members.contains player then some .stateConflict
    else validatePlayers (some player) players

def validateCreateRequest (request : BattleCreateRequest) : Option Err :=
  if (validateRequestID request.requestID).isSome || request.room ≠ cfg.id ||
      request.players.isEmpty then some .invalidCommand
  else room.validatePlayers none request.players

def start (request : BattleCreateRequest) : Room × Option RoomErr :=
  match room.validateCreateRequest cfg request with
  | some err => (room, some (.of err))
  | none =>
    if !cfg.factory then (room, some (.of .unavailable))
    else match room.pending.lookup request.requestID with
      | some current =>
        if current ≠ request then (room, some (.of .requestConflict)) else room.reply cfg env
      | none =>
        let room := { room with pending := room.pending.insert request.requestID request }
        let room := room.log (.requested request env.factoryErr)
        match env.factoryErr with
        | some err =>
          ({ room with pending := room.pending.erase request.requestID }, some (.of err))
        | none => room.reply cfg env

def applyCreated (created : BattleCreatedResult) : Room × Option RoomErr :=
  if source ≠ cfg.factoryRef then (room, some (.of .unauthorized))
  else match room.pending.lookup created.requestID with
    | none => (room, some (.of .notFound))
    | some request =>
      if created.battle = 0 || !validServiceRef created.ref then (room, some (.of .invalidCommand))
      else if (room.battles.lookup created.battle).isSome then (room, some (.of .stateConflict))
      else
        reply cfg env (log { room with
          pending := room.pending.erase request.requestID
          battles := room.battles.insert created.battle created.ref } (.created created.requestID))

def applyFinished (notice : BattleFinishedNotice) : Room × Option RoomErr :=
  if notice.battle = 0 || !validServiceRef notice.ref then (room, some (.of .invalidCommand))
  else if room.battles.lookup notice.battle ≠ some notice.ref then (room, some (.of .notFound))
  else if source ≠ notice.ref then (room, some (.of .unauthorized))
  else reply cfg env { room with battles := room.battles.erase notice.battle }

/-- `JoinRoomCommand` -/
def join (player : Text) : Room × Option RoomErr :=
  if (validateID player).isSome then (room, some (.of .invalidID))
  else if room.members.contains player then room.reply cfg env
  else if room.members.length = cfg.capacity then (room, some (.of .stateConflict))
  else reply cfg env { room with members := room.members ++ [player] }

/-- `LeaveRoomCommand` -/
def leave (player : Text) : Room × Option RoomErr :=
  if (validateID player).isSome then (room, some (.of .invalidID))
  else if !room.members.contains player then (room, some (.of .notFound))
  else reply cfg env { room with members := room.members.erase player }

def handle (c : RoomCommand) : Room × Option RoomErr :=
  match c with
  | .snapshot => room.reply cfg env
  | c =>
    if room.phase ≠ .open then (room, some .closed)
    else match c with
      | .join (some player) => room.join cfg env player
      | .leave (some player) => room.leave cfg env player
      | .join none | .leave none => (room, some (.of .invalidID))
      | .start (some request) => room.start cfg env request
      | .created (some created) => room.applyCreated cfg env source created
      | .finished (some notice) => room.applyFinished cfg env source notice
      | .start none | .created none | .finished none => (room, some (.of .invalidCommand))
      | _ => (room, some .unknownCommand)

end Commands

end Room

/-- What can happen to a Room. -/
inductive RoomAction
  | command (source : ServiceRef) (c : RoomCommand) (env : RoomEnv)
  | close

/-- The runs of a Room. -/
def rooms (cfg : RoomConfig) : System Room RoomAction where
  init room := room = {}
  step room
    | .command source c env => some (room.handle cfg env source c).1
    | .close => some { room with phase := .closed }

namespace Room

/-! ### What a command does -/

/-- The requests that the factory has taken. -/
def accepted (room : Room) : List BattleCreateRequest :=
  room.events.filterMap fun
    | .requested request none => some request
    | _ => none

/-- The requests whose Battles were reported. -/
def created (room : Room) : List Text :=
  room.events.filterMap fun
    | .created id => some id
    | _ => none

/-- What a command can do to the requests; `started` is the request it starts. -/
inductive Changed (cfg : RoomConfig) (started : Option BattleCreateRequest)
    (room room' : Room) : Prop
  | kept (hpending : ∀ id, room'.pending.lookup id = room.pending.lookup id)
      (haccepted : room'.accepted = room.accepted) (hcreated : room'.created = room.created)
  | requested (request : BattleCreateRequest) (hstarted : started = some request)
      (hfactory : cfg.factory = true) (hnone : room.pending.lookup request.requestID = none)
      (hpending : ∀ id, room'.pending.lookup id =
        if id = request.requestID then some request else room.pending.lookup id)
      (haccepted : room'.accepted = room.accepted ++ [request])
      (hcreated : room'.created = room.created)
  | created (id : Text) (request : BattleCreateRequest)
      (hsome : room.pending.lookup id = some request)
      (hpending : ∀ j, room'.pending.lookup j =
        if j = request.requestID then none else room.pending.lookup j)
      (haccepted : room'.accepted = room.accepted) (hcreated : room'.created = room.created ++ [id])

section Changes

variable {cfg : RoomConfig} {env : RoomEnv} {source : ServiceRef} {room room' : Room}
  {started : Option BattleCreateRequest}

theorem accepted_log (room : Room) (e : RoomEvent) :
    (room.log e).accepted = room.accepted ++ (match e with
      | .requested request none => [request]
      | _ => []) := by
  rcases e with ⟨request, _ | err⟩ | _ | _ <;> simp [log, accepted]

theorem created_log (room : Room) (e : RoomEvent) :
    (room.log e).created = room.created ++ (match e with
      | .created id => [id]
      | _ => []) := by
  cases e <;> simp [log, created]

theorem Changed.refl : Changed cfg started room room := .kept (fun _ => rfl) rfl rfl

theorem Changed.reply (h : Changed cfg started room room') :
    Changed cfg started room (room'.reply cfg env).1 := by
  have haccepted' : (room'.reply cfg env).1.accepted = room'.accepted :=
    (accepted_log ..).trans (List.append_nil _)
  have hcreated' : (room'.reply cfg env).1.created = room'.created :=
    (created_log ..).trans (List.append_nil _)
  cases h with
  | kept hp ha hc => exact .kept hp (haccepted'.trans ha) (hcreated'.trans hc)
  | requested request hs hf hn hp ha hc =>
    exact .requested request hs hf hn hp (haccepted'.trans ha) (hcreated'.trans hc)
  | created id request hs hp ha hc =>
    exact .created id request hs hp (haccepted'.trans ha) (hcreated'.trans hc)

theorem changed_start (request : BattleCreateRequest) :
    Changed cfg (some request) room (room.start cfg env request).1 := by
  rw [start]
  split
  · exact .refl
  split
  · exact .refl
  next hfactory =>
  split
  · split
    · exact .refl
    · exact Changed.refl.reply
  next hnone =>
  have hinsert := Table.lookup_insert_ite room.pending request.requestID
  dsimp only
  cases herr : env.factoryErr with
  | some err =>
    -- the entry is written and removed again
    refine .kept (fun id => ?_) ?_ ?_
    · show ((room.pending.insert request.requestID request).erase request.requestID).lookup id = _
      rw [Table.lookup_erase_ite, hinsert]
      split
      · next hid => rw [hid, hnone]
      · rfl
    · exact (accepted_log ..).trans (List.append_nil _)
    · exact (created_log ..).trans (List.append_nil _)
  | none =>
    refine Changed.reply (.requested request rfl (by simpa using hfactory) hnone
      (fun id => hinsert id request) ?_ ?_)
    · exact accepted_log ..
    · exact (created_log ..).trans (List.append_nil _)

theorem changed_applyCreated (result : BattleCreatedResult) :
    Changed cfg started room (room.applyCreated cfg env source result).1 := by
  rw [applyCreated]
  split
  · exact .refl
  split
  · exact .refl
  next request hrequest =>
  split
  · exact .refl
  split
  · exact .refl
  refine Changed.reply (.created result.requestID request hrequest ?_ ?_ ?_)
  · exact fun j => Table.lookup_erase_ite ..
  · exact (accepted_log ..).trans (List.append_nil _)
  · exact created_log ..

theorem changed_applyFinished (notice : BattleFinishedNotice) :
    Changed cfg started room (room.applyFinished cfg env source notice).1 := by
  rw [applyFinished]
  split
  · exact .refl
  split
  · exact .refl
  split
  · exact .refl
  · exact Changed.reply (.kept (fun _ => rfl) rfl rfl)

theorem changed_join (player : Text) : Changed cfg started room (room.join cfg env player).1 := by
  rw [join]
  split
  · exact .refl
  split
  · exact Changed.refl.reply
  split
  · exact .refl
  · exact Changed.reply (.kept (fun _ => rfl) rfl rfl)

theorem changed_leave (player : Text) : Changed cfg started room (room.leave cfg env player).1 := by
  rw [leave]
  split
  · exact .refl
  split
  · exact .refl
  · exact Changed.reply (.kept (fun _ => rfl) rfl rfl)

theorem changed_handle (c : RoomCommand) :
    Changed cfg c.started room (room.handle cfg env source c).1 := by
  unfold handle
  split
  · exact Changed.refl.reply
  split
  · exact .refl
  split
  · exact changed_join _
  · exact changed_leave _
  · exact .refl
  · exact .refl
  · exact changed_start _
  · exact changed_applyCreated _
  · exact changed_applyFinished _
  · exact .refl
  · exact .refl
  · exact .refl
  · exact .refl

end Changes

end Room

/-! ### Whole runs -/

/-- The requests that the factory has taken under an identifier. -/
def Room.acceptedFor (room : Room) (id : Text) : List BattleCreateRequest :=
  room.accepted.filter (·.requestID = id)

/-- What ties the entries to the requests and the reports. -/
structure Counted (cfg : RoomConfig) (room : Room) : Prop where
  entry : ∀ id request, room.pending.lookup id = some request →
    request.requestID = id ∧ request ∈ room.accepted
  count : ∀ id, (room.acceptedFor id).length =
    room.created.count id + (room.pending.lookup id).toList.length
  factory : room.accepted ≠ [] → cfg.factory = true

section Runs

variable {cfg : RoomConfig} {room room' : Room} {started : Option BattleCreateRequest}

theorem Counted.changed (h : Counted cfg room) (hc : room.Changed cfg started room') :
    Counted cfg room' := by
  cases hc with
  | kept hpending haccepted hcreated =>
    refine ⟨fun id request hrequest => ?_, fun id => ?_, haccepted ▸ h.factory⟩
    · rw [haccepted]
      exact h.entry id request ((hpending id).symm.trans hrequest)
    · rw [Room.acceptedFor, haccepted, hcreated, hpending]
      exact h.count id
  | requested request _ hfactory hnone hpending haccepted hcreated =>
    refine ⟨fun id r hr => ?_, fun id => ?_, fun _ => hfactory⟩
    · rw [haccepted]
      rw [hpending] at hr
      split at hr
      · next hid =>
        obtain rfl := Option.some.inj hr
        exact ⟨hid.symm, List.mem_append_right _ List.mem_cons_self⟩
      · obtain ⟨hid, hmem⟩ := h.entry id r hr
        exact ⟨hid, List.mem_append_left _ hmem⟩
    · have hcount := h.count id
      rw [Room.acceptedFor] at hcount ⊢
      rw [haccepted, hcreated, hpending, List.filter_append, List.length_append, hcount]
      by_cases hid : id = request.requestID
      · subst hid
        simp [hnone]
      · simp [hid, Ne.symm hid]
  | created id request hsome hpending haccepted hcreated =>
    obtain ⟨hkey, -⟩ := h.entry id request hsome
    refine ⟨fun j r hr => ?_, fun j => ?_, haccepted ▸ h.factory⟩
    · rw [hpending] at hr
      rw [haccepted]
      split at hr
      · exact nomatch hr
      · exact h.entry j r hr
    · have hcount := h.count j
      rw [Room.acceptedFor] at hcount ⊢
      rw [haccepted, hcreated, hpending, hcount, List.count_append, List.count_singleton, hkey]
      by_cases hj : j = id
      · subst hj
        simp [hsome]
      · simp [hj, Ne.symm hj]

theorem counted_init : Counted cfg {} :=
  ⟨fun _ _ h => (nomatch h), fun _ => rfl, fun h => absurd rfl h⟩

theorem changed_of_step {a : RoomAction} (h : (rooms cfg).step room a = some room') :
    ∃ started, room.Changed cfg started room' ∧ ∀ request, started = some request →
      ∃ source env, a = .command source (.start (some request)) env := by
  cases a with
  | command source c env =>
    cases h
    refine ⟨c.started, Room.changed_handle c, fun request hrequest => ⟨source, env, ?_⟩⟩
    cases c with
    | start r => exact congrArg (fun r => RoomAction.command source (.start r) env) hrequest
    | _ => exact nomatch hrequest
  | close =>
    cases h
    exact ⟨none, .kept (fun _ => rfl) rfl rfl, fun _ h => nomatch h⟩

/-- **Requests taken by the factory**: under every identifier there are as many as Battles reported,
and one more while an entry is there. -/
theorem accepted_eq (h : (rooms cfg).Reachable room) (id : Text) :
    (room.acceptedFor id).length = room.created.count id +
    (room.pending.lookup id).toList.length := by
  have hcounted : Counted cfg room := by
    refine h.invariant (I := Counted cfg) ?_ ?_
    · rintro room rfl
      exact counted_init
    · intro room a room' hroom _ hstep
      obtain ⟨started, hchanged, -⟩ := changed_of_step hstep
      exact hroom.changed hchanged
  exact hcounted.count id

/-- The action does not start again what was created already. -/
def RoomAction.isFresh (room : Room) : RoomAction → Bool
  | .command _ (.start (some request)) _ => request.requestID ∉ room.created
  | _ => true

/-- In a run that starts nothing again, a Battle is reported once, and its entry is gone. -/
structure Once (cfg : RoomConfig) (room : Room) : Prop extends Counted cfg room where
  nodup : room.created.Nodup
  gone : ∀ id ∈ room.created, room.pending.lookup id = none

theorem Once.changed (h : Once cfg room) (hc : room.Changed cfg started room')
    (hfresh : ∀ request, started = some request → request.requestID ∉ room.created) :
    Once cfg room' := by
  refine ⟨h.toCounted.changed hc, ?_, ?_⟩
  · cases hc with
    | kept _ _ hcreated => exact hcreated ▸ h.nodup
    | requested _ _ _ _ _ _ hcreated => exact hcreated ▸ h.nodup
    | created id request hsome _ _ hcreated =>
      rw [hcreated, ← List.concat_eq_append]
      exact List.Nodup.concat (fun hmem => nomatch hsome.symm.trans (h.gone id hmem)) h.nodup
  · cases hc with
    | kept hpending _ hcreated =>
      rw [hcreated]
      exact fun id hid => (hpending id).trans (h.gone id hid)
    | requested request hstarted _ _ hpending _ hcreated =>
      rw [hcreated]
      intro id hid
      rw [hpending, if_neg, h.gone id hid]
      rintro rfl
      exact hfresh request hstarted hid
    | created id request hsome hpending _ hcreated =>
      rw [hcreated]
      intro j hj
      rw [hpending]
      split
      · rfl
      · next hne =>
        rcases List.mem_append.mp hj with hj | hj
        · exact h.gone j hj
        · rw [(h.entry id request hsome).1] at hne
          exact absurd (List.mem_singleton.mp hj) hne

theorem once_of_fresh (h : (rooms cfg).ReachableUnder (fun room a => a.isFresh room = true) room) :
    Once cfg room := by
  refine h.invariant (I := Once cfg) ?_ ?_
  · rintro room rfl
    exact ⟨counted_init, .nil, fun _ h => nomatch h⟩
  · intro room a room' hroom hfresh hstep
    obtain ⟨started, hchanged, hstart⟩ := changed_of_step hstep
    refine hroom.changed hchanged fun request hrequest => ?_
    obtain ⟨source, env, rfl⟩ := hstart request hrequest
    simpa [RoomAction.isFresh] using hfresh

theorem Once.length_le_one (h : Once cfg room) (id : Text) : (room.acceptedFor id).length ≤ 1 := by
  rw [h.count id]
  by_cases hid : id ∈ room.created
  · rw [List.count_eq_one_of_mem h.nodup hid, h.gone id hid]
    exact le_rfl
  · rw [List.count_eq_zero.mpr hid, Nat.zero_add]
    cases room.pending.lookup id with
    | none => exact Nat.zero_le 1
    | some request => exact le_rfl

/-- The entry of a request that was taken and whose Battle was not reported. -/
theorem Once.lookup_eq (h : Once cfg room) {first : BattleCreateRequest}
    (hfirst : first ∈ room.accepted) (hcreated : first.requestID ∉ room.created) :
    room.pending.lookup first.requestID = some first := by
  have hle := h.length_le_one first.requestID
  have hmem : first ∈ room.acceptedFor first.requestID := List.mem_filter.mpr ⟨hfirst, by simp⟩
  have hcount := h.count first.requestID
  rw [List.count_eq_zero.mpr hcreated, Nat.zero_add] at hcount
  cases hlookup : room.pending.lookup first.requestID with
  | none =>
    rw [hlookup] at hcount
    exact absurd (List.length_eq_zero_iff.mp hcount) (List.ne_nil_of_mem hmem)
  | some request =>
    obtain ⟨hid, haccepted⟩ := h.entry _ _ hlookup
    have hmem' : request ∈ room.acceptedFor first.requestID :=
      List.mem_filter.mpr ⟨haccepted, by simpa using hid⟩
    obtain ⟨only, honly⟩ := List.length_eq_one_iff.mp
      (le_antisymm hle (List.length_pos_of_mem hmem))
    rw [honly, List.mem_singleton] at hmem hmem'
    rw [hmem', hmem]

/-- **One Battle per request**, in a run that starts nothing again after its Battle was reported:
the factory takes at most one request under an identifier, and a start that gives the identifier of
a request it has taken another content is refused without a change, and with `ErrRequestConflict` if
the Room is open and there is nothing else against it. -/
theorem one_battle_per_request
    (h : (rooms cfg).ReachableUnder (fun room a => a.isFresh room = true) room) :
    (∀ id, (room.acceptedFor id).length ≤ 1) ∧
    ∀ source env request, ∀ first ∈ room.accepted, request.requestID = first.requestID →
      request ≠ first →
      (RoomAction.command source (.start (some request)) env).isFresh room = true →
      room.handle cfg env source (.start (some request)) = (room, some
        (if room.phase ≠ .open then .closed
        else .of ((room.validateCreateRequest cfg request).getD .requestConflict))) := by
  have honce := once_of_fresh h
  refine ⟨honce.length_le_one, ?_⟩
  intro source env request first hfirst hid hne hfresh
  have hcreated : first.requestID ∉ room.created := by
    rw [← hid]
    simpa [RoomAction.isFresh] using hfresh
  have hfactory := honce.factory (List.ne_nil_of_mem hfirst)
  have hlookup := honce.lookup_eq hfirst hcreated
  rw [← hid] at hlookup
  show (if room.phase ≠ .open then (room, some .closed) else room.start cfg env request) = _
  split
  · rfl
  · rw [Room.start]
    cases room.validateCreateRequest cfg request with
    | some err => rfl
    | none => simp [hfactory, hlookup, Ne.symm hne]

end Runs

/-- A Room with a factory. -/
def sampleRoom : RoomConfig where
  id := "r"
  capacity := 4
  factory := true
  factoryRef := ⟨"n", 9⟩
  valid := by decide

/-- A request for a Battle of one player. -/
def sampleRequest : BattleCreateRequest :=
  ⟨"q", "r", ["p"]⟩

/-- The same identifier with another player. -/
def otherRequest : BattleCreateRequest := { sampleRequest with players := ["s"] }

/-- Two players join, the Battle is started, and the same start is repeated. -/
def sampleStarts : List RoomAction :=
  [.command ⟨[], 0⟩ (.join (some "p")) {},
    .command ⟨[], 0⟩ (.join (some "s")) {},
    .command ⟨[], 0⟩ (.start (some sampleRequest)) {},
    .command ⟨[], 0⟩ (.start (some sampleRequest)) {}]

theorem one_battle_per_request_repeated : ∃ room,
    (rooms sampleRoom).ReachableUnder (fun room a => a.isFresh room = true) room ∧
      sampleRequest ∈ room.accepted ∧ (room.acceptedFor sampleRequest.requestID).length ≤ 1 ∧
      room.handle sampleRoom {} ⟨[], 0⟩ (.start (some otherRequest)) =
        (room, some (.of .requestConflict)) := by
  obtain ⟨room, hroom, hp⟩ := (rooms sampleRoom).exists_reachableUnder_of_run
    (fun room a => a.isFresh room = true) sampleStarts
    (fun room => decide (sampleRequest ∈ room.accepted ∧ room.created = [] ∧ room.phase = .open ∧
      room.validateCreateRequest sampleRoom otherRequest = none)) rfl (by decide +kernel)
  obtain ⟨haccepted, hcreated, hopen, hvalid⟩ := of_decide_eq_true hp
  obtain ⟨hle, hconflict⟩ := one_battle_per_request hroom
  have hother := hconflict ⟨[], 0⟩ {} otherRequest sampleRequest haccepted rfl (by decide)
    (by simp [RoomAction.isFresh, hcreated])
  rw [hopen, hvalid] at hother
  exact ⟨room, hroom, haccepted, hle _, hother⟩

theorem accepted_eq_repeated : ∃ room, (rooms sampleRoom).Reachable room ∧
    room.created.count sampleRequest.requestID +
      (room.pending.lookup sampleRequest.requestID).toList.length = 1 := by
  obtain ⟨room, hroom, hp⟩ :=
    (rooms sampleRoom).exists_reachableUnder_of_run (fun _ _ => True) sampleStarts
    (fun room => decide ((room.acceptedFor sampleRequest.requestID).length = 1)) rfl
      (by decide +kernel)
  exact ⟨room, hroom, (accepted_eq hroom _).symm.trans (of_decide_eq_true hp)⟩

/-- **Two Battles for one request.** The start is repeated after the Battle was reported, and the
factory takes it a second time. -/
theorem second_battle : ∃ room, (rooms sampleRoom).Reachable room ∧
    room.acceptedFor sampleRequest.requestID = [sampleRequest, sampleRequest] := by
  obtain ⟨room, hroom, hp⟩ := (rooms sampleRoom).exists_reachableUnder_of_run (fun _ _ => True)
    (sampleStarts.take 3 ++
      [.command sampleRoom.factoryRef
        (.created (some ⟨sampleRequest.requestID, 1, ⟨"n", 5⟩⟩)) {},
        .command ⟨[], 0⟩ (.start (some sampleRequest)) {}])
    (fun room => decide (room.acceptedFor sampleRequest.requestID = [sampleRequest, sampleRequest]))
    rfl (by decide +kernel)
  exact ⟨room, hroom, of_decide_eq_true hp⟩

end GameServiceRuntime.Game
