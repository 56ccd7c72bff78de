import GameServiceRuntime.Game.Types
import GameServiceRuntime.Lib.Table

/-!
# Players and their modules

`game/player.go`: a Player's identity, whether it is online and under which generation, its
bindings, and the modules that live in its Service.

Modules are arbitrary code. They see the command they are called in and their own state, and they
reach the Player's fields only through its identity, so all they can read or change is a world `μ`
beside the Player. What a module does is a function of that world, and so is the Runtime's answer to
a reply.

A presence command writes the generation and the flag before it calls a module, and nothing takes
the write back. An error of a module, of a snapshot or of the reply is returned all the same, and
when the command is repeated the Player is online already.

A definition without a text of its own has the name of what it models.
-/

namespace GameServiceRuntime.Game

/-! ### The Player -/

structure SessionIdentity where
  player : Text
  account : Text
  deriving DecidableEq

structure PlayerPresence where
  identity : SessionIdentity
  generation : Text

structure PlayerBinding where
  requestID : Text
  ref : ServiceRef
  deriving DecidableEq

structure PlayerReconnectSnapshot where
  player : Text
  requestID : Text
  state : List UInt8

inductive PlayerEventKind
  | activated
  | online
  | offline
  | backup
  deriving DecidableEq

structure PlayerEvent where
  kind : PlayerEventKind
  generation : Text
  /-- `At` -/
  time : ℤ
  deriving DecidableEq

structure PlayerState where
  online : Bool := false
  room : ServiceRef := ⟨[], 0⟩
  battle : ServiceRef := ⟨[], 0⟩
  deriving DecidableEq

structure PlayerSnapshot where
  state : PlayerState
  modules : List (Text × List UInt8)

/-- A command of a module. -/
structure ModuleCommand (π : Type) where
  id : UInt32
  payload : π

/-- `PlayerModule`, in a world that holds its state and the command it is called in. -/
structure PlayerModule (π μ : Type) where
  name : Text
  commands : List UInt32
  handle : ModuleCommand π → μ → μ × Option Err
  handleEvent : PlayerEvent → μ → μ × Option Err
  snapshot : μ → μ × Except Err (List UInt8)

/-- A `PlayerConfig` that `NewPlayerService` accepts, and the Runtime the Player lives in. -/
structure PlayerConfig (π μ : Type) where
  identity : SessionIdentity
  modules : List (PlayerModule π μ)
  now : μ → ℤ
  reply : PlayerSnapshot → μ → μ × Option Err
  distinct : (modules.map (·.name)).Nodup

/-- `PlayerService`, in its world; `calls` are the calls of `HandleEvent` so far. -/
structure Player (μ : Type) where
  world : μ
  state : PlayerState := {}
  generation : Text := []
  roomBindings : Table Text PlayerBinding := ∅
  battleBinds : Table Text PlayerBinding := ∅
  reconnect : List UInt8 := []
  calls : List (Text × PlayerEvent) := []

/-- The commands of a Player; a payload of another type is `none`. -/
inductive PlayerCommand (π : Type)
  | setOnline (presence : Option PlayerPresence)
  | setOffline (presence : Option PlayerPresence)
  | setRoom (binding : Option PlayerBinding)
  | setBattle (binding : Option PlayerBinding)
  | snapshot
  | reconnect (projection : Option PlayerReconnectSnapshot)
  | backup
  | module (c : ModuleCommand π)

/-- The modules in the order of their names. -/
def PlayerConfig.sorted {π μ : Type} (cfg : PlayerConfig π μ) : List (PlayerModule π μ) :=
  cfg.modules.insertionSort fun a b => b.name.less a.name = false

namespace Player

variable {π μ : Type}

section Commands

variable (cfg : PlayerConfig π μ) (p : Player μ)

def dispatchEvent (event : PlayerEvent) : List (PlayerModule π μ) → Player μ → Player μ × Option Err
  | [], p => (p, none)
  | m :: ms, p =>
    let r := m.handleEvent event p.world
    let p := { p with world := r.1, calls := p.calls ++ [(m.name, event)] }
    match r.2 with
    | some err => (p, some err)
    | none => dispatchEvent event ms p

/-- The loop of `snapshot`. -/
def snapshotModules : List (PlayerModule π μ) → μ → μ × Except Err (List (Text × List UInt8))
  | [], w => (w, .ok [])
  | m :: ms, w =>
    match m.snapshot w with
    | (w, .error err) => (w, .error err)
    | (w, .ok bytes) =>
      match snapshotModules ms w with
      | (w, .error err) => (w, .error err)
      | (w, .ok rest) => (w, .ok ((m.name, bytes) :: rest))

def replySnapshot : Player μ × Option Err :=
  match snapshotModules cfg.sorted p.world with
  | (w, .error err) => ({ p with world := w }, some err)
  | (w, .ok modules) =>
    let r := cfg.reply ⟨p.state, modules⟩ w
    ({ p with world := r.1 }, if r.2 = some .replyUnavailable then none else r.2)

/-- An event for the modules, and then the snapshot. -/
def dispatchAndReply (event : PlayerEvent) : Player μ × Option Err :=
  match p.dispatchEvent event cfg.sorted with
  | (p, some err) => (p, some err)
  | (p, none) => p.replySnapshot cfg

/-- The test that `online` and `offline` make first. -/
def authorized (presence : PlayerPresence) : Bool :=
  presence.identity = cfg.identity && presence.generation.valid maxBusinessIDBytes

def online (presence : PlayerPresence) : Player μ × Option Err :=
  if !authorized cfg presence then (p, some .unauthorized)
  else if p.state.online && p.generation = presence.generation then p.replySnapshot cfg
  else
    dispatchAndReply cfg
      { p with generation := presence.generation, state := { p.state with online := true } }
      ⟨.online, presence.generation, cfg.now p.world⟩

def offline (presence : PlayerPresence) : Player μ × Option Err :=
  if !authorized cfg presence then (p, some .unauthorized)
  else if !p.state.online || p.generation ≠ presence.generation then p.replySnapshot cfg
  else
    dispatchAndReply cfg { p with state := { p.state with online := false } }
      ⟨.offline, presence.generation, cfg.now p.world⟩

/-- `bind`, for a Room or a Battle -/
def bind (room : Bool) (binding : PlayerBinding) : Player μ × Option Err :=
  if (validateRequestID binding.requestID).isSome ||
      (binding.ref ≠ ⟨[], 0⟩ && !validServiceRef binding.ref) then (p, some .invalidCommand)
  else match (if room then p.roomBindings else p.battleBinds).lookup binding.requestID with
    | some current =>
      if current ≠ binding then (p, some .requestConflict) else p.replySnapshot cfg
    | none =>
      if room then
        replySnapshot cfg
          { p with
            roomBindings := p.roomBindings.insert binding.requestID binding
            state := { p.state with room := binding.ref } }
      else
        replySnapshot cfg
          { p with
            battleBinds := p.battleBinds.insert binding.requestID binding
            state := { p.state with battle := binding.ref } }

def handle : PlayerCommand π → Player μ × Option Err
  | .setOnline (some presence) => p.online cfg presence
  | .setOffline (some presence) => p.offline cfg presence
  | .setRoom (some binding) => p.bind cfg true binding
  | .setBattle (some binding) => p.bind cfg false binding
  | .snapshot => p.replySnapshot cfg
  | .reconnect (some projection) =>
    if projection.player ≠ cfg.identity.player ||
      (validateRequestID projection.requestID).isSome then
      (p, some .invalidCommand)
    else replySnapshot cfg { p with reconnect := projection.state }
  | .backup => p.dispatchAndReply cfg ⟨.backup, p.generation, cfg.now p.world⟩
  | .module c =>
    match cfg.modules.find? (·.commands.contains c.id) with
    | some m =>
      let r := m.handle c p.world
      ({ p with world := r.1 }, r.2)
    | none => (p, some (.other 0))
  | .setOnline none | .setOffline none | .setRoom none | .setBattle none | .reconnect none =>
    (p, some .invalidCommand)

def init : Player μ × Option Err :=
  p.dispatchEvent ⟨.activated, [], cfg.now p.world⟩ cfg.sorted

end Commands

/-! ### What a call of the modules leaves -/

variable {cfg : PlayerConfig π μ} {p : Player μ}

/-- The flags a presence command is about. -/
def presence (p : Player μ) : Bool × Text := (p.state.online, p.generation)

theorem dispatchEvent_presence (event : PlayerEvent) (ms : List (PlayerModule π μ)) (p : Player μ) :
    (p.dispatchEvent event ms).1.presence = p.presence := by
  induction ms generalizing p with
  | nil => rfl
  | cons m ms ih =>
    simp only [dispatchEvent]
    split
    · rfl
    · exact ih _

/-- A loop that ends without an error has called every module, in the order of the list. -/
theorem dispatchEvent_calls {event : PlayerEvent} {ms : List (PlayerModule π μ)} {p : Player μ}
    (h : (p.dispatchEvent event ms).2 = none) :
    (p.dispatchEvent event ms).1.calls = p.calls ++ ms.map fun m => (m.name, event) := by
  induction ms generalizing p with
  | nil => simp [dispatchEvent]
  | cons m ms ih =>
    simp only [dispatchEvent] at h ⊢
    split at h
    · cases h
    · rw [ih h, List.append_assoc]
      rfl

theorem replySnapshot_presence (p : Player μ) :
    (p.replySnapshot cfg).1.presence = p.presence := by
  rw [replySnapshot]
  split <;> rfl

theorem replySnapshot_calls (p : Player μ) : (p.replySnapshot cfg).1.calls = p.calls := by
  rw [replySnapshot]
  split <;> rfl

theorem dispatchAndReply_presence (event : PlayerEvent) (p : Player μ) :
    (p.dispatchAndReply cfg event).1.presence = p.presence := by
  have h := dispatchEvent_presence event cfg.sorted p
  rw [dispatchAndReply]
  split
  · next heq => rwa [heq] at h
  · next heq =>
    rw [heq] at h
    exact (replySnapshot_presence _).trans h

theorem dispatchAndReply_calls {event : PlayerEvent} {p : Player μ}
    (h : (p.dispatchAndReply cfg event).2 = none) :
    (p.dispatchAndReply cfg event).1.calls =
      p.calls ++ cfg.sorted.map fun m => (m.name, event) := by
  rw [dispatchAndReply] at h ⊢
  split at h
  · cases h
  · next heq =>
    rw [replySnapshot_calls]
    have hnone : (p.dispatchEvent event cfg.sorted).2 = none := by rw [heq]
    have hcalls := dispatchEvent_calls hnone
    rwa [heq] at hcalls

end Player

/-! ### Presence commands -/

namespace Player

variable {π μ : Type}

section Presence

variable (cfg : PlayerConfig π μ) (p : Player μ) (up : Bool) (request : PlayerPresence)

/-- The command that makes a Player online, or offline. -/
def setPresence : Player μ × Option Err :=
  p.handle cfg (if up then .setOnline (some request) else .setOffline (some request))

/-- The command passes its test and is not taken for one done already. -/
def begins : Bool :=
  authorized cfg request && (p.presence = (true, request.generation)) != up

/-- What the modules are told. -/
def event : PlayerEvent :=
  ⟨if up then .online else .offline, request.generation, cfg.now p.world⟩

/-- A presence command refuses, replies at once, or writes first and then calls the modules. -/
theorem setPresence_eq :
    p.setPresence cfg up request =
      if !authorized cfg request then (p, some .unauthorized)
      else if p.begins cfg up request then
        dispatchAndReply cfg
          { p with generation := request.generation, state := { p.state with online := up } }
          (p.event cfg up request)
      else p.replySnapshot cfg := by
  by_cases hauth : authorized cfg request = true
  · rw [if_neg (by simp [hauth])]
    by_cases hsame : p.state.online = true ∧ p.generation = request.generation
    · obtain ⟨hon, hgen⟩ := hsame
      cases up <;> simp [setPresence, handle, online, offline, begins, event, presence, hauth,
        hon, hgen]
    · have hskip : p.state.online = false ∨ ¬ p.generation = request.generation := by
        simpa [imp_iff_not_or] using hsame
      cases up <;>
        simp [setPresence, handle, online, offline, begins, event, presence, hauth, hsame, hskip]
  · cases up <;> simp [setPresence, handle, online, offline, hauth]

end Presence

variable {cfg : PlayerConfig π μ} {p : Player μ} {up : Bool} {request : PlayerPresence}

/-- The write of a command that begins is a change, whatever comes after it. -/
theorem presence_of_begins (h : p.begins cfg up request = true) :
    (p.setPresence cfg up request).1.presence = (up, request.generation) := by
  have hauth : authorized cfg request = true := (Bool.and_eq_true_iff.1 h).1
  rw [setPresence_eq, if_neg (by simp [hauth]), if_pos h, dispatchAndReply_presence]
  rfl

theorem presence_of_not_begins (h : p.begins cfg up request = false) :
    (p.setPresence cfg up request).1.presence = p.presence := by
  rw [setPresence_eq, if_neg (by simp [h] : ¬ p.begins cfg up request = true)]
  split
  · rfl
  · exact replySnapshot_presence p

theorem not_begins_again (h : p.begins cfg up request = true) :
    (p.setPresence cfg up request).1.begins cfg up request = false := by
  simp only [begins, presence_of_begins h]
  cases up <;> simp

theorem presence_ne_of_begins (h : p.begins cfg up request = true) :
    p.presence ≠ (up, request.generation) := by
  intro heq
  simp only [begins, heq] at h
  cases up <;> simp at h

end Player

theorem perm_sorted {π μ : Type} (cfg : PlayerConfig π μ) : cfg.sorted.Perm cfg.modules :=
  List.perm_insertionSort ..

theorem pairwise_sorted {π μ : Type} (cfg : PlayerConfig π μ) :
    (cfg.sorted.map (·.name)).Pairwise fun a b => a.less b = true := by
  have hle : ∀ a b : PlayerModule π μ,
      b.name.less a.name = false ↔ a.name.codes ≤ b.name.codes := fun a b => by simp [Text.less]
  have : Std.Total fun a b : PlayerModule π μ => b.name.less a.name = false :=
    ⟨fun a b => by simpa only [hle] using le_total a.name.codes b.name.codes⟩
  have : IsTrans (PlayerModule π μ) fun a b => b.name.less a.name = false :=
    ⟨fun a b c hab hbc => by rw [hle] at *; exact hab.trans hbc⟩
  have hsorted := List.pairwise_insertionSort (fun a b => b.name.less a.name = false) cfg.modules
  -- no two modules have one name, so the order is strict
  have hdistinct : (cfg.sorted.map (·.name)).Nodup :=
    ((perm_sorted cfg).map _).nodup_iff.2 cfg.distinct
  rw [List.Nodup, List.pairwise_map] at hdistinct
  rw [List.pairwise_map]
  refine (hsorted.and hdistinct).imp fun {a b} h => ?_
  have hlt := lt_of_le_of_ne ((hle a b).1 h.1) fun heq => h.2 (Text.codes_injective heq)
  simpa [Text.less] using hlt

/-- **When a presence command is atomic.** The modules are any code, and any of their calls, a
snapshot or the reply may fail.

A command that returns an error has left the flag and the generation as they were if and only if it
did not begin, and one that had begun is taken for done when it is repeated. A command that succeeds
was authorized; if it began, it has called every module once, in the order of their names, and the
flag and the generation are the new ones. -/
theorem presence_atomic_iff {π μ : Type} (cfg : PlayerConfig π μ) (p : Player μ) (up : Bool)
    (request : PlayerPresence) :
    let r := p.setPresence cfg up request
    let begins := p.begins cfg up request
    (r.2 ≠ none → (r.1.presence = p.presence ↔ begins = false) ∧
      (begins = true → r.1.begins cfg up request = false)) ∧
    (r.2 = none → Player.authorized cfg request = true ∧
      r.1.calls = p.calls ++ (if begins = true then
        cfg.sorted.map (fun m => (m.name, p.event cfg up request)) else []) ∧
      r.1.presence = if begins = true then (up, request.generation) else p.presence) ∧
    cfg.sorted.Perm cfg.modules ∧
    (cfg.sorted.map (·.name)).Pairwise fun a b => a.less b = true := by
  refine ⟨fun _ => ⟨⟨fun hsame => ?_, Player.presence_of_not_begins⟩, Player.not_begins_again⟩,
    fun hdone => ?_, perm_sorted cfg, pairwise_sorted cfg⟩
  · rw [← Bool.not_eq_true]
    intro hbegins
    rw [Player.presence_of_begins hbegins] at hsame
    exact Player.presence_ne_of_begins hbegins hsame.symm
  · have heq := p.setPresence_eq cfg up request
    split at heq
    · rw [heq] at hdone
      cases hdone
    · next hauth =>
      refine ⟨by simpa using hauth, ?_⟩
      split at heq
      · next hbegins =>
        rw [if_pos hbegins, if_pos hbegins, Player.presence_of_begins hbegins, heq]
        rw [heq] at hdone
        exact ⟨Player.dispatchAndReply_calls hdone, rfl⟩
      · next hbegins =>
        rw [if_neg hbegins, if_neg hbegins, List.append_nil, heq]
        exact ⟨Player.replySnapshot_calls p, Player.replySnapshot_presence p⟩

/-! ### A module that fails -/

/-- A module that fails the first time the Player comes online; the world says whether it has. -/
def refusing : PlayerModule Unit Bool where
  name := [98]
  commands := []
  handle _ w := (w, none)
  handleEvent event w :=
    if event.kind = .online then (true, if w then none else some (.other 1)) else (w, none)
  snapshot w := (w, .ok [])

/-- One module, and replies that are delivered. -/
def refusingConfig : PlayerConfig Unit Bool where
  identity := ⟨[112], [97]⟩
  modules := [refusing]
  now _ := 0
  reply _ w := (w, none)
  distinct := by decide

/-- A Player after `Init` is told to be online and its module fails. The command returns the error
and the Player is online under the generation. The same command then succeeds and calls no
module. -/
theorem presence_not_atomic :
    let new := Player.init refusingConfig { world := false }
    let request : PlayerPresence := ⟨⟨[112], [97]⟩, [49]⟩
    let failed := new.1.setPresence refusingConfig true request
    let again := failed.1.setPresence refusingConfig true request
    new.2 = none ∧ new.1.presence = (false, []) ∧
      failed.2 = some (.other 1) ∧ failed.1.presence = (true, [49]) ∧
      again.2 = none ∧ again.1.calls = failed.1.calls := by
  decide +kernel

end GameServiceRuntime.Game
