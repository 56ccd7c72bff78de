import GameServiceRuntime.Game.Battle

/-!
# Finishing a Battle twice

A Battle accepts one `FinishBattle` and answers every repetition of it without doing anything. It
keeps a clone of the accepted request and compares a repetition with the clone by
`reflect.DeepEqual`.

`Progress` says what any step can do to the phase and the accepted request, and `Accepted` is the
invariant that follows: the stored request is the clone of the one accepted, whatever Logic,
timers, settlement results and other commands do afterwards. The law then is a matter of the clone
alone. The clone keeps the identity and the number of the settlements, and every settlement in it is
a zero value (`cloneFinishBattle_eq_iff`). So a request with settlements is not recognised when it
is repeated, and neither is one without them whose list is nil.

## Main results

* `accepted_reachable` — the stored request in every state, also in the middle of a Handler
* `finish_idempotent_iff` — which repetitions are answered as they should be
* `finish_not_idempotent` — a request with a settlement conflicts with itself
-/

namespace GameServiceRuntime.Game

variable {σ π : Type} {f g : FinishBattle}

/-! ### The clone -/

/-- What `finishBattle` has checked of a request it accepts. -/
structure FinishBattle.Valid (f : FinishBattle) : Prop where
  requestID : validateRequestID f.requestID = none
  settlements : ∀ intent ∈ f.settlements.elems, validateSettlementIntent intent = none

/-- What is left of `n` settlements in the clone. -/
def zeroIntents (n : ℕ) : Slice SettlementIntent := .of (List.replicate n default)

theorem cloneFinishBattle_eq (f : FinishBattle) :
    cloneFinishBattle f = { f with settlements := zeroIntents f.settlements.len } := by
  simp only [cloneFinishBattle, zeroIntents, Slice.map, Slice.elems_of, List.map_replicate]
  rfl

/-- **What the clone recognises**: the identity, with as many zero values as there were
settlements. -/
theorem cloneFinishBattle_eq_iff (hid : g.requestID = f.requestID) :
    cloneFinishBattle f = g ↔ g.settlements = zeroIntents f.settlements.len := by
  obtain ⟨gid, gs⟩ := g
  rw [cloneFinishBattle_eq, FinishBattle.mk.injEq, eq_comm (a := f.requestID),
    eq_comm (a := zeroIntents _)]
  exact and_iff_right hid

/-- Zero values are no valid settlements. -/
theorem value_ne_of_zeroIntents (hf : f.Valid) (hsome : f.settlements.elems ≠ [])
    (hg : g.settlements = zeroIntents f.settlements.len) :
    g.value ≠ f.value := by
  intro hvalue
  have hvalues : g.settlements.elems.map SettlementIntent.value =
      f.settlements.elems.map SettlementIntent.value := congrArg Prod.snd hvalue
  obtain ⟨intent, rest, hcons⟩ := List.exists_cons_of_ne_nil hsome
  have hvalid := hf.settlements intent (by rw [hcons]; exact List.mem_cons_self)
  rw [hg, zeroIntents, Slice.len, Slice.elems_of, hcons, List.length_cons, List.replicate_succ,
    List.map_cons, List.map_cons, List.cons.injEq] at hvalues
  exact requestID_ne_nil_of_valid hvalid (congrArg Prod.fst hvalues.1).symm

/-- Without settlements only the nil list is not recognised. -/
theorem eq_zeroIntents_iff (hid : g.requestID = f.requestID) (hnone : f.settlements.elems = []) :
    (g.value = f.value ↔ g.settlements = zeroIntents f.settlements.len) ↔
      g.settlements.isNil = false := by
  have hvalue : g.value = f.value ↔ g.settlements.elems = [] := by
    simp [FinishBattle.value, hid, hnone]
  have hzero : g.settlements = zeroIntents f.settlements.len ↔
      g.settlements.elems = [] ∧ g.settlements.isNil = false := by
    rw [Slice.eq_iff, Slice.len, hnone]
    rfl
  rw [hvalue, hzero]
  cases hnil : g.settlements.isNil with
  | false => simp
  | true => simp [g.settlements.elems_of_isNil hnil]

/-! ### What a step does to the accepted request -/

/-- The phases in which a Battle has not accepted a request. -/
def BattlePhase.isOpen : BattlePhase → Bool
  | .created | .running => true
  | _ => false

/-- The requests accepted so far. -/
def World.accepted (w : World π) : List FinishBattle :=
  w.events.filterMap fun
    | .accepted f => some f
    | _ => none

@[simp] theorem accepted_update (w : World π) (f : Battle π → Battle π) :
    (w.update f).accepted = w.accepted := rfl

@[simp] theorem battle_update (w : World π) (f : Battle π → Battle π) :
    (w.update f).battle = f w.battle := rfl

@[simp] theorem battle_log (w : World π) (e : Event π) : (w.log e).battle = w.battle := rfl

theorem accepted_log (w : World π) (e : Event π) :
    (w.log e).accepted = w.accepted ++ (match e with
      | .accepted f => [f]
      | _ => []) := by
  cases e <;> simp [World.log, World.accepted]

/-- What one operation can do to the phase and the accepted request. -/
inductive Progress (w w' : World π) : Prop
  | quiet (hfinish : w'.battle.finish = w.battle.finish) (haccepted : w'.accepted = w.accepted)
      (hphase : w'.battle.phase = w.battle.phase)
  | start (hfinish : w'.battle.finish = w.battle.finish) (haccepted : w'.accepted = w.accepted)
      (hphase : w.battle.phase = .created)
  | settle (hfinish : w'.battle.finish = w.battle.finish) (haccepted : w'.accepted = w.accepted)
      (hphase : w'.battle.phase.isOpen = false)
  | accept (f : FinishBattle) (hf : f.Valid) (hphase : w.battle.phase = .running)
      (hfinish : w'.battle.finish = cloneFinishBattle f)
      (haccepted : w'.accepted = w.accepted ++ [f]) (hphase' : w'.battle.phase.isOpen = false)

namespace Progress

variable {w w' w'' : World π}

theorem refl : Progress w w := .quiet rfl rfl rfl

/-- A quiet operation before another one. -/
theorem of_quiet (h : Progress w' w'') (hfinish : w'.battle.finish = w.battle.finish)
    (haccepted : w'.accepted = w.accepted) (hphase : w'.battle.phase = w.battle.phase) :
    Progress w w'' := by
  cases h with
  | quiet hf ha hp => exact .quiet (hf.trans hfinish) (ha.trans haccepted) (hp.trans hphase)
  | start hf ha hp => exact .start (hf.trans hfinish) (ha.trans haccepted) (hphase ▸ hp)
  | settle hf ha hp => exact .settle (hf.trans hfinish) (ha.trans haccepted) hp
  | accept f hv hp hf ha hp' => exact .accept f hv (hphase ▸ hp) hf (haccepted ▸ ha) hp'

/-- A quiet operation after another one. -/
theorem quiet_trans (h : Progress w w') (hfinish : w''.battle.finish = w'.battle.finish)
    (haccepted : w''.accepted = w'.accepted) (hphase : w''.battle.phase = w'.battle.phase) :
    Progress w w'' := by
  cases h with
  | quiet hf ha hp => exact .quiet (hfinish.trans hf) (haccepted.trans ha) (hphase.trans hp)
  | start hf ha hp => exact .start (hfinish.trans hf) (haccepted.trans ha) hp
  | settle hf ha hp => exact .settle (hfinish.trans hf) (haccepted.trans ha) (hphase ▸ hp)
  | accept f hv hp hf ha hp' =>
    exact .accept f hv hp (hfinish.trans hf) (haccepted.trans ha) (hphase ▸ hp')

end Progress

section Operations

variable (cfg : Config σ π) (env : Env) (w : World π)

@[simp] theorem reply_battle (v : Value π) : (reply env w v).1.battle = w.battle := by
  unfold reply
  split_ifs <;> rfl

@[simp] theorem reply_accepted (v : Value π) : (reply env w v).1.accepted = w.accepted := by
  unfold reply
  split
  · rfl
  split
  · rfl
  · exact (accepted_log ..).trans (List.append_nil _)

theorem Progress.reply {w' : World π} (h : Progress w w') (v : Value π) :
    Progress w (reply env w' v).1 :=
  h.quiet_trans (by rw [reply_battle]) (reply_accepted ..) (by rw [reply_battle])

/-- Changes of the Timeline alone. -/
structure TimelineOnly (w w' : World π) : Prop where
  battle : ∃ n items, w'.battle = { w.battle with nextID := n, items := items }
  accepted : w'.accepted = w.accepted

theorem TimelineOnly.progress {w w' : World π} (h : TimelineOnly w w') : Progress w w' := by
  obtain ⟨⟨n, items, hb⟩, ha⟩ := h
  exact .quiet (by rw [hb]) ha (by rw [hb])

theorem TimelineOnly.refl : TimelineOnly w w := ⟨⟨_, _, rfl⟩, rfl⟩

theorem schedule_timelineOnly (due : Time) (command : UInt32) (payload : Value π) :
    TimelineOnly w (schedule cfg env w due command payload).1 := by
  unfold schedule
  split
  · exact .refl w
  split
  · exact .refl w
  split
  · exact .refl w
  dsimp only [scheduleTimer]
  cases env.timerErr with
  | none | some err => exact ⟨⟨_, _, rfl⟩, by simp [accepted_log]⟩

theorem replace_timelineOnly (id : UInt64) (delay : ℤ) (command : UInt32) (payload : Value π) :
    TimelineOnly w (replace cfg env w id delay command payload).1 := by
  unfold replace
  split
  · exact .refl w
  split
  · exact .refl w
  split
  · exact .refl w
  split
  · exact .refl w
  split
  · exact .refl w
  dsimp only [scheduleTimer]
  cases env.timerErr with
  | none | some err => exact ⟨⟨_, _, rfl⟩, by simp [accepted_log]⟩

theorem cancel_timelineOnly (id : UInt64) : TimelineOnly w (cancel w id).1 := by
  unfold cancel
  split
  · exact .refl w
  · split_ifs
    · exact .refl w
    · exact ⟨⟨_, _, rfl⟩, rfl⟩

theorem submit_settlements (n : ℕ) (requests : List SettlementRequest) :
    (∃ m, (submit cfg env w n requests).battle = { w.battle with settlements := m }) ∧
      (submit cfg env w n requests).accepted = w.accepted := by
  induction requests generalizing w n with
  | nil => exact ⟨⟨_, rfl⟩, rfl⟩
  | cons request requests ih =>
    rw [submit]
    obtain ⟨⟨m, hb⟩, ha⟩ := ih (n := n + 1) _
    refine ⟨⟨m, hb.trans ?_⟩, ha.trans ?_⟩
    · split_ifs <;> rfl
    · split_ifs <;> simp [accepted_log]

theorem valid_of_buildRequests {self : ServiceRef} {seen : List Text}
    {intents : List SettlementIntent} {requests : List SettlementRequest}
    (h : buildRequests self seen intents = some requests) :
    ∀ intent ∈ intents, validateSettlementIntent intent = none := by
  induction intents generalizing seen requests with
  | nil => simp
  | cons intent intents ih =>
    rw [buildRequests] at h
    split_ifs at h with hvalid hseen
    obtain ⟨rest, hrest, -⟩ := Option.map_eq_some_iff.mp h
    intro x hx
    rcases List.mem_cons.mp hx with rfl | hx
    · simpa using hvalid
    · exact ih hrest x hx

theorem finishBattle_progress (f : FinishBattle) : Progress w (finishBattle cfg env w f).1 := by
  unfold finishBattle
  split
  · exact .refl
  next hid =>
  split
  · split
    · split
      · exact .refl
      · exact .reply env w .refl _
    · exact .refl
  · next hrunning =>
    split
    · exact .refl
    · next requests hbuild =>
      split
      · exact .refl
      -- the clone is stored here, and neither the submissions nor the reply touch it
      obtain ⟨⟨m, hb⟩, ha⟩ := submit_settlements cfg env
        ((w.update fun b => { b with finish := cloneFinishBattle f, phase := .settling }).log
          (.accepted f)) 0 requests
      refine .reply env w (.accept f ⟨by simpa using hid, valid_of_buildRequests hbuild⟩
        (by simpa using hrunning) ?_ ?_ ?_) _
      · split <;> simp [hb, cancelAll]
      · split <;> simp [ha, accepted_log]
      · split <;> simp [hb, cancelAll, BattlePhase.isOpen]

theorem applySettlement_progress (result : SettlementResult) :
    Progress w (applySettlement cfg env w result).1 := by
  unfold applySettlement
  split
  · exact .refl
  split
  · exact .refl
  split
  · exact .reply env w .refl _
  split
  · exact .refl
  refine .reply env w ?_ _
  split
  · exact .settle rfl rfl rfl
  · split
    · exact .settle rfl rfl rfl
    · exact .quiet rfl rfl rfl

theorem setParticipantConnected_progress (request : ParticipantConnection) :
    Progress w (setParticipantConnected cfg env w request).1 := by
  unfold setParticipantConnected
  split
  · exact .refl
  · refine .reply env w ?_ _
    exact .quiet rfl rfl rfl

theorem broadcastLoop_progress (command : UInt32) (payload : Value π) (n : ℕ) (r : ℕ × ℕ)
    (ps : List Participant) : Progress w (broadcastLoop env command payload w n r ps).1 := by
  induction ps generalizing w n r with
  | nil => exact .refl
  | cons p ps ih =>
    rw [broadcastLoop]
    split
    · exact ih ..
    · exact (ih ..).of_quiet rfl (by simp [accepted_log]) rfl

theorem perform_progress (o : Op π) : Progress w (perform cfg env w o).1 := by
  cases o with
  | reply v => exact .reply env w .refl v
  | finish f => exact finishBattle_progress cfg env w f
  | broadcast command payload => exact broadcastLoop_progress ..
  | send target command payload =>
    dsimp only [perform]
    split
    · exact .refl
    · exact .quiet rfl (by simp [accepted_log]) rfl
  | now => exact .refl
  | after delay command payload =>
    dsimp only [perform, after]
    split
    · exact .refl
    · exact (schedule_timelineOnly ..).progress
  | «at» due command payload =>
    dsimp only [perform, scheduleAt]
    split
    · exact .refl
    · exact (schedule_timelineOnly ..).progress
  | replace id delay command payload => exact (replace_timelineOnly ..).progress
  | cancel id => exact (cancel_timelineOnly ..).progress
  | timeline => exact .refl

theorem fire_progress (l : σ) (f : TimelineFire) : Progress w (fire cfg w l f).1 := by
  have hignored : Progress w (w.log (.metric "battle_timeline_ignored_total")) :=
    .quiet rfl (by simp [accepted_log]) rfl
  unfold fire
  dsimp only
  split
  · exact hignored
  split
  · exact hignored
  split
  · exact hignored
  split
  · exact .quiet rfl rfl rfl
  · exact .quiet rfl (by simp [accepted_log]) rfl

theorem start_progress (l : σ) (payload : Value π) : Progress w (start cfg w l payload).1 := by
  unfold start
  split
  · split
    · exact .refl
    · next h => exact .start rfl rfl (by simpa using h)
  · split
    · exact .refl
    · next h => exact .start rfl rfl (by simpa using h)
  · exact .refl

theorem handle_progress (l : σ) (c : Command π) : Progress w (handle cfg env w l c).1 := by
  unfold handle
  split
  · exact start_progress cfg w l c.payload
  split
  · split <;> exact .refl
  split
  · split
    · exact setParticipantConnected_progress ..
    · exact .refl
  split
  · split
    · exact finishBattle_progress ..
    · exact .refl
  split
  · split
    · exact applySettlement_progress ..
    · exact .refl
  split
  · split
    · exact fire_progress ..
    · exact .refl
  split <;> exact .refl

theorem runOp_progress {ρ : Type} (usable : Bool) (o : Op π) (k : o.Answer → Prog π ρ) :
    Progress w (runOp cfg env w usable o k).1 := by
  unfold runOp
  split
  · exact perform_progress cfg env w o
  · exact .refl

end Operations

variable {cfg : Config σ π}

/-- **One step.** -/
theorem step_progress {s s' : State σ π} {a : Action π}
    (h : step cfg s a = some s') : Progress s.world s'.world := by
  have hreturned : ∀ (l : σ) (r : World π × Option Err), Progress s.world r.1 →
      Progress s.world (s.return l r).world := fun l r hr =>
    hr.quiet_trans rfl (by simp [State.return, accepted_log]) rfl
  cases a with
  | command source session c env =>
    rw [step] at h
    split at h
    · cases h
    have hp := handle_progress cfg env { s.world with call := ⟨source, session, false⟩ } s.logic c
    have hp' := hp.of_quiet (w := s.world) rfl rfl rfl
    split at h <;> cases h
    · next w err heq => exact hreturned s.logic (w, err) (by rwa [heq] at hp')
    · next w active heq => rwa [heq] at hp'
  | advance env =>
    rw [step] at h
    split at h
    · cases h
    split at h <;> cases h
    · exact hreturned _ _ .refl
    · exact hreturned _ _ .refl
    · exact hreturned _ _ (.reply env s.world .refl _)
    · exact .refl
    · exact .refl
    · exact runOp_progress ..
    · exact runOp_progress ..

/-! ### The accepted request -/

/-- What ties the stored request to the ones accepted. -/
structure Accepted (w : World π) : Prop where
  fresh : w.battle.phase.isOpen = true → w.accepted = []
  stored : ∀ f ∈ w.accepted, f.Valid ∧ w.battle.finish = cloneFinishBattle f

theorem Accepted.progress {w w' : World π} (h : Accepted w) (hp : Progress w w') : Accepted w' := by
  cases hp with
  | quiet hf ha hphase =>
    exact ⟨fun ho => ha ▸ h.fresh (hphase ▸ ho), fun f hm => hf ▸ h.stored f (ha ▸ hm)⟩
  | start hf ha hphase =>
    have hnone : w'.accepted = [] := ha ▸ h.fresh (by rw [hphase]; rfl)
    exact ⟨fun _ => hnone, by simp [hnone]⟩
  | settle hf ha hphase =>
    exact ⟨fun ho => by simp [hphase] at ho, fun f hm => hf ▸ h.stored f (ha ▸ hm)⟩
  | accept f hv hphase hf ha hphase' =>
    have hnone : w.accepted = [] := h.fresh (by rw [hphase]; rfl)
    refine ⟨fun ho => by simp [hphase'] at ho, fun g hg => ?_⟩
    rw [ha, hnone, List.nil_append, List.mem_singleton] at hg
    exact hg ▸ ⟨hv, hf⟩

/-- **The stored request.** In every state of every run, also while Logic runs, the stored request
is the clone of each request accepted so far, and none is accepted before the Battle settles. -/
theorem accepted_reachable {s : State σ π} (h : (system cfg).Reachable s) :
    Accepted s.world := by
  refine h.invariant (I := fun s => Accepted s.world) ?_ fun s a s' hs _ hstep =>
    hs.progress (step_progress hstep)
  rintro s ⟨l, call, rfl⟩
  exact ⟨fun _ => rfl, by simp [World.accepted]⟩

/-! ### The law -/

/-- How a repetition `g` of the accepted request `f` should be answered in a world, whatever the
command context and the Runtime's answers: with the current phase and no change if it is equal as
a value, and by `ErrRequestConflict` and no change otherwise. -/
def AnswersRepeat (cfg : Config σ π) (w : World π) (f g : FinishBattle) : Prop :=
  ∀ env call, finishBattle cfg env { w with call := call } g =
    if g.value = f.value then reply env { w with call := call } (.phase w.battle.phase)
    else ({ w with call := call }, some .requestConflict)

/-- How a repetition is in fact answered. -/
theorem finishBattle_of_accepted {w : World π} (h : Accepted w) (hf : f ∈ w.accepted)
    (hid : g.requestID = f.requestID) (env : Env)
    (call : Call) : finishBattle cfg env { w with call := call } g =
      if g.settlements = zeroIntents f.settlements.len
      then reply env { w with call := call } (.phase w.battle.phase)
      else ({ w with call := call }, some .requestConflict) := by
  obtain ⟨hv, hstored⟩ := h.stored f hf
  have hphase : w.battle.phase ≠ .running := by
    intro hr
    have hnone := h.fresh (by rw [hr]; rfl)
    simp [hnone] at hf
  have hsame : (cloneFinishBattle f).requestID = f.requestID := rfl
  rw [finishBattle, hid, hv.requestID, hstored, hsame]
  simp only [Option.isSome_none, Bool.false_eq_true, if_false, ne_eq, hphase, not_false_eq_true,
    if_true, cloneFinishBattle_eq_iff hid, ite_not]

theorem answersRepeat_iff {w : World π} (h : Accepted w) (hf : f ∈ w.accepted)
    (hid : g.requestID = f.requestID) :
    AnswersRepeat cfg w f g ↔
      (g.value = f.value ↔ g.settlements = zeroIntents f.settlements.len) := by
  simp only [AnswersRepeat, finishBattle_of_accepted h hf hid]
  constructor
  · intro hanswers
    -- a command that came by `Send` gets no reply and no error
    have hsend := hanswers {} ⟨cfg.self, false, false⟩
    by_cases hvalue : g.value = f.value <;>
      by_cases hzero : g.settlements = zeroIntents f.settlements.len <;>
      simp [hvalue, hzero, reply] at hsend ⊢
  · intro hsame env call
    rw [if_congr hsame.symm rfl rfl]

/-- **Which repetitions are answered as they should be.** In every state after `f` was accepted, a
request of the same identity is answered with the current phase if it equals `f` as a value and
refused otherwise, changing and submitting nothing, in two cases only: `f` has no settlements and
the list of the request is not nil, or `f` has settlements and the request has other ones, not as
many zero values. An equal repetition of a request with settlements is never recognised. -/
theorem finish_idempotent_iff {cfg : Config σ π} {s : State σ π} (hs : (system cfg).Reachable s)
    {f g : FinishBattle} (hf : f ∈ s.world.accepted) (hid : g.requestID = f.requestID) :
    AnswersRepeat cfg s.world f g ↔
      (f.settlements.elems = [] ∧ g.settlements.isNil = false) ∨
      (f.settlements.elems ≠ [] ∧ g.value ≠ f.value ∧
        g.settlements ≠ zeroIntents f.settlements.len) := by
  have haccepted := accepted_reachable hs
  rw [answersRepeat_iff haccepted hf hid]
  by_cases hnone : f.settlements.elems = []
  · rw [eq_zeroIntents_iff hid hnone]
    simp [hnone]
  · have hzero := value_ne_of_zeroIntents (g := g) (haccepted.stored f hf).1 hnone
    tauto

/-! ### Concrete runs -/

/-- A Battle of one player whose Logic does nothing. -/
def quietConfig : Config Unit Unit where
  id := 1
  participants := [⟨"p1", ⟨[], 0⟩⟩]
  wallet := ⟨"n", 2⟩
  logic :=
    { handleBattle := fun _ _ _ => .ret ((), none)
      snapshot := fun _ _ => .ret ((), .ok .nil) }
  self := ⟨"n", 1⟩
  cloneable := fun _ => true
  valid := by decide

/-- The Battle starts and is told to finish. -/
def finishTrace (f : FinishBattle) : List (Action Unit) :=
  [.command ⟨[], 0⟩ false ⟨startBattleCommand, .nil⟩ {}, .advance {},
    .command ⟨[], 0⟩ false ⟨finishBattleCommand, .finish f⟩ {}]

/-- A request with one settlement. -/
def oneSettlement : FinishBattle where
  requestID := "f"
  settlements := .of [⟨"s", "gold",
    .of [⟨"p1", 5⟩]⟩]

/-- A request without settlements. -/
def noSettlement : FinishBattle where
  requestID := "f"
  settlements := .of []

/-- A Battle before its first command. -/
def newState (cfg : Config Unit Unit) : State Unit Unit :=
  { world := { battle := newBattle cfg, call := ⟨⟨[], 0⟩, false, false⟩ }, logic := () }

theorem exists_accepted (f : FinishBattle)
    (h : ((system quietConfig).runUnder (fun _ _ => True) (newState quietConfig)
      (finishTrace f)).map (fun s => decide (f ∈ s.world.accepted)) = some true) :
    ∃ s, (system quietConfig).Reachable s ∧ f ∈ s.world.accepted := by
  obtain ⟨s, hs, hp⟩ := (system quietConfig).exists_reachableUnder_of_run (fun _ _ => True)
    (finishTrace f) (fun s => decide (f ∈ s.world.accepted)) ⟨(), _, rfl⟩ h
  exact ⟨s, hs, by simpa using hp⟩

theorem finish_idempotent_iff_oneSettlement :
    (∃ s, (system quietConfig).Reachable s ∧ noSettlement ∈ s.world.accepted ∧
      AnswersRepeat quietConfig s.world noSettlement noSettlement) ∧
    ∃ s, (system quietConfig).Reachable s ∧ oneSettlement ∈ s.world.accepted ∧
      AnswersRepeat quietConfig s.world oneSettlement noSettlement := by
  constructor
  · obtain ⟨s, hs, hf⟩ := exists_accepted noSettlement (by decide +kernel)
    exact ⟨s, hs, hf, (finish_idempotent_iff hs hf rfl).mpr (by decide)⟩
  · obtain ⟨s, hs, hf⟩ := exists_accepted oneSettlement (by decide +kernel)
    exact ⟨s, hs, hf, (finish_idempotent_iff (g := noSettlement) hs hf rfl).mpr (by decide)⟩

/-- **Finish is not idempotent.** A Battle finished by a request with one settlement answers the
same request with `ErrRequestConflict`. -/
theorem finish_not_idempotent :
    ∃ s, (system quietConfig).Reachable s ∧ oneSettlement ∈ s.world.accepted ∧
      (∀ env call, (finishBattle quietConfig env { s.world with call := call } oneSettlement).2 =
        some .requestConflict) ∧
      ¬ AnswersRepeat quietConfig s.world oneSettlement oneSettlement := by
  obtain ⟨s, hs, hf⟩ := exists_accepted oneSettlement (by decide +kernel)
  have haccepted := accepted_reachable hs
  refine ⟨s, hs, hf, fun env call => ?_, fun h => ?_⟩
  · rw [finishBattle_of_accepted haccepted hf rfl]
    rfl
  · have hzero := ((answersRepeat_iff haccepted hf rfl).1 h).1 rfl
    revert hzero
    decide

end GameServiceRuntime.Game
