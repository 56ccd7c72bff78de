import GameServiceRuntime.Game.Finish

/-!
# Framework commands that fail

Every framework command of a Battle checks before it writes, so that an error leaves the Battle as
it was. There are two ends after a write. One is the reply, which comes last and may not be
delivered. The other is peculiar to `start`: the phase is Running before Logic is asked for its
snapshot, and nothing takes it back when Logic answers with an error. The Battle then runs although
its start failed, and the next start is refused.
-/

namespace GameServiceRuntime.Game

variable {σ π : Type} {cfg : Config σ π} {s s' : State σ π}

/-- The framework commands that change a Battle. -/
def frameworkCommands : List UInt32 :=
  [startBattleCommand, setParticipantConnectedCommand, finishBattleCommand,
    applySettlementResultCommand]

/-- The error is that of a reply, which was the last thing done. -/
def ReplyFailed (w : World π) (err : Err) : Prop := ∃ env w₀ v, reply env w₀ v = (w, some err)

/-- Logic has answered a snapshot with an error. -/
def State.snapshotFails (s : State σ π) : Prop :=
  ∃ l err, s.active = some (.snapshotting (.ret (l, .error err)))

/-! ### The commands -/

section Commands

variable {env : Env} {w w' : World π} {err : Err}

theorem setParticipantConnected_atomic {request : ParticipantConnection}
    (h : setParticipantConnected cfg env w request = (w', some err)) :
    w'.battle = w.battle ∨ ReplyFailed w' err := by
  rw [setParticipantConnected] at h
  split at h
  · cases h
    exact .inl rfl
  · exact .inr ⟨env, _, _, h⟩

theorem finishBattle_atomic {f : FinishBattle} (h : finishBattle cfg env w f = (w', some err)) :
    w'.battle = w.battle ∨ ReplyFailed w' err := by
  rw [finishBattle] at h
  split at h
  · cases h
    exact .inl rfl
  split at h
  · split at h
    · split at h
      · cases h
        exact .inl rfl
      · exact .inr ⟨env, _, _, h⟩
    · cases h
      exact .inl rfl
  split at h
  · cases h
    exact .inl rfl
  split at h
  · cases h
    exact .inl rfl
  · exact .inr ⟨env, _, _, h⟩

theorem applySettlement_atomic {result : SettlementResult}
    (h : applySettlement cfg env w result = (w', some err)) :
    w'.battle = w.battle ∨ ReplyFailed w' err := by
  rw [applySettlement] at h
  split at h
  · cases h
    exact .inl rfl
  split at h
  · cases h
    exact .inl rfl
  split at h
  · exact .inr ⟨env, _, _, h⟩
  split at h
  · cases h
    exact .inl rfl
  · exact .inr ⟨env, _, _, h⟩

/-- A start ends at once with an error and no change, or the Battle runs and it goes on to the
snapshot. -/
theorem start_cases (cfg : Config σ π) (w : World π) (l : σ) (payload : Value π) :
    (∃ e, start cfg w l payload = (w, .inl (some e))) ∨
      ∃ w₁ p, start cfg w l payload = (w₁, .inr (.snapshotting p)) ∧
        w.battle.phase = .created ∧ w₁.battle.phase = .running := by
  unfold start
  split
  · split
    · exact .inl ⟨_, rfl⟩
    next hcreated => exact .inr ⟨_, _, rfl, not_not.1 hcreated, rfl⟩
  · split
    · exact .inl ⟨_, rfl⟩
    next hcreated => exact .inr ⟨_, _, rfl, not_not.1 hcreated, rfl⟩
  · exact .inl ⟨_, rfl⟩

/-- What a framework command does: it ends at once, without a change if with an error that is not
its reply's, or it goes on to the snapshot. -/
theorem handle_framework {c : Command π} (hc : c.id ∈ frameworkCommands)
    (cfg : Config σ π) (env : Env) (w : World π) (l : σ) :
    (∃ w' e, handle cfg env w l c = (w', .inl e) ∧
      ∀ err, e = some err → w'.battle = w.battle ∨ ReplyFailed w' err) ∨
    ∃ w' p, handle cfg env w l c = (w', .inr (.snapshotting p)) ∧
      w.battle.phase = .created ∧ w'.battle.phase = .running := by
  have hrefused : ∀ e, ∃ w' e', ((w, .inl (some e)) : Handling σ π) = (w', .inl e') ∧
      ∀ err, e' = some err → w'.battle = w.battle ∨ ReplyFailed w' err := fun e =>
    ⟨w, some e, rfl, fun _ _ => .inl rfl⟩
  simp only [frameworkCommands, List.mem_cons, List.not_mem_nil, or_false] at hc
  rw [handle]
  rcases hc with hc | hc | hc | hc
  · rw [if_pos hc]
    rcases start_cases cfg w l c.payload with ⟨e, h⟩ | h
    · rw [h]
      exact .inl (hrefused e)
    · exact .inr h
  · rw [if_neg (by rw [hc]; decide), if_neg (by rw [hc]; decide), if_pos hc]
    split
    · exact .inl ⟨_, _, rfl, fun err herr => setParticipantConnected_atomic (Prod.ext rfl herr)⟩
    · exact .inl (hrefused _)
  · rw [if_neg (by rw [hc]; decide), if_neg (by rw [hc]; decide), if_neg (by rw [hc]; decide),
      if_pos hc]
    split
    · exact .inl ⟨_, _, rfl, fun err herr => finishBattle_atomic (Prod.ext rfl herr)⟩
    · exact .inl (hrefused _)
  · rw [if_neg (by rw [hc]; decide), if_neg (by rw [hc]; decide), if_neg (by rw [hc]; decide),
      if_neg (by rw [hc]; decide), if_pos hc]
    split
    · exact .inl ⟨_, _, rfl, fun err herr => applySettlement_atomic (Prod.ext rfl herr)⟩
    · exact .inl (hrefused _)

end Commands

/-! ### Whole Handlers -/

/-- Nothing advances while Logic does not run, or after it panicked. -/
theorem steps_advance_eq {envs : List Env} (h : (system cfg).Steps s (envs.map .advance) s')
    (hstopped : s.active = none ∨ s.failed = true) : s' = s := by
  cases envs with
  | nil => exact h.symm
  | cons env envs =>
    obtain ⟨u, hu, -⟩ := h
    change step cfg s (.advance env) = some u at hu
    rcases hstopped with hnone | hfailed
    · simp [step, hnone] at hu
    · simp [step, hfailed] at hu

theorem log_returned_inj {w w' : World π} {e e' : Option Err}
    (h : w.log (.returned e) = w'.log (.returned e')) : (w, e) = (w', e') := by
  obtain ⟨battle, call, events⟩ := w
  obtain ⟨battle', call', events'⟩ := w'
  simp only [World.log, World.mk.injEq] at h
  obtain ⟨rfl, rfl, hevents⟩ := h
  obtain ⟨rfl, he⟩ := List.append_inj' hevents rfl
  simp only [List.cons.injEq, Event.returned.injEq, and_true] at he
  rw [he]

/-- A snapshot ends with its reply, if Logic does not answer with an error. -/
theorem replyFailed_of_snapshot {p : Prog π (σ × Except Err (Slice UInt8))} {envs : List Env}
    {w : World π} {err : Err} (hactive : s.active = some (.snapshotting p))
    (hrun : (system cfg).Steps s (envs.map .advance) s') (hreturned : s'.active = none)
    (hworld : s'.world = w.log (.returned (some err)))
    (hsnapshot : ∀ envs' u, envs' <+: envs → (system cfg).Steps s (envs'.map .advance) u →
      ¬ u.snapshotFails) : ReplyFailed w err := by
  induction envs generalizing s p with
  | nil =>
    obtain rfl := hrun
    exact nomatch hactive.symm.trans hreturned
  | cons env envs ih =>
    obtain ⟨u, hu, hrest⟩ := hrun
    have hlater : ∀ envs' v, envs' <+: envs → (system cfg).Steps u (envs'.map .advance) v →
        ¬ v.snapshotFails := fun envs' v hprefix hv =>
      hsnapshot (env :: envs') v (List.cons_prefix_cons.mpr ⟨rfl, hprefix⟩) ⟨u, hu, hv⟩
    change step cfg s (.advance env) = some u at hu
    cases stepped_of_step hu with
    | returned h => exact nomatch hactive.symm.trans h
    | handling h => exact nomatch hactive.symm.trans h
    | snapshotFailed h => exact absurd ⟨_, _, h⟩ (hsnapshot [] s List.nil_prefix rfl)
    | snapshotReplied =>
      obtain rfl := steps_advance_eq hrest (.inl rfl)
      exact ⟨env, _, _, log_returned_inj hworld⟩
    | panicked =>
      obtain rfl := steps_advance_eq hrest (.inr rfl)
      exact nomatch hactive.symm.trans hreturned
    | snapshotting => exact ih rfl hrest hlater

theorem started_of_steps {as : List (Action π)} (h : (system cfg).Steps s as s')
    (hs : s.world.battle.phase ≠ .created) : s'.world.battle.phase ≠ .created := by
  induction as generalizing s with
  | nil =>
    obtain rfl := h
    exact hs
  | cons a as ih =>
    obtain ⟨u, hu, hrest⟩ := h
    refine ih hrest ?_
    cases step_progress hu with
    | quiet _ _ hphase => rwa [hphase]
    | start _ _ hphase => exact absurd hphase hs
    | settle _ _ hphase | accept _ _ _ _ _ hphase =>
      intro hcreated
      rw [hcreated] at hphase
      cases hphase

/-- **Framework commands are atomic**, apart from a start whose snapshot fails: an error that is not
the reply's leaves the Battle as it was exactly if Logic has not answered a snapshot with an
error. -/
theorem framework_command_atomic {s s' : State σ π} {source : ServiceRef} {session : Bool}
    {c : Command π} {env : Env} {envs : List Env} {w : World π} {err : Err}
    (hc : c.id ∈ frameworkCommands)
    (hrun : (system cfg).Steps s (.command source session c env :: envs.map .advance) s')
    (hreturned : s'.active = none) (hworld : s'.world = w.log (.returned (some err)))
    (hreply : ¬ ReplyFailed w err) :
    s'.world.battle = s.world.battle ↔ ∀ envs' u, envs' <+: envs →
      (system cfg).Steps s (.command source session c env :: envs'.map .advance) u →
      ¬ u.snapshotFails := by
  obtain ⟨u, hu, hrest⟩ := hrun
  change step cfg s (.command source session c env) = some u at hu
  rcases handle_framework hc cfg env { s.world with call := ⟨source, session, false⟩ } s.logic with
    ⟨w₁, e, hhandle, hatomic⟩ | ⟨w₁, p, hhandle, hcreated, hrunning⟩
  · cases stepped_of_step hu with
    | entered _ h => exact nomatch hhandle.symm.trans h
    | ended _ h =>
      cases hhandle.symm.trans h
      obtain rfl := steps_advance_eq hrest (.inl rfl)
      cases log_returned_inj hworld
      refine iff_of_true ((hatomic err rfl).resolve_right hreply) fun envs' v _ hv => ?_
      obtain ⟨u', hu', hv⟩ := hv
      cases hu.symm.trans hu'
      obtain rfl := steps_advance_eq hv (.inl rfl)
      rintro ⟨l, err, hactive⟩
      exact nomatch hactive
  · cases stepped_of_step hu with
    | ended _ h => exact nomatch hhandle.symm.trans h
    | entered _ h =>
      cases hhandle.symm.trans h
      refine iff_of_false (fun hsame => ?_) fun hnone => hreply ?_
      · have hstarted := started_of_steps hrest (by simp [hrunning])
        rw [hsame] at hstarted
        exact hstarted hcreated
      · exact replyFailed_of_snapshot rfl hrest hreturned hworld fun envs' v hprefix hv =>
          hnone envs' v hprefix ⟨_, hu, hv⟩

/-- Something was replied. -/
def World.replied (w : World π) : Bool :=
  w.events.any fun
    | .reply _ => true
    | _ => false

theorem not_replyFailed {w : World π} {err : Err} (hreplied : w.replied = false)
    (herr : err ≠ .replyTwice) : ¬ ReplyFailed w err := by
  rintro ⟨env, w₀, v, h⟩
  rw [reply] at h
  split at h
  · cases h
  split at h
  · obtain ⟨-, heq⟩ := Prod.mk.inj h
    exact herr (Option.some.inj heq).symm
  · obtain ⟨rfl, -⟩ := Prod.mk.inj h
    simp [World.log, World.replied] at hreplied

/-- A Battle that settles is asked to finish by another request of the same identity. -/
theorem framework_command_atomic_refused : ∃ s s',
    (system quietConfig).Reachable s ∧ oneSettlement ∈ s.world.accepted ∧
    (system quietConfig).Steps s
      [.command ⟨[], 0⟩ true ⟨finishBattleCommand, .finish noSettlement⟩ {}] s' ∧
    s'.world.battle = s.world.battle := by
  obtain ⟨s, hs, hp⟩ := (system quietConfig).exists_reachableUnder_of_run (fun _ _ => True)
    (finishTrace oneSettlement) (s := newState quietConfig)
    (fun s => decide (oneSettlement ∈ s.world.accepted) &&
      (s.active.isNone && !s.failed && !s.world.replied)) ⟨(), _, rfl⟩ (by decide +kernel)
  simp only [Bool.and_eq_true, Bool.not_eq_true', decide_eq_true_eq,
    Option.isNone_iff_eq_none] at hp
  obtain ⟨hf, ⟨hidle, hfailed⟩, hreplied⟩ := hp
  have hid : noSettlement.requestID = oneSettlement.requestID := rfl
  have hconflict : finishBattle quietConfig {}
      { s.world with call := ⟨⟨[], 0⟩, true, false⟩ } noSettlement = _ :=
    finishBattle_of_accepted (accepted_reachable hs) hf hid _ _
  rw [if_neg (by decide)] at hconflict
  have hhandle : handle quietConfig {} { s.world with call := ⟨⟨[], 0⟩, true, false⟩ } s.logic
      ⟨finishBattleCommand, .finish noSettlement⟩ = _ := congrArg World.done hconflict
  have hstep : step quietConfig s
      (.command ⟨[], 0⟩ true ⟨finishBattleCommand, .finish noSettlement⟩ {}) = some
        (s.return s.logic
          ({ s.world with call := ⟨⟨[], 0⟩, true, false⟩ }, some .requestConflict)) := by
    rw [step, hfailed, hidle, hhandle]
    rfl
  have hrun : (system quietConfig).Steps s (.command ⟨[], 0⟩ true
      ⟨finishBattleCommand, .finish noSettlement⟩ {} :: ([] : List Env).map .advance) _ :=
    ⟨_, hstep, rfl⟩
  refine ⟨s, _, hs, hf, hrun, (framework_command_atomic (by decide) hrun rfl rfl
    (not_replyFailed hreplied (by decide))).mpr fun envs' u hprefix hu => ?_⟩
  obtain rfl := List.prefix_nil.mp hprefix
  obtain ⟨v, hv, rfl⟩ := hu
  obtain rfl := Option.some.inj (hstep.symm.trans hv)
  rintro ⟨l, err, h⟩
  cases h

/-- A Battle whose Logic answers every snapshot with an error. -/
def failingConfig : Config Unit Unit :=
  { quietConfig with
    logic :=
      { handleBattle := fun _ _ _ => .ret ((), none)
        snapshot := fun _ _ => .ret ((), .error (.other 0)) } }

/-- **A start is not atomic.** Logic answers the snapshot with an error, the command returns it, and
the Battle is Running. -/
theorem start_not_atomic : ∃ s' w,
    (system failingConfig).Reachable (newState failingConfig) ∧
    (system failingConfig).Steps (newState failingConfig)
      [.command ⟨[], 0⟩ true ⟨startBattleCommand, .nil⟩ {}, .advance {}] s' ∧
    s'.active = none ∧ s'.world = w.log (.returned (some (.other 0))) ∧
    ¬ ReplyFailed w (.other 0) ∧
    (newState failingConfig).world.battle.phase = .created ∧ s'.world.battle.phase = .running := by
  let w : World Unit :=
    { battle := { newBattle failingConfig with phase := .running }, call := ⟨⟨[], 0⟩, true, false⟩ }
  exact ⟨(newState failingConfig).return () (w, some (.other 0)), w, .init ⟨(), _, rfl⟩,
    ⟨_, rfl, _, rfl, rfl⟩, rfl, rfl, not_replyFailed rfl (by decide), rfl, rfl⟩

end GameServiceRuntime.Game
