import GameServiceRuntime.Nhsk.Conservation

/-!
# What play leaves alone

The players, the numbers of the subgame, whether its replay is finalized, how many GameOver outputs
have been sent and whether the subgame is under way: play, views and automation leave all of that as
it is. What changes it are the Commands before and after play.
-/

namespace GameServiceRuntime.Nhsk

/-- A GameOver output. -/
def Output.isGameOver : Output → Bool
  | .gameOver => true
  | _ => false

namespace Battle

/-- The GameOver outputs that have been sent. -/
def overs (b : Battle) : ℕ := b.sent.countP (·.output.isGameOver)

/-- A subgame has been started and is not over. -/
def live (b : Battle) : Bool :=
  b.phase = .playing || b.phase = .awaitingSettlement || b.phase = .finalizingReplay

/-- What play leaves alone. -/
def setting (b : Battle) :=
  (b.players, b.gameNum, b.subgameNum, b.replayFinalized, b.subgames, b.overs, b.live)

variable {b b' : Battle} {rest : Battle → Battle}

/-! ### Sends -/

theorem setting_emit {outputs : List Output}
    (houtputs : ∀ output ∈ outputs, output.isGameOver = false)
    (hrest :
      ∀ refused sent, (rest { b with refused, sent }).setting = { b with refused, sent }.setting) :
    (emit outputs b rest).setting = b.setting := by
  induction outputs generalizing b with
  | nil => exact hrest b.refused b.sent
  | cons output outputs ih =>
    obtain ⟨houtput, htail⟩ := List.forall_mem_cons.mp houtputs
    have hsame : ∀ refused,
        { b with sent := ⟨output, b.phase, b.bySeat, b.hands⟩ :: b.sent, refused }.setting =
        b.setting := by
      intro refused
      simp only [setting, overs, List.countP_cons, houtput, Bool.false_eq_true, if_false, add_zero]
      rfl
    rw [emit]
    split
    · rw [← hsame b.refused]
      exact ih htail hrest
    · rfl
    · rw [← hsame (some _)]
      exact ih htail hrest

theorem setting_client {targets : List Text} {payload : Payload}
    (hrest :
      ∀ refused sent, (rest { b with refused, sent }).setting = { b with refused, sent }.setting) :
    (emit [.client targets payload] b rest).setting = b.setting :=
  setting_emit (fun output h => by rw [List.mem_singleton.mp h]; rfl) hrest

theorem setting_changeAutoState {player : Text} {enabled : Bool}
    (hrest : ∀ auto refused sent,
      (rest { b with auto, refused, sent }).setting = { b with auto, refused, sent }.setting) :
    (b.changeAutoState player enabled rest).setting = b.setting := by
  rw [changeAutoState]
  split
  · exact hrest b.auto b.refused b.sent
  · exact setting_client fun refused sent => hrest _ refused sent

theorem setting_withActive {rest : Fin 4 → Battle} (h : ∀ seat, (rest seat).setting = b.setting) :
    (b.withActive rest).setting = b.setting := by
  rw [withActive]
  split
  · exact h _
  · rfl

/-! ### Plays -/

theorem setting_after (b : Battle) (deadline : ActionDeadline) :
    (b.after deadline).setting = b.setting := by
  rw [after]
  split <;> rfl

theorem setting_askAction (b : Battle) (seat : Fin 4) : (b.askAction seat).setting = b.setting := by
  have hsubmit : (if b.useAI (b.bySeat seat) then b.submitAI seat else b).setting = b.setting := by
    split <;> rfl
  rw [askAction]
  generalize (if b.useAI (b.bySeat seat) then b.submitAI seat else b) = b₁ at hsubmit
  rw [← hsubmit]
  split
  · rfl
  · exact setting_client fun _ _ => rfl

theorem setting_startAction (b : Battle) : b.startAction.setting = b.setting := by
  refine setting_withActive (b := b.openAction) fun seat => ?_
  split
  · rfl
  · rw [setting_askAction, setting_after]

theorem setting_advanceTurn (b : Battle) : b.advanceTurn.setting = b.setting := by
  obtain ⟨passCount, log, activeSeat, heq⟩ := advanceLoop_eq [1, 2, 3, 4] b
  rw [advanceTurn, advanceSeat, heq]
  split
  · rw [finishTrick]
    split
    · rfl
    · split
      · rfl
      · exact setting_client fun _ _ => setting_startAction _
  · exact setting_startAction _

theorem setting_finishSeat (hplaying : b.phase = .playing) (seat : Fin 4) :
    (b.finishSeat seat).setting = b.setting := by
  have hlive : b.live = true := by simp [live, hplaying]
  rw [finishSeat]
  dsimp only
  split
  · refine (setting_emit (fun output h => ?_) fun _ _ => rfl).trans ?_
    · obtain rfl | h := List.mem_cons.mp h
      · rfl
      · rw [List.mem_singleton.mp h]
        rfl
    · rw [setting, setting, hlive, awardFinalScoreCards]
      split <;> rfl
  · exact setting_client fun _ _ => setting_advanceTurn _

theorem setting_recordPlay (b : Battle) (seat : Fin 4) (cards : List Card) :
    (b.recordPlay seat cards).setting = b.setting ∧ (b.recordPlay seat cards).phase = b.phase := by
  rw [recordPlay]
  dsimp only
  split <;> exact ⟨rfl, rfl⟩

theorem setting_move (hplaying : b.phase = .playing) (seat : Fin 4) (cards : List Card) :
    (b.move seat cards).setting = b.setting := by
  obtain ⟨hrecord, hphase⟩ := b.setting_recordPlay seat cards
  rw [← hrecord]
  refine setting_client fun refused sent => ?_
  dsimp only
  split
  · refine setting_finishSeat ?_ seat
    exact hphase.trans hplaying
  · exact setting_advanceTurn _

theorem setting_playWithSource (b : Battle) (player : Text) (cards : List Card)
    (verifyCode : UInt32)
    (source : Source) : (b.playWithSource player cards verifyCode source).setting = b.setting := by
  have hreject :
    (if source = .player then emit [.client [player] .outCardRejection] b id else b).setting =
      b.setting := by
    split
    · exact setting_client fun _ _ => rfl
    · rfl
  simp only [playWithSource]
  split
  · exact hreject
  next hplaying =>
    have hplaying := not_not.mp hplaying
    refine setting_withActive fun seat => ?_
    split
    · exact hreject
    · split
      · refine setting_changeAutoState fun _ _ _ => setting_move ?_ seat cards
        exact hplaying
      · exact setting_move hplaying seat cards

theorem setting_setAuto (b : Battle) (player : Text) (enabled early : Bool) :
    (b.setAuto player enabled early).setting = b.setting := by
  rw [setAuto]
  split
  · rfl
  · refine setting_changeAutoState fun auto refused sent => setting_client fun refused sent => ?_
    dsimp only
    split
    · rfl
    · refine setting_withActive fun seat => ?_
      split
      · exact setting_playWithSource (nextRevision _) _ _ _ _
      · rfl

theorem setting_timer (b : Battle) (deadline : ActionDeadline) :
    (b.timer deadline).setting = b.setting := by
  rw [timer]
  split
  · rfl
  · refine setting_withActive fun seat => ?_
    dsimp only
    split
    · rfl
    · split
      · split
        · exact setting_changeAutoState fun _ _ _ => setting_playWithSource ..
        · rfl
      · exact setting_playWithSource ..

theorem setting_applyAIResult (b : Battle) (result : AIResult) (early : Bool) :
    (b.applyAIResult result early).setting = b.setting := by
  rw [applyAIResult]
  split
  · rfl
  · refine setting_withActive fun seat => ?_
    dsimp only
    split
    · rfl
    · split
      · exact setting_after b.nextRevision _
      · exact setting_playWithSource b.nextRevision _ _ _ _

theorem setting_restorePlayerView (b : Battle) (player : Text) :
    (b.restorePlayerView player).setting = b.setting := by
  refine setting_emit (fun output h => ?_) fun _ _ => ?_
  · obtain rfl | h := List.mem_cons.mp h
    · rfl
    · rw [List.mem_singleton.mp h]
      rfl
  · split
    · refine setting_withActive fun seat => ?_
      split
      · exact setting_client fun _ _ => rfl
      · rfl
    · rfl

/-! ### The end of a subgame -/

theorem emit_overs (outputs : List Output) (b : Battle) (rest : Battle → Battle) :
    ∃ refused sent, { b with refused, sent }.overs ≤ b.overs + outputs.countP (·.isGameOver) ∧
      (emit outputs b rest = { b with refused, sent } ∨
        emit outputs b rest = rest { b with refused, sent }) := by
  induction outputs generalizing b with
  | nil => exact ⟨b.refused, b.sent, le_rfl, .inr rfl⟩
  | cons output outputs ih =>
    have hsent : ∀ refused,
        { b with sent := ⟨output, b.phase, b.bySeat, b.hands⟩ :: b.sent, refused }.overs +
          outputs.countP (·.isGameOver) = b.overs + (output :: outputs).countP (·.isGameOver) := by
      intro refused
      simp only [overs, List.countP_cons]
      omega
    rw [emit]
    split
    · obtain ⟨refused, sent, hle, he⟩ :=
        ih { b with sent := ⟨output, b.phase, b.bySeat, b.hands⟩ :: b.sent }
      exact ⟨refused, sent, hle.trans (hsent b.refused).le, he⟩
    · exact ⟨b.refused, b.sent, Nat.le_add_right .., .inl rfl⟩
    · next n _ =>
      obtain ⟨refused, sent, hle, he⟩ :=
        ih { b with sent := ⟨output, b.phase, b.bySeat, b.hands⟩ :: b.sent, refused := some n }
      exact ⟨refused, sent, hle.trans (hsent (some n)).le, he⟩

/-- What the end of a subgame can do: a replay that is finalized stays so, and a GameOver output is
sent when it is finalized. -/
structure Ends (b b' : Battle) : Prop where
  same : (b'.players, b'.gameNum, b'.subgameNum, b'.subgames) =
    (b.players, b.gameNum, b.subgameNum, b.subgames)
  live : b'.live = true → b.live = true
  ended : b'.replayFinalized = b.replayFinalized ∧ b'.overs ≤ b.overs ∨
    b.replayFinalized = false ∧ b'.replayFinalized = true ∧ b'.overs ≤ b.overs + 1

theorem ends_finishReplay (b : Battle) (stat : List Text) (notice : Bool) :
    Ends b (b.finishReplay stat notice) := by
  rw [finishReplay]
  split
  · exact ⟨rfl, id, .inl ⟨rfl, le_rfl⟩⟩
  next hc =>
    obtain ⟨hphase, hfinal⟩ := not_or.mp hc
    have hlive : b.live = true := by simp [live, not_not.mp hphase]
    have hcount :
      ((if stat = [] then [] else [Output.client stat .roundStat]) ++ [Output.gameOver] ++
        if notice then [Output.noticeRoundOver] else []).countP (·.isGameOver) = 1 := by
      split <;> split <;> rfl
    obtain ⟨refused, sent, hle, he⟩ := emit_overs _ _ _
    rw [hcount] at hle
    obtain he | he := he
    all_goals
      rw [he]
      exact ⟨rfl, fun _ => hlive, .inr ⟨Bool.eq_false_iff.mpr hfinal, rfl, hle⟩⟩

theorem ends_finish (hlive : b.live = true) (reveal waits : Bool) (stat : List Text) :
    Ends b (b.finish reveal waits stat) := by
  rw [finish]
  dsimp only
  have hcount :
    ∀ targets payload result,
    ((if reveal then [Output.client targets (.showCards payload)] else []) ++
      [Output.client targets result]).countP (·.isGameOver) = 0 := by
    intro targets payload result
    split <;> rfl
  obtain ⟨refused, sent, hle, he⟩ := emit_overs _ _ _
  rw [hcount] at hle
  obtain he | he := he
  · rw [he]
    exact ⟨rfl, fun _ => hlive, .inl ⟨rfl, hle⟩⟩
  · rw [he]
    dsimp only
    split
    · exact ⟨rfl, fun _ => hlive, .inl ⟨rfl, hle⟩⟩
    · obtain ⟨hsame, -, hover⟩ :=
        ends_finishReplay { b with phase := .finalizingReplay, refused, sent } stat reveal
      refine ⟨hsame, fun _ => hlive, hover.imp (fun h => ⟨h.1, h.2.trans hle⟩) fun h => ?_⟩
      exact ⟨h.1, h.2.1, h.2.2.trans (Nat.add_le_add_right hle 1)⟩

/-! ### Commands -/

/-- Every player has a user ID. -/
def Named (b : Battle) : Prop := ∀ player v, b.players.lookup player = some v → v.userID ≠ 0

/-- What a Command does to the setting. -/
inductive Sets (b b' : Battle) : Prop
  | same (h : b'.setting = b.setting)
  | seats (hnamed : b.Named → b'.Named) (h : b'.setting.2 = b.setting.2)
  | prepares (hidle : b.live = false)
      (h : (b'.players, b'.replayFinalized, b'.subgames, b'.overs, b'.live) =
        (b.players, b.replayFinalized, b.subgames, b.overs, false))
  | starts (h : b'.setting =
      (b.players, b.gameNum, b.subgameNum, false, b.subgames + 1, b.overs, true))
  | ends (h : Ends b b')

theorem updatePlayers_sets (b : Battle) (request : List PlayerUpdate) :
    Sets b (b.updatePlayers request) := by
  rw [updatePlayers]
  split
  next hc =>
    dsimp only
    split
    · refine .seats (fun hnamed => ?_) rfl
      obtain ⟨-, -, -, hrequest, -⟩ := hc
      have hfold : ∀ (us : List PlayerUpdate) (table : Table Text BattlePlayer),
          (∀ u ∈ us, u.userID ≠ 0) → (∀ player v, table.lookup player = some v → v.userID ≠ 0) →
          ∀ player v, AList.lookup player
            (us.foldl (fun t u => t.insert u.player u.toBattlePlayer) table) = some v →
            v.userID ≠ 0 := by
        intro us
        induction us with
        | nil => exact fun _ _ h => h
        | cons u us ih =>
          intro table hus htable
          obtain ⟨hu, hus⟩ := List.forall_mem_cons.mp hus
          exact ih _ hus (Table.forall_insert htable hu)
      exact hfold request b.players (fun u hu => (hrequest u hu).2.1) hnamed
    · exact .same rfl
  · exact .same rfl

theorem exit_sets (b : Battle) (player : Text) : Sets b (b.exit player) := by
  rw [exit]
  split
  · exact .same rfl
  next v hv =>
    refine .seats (fun hnamed => ?_) rfl
    exact Table.forall_insert hnamed (hnamed player v hv)

theorem prepare_sets (b : Battle) (gameNum subgameNum : UInt16) :
    Sets b (b.prepare gameNum subgameNum) := by
  rw [prepare]
  split
  · exact .same rfl
  · split
    · exact .same rfl
    · split
      next hphase =>
        refine .prepares ?_ rfl
        obtain h | h | h := hphase <;> simp [live, h]
      next => exact .same rfl

theorem start_sets (b : Battle) (intn : ℤ) (swaps : List (Fin 104 × Fin 104)) :
    Sets b (b.start intn swaps) := by
  rw [start]
  split
  · exact .same rfl
  · extract_lets custom bankerSeat
    split
    · exact .same rfl
    · refine .starts ?_
      refine (setting_emit (fun output h => ?_) fun _ _ => setting_startAction _).trans rfl
      rw [startOutputs, List.mem_append, List.mem_map] at h
      obtain h | ⟨seat, -, rfl⟩ := h
      · simp only [List.mem_cons, List.not_mem_nil, or_false] at h
        obtain rfl | rfl | rfl := h <;> rfl
      · rfl

/-- **What a Command does to the setting.** -/
theorem handle_sets (b : Battle) (c : Command) : Sets b (b.handle c) := by
  cases c with
  | initializeBattle valid rules =>
    rw [handle, initializeBattle]
    split <;> exact .same rfl
  | updatePlayers request => exact updatePlayers_sets ..
  | prepare gameNum subgameNum => exact prepare_sets ..
  | provideCustomDeck gameNum subgameNum decks =>
    rw [handle, provideCustomDeck]
    split <;> exact .same rfl
  | start intn swaps => exact start_sets ..
  | exit player => exact exit_sets ..
  | setAuto player enabled early => exact .same (setting_setAuto ..)
  | setOffline player offline =>
    rw [handle, setOffline]
    split <;> exact .same rfl
  | play player cards verifyCode => exact .same (setting_playWithSource ..)
  | preview player cards =>
    rw [handle, preview]
    split
    · exact .same rfl
    · refine .same (setting_withActive fun seat => ?_)
      split
      · rfl
      · exact setting_client fun _ _ => rfl
  | timer deadline =>
    exact .same (setting_timer { b with pending := b.pending.erase deadline } deadline)
  | aiResult result early => exact .same (setting_applyAIResult ..)
  | reconnect player =>
    rw [handle, reconnect]
    split
    · exact .same rfl
    · dsimp only
      split
      · exact .same (setting_changeAutoState fun _ _ _ => setting_restorePlayerView ..)
      · exact .same rfl
  | scene player =>
    rw [handle, scene]
    split
    · exact .same rfl
    · refine .same (setting_changeAutoState fun _ _ _ => ?_)
      split
      · exact setting_restorePlayerView ..
      · rfl
  | snapshot => exact .same (setting_withActive fun _ => rfl)
  | forceFinish waits stat =>
    rw [handle, forceFinish]
    split
    next hc =>
      have hlive : b.nextRevision.live = true := by
        obtain h | h := hc <;> simp [live, nextRevision, h]
      obtain ⟨hsame, -, hover⟩ := ends_finish hlive true waits stat
      exact .ends ⟨hsame, fun _ => hlive, hover⟩
    · exact .same rfl
  | completeSettlement accepted waits stat =>
    rw [handle, completeSettlement]
    split
    next hc => exact .ends (ends_finish (by simp [live, hc.1]) ..)
    · exact .same rfl
  | replayDone stat notice => exact .ends (ends_finishReplay ..)
  | deleteBarrier => exact .ends ⟨rfl, by rintro ⟨⟩, .inl ⟨rfl, le_rfl⟩⟩

theorem Sets.named (h : Sets b b') (hnamed : b.Named) : b'.Named := by
  have hsame : b'.players = b.players → b'.Named := fun hplayers => by rwa [Named, hplayers]
  cases h with
  | same h => exact hsame (congrArg Prod.fst h)
  | seats h => exact h hnamed
  | prepares _ h => exact hsame (congrArg Prod.fst h)
  | starts h => exact hsame (congrArg Prod.fst h)
  | ends h => exact hsame (congrArg Prod.fst h.same)

theorem named_of_reachable (h : battles.Reachable b) : b.Named := by
  refine h.invariant ?_ ?_
  · rintro b ⟨isNewbie, hasAI, rfl⟩ player v hv
    cases hv
  · intro b a b' hb _ hstep
    obtain ⟨-, ⟨-, rfl⟩ | ⟨-, rfl⟩⟩ := step_cases hstep
    · exact hb
    · exact (handle_sets (b.receive a) a.command).named hb

end Battle

end GameServiceRuntime.Nhsk
