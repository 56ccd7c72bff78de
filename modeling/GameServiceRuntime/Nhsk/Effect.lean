import GameServiceRuntime.Nhsk.Battle

/-!
# What a Command can do

`Effect` says once what handling a Command other than `start` can do to the table and to the turn:
nothing, one move, a new deadline for the same turn, the end of the subgame, or a turn whose
deadline is given up and whose move is then refused. The last one has its reason with it.
`start_cases` says the same of `start`. Everything else about the Battle is followed through these
and not through the handlers.
-/

namespace GameServiceRuntime.Nhsk.Battle

/-! ### Projections -/

/-- The fields of the subgame. -/
def table (b : Battle) :=
  (b.hands, b.outedCards, b.started, b.custom, b.lastCards, b.preOutSeat, b.passCount, b.scoreCards,
    b.capturedPoints, b.finished, b.log, b.activeSeat)

/-- The fields of the turn, with what is known of timers and requests. -/
def turn (b : Battle) :=
  (b.verifyCode, b.turnRevision, b.revisions, b.pending, b.timers, b.requests, b.subgames,
    b.opportunities, b.opened, b.accepted)

/-- What the Runtime answers, and whether it has refused something. -/
def answers (b : Battle) := (b.afterFails, b.sendFailed, b.timerFailed)

/-- Each seat is the seat of the player who sits there. -/
def Seated (b : Battle) : Prop :=
  ∀ seat, b.bySeat seat ≠ [] → ∃ v, b.players.lookup (b.bySeat seat) = some v ∧ v.seatID = seat.val

/-- A subgame is prepared and played after `initialize`. -/
def Ready (b : Battle) : Prop := b.phase = .preparing ∨ b.phase = .playing → b.initialized = true

/-- `b₁` is `b` after some Sends and a change of `auto` or `offline`. -/
def Framed (b b₁ : Battle) : Prop :=
  ∃ auto offline refused sent, (b.refused = none → refused = none) ∧
    b₁ = { b with auto, offline, refused, sent }

/-- What handling a Command can do, apart from `start`. -/
inductive Effect (b : Battle) : Battle → Prop
  | idle {b' : Battle} (htable : b'.table = b.table) (hturn : b'.turn = b.turn)
      (hanswers : b'.answers = b.answers)
      (hphase : b'.phase = b.phase ∨ b'.phase ≠ .playing ∧ b'.phase ≠ .awaitingSettlement)
      (hseats : b.phase = .playing ∨ b.phase = .awaitingSettlement → b'.bySeat = b.bySeat)
      (hseated : b.Seated → b'.Seated)
      (hrules : b.initialized = true → b'.initialized = true ∧ b'.rules = b.rules)
      (hready : b.Ready → b'.Ready) (hranks : b'.ranks = b.ranks) : Effect b b'
  /-- the deadline is given up, and the automatic move is refused -/
  | lapse {b₁ : Battle} {seat : Fin 4} (hframe : Framed b.nextRevision b₁)
      (hplaying : b.phase = .playing) (hseat : b.activeSeat = seat)
      (hreason : b.verifyCode = 0 ∨
        ¬b.validActionCandidate (b.bySeat seat) (b.localAutoCards (b.bySeat seat))) : Effect b b₁
  /-- the move of an AI is left to a timer -/
  | delay {b₁ : Battle} {seat : Fin 4} {cards : List Card} (hframe : Framed b.nextRevision b₁)
      (hplaying : b.phase = .playing) (hseat : b.activeSeat = seat)
      (hvalid : b.validActionCandidate (b.bySeat seat) cards) :
      Effect b (b₁.after ⟨b.turnRevision + 1, .ai, cards⟩)
  /-- the subgame is over -/
  | ended {b₁ : Battle} (hframe : Framed b b₁ ∨ Framed b.nextRevision b₁) (phase : Phase)
      (replayFinalized : Bool)
      (hphase : phase = .finished ∨ phase = .finalizingReplay ∨ phase = .stopping) :
      Effect b { b₁ with phase, replayFinalized }
  | move {b₁ : Battle} {seat : Fin 4} {cards : List Card}
      (hframe : Framed b b₁ ∨ Framed b.nextRevision b₁) (hplaying : b.phase = .playing)
      (hseat : b.activeSeat = seat) (hvalid : b.validActionCandidate (b.bySeat seat) cards) :
      Effect b (b₁.move seat cards)

variable {b b₁ b₂ b' : Battle} {rest : Battle → Battle} {outputs : List Output} {seat : Fin 4}

theorem outedCards_of_table (h : b'.table = b.table) : b'.outedCards = b.outedCards :=
  congrArg (fun t => t.2.1) h

theorem lastCards_of_table (h : b'.table = b.table) : b'.lastCards = b.lastCards :=
  congrArg (fun t => t.2.2.2.2.1) h

theorem activeSeat_of_table (h : b'.table = b.table) : b'.activeSeat = b.activeSeat :=
  congrArg (fun t => t.2.2.2.2.2.2.2.2.2.2.2) h

theorem sendFailed_of_answers (h : b'.answers = b.answers) : b'.sendFailed = b.sendFailed :=
  congrArg (fun t => t.2.1) h

theorem Framed.refl (b : Battle) : Framed b b := ⟨b.auto, b.offline, b.refused, b.sent, id, rfl⟩

theorem Framed.trans (h : Framed b b₁) (h' : Framed b₁ b₂) : Framed b b₂ := by
  obtain ⟨auto, offline, refused, sent, hr, rfl⟩ := h
  obtain ⟨auto', offline', refused', sent', hr', rfl⟩ := h'
  exact ⟨auto', offline', refused', sent', fun h => hr' (hr h), rfl⟩

theorem Framed.nextRevision (h : Framed b b₁) : Framed b.nextRevision b₁.nextRevision := by
  obtain ⟨auto, offline, refused, sent, hr, rfl⟩ := h
  exact ⟨auto, offline, refused, sent, hr, rfl⟩

theorem Framed.trans_or (h : Framed b b₁) (h' : Framed b₁ b₂ ∨ Framed b₁.nextRevision b₂) :
    Framed b b₂ ∨ Framed b.nextRevision b₂ :=
  h'.imp h.trans h.nextRevision.trans

/-- The common case: nothing that matters has changed. -/
theorem Effect.same (h : (b'.table, b'.turn, b'.answers, b'.phase, b'.bySeat, b'.players,
    b'.initialized, b'.rules, b'.ranks) =
      (b.table, b.turn, b.answers, b.phase, b.bySeat, b.players, b.initialized, b.rules, b.ranks)) :
    Effect b b' := by
  simp only [Prod.mk.injEq] at h
  obtain ⟨htable, hturn, hanswers, hphase, hseats, hplayers, hinit, hrules, hranks⟩ := h
  refine .idle htable hturn hanswers (.inl hphase) (fun _ => hseats) ?_
    (fun h => ⟨hinit.trans h, hrules⟩) ?_ hranks
  · rw [Seated, Seated, hseats, hplayers]
    exact id
  · rw [Ready, Ready, hphase, hinit]
    exact id

theorem Effect.refl (b : Battle) : Effect b b := .same rfl

/-- Sends and a change of `auto` before an effect do not show in it. -/
theorem Effect.frame (hframe : Framed b b₁) (h : Effect b₁ b') : Effect b b' := by
  have hbase := hframe
  obtain ⟨auto, offline, refused, sent, hr, rfl⟩ := hframe
  cases h with
  | idle htable hturn hanswers hphase hseats hseated hrules hready hranks =>
    exact .idle htable hturn hanswers hphase hseats hseated hrules hready hranks
  | lapse hframe hplaying hseat hreason =>
    exact .lapse (hbase.nextRevision.trans hframe) hplaying hseat hreason
  | delay hframe hplaying hseat hvalid =>
    exact .delay (hbase.nextRevision.trans hframe) hplaying hseat hvalid
  | ended hframe phase replayFinalized hphase =>
    exact .ended (hbase.trans_or hframe) phase replayFinalized hphase
  | move hframe hplaying hseat hvalid => exact .move (hbase.trans_or hframe) hplaying hseat hvalid

/-! ### Sends -/

/-- A refused Send ends the handler, and otherwise it goes on. -/
theorem emit_cases (outputs : List Output) (b : Battle) (rest : Battle → Battle) :
    (∃ refused sent, emit outputs b rest = { b with refused, sent } ∧ b.refused ≠ none) ∨
      ∃ refused sent, (b.refused = none → refused = none) ∧
        emit outputs b rest = rest { b with refused, sent } := by
  induction outputs generalizing b with
  | nil => exact .inr ⟨b.refused, b.sent, id, rfl⟩
  | cons output outputs ih =>
    rw [emit]
    rcases hr : b.refused with _ | _ | n
    · obtain ⟨refused, sent, -, hne⟩ | ⟨refused, sent, hr', he⟩ :=
        ih { b with sent := ⟨output, b.phase, b.bySeat, b.hands⟩ :: b.sent }
      · exact absurd hr hne
      · rw [hr] at he
        exact .inr ⟨refused, sent, fun _ => hr' hr, he⟩
    · exact .inl ⟨b.refused, b.sent, rfl, nofun⟩
    · obtain ⟨refused, sent, he, -⟩ | ⟨refused, sent, -, he⟩ :=
        ih { b with sent := ⟨output, b.phase, b.bySeat, b.hands⟩ :: b.sent, refused := some n }
      · exact .inl ⟨refused, sent, he, nofun⟩
      · exact .inr ⟨refused, sent, nofun, he⟩

theorem effect_emit {auto : Text → Bool} (h : ∀ b₁, Framed b b₁ → Effect b₁ (rest b₁)) :
    Effect b (emit outputs { b with auto } rest) := by
  obtain ⟨refused, sent, he, -⟩ | ⟨refused, sent, hr, he⟩ := emit_cases outputs { b with auto } rest
  · rw [he]
    exact .same rfl
  · rw [he]
    have hframe : Framed b { b with auto, refused, sent } :=
      ⟨auto, b.offline, refused, sent, hr, rfl⟩
    exact (h _ hframe).frame hframe

theorem effect_changeAutoState {player : Text} {enabled : Bool}
    (h : ∀ b₁, Framed b b₁ → Effect b₁ (rest b₁)) :
    Effect b (b.changeAutoState player enabled rest) := by
  rw [changeAutoState]
  split
  · exact h b (.refl b)
  · exact effect_emit h

theorem effect_withActive {rest : Fin 4 → Battle}
    (h : ∀ seat : Fin 4, b.activeSeat = seat → Effect b (rest seat)) :
    Effect b (b.withActive rest) := by
  rw [withActive]
  split
  · exact h _ rfl
  · exact .same rfl

/-! ### Handlers -/

theorem withActive_of_eq (hseat : b.activeSeat = seat) (rest : Fin 4 → Battle) :
    b.withActive rest = rest seat := by
  have hlt : b.activeSeat < 4 := hseat ▸ seat.is_lt
  rw [withActive, dif_pos hlt]
  exact congrArg rest (Fin.ext hseat)

/-- A move that the Battle makes for the active seat. -/
theorem playWithSource_active {source : Source} (hplaying : b.phase = .playing)
    (hseat : b.activeSeat = seat) (hsource : source ≠ .player) (cards : List Card) :
    b.playWithSource (b.bySeat seat) cards b.verifyCode source =
      if b.verifyCode = 0 ∨ ¬b.validActionCandidate (b.bySeat seat) cards then b
      else b.move seat cards := by
  simp only [playWithSource, hplaying, withActive_of_eq hseat, hsource, ne_eq, not_true, if_false,
    false_or]

theorem playWithSource_effect (b : Battle) (player : Text) (cards : List Card) (verifyCode : UInt32)
    (source : Source) : Effect b (b.playWithSource player cards verifyCode source) := by
  have hreject : Effect b (if source = .player then emit [.client [player] .outCardRejection] b id
      else b) := by
    split
    · exact effect_emit fun b₁ _ => .refl b₁
    · exact .refl b
  simp only [playWithSource]
  split
  · exact hreject
  next hplaying =>
  have hplaying : b.phase = .playing := not_not.mp hplaying
  refine effect_withActive fun seat hseat => ?_
  split
  · exact hreject
  next hc =>
  simp only [not_or, not_not] at hc
  obtain ⟨rfl, -, -, hvalid⟩ := hc
  split
  · refine effect_changeAutoState fun b₁ hframe => ?_
    obtain ⟨auto, offline, refused, sent, -, rfl⟩ := hframe
    exact .move (.inl (.refl _)) hplaying hseat hvalid
  · exact .move (.inl (.refl b)) hplaying hseat hvalid

theorem setAuto_effect (b : Battle) (player : Text) (enabled early : Bool) :
    Effect b (b.setAuto player enabled early) := by
  rw [setAuto]
  split
  · exact .refl b
  next hc =>
  have hplaying : b.phase = .playing := not_not.mp (not_or.mp hc).2
  refine effect_changeAutoState fun b₁ h₁ => effect_emit fun b₂ h₂ => ?_
  obtain ⟨auto, offline, refused, sent, -, rfl⟩ := h₁.trans h₂
  split
  · exact .refl _
  refine effect_withActive fun seat hseat => ?_
  split
  next hearly =>
    obtain ⟨rfl, -⟩ := hearly
    have heq :=
      @playWithSource_active (nextRevision { b with auto, offline, refused, sent }) seat
        .auto hplaying
      hseat nofun (localAutoCards { b with auto, offline, refused, sent } (b.bySeat seat))
    refine heq ▸ ?_
    split
    next hreason => exact .lapse (.refl _) hplaying hseat hreason
    next hok => exact .move (.inr (.refl _)) hplaying hseat (not_not.mp (not_or.mp hok).2)
  · exact .refl _

theorem timer_effect (b : Battle) (deadline : ActionDeadline) : Effect b (b.timer deadline) := by
  rw [timer]
  split
  · exact .refl b
  refine effect_withActive fun seat hseat => ?_
  dsimp only
  split
  · exact .refl b
  split
  · split
    · exact effect_changeAutoState fun b₁ _ => playWithSource_effect ..
    · exact .refl b
  · exact playWithSource_effect ..

theorem applyAIResult_effect (b : Battle) (result : AIResult) (early : Bool) :
    Effect b (b.applyAIResult result early) := by
  rw [applyAIResult]
  split
  · exact .refl b
  next hc =>
  have hplaying : b.phase = .playing := by
    by_contra hne
    exact hc (.inr (.inl hne))
  refine effect_withActive fun seat hseat => ?_
  dsimp only
  split
  · exact .refl b
  next hc =>
  simp only [not_or, not_not] at hc
  obtain ⟨-, -, hvalid⟩ := hc
  split
  · exact .delay (.refl _) hplaying hseat hvalid
  · have heq := @playWithSource_active b.nextRevision seat .ai hplaying hseat nofun result.cards
    refine heq ▸ ?_
    split
    next hreason =>
      exact .lapse (.refl _) hplaying hseat (hreason.imp_right fun hnot => absurd hvalid hnot)
    · exact .move (.inr (.refl _)) hplaying hseat hvalid

theorem restorePlayerView_effect (b : Battle) (player : Text) :
    Effect b (b.restorePlayerView player) := by
  refine effect_emit fun b₁ _ => ?_
  split
  · refine effect_withActive fun seat _ => ?_
    split
    · exact effect_emit fun b₂ _ => .refl b₂
    · exact .refl b₁
  · exact .refl b₁

theorem reconnect_effect (b : Battle) (player : Text) : Effect b (b.reconnect player) := by
  rw [reconnect]
  split
  · exact .refl b
  have hframe : Framed b { b with offline := Function.update b.offline player false } :=
    ⟨b.auto, _, b.refused, b.sent, id, rfl⟩
  refine Effect.frame hframe ?_
  dsimp only
  split
  · exact effect_changeAutoState fun b₁ _ => restorePlayerView_effect b₁ player
  · exact .refl _

theorem scene_effect (b : Battle) (player : Text) : Effect b (b.scene player) := by
  rw [scene]
  split
  · exact .refl b
  refine effect_changeAutoState fun b₁ _ => ?_
  split
  · exact restorePlayerView_effect b₁ player
  · exact .refl b₁

theorem preview_effect (b : Battle) (player : Text) (cards : List Card) :
    Effect b (b.preview player cards) := by
  rw [preview]
  split
  · exact .refl b
  refine effect_withActive fun seat _ => ?_
  split
  · exact .refl b
  · exact effect_emit fun b₁ _ => .refl b₁

theorem effect_ended {phase : Phase} {replayFinalized : Bool}
    (hframe : Framed b b₁ ∨ Framed b.nextRevision b₁)
    (hphase : phase = .finished ∨ phase = .finalizingReplay ∨ phase = .stopping)
    (h : ∀ b₂, Framed b b₂ ∨ Framed b.nextRevision b₂ →
      Effect b (rest { b₂ with phase, replayFinalized })) :
    Effect b (emit outputs { b₁ with phase, replayFinalized } rest) := by
  have hsent : ∀ refused sent, (b₁.refused = none → refused = none) →
      Framed b { b₁ with refused, sent } ∨ Framed b.nextRevision { b₁ with refused, sent } := by
    intro refused sent hr
    have hstep : Framed b₁ { b₁ with refused, sent } :=
      ⟨b₁.auto, b₁.offline, refused, sent, hr, rfl⟩
    exact hframe.imp (·.trans hstep) (·.trans hstep)
  obtain ⟨refused, sent, he, hne⟩ | ⟨refused, sent, hr, he⟩ :=
    emit_cases outputs { b₁ with phase, replayFinalized } rest
  · rw [he]
    exact .ended (hsent refused sent fun hnone => absurd hnone hne) phase replayFinalized hphase
  · rw [he]
    exact h _ (hsent refused sent hr)

/-- `finishReplay`, in a Battle that has come to the end of its subgame. -/
theorem effect_finishReplay {phase : Phase} {replayFinalized : Bool}
    (hframe : Framed b b₁ ∨ Framed b.nextRevision b₁)
    (hphase : phase = .finished ∨ phase = .finalizingReplay ∨ phase = .stopping) (stat : List Text)
    (notice : Bool) :
    Effect b ({ b₁ with phase, replayFinalized }.finishReplay stat notice) := by
  rw [finishReplay]
  split
  · exact .ended hframe phase replayFinalized hphase
  · refine @effect_ended b b₁ _ _ phase true hframe hphase fun b₂ h₂ => ?_
    exact .ended h₂ .finished true (.inl rfl)

theorem finish_effect (hframe : Framed b b₁ ∨ Framed b.nextRevision b₁) (reveal waits : Bool)
    (stat : List Text) : Effect b (b₁.finish reveal waits stat) := by
  refine @effect_ended b b₁ _ _ .finished b₁.replayFinalized hframe (.inl rfl) fun b₂ h₂ => ?_
  dsimp only
  split
  · exact .ended h₂ .finalizingReplay _ (.inr (.inl rfl))
  · exact effect_finishReplay h₂ (.inr (.inl rfl)) stat reveal

theorem finishReplay_effect (b : Battle) (stat : List Text) (notice : Bool) :
    Effect b (b.finishReplay stat notice) := by
  by_cases hphase : b.phase = .finalizingReplay
  · exact @effect_finishReplay b b b.phase b.replayFinalized (.inl (.refl b))
      (.inr (.inl hphase)) stat notice
  · rw [finishReplay, if_pos (.inl hphase)]
    exact .refl b

theorem updatePlayers_seated (b : Battle) (request : List PlayerUpdate) (h : b.Seated) :
    (b.updatePlayers request).Seated := by
  rw [updatePlayers]
  split
  · dsimp only
    split
    · intro seat hne
      dsimp only at hne ⊢
      cases he : List.find? _ _ with
      | none => simp [he] at hne
      | some e =>
        refine ⟨e.2, ?_, by simpa using List.find?_some he⟩
        exact AList.mem_lookup_iff.mpr (List.mem_of_find?_eq_some he)
    · exact h
  · exact h

theorem exit_seated (b : Battle) (player : Text) (h : b.Seated) : (b.exit player).Seated := by
  rw [exit]
  split
  · exact h
  next v hv =>
  intro seat hne
  obtain ⟨w, hw, hseat⟩ := h seat hne
  dsimp only
  rw [Table.lookup_insert_ite]
  split
  next heq =>
    rw [heq, hv] at hw
    cases hw
    exact ⟨_, rfl, hseat⟩
  · exact ⟨w, hw, hseat⟩

theorem initializeBattle_effect (b : Battle) (valid : Bool) (rules : Rules) :
    Effect b (b.initializeBattle valid rules) := by
  rw [initializeBattle]
  split
  next hc =>
    exact .idle rfl rfl rfl (.inl rfl) (fun _ => rfl) id (fun h => absurd h hc.2)
      (fun _ _ => rfl) rfl
  · exact .refl b

theorem updatePlayers_effect (b : Battle) (request : List PlayerUpdate) :
    Effect b (b.updatePlayers request) := by
  have hseated := b.updatePlayers_seated request
  rw [updatePlayers] at hseated ⊢
  split at hseated
  next hc =>
    rw [if_pos hc]
    dsimp only at hseated ⊢
    split at hseated
    next hseats =>
      rw [if_pos hseats]
      refine .idle rfl rfl rfl (.inl rfl) (fun hphase => ?_) hseated (fun h => ⟨h, rfl⟩)
        (fun _ _ => hc.1) rfl
      obtain hphase | hphase := hphase
      all_goals
        rw [hphase] at hc
        exact absurd hc.2.1 (by simp)
    next hseats =>
      rw [if_neg hseats]
      exact .refl b
  next hc =>
    rw [if_neg hc]
    exact .refl b

theorem prepare_effect (b : Battle) (gameNum subgameNum : UInt16) :
    Effect b (b.prepare gameNum subgameNum) := by
  rw [prepare]
  split
  · exact .refl b
  next hc =>
  have hinit : b.initialized = true := not_not.mp (not_or.mp hc).1
  split
  · exact .refl b
  split
  · exact .idle rfl rfl rfl (.inr ⟨nofun, nofun⟩) (fun _ => rfl) id (fun h => ⟨h, rfl⟩)
      (fun _ _ => hinit) rfl
  · exact .refl b

theorem exit_effect (b : Battle) (player : Text) : Effect b (b.exit player) := by
  have hseated := b.exit_seated player
  rw [exit] at hseated ⊢
  split
  · exact .refl b
  next v hv =>
  rw [hv] at hseated
  exact .idle rfl rfl rfl (.inl rfl) (fun _ => rfl) hseated (fun h => ⟨h, rfl⟩) id rfl

/-- **What a Command can do.** A timer that comes back is taken off the list first. -/
theorem handle_effect (b : Battle) (c : Command) :
    (∃ intn swaps, c = .start intn swaps) ∨
      (∃ deadline, c = .timer deadline ∧
        Effect { b with pending := b.pending.erase deadline } (b.handle c)) ∨
      Effect b (b.handle c) := by
  cases c with
  | start intn swaps => exact .inl ⟨intn, swaps, rfl⟩
  | timer deadline => exact .inr (.inl ⟨deadline, rfl, timer_effect ..⟩)
  | initializeBattle valid rules => exact .inr (.inr (initializeBattle_effect ..))
  | updatePlayers request => exact .inr (.inr (updatePlayers_effect ..))
  | prepare gameNum subgameNum => exact .inr (.inr (prepare_effect ..))
  | provideCustomDeck gameNum subgameNum decks =>
    refine .inr (.inr ?_)
    rw [handle, provideCustomDeck]
    split <;> exact .same rfl
  | exit player => exact .inr (.inr (exit_effect ..))
  | setAuto player enabled early => exact .inr (.inr (setAuto_effect ..))
  | setOffline player offline =>
    refine .inr (.inr ?_)
    rw [handle, setOffline]
    split <;> exact .same rfl
  | play player cards verifyCode => exact .inr (.inr (playWithSource_effect ..))
  | preview player cards => exact .inr (.inr (preview_effect ..))
  | aiResult result early => exact .inr (.inr (applyAIResult_effect ..))
  | reconnect player => exact .inr (.inr (reconnect_effect ..))
  | scene player => exact .inr (.inr (scene_effect ..))
  | snapshot => exact .inr (.inr (effect_withActive fun _ _ => .refl b))
  | forceFinish waits stat =>
    refine .inr (.inr ?_)
    rw [handle, forceFinish]
    split
    · exact finish_effect (.inr (.refl _)) ..
    · exact .refl b
  | completeSettlement accepted waits stat =>
    refine .inr (.inr ?_)
    rw [handle, completeSettlement]
    split
    · exact finish_effect (.inl (.refl b)) ..
    · exact .refl b
  | replayDone stat notice => exact .inr (.inr (finishReplay_effect ..))
  | deleteBarrier =>
    exact .inr (.inr (.ended (.inr (.refl _)) .stopping b.replayFinalized (.inr (.inr rfl))))

/-! ### Opportunities -/

/-- The ticket of what is created now. -/
def ticket (b : Battle) : Ticket := ⟨b.subgames, b.opportunities, b.revisions⟩

/-- What a handler leaves alone when it opens an action opportunity. -/
def around (b : Battle) :=
  (b.table, b.phase, b.bySeat, b.players, b.initialized, b.rules, b.answers, b.subgames, b.accepted,
    b.ranks)

/-- What `startAction` does. -/
structure Opens (b b' : Battle) : Prop where
  around : b'.around = b.around
  refused : b.refused = none → b'.refused = none
  verifyCode : b'.verifyCode = b.verifyCode + 2
  turnRevision : b'.turnRevision = b.turnRevision + 1
  revisions : b'.revisions = b.revisions + 1
  opportunities : b'.opportunities = b.opportunities + 1
  opened : b'.opened = (b.verifyCode + 2, b.activeSeat) :: b.opened
  range : b'.panicked = false → b.activeSeat < 4
  /-- the deadline of the opportunity -/
  deadline : b.activeSeat < 4 → b.afterFails = false →
    ∃ d ∈ b'.pending, d.turnRevision = b'.turnRevision ∧ (d.source = .timeout ∨ d.source = .auto)
  timers : ∀ t ∈ b'.timers, t ∈ b.timers ∨ t.1 = b'.ticket ∧ t.2.turnRevision = b'.turnRevision
  requests : ∀ q ∈ b'.requests,
    q ∈ b.requests ∨ q.1 = b'.ticket ∧ q.2.turnRevision = b'.turnRevision

theorem Opens.table_eq (h : Opens b b') : b'.table = b.table := congrArg Prod.fst h.around

/-- A Send after the opportunity is open changes nothing about it. -/
theorem Opens.emit (h : Opens b b₁) : Opens b (emit outputs b₁ id) := by
  obtain ⟨refused, sent, he, hne⟩ | ⟨refused, sent, hr, he⟩ := emit_cases outputs b₁ id
  all_goals
    rw [he]
    refine ⟨h.around, fun hnone => ?_, h.verifyCode, h.turnRevision, h.revisions, h.opportunities,
      h.opened, h.range, h.deadline, h.timers, h.requests⟩
  · exact absurd (h.refused hnone) hne
  · exact hr (h.refused hnone)

theorem Opens.submitAI (h : Opens b b₁) : Opens b (b₁.submitAI seat) := by
  refine ⟨h.around, h.refused, h.verifyCode, h.turnRevision, h.revisions, h.opportunities, h.opened,
    h.range, h.deadline, h.timers, fun q hq => ?_⟩
  obtain rfl | hq := List.mem_cons.mp hq
  · exact .inr ⟨rfl, rfl⟩
  · exact h.requests q hq

theorem Opens.askAction (h : Opens b b₁) : Opens b (b₁.askAction seat) := by
  have hsubmit : Opens b (if b₁.useAI (b₁.bySeat seat) then b₁.submitAI seat else b₁) := by
    split
    · exact h.submitAI
    · exact h
  rw [Battle.askAction]
  generalize (if b₁.useAI (b₁.bySeat seat) then b₁.submitAI seat else b₁) = b₂ at hsubmit
  split
  · exact hsubmit
  · exact hsubmit.emit

/-- What is left to show once the opportunity is written. -/
theorem opens_of_openAction
    (h : (b'.around, b'.refused, b'.verifyCode, b'.turnRevision, b'.revisions, b'.opportunities,
        b'.opened, b'.requests) =
      (b.openAction.around, b.openAction.refused, b.openAction.verifyCode,
        b.openAction.turnRevision,
        b.openAction.revisions, b.openAction.opportunities, b.openAction.opened,
        b.openAction.requests))
    (hrange : b'.panicked = false → b.activeSeat < 4)
    (hdeadline : b.activeSeat < 4 → b.afterFails = false →
      ∃ d ∈ b'.pending, d.turnRevision = b'.turnRevision ∧ (d.source = .timeout ∨ d.source = .auto))
    (htimers : ∀ t ∈ b'.timers, t ∈ b.timers ∨ t.1 = b'.ticket ∧
      t.2.turnRevision = b'.turnRevision) :
    Opens b b' := by
  simp only [Prod.mk.injEq] at h
  obtain ⟨haround, hrefused, hcode, hrevision, hrevisions, hopportunities, hopened, hrequests⟩ := h
  exact ⟨haround, fun hnone => hrefused.trans hnone, hcode, hrevision, hrevisions,
    hopportunities, hopened, hrange, hdeadline, htimers, fun q hq => .inl (hrequests ▸ hq)⟩

theorem Opens.after {source : Source} (hok : b.openAction.afterFails = false)
    (hlt : b.openAction.activeSeat < 4) (hsource : source = .timeout ∨ source = .auto) :
    Opens b (b.openAction.after ⟨b.openAction.turnRevision, source, []⟩) := by
  rw [Battle.after, if_neg (by rw [hok]; nofun)]
  refine opens_of_openAction rfl (fun _ => hlt)
    (fun _ _ => ⟨_, List.mem_cons_self, rfl, hsource⟩) fun t ht => ?_
  obtain rfl | ht := List.mem_cons.mp ht
  · exact .inr ⟨rfl, rfl⟩
  · exact .inl ht

theorem startAction_opens (b : Battle) : Opens b b.startAction := by
  simp only [startAction, withActive]
  split
  next hlt =>
    split
    next hfails =>
      refine opens_of_openAction rfl (fun _ => hlt) (fun _ hok => ?_) fun t ht => .inl ht
      exact absurd (hfails.symm.trans hok) nofun
    next hfails =>
      have hsource : ∀ player, b.openAction.actionSource player = .timeout ∨
          b.openAction.actionSource player = .auto := by
        intro player
        rw [actionSource]
        split
        · exact .inr rfl
        · exact .inl rfl
      exact (Opens.after (Bool.eq_false_iff.mpr hfails) hlt (hsource _)).askAction
  next hge => exact opens_of_openAction rfl nofun (fun hlt => absurd hlt hge) fun t ht => .inl ht

/-! ### Moves -/

/-- `advanceSeat` writes three fields. -/
theorem advanceLoop_eq (steps : List ℕ) (b : Battle) :
    ∃ passCount log activeSeat, advanceLoop steps b = { b with passCount, log, activeSeat } := by
  induction steps generalizing b with
  | nil => exact ⟨_, _, _, rfl⟩
  | cons step steps ih =>
    rw [advanceLoop]
    split
    · exact ⟨_, _, _, rfl⟩
    · obtain ⟨passCount, log, activeSeat, heq⟩ := ih _
      exact ⟨passCount, log, activeSeat, heq⟩

/-- What a move leaves alone once it is recorded. -/
def kept (b : Battle) :=
  (b.hands, b.outedCards, b.started, b.custom, b.players, b.bySeat, b.initialized, b.rules,
    b.answers)

theorem kept_emit (h : ∀ refused sent, (rest { b with refused, sent }).kept = b.kept) :
    (emit outputs b rest).kept = b.kept := by
  obtain ⟨refused, sent, he, -⟩ | ⟨refused, sent, -, he⟩ := emit_cases outputs b rest
  · rw [he]
    rfl
  · rw [he, h]

theorem Opens.kept (h : Opens b b') : b'.kept = b.kept := by
  have haround := h.around
  simp only [Battle.around, table, Prod.mk.injEq] at haround
  simp only [Battle.kept, Prod.mk.injEq]
  simp [haround]

theorem kept_finishTrick (b : Battle) : b.finishTrick.kept = b.kept := by
  rw [finishTrick]
  split
  · rfl
  · split
    · rfl
    · exact kept_emit fun _ _ => (startAction_opens _).kept

theorem kept_advanceTurn (b : Battle) : b.advanceTurn.kept = b.kept := by
  obtain ⟨passCount, log, activeSeat, heq⟩ := advanceLoop_eq [1, 2, 3, 4] b
  rw [advanceTurn, advanceSeat, heq]
  split
  · exact kept_finishTrick _
  · exact (startAction_opens _).kept

theorem kept_finishSeat (b : Battle) (seat : Fin 4) : (b.finishSeat seat).kept = b.kept := by
  rw [finishSeat]
  dsimp only
  split
  · refine (kept_emit fun _ _ => rfl).trans ?_
    rw [awardFinalScoreCards]
    split <;> rfl
  · exact kept_emit fun _ _ => kept_advanceTurn _

theorem kept_move (b : Battle) (seat : Fin 4) (cards : List Card) :
    (b.move seat cards).kept = (b.recordPlay seat cards).kept := by
  refine kept_emit fun refused sent => ?_
  split
  · exact kept_finishSeat _ _
  · exact kept_advanceTurn _

theorem kept_recordPlay (b : Battle) (seat : Fin 4) (cards : List Card) :
    (b.recordPlay seat cards).kept = (b.hands.insert (b.bySeat seat) ((b.seatHand seat).diff cards),
      b.outedCards ++ [cards], b.started, b.custom, b.players, b.bySeat, b.initialized, b.rules,
      b.answers) := by
  rw [recordPlay]
  dsimp only
  split <;> rfl

section Moved

variable (b : Battle) (seat : Fin 4) (cards : List Card)

theorem kept_moved :
    (b.move seat cards).kept = (b.hands.insert (b.bySeat seat) ((b.seatHand seat).diff cards),
      b.outedCards ++ [cards], b.started, b.custom, b.players, b.bySeat, b.initialized, b.rules,
      b.answers) :=
  (kept_move b seat cards).trans (kept_recordPlay b seat cards)

theorem move_outedCards : (b.move seat cards).outedCards = b.outedCards ++ [cards] :=
  congrArg (fun k => k.2.1) (b.kept_moved seat cards)

theorem move_seats : (b.move seat cards).bySeat = b.bySeat :=
  congrArg (fun k => k.2.2.2.2.2.1) (b.kept_moved seat cards)

theorem move_answers : (b.move seat cards).answers = b.answers :=
  congrArg (fun k => k.2.2.2.2.2.2.2.2) (b.kept_moved seat cards)

theorem recordPlay_seats : (b.recordPlay seat cards).bySeat = b.bySeat :=
  congrArg (fun k => k.2.2.2.2.2.1) (b.kept_recordPlay seat cards)

end Moved

/-- `b₁` has the turn of `b`, and Sends succeed in it if they do in `b`. -/
structure Near (b b₁ : Battle) : Prop where
  turn : b₁.turn = b.turn
  kept : b₁.kept = b.kept
  phase : b₁.phase = b.phase
  refused : b.refused = none → b₁.refused = none

/-- How the turn goes on after a play is recorded in `b`. -/
inductive Turned (b : Battle) : Battle → Prop
  | stopped {b' : Battle} (hturn : b'.turn = b.turn)
      (hend : b.refused = none → b'.phase = .awaitingSettlement) : Turned b b'
  | opened {b₁ b' : Battle} (hopens : Opens b₁ b') (hnear : Near b b₁) : Turned b b'

theorem turned_emit (hnear : Near b b₁) (h : ∀ refused sent, Near b { b₁ with refused, sent } →
      Turned b (rest { b₁ with refused, sent })) :
    Turned b (emit outputs b₁ rest) := by
  obtain ⟨refused, sent, he, hne⟩ | ⟨refused, sent, hr, he⟩ := emit_cases outputs b₁ rest
  · rw [he]
    exact .stopped hnear.turn fun hnone => absurd (hnear.refused hnone) hne
  · rw [he]
    exact h refused sent ⟨hnear.turn, hnear.kept, hnear.phase,
      fun hnone => hr (hnear.refused hnone)⟩

theorem turned_advanceTurn (hnear : Near b b₁) (hfour : ∀ seat, b₁.bySeat seat ≠ []) :
    Turned b b₁.advanceTurn := by
  obtain ⟨passCount, log, activeSeat, heq⟩ := advanceLoop_eq [1, 2, 3, 4] b₁
  rw [advanceTurn, advanceSeat, heq]
  dsimp only
  split
  next hc =>
    obtain ⟨winner, hwinner⟩ := Option.isSome_iff_exists.mp hc.1
    simp only [finishTrick, hwinner, if_neg (hfour winner)]
    refine turned_emit ⟨hnear.turn, hnear.kept, hnear.phase, hnear.refused⟩ fun refused sent h => ?_
    exact .opened (startAction_opens _) ⟨h.turn, h.kept, h.phase, h.refused⟩
  · exact .opened (startAction_opens _) ⟨hnear.turn, hnear.kept, hnear.phase, hnear.refused⟩

theorem turned_finishSeat (hnear : Near b b₁) (hfour : ∀ seat, b₁.bySeat seat ≠ []) (seat : Fin 4) :
    Turned b (b₁.finishSeat seat) := by
  rw [finishSeat]
  dsimp only
  split
  · have haward : ∀ b₂ : Battle, b₂.awardFinalScoreCards.turn = b₂.turn := by
      intro b₂
      rw [awardFinalScoreCards]
      split <;> rfl
    obtain ⟨refused, sent, he, -⟩ | ⟨refused, sent, -, he⟩ := emit_cases _ _ id
    all_goals
      rw [he]
      exact .stopped ((haward _).trans hnear.turn) fun _ => rfl
  · refine turned_emit ⟨hnear.turn, hnear.kept, hnear.phase, hnear.refused⟩ fun refused sent h => ?_
    exact turned_advanceTurn h hfour

/-- **The turn after a move.** -/
theorem turned_move (hfour : ∀ seat, b.bySeat seat ≠ []) (seat : Fin 4) (cards : List Card) :
    Turned (b.recordPlay seat cards) (b.move seat cards) := by
  have hseats := b.recordPlay_seats seat cards
  refine turned_emit ⟨rfl, rfl, rfl, id⟩ fun refused sent h => ?_
  split
  · exact turned_finishSeat h (hseats ▸ hfour) seat
  · exact turned_advanceTurn h (hseats ▸ hfour)

theorem turn_recordPlay (b : Battle) (seat : Fin 4) (cards : List Card) :
    ((b.recordPlay seat cards).turn, (b.recordPlay seat cards).phase,
      (b.recordPlay seat cards).refused) =
      ({ b with accepted := (b.verifyCode, seat.val) :: b.accepted }.turn, b.phase, b.refused) := by
  rw [recordPlay]
  dsimp only
  split <;> rfl

/-! ### The start of a subgame -/

theorem dealtDeck_perm (b : Battle) (custom : Option CustomDeck)
    (swaps : List (Fin 104 × Fin 104)) :
    (b.dealtDeck custom swaps).Perm (custom.elim ordinaryDeck (·.cards)) := by
  have hshuffle := shuffle_perm swaps ordinaryDeck
  cases custom with
  | some d => exact .refl _
  | none =>
    simp only [dealtDeck]
    split
    · split
      · exact (adjustNewbieCards_perm ..).trans hshuffle
      · exact hshuffle
    · exact (swapSingleCards_perm ..).trans hshuffle

/-- The turn of a subgame before its first opportunity. -/
def dealtTurn (b : Battle) :=
  ((1 : UInt32), b.turnRevision, b.revisions, b.pending, b.timers, b.requests, b.subgames + 1,
    b.opportunities, ([] : List (UInt32 × ℕ)), ([] : List (UInt32 × ℕ)))

/-- What `start` leaves when it deals. -/
structure Dealt (b b' : Battle) (bankerSeat : ℕ) (deck : List Card) : Prop where
  four : ∀ seat, b.bySeat seat ≠ []
  prepared : b.phase = .preparing
  seats : (b'.players, b'.bySeat, b'.initialized, b'.rules) =
    (b.players, b.bySeat, b.initialized, b.rules)
  phase : b'.phase = .playing
  banker : b.customDeckForSubgame = none → bankerSeat < 4
  perm : deck.Perm (b.customDeckForSubgame.elim ordinaryDeck (·.cards))
  table : b'.table = (b.dealDeck bankerSeat deck, [], true, b.customDeckForSubgame, [], none, 0, [],
    fun _ => 0, fun _ => false, [], bankerSeat)
  answers : b'.answers = (b.afterFails, b.refused.isSome, b.afterFails)
  turn : b'.turn = b.dealtTurn ∧ b.refused ≠ none ∨ ∃ b₁, Opens b₁ b' ∧ b₁.turn = b.dealtTurn
  ranks : b'.ranks = fun _ => 0

theorem Dealt.refused_eq_none {bankerSeat : ℕ} {deck : List Card} (hd : Dealt b b' bankerSeat deck)
    (hsent : b'.sendFailed = false) : b.refused = none := by
  have hsome : b'.sendFailed = b.refused.isSome := congrArg (fun t => t.2.1) hd.answers
  rw [← Option.not_isSome_iff_eq_none, ← hsome, hsent]
  nofun

/-- `start` does nothing, panics before the deal is over, or deals. -/
theorem start_cases (b : Battle) (intn : ℤ) (swaps : List (Fin 104 × Fin 104)) :
    b.start intn swaps = b ∨
      b.phase = .preparing ∧
        b.start intn swaps = { b with hands := ∅, started := false, panicked := true } ∨
      ∃ bankerSeat deck, Dealt b (b.start intn swaps) bankerSeat deck := by
  rw [start]
  split
  · exact .inl rfl
  next hc =>
  simp only [not_or, not_not, hasFourPlayers, decide_eq_true_eq] at hc
  obtain ⟨hphase, hfour, -, hintn⟩ := hc
  dsimp only
  generalize hseat : Option.getD _ intn = bankerSeat
  split
  · exact .inr (.inl ⟨hphase, rfl⟩)
  have hbanker : b.customDeckForSubgame = none → bankerSeat.toNat < 4 := by
    intro hnone
    simp only [hnone, Option.map_none, Option.filter_none, Option.getD_none] at hseat
    omega
  have hperm := b.dealtDeck_perm b.customDeckForSubgame swaps
  refine .inr (.inr ⟨bankerSeat.toNat, b.dealtDeck b.customDeckForSubgame swaps, ?_⟩)
  obtain ⟨refused, sent, he, hne⟩ | ⟨refused, sent, hr, he⟩ := emit_cases _ _ startAction
  · rw [he]
    exact ⟨hfour.1, hphase, rfl, rfl, hbanker, hperm, rfl, rfl, .inl ⟨rfl, hne⟩, rfl⟩
  · rw [he]
    have hopens := startAction_opens
      { b.dealSubgame b.customDeckForSubgame bankerSeat.toNat
          (b.dealtDeck b.customDeckForSubgame swaps) with refused, sent }
    have haround := hopens.around
    simp only [Battle.around, Prod.mk.injEq] at haround
    obtain ⟨htable, hplaying, hseats, hplayers, hinit, hrules, hanswers, -, -, hranks⟩ := haround
    refine ⟨hfour.1, hphase, ?_, hplaying, hbanker, hperm, htable, hanswers,
      .inr ⟨_, hopens, rfl⟩, hranks⟩
    rw [hplayers, hseats, hinit, hrules]
    rfl

/-! ### The table alone -/

/-- `b'` has the table of `b`. -/
structure Rests (b b' : Battle) : Prop where
  table : b'.table = b.table
  answers : b'.answers = b.answers
  phase : b'.phase = b.phase ∨ b'.phase ≠ .playing ∧ b'.phase ≠ .awaitingSettlement
  seats : b.phase = .playing ∨ b.phase = .awaitingSettlement → b'.bySeat = b.bySeat
  seated : b.Seated → b'.Seated
  rules : b.initialized = true → b'.initialized = true ∧ b'.rules = b.rules
  ready : b.Ready → b'.Ready
  ranks : b'.ranks = b.ranks

theorem Rests.playing (hr : Rests b b') (hplaying : b'.phase = .playing) : b.phase = .playing := by
  obtain hphase | hne := hr.phase
  · exact hphase.symm.trans hplaying
  · exact absurd hplaying hne.1

/-- `b₁` has the table and the phase of `b`, and Sends succeed in it if they do in `b`. -/
structure Alike (b b₁ : Battle) : Prop extends Rests b b₁ where
  same_phase : b₁.phase = b.phase
  same_seats : b₁.bySeat = b.bySeat
  refused : b.refused = none → b₁.refused = none

theorem Framed.alike (h : Framed b b₁) : Alike b b₁ := by
  obtain ⟨auto, offline, refused, sent, hr, rfl⟩ := h
  exact ⟨⟨rfl, rfl, .inl rfl, fun _ => rfl, id, fun h => ⟨h, rfl⟩, id, rfl⟩, rfl, rfl, hr⟩

theorem alike_of_framed (h : Framed b b₁ ∨ Framed b.nextRevision b₁) : Alike b b₁ := by
  obtain h | h := h
  · exact h.alike
  · have halike := h.alike
    exact ⟨⟨halike.table, halike.answers, halike.phase, halike.seats, halike.seated, halike.rules,
      halike.ready, halike.ranks⟩, halike.same_phase, halike.same_seats, halike.refused⟩

theorem valid_of_table {player : Text} {cards : List Card} (htable : b₁.table = b.table)
    (hvalid : b.validActionCandidate player cards) : b₁.validActionCandidate player cards := by
  have hhands : b₁.hands = b.hands := congrArg Prod.fst htable
  have hhand : b₁.hand player = b.hand player := by rw [hand, hand, hhands]
  rw [validActionCandidate, validateCards] at hvalid ⊢
  rw [hhand, lastCards_of_table htable]
  exact hvalid

/-- A move of the active seat, in a Battle that is like `b`. -/
def Moves (b b' : Battle) : Prop :=
  ∃ (b₁ : Battle) (seat : Fin 4) (cards : List Card), Alike b b₁ ∧ b.phase = .playing ∧
    b₁.activeSeat = seat ∧ b₁.validActionCandidate (b₁.bySeat seat) cards ∧ b' = b₁.move seat cards

theorem Moves.answers (h : Moves b b') : b'.answers = b.answers := by
  obtain ⟨b₁, seat, cards, halike, -, -, -, rfl⟩ := h
  exact (b₁.move_answers seat cards).trans halike.answers

/-- What an effect does to the table. -/
theorem Effect.rests_or_moves (h : Effect b b') : Rests b b' ∨ Moves b b' := by
  cases h with
  | idle htable hturn hanswers hphase hseats hseated hrules hready hranks =>
    exact .inl ⟨htable, hanswers, hphase, hseats, hseated, hrules, hready, hranks⟩
  | lapse hframe => exact .inl (alike_of_framed (.inr hframe)).toRests
  | @delay b₁ seat cards hframe =>
    have h := alike_of_framed (.inr hframe)
    refine .inl ?_
    rw [after]
    split
    · exact h.toRests
    · exact ⟨h.table, h.answers, h.phase, h.seats, h.seated, h.rules, h.ready, h.ranks⟩
  | ended hframe phase replayFinalized hphase =>
    have h := alike_of_framed hframe
    refine .inl ⟨h.table, h.answers, .inr ?_, h.seats, h.seated, h.rules, fun _ hc => ?_, h.ranks⟩
    · obtain rfl | rfl | rfl := hphase <;> exact ⟨nofun, nofun⟩
    · obtain rfl | rfl | rfl := hphase <;> simp at hc
  | @move b₁ seat cards hframe hplaying hseat hvalid =>
    have h := alike_of_framed hframe
    refine .inr ⟨b₁, seat, cards, h, hplaying, ?_, ?_, rfl⟩
    · rw [activeSeat_of_table h.table, hseat]
    · rw [h.same_seats]
      exact valid_of_table h.table hvalid

/-- **What a Command does to the table.** -/
theorem handle_table (b : Battle) (c : Command) :
    (∃ intn swaps, c = .start intn swaps) ∨ Rests b (b.handle c) ∨ Moves b (b.handle c) := by
  obtain h | ⟨deadline, rfl, he⟩ | he := b.handle_effect c
  · exact .inl h
  · refine .inr ?_
    obtain h | ⟨b₁, seat, cards, h, hrest⟩ := he.rests_or_moves
    · exact .inl ⟨h.table, h.answers, h.phase, h.seats, h.seated, h.rules, h.ready, h.ranks⟩
    · exact .inr ⟨b₁, seat, cards,
        ⟨⟨h.table, h.answers, h.phase, h.seats, h.seated, h.rules, h.ready,
        h.ranks⟩, h.same_phase, h.same_seats, h.refused⟩, hrest⟩
  · exact .inr he.rests_or_moves

end GameServiceRuntime.Nhsk.Battle
