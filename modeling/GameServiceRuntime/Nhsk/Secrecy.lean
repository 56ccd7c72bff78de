import GameServiceRuntime.Nhsk.Conservation

/-!
# Hidden cards stay hidden

Three outputs have fields for hands: the Deal, the scene of a player who comes back, and the cards
that are shown. A player sees their own hand, and their partner's once their own is empty.
Everything else in these fields is blank until play has ended; a selection that a player previews
and the cards that are played are not taken from a hand but from a request.

That is followed through every handler, because every one of them sends. The other half is about two
states: payloads for a player are the same in states that agree on what the player sees and on how
many cards everybody has.
-/

namespace GameServiceRuntime.Nhsk

/-- The field of a payload for the hand of a seat. -/
def Payload.handCards : Payload → Fin 4 → Option (List Card)
  | .deal _ seatID cards, seat => if seat = seatID then some cards else none
  | .gameScene payload, seat => some (payload.players seat).handCards
  | .showCards payload, seat => some (payload.cards seat)
  | _, _ => none

/-- A payload without a hand. -/
def Payload.plain : Payload → Bool
  | .deal .. | .gameScene _ | .showCards _ => false
  | _ => true

/-- A field of a payload that reveals nothing. -/
def blank : List Card := Battle.toFixedCards []

namespace Battle

variable {b : Battle} {player : Text} {seat : Fin 4}

/-- A Send that is made now. -/
def sending (b : Battle) (output : Output) : Sent := ⟨output, b.phase, b.bySeat, b.hands⟩

/-- What is produced for one player with fields for hands: the Deal of their seat, their scene, and,
when their hand is empty, the cards of their partner. -/
inductive Produces (b : Battle) (player : Text) : Payload → Prop
  | deal {seat : Fin 4} (hseat : b.bySeat seat = player) : b.Produces player (b.dealPayload seat)
  | scene : b.Produces player (.gameScene (b.scenePayload player))
  | showPartner {seat : Fin 4} (hseat : b.bySeat seat = player) (hempty : b.hand player = []) :
    b.Produces player (.showCards (b.showCardsPayload (some seat)))

/-- A player sees their own hand, and their partner's when their own is empty. -/
def Sees (b : Battle) (player : Text) (seat : Fin 4) : Prop :=
  b.bySeat seat = player ∨
    b.hand player = [] ∧ ∃ own, b.bySeat own = player ∧ seat = partnerSeat own

theorem bySeat_of_seatOf (h : b.seatOf player = some seat) : b.bySeat seat = player := by
  simpa using List.find?_some h

theorem sees_of_scene (h : b.bySeat seat = player ∨ b.hand player = [] ∧
      some seat = (b.seatOf player).map partnerSeat) :
    b.Sees player seat := by
  obtain hown | ⟨hempty, hpartner⟩ := h
  · exact .inl hown
  · obtain ⟨own, hown, heq⟩ := Option.map_eq_some_iff.mp hpartner.symm
    exact .inr ⟨hempty, own, bySeat_of_seatOf hown, heq.symm⟩

/-- What is produced for a player reveals what they see. -/
theorem Produces.sees {payload : Payload} (h : b.Produces player payload) {cards : List Card}
    (hcards : payload.handCards seat = some cards) :
    cards = blank ∨ b.Sees player seat ∧ cards = toFixedCards (b.seatHand seat) := by
  cases h with
  | deal hseat =>
    simp only [dealPayload, Payload.handCards, Option.ite_none_right_eq_some,
      Option.some.injEq] at hcards
    obtain ⟨rfl, rfl⟩ := hcards
    exact .inr ⟨.inl hseat, rfl⟩
  | scene =>
    simp only [scenePayload, Payload.handCards, Option.some.injEq] at hcards
    split at hcards
    next hsees => exact .inr ⟨sees_of_scene hsees, hcards.symm⟩
    next => exact .inl hcards.symm
  | @showPartner own hseat hempty =>
    simp only [showCardsPayload, Payload.handCards, Option.some.injEq, Option.map_some,
      reduceCtorEq, false_or] at hcards
    split at hcards
    next hpartner => exact .inr ⟨.inr ⟨hempty, own, hseat, hpartner⟩, hcards.symm⟩
    next => exact .inl hcards.symm

end Battle

namespace Battle

/-! ### Other hands -/

/-- Hands of the sizes they have, that agree with them on what a player sees. -/
structure SameFor (b : Battle) (player : Text) (hands : Table Text (List Card)) : Prop where
  length : ∀ other, ({ b with hands }.hand other).length = (b.hand other).length
  seen : ∀ seat, b.Sees player seat → { b with hands }.seatHand seat = b.seatHand seat

namespace SameFor

variable {b : Battle} {player : Text} {hands : Table Text (List Card)}

theorem hand_eq_nil_iff (h : b.SameFor player hands) (other : Text) :
    { b with hands }.hand other = [] ↔ b.hand other = [] := by
  rw [← List.length_eq_zero_iff, ← List.length_eq_zero_iff, h.length other]

theorem dealPayload_eq (h : b.SameFor player hands) {seat : Fin 4}
    (hseat : b.bySeat seat = player) : { b with hands }.dealPayload seat = b.dealPayload seat := by
  simp only [dealPayload, h.seen seat (.inl hseat)]

theorem scenePayload_eq (h : b.SameFor player hands) :
    { b with hands }.scenePayload player = b.scenePayload player := by
  have hcount : ∀ seat, ({ b with hands }.seatHand seat).length = (b.seatHand seat).length :=
    fun seat => h.length (b.bySeat seat)
  have hcards : ∀ seat,
      (if b.bySeat seat = player ∨
          { b with hands }.hand player = [] ∧ some seat = (b.seatOf player).map partnerSeat then
        toFixedCards ({ b with hands }.seatHand seat) else toFixedCards []) =
      if b.bySeat seat = player ∨
          b.hand player = [] ∧ some seat = (b.seatOf player).map partnerSeat then
        toFixedCards (b.seatHand seat) else toFixedCards [] := by
    intro seat
    simp only [h.hand_eq_nil_iff]
    split
    next hsees => rw [h.seen seat (sees_of_scene hsees)]
    next => rfl
  have hplayers :
    ({ b with hands }.scenePayload player).players = (b.scenePayload player).players := by
    funext seat
    simp only [scenePayload, GameScenePlayer.mk.injEq, true_and, and_true]
    exact ⟨hcount seat, hcards seat⟩
  simp only [scenePayload, GameScenePayload.mk.injEq, true_and] at hplayers ⊢
  exact ⟨rfl, hplayers⟩

theorem showCardsPayload_eq (h : b.SameFor player hands) {seat : Fin 4}
    (hseat : b.bySeat seat = player) (hempty : b.hand player = []) :
    { b with hands }.showCardsPayload (some seat) = b.showCardsPayload (some seat) := by
  have hcount : ∀ seat, ({ b with hands }.seatHand seat).length = (b.seatHand seat).length :=
    fun seat => h.length (b.bySeat seat)
  have hcards : ∀ other, other = partnerSeat seat →
      { b with hands }.seatHand other = b.seatHand other :=
    fun other hpartner => h.seen other (.inr ⟨hempty, seat, hseat, hpartner⟩)
  simp only [showCardsPayload, ShowCardsPayload.mk.injEq, true_and]
  refine ⟨funext hcount, funext fun other => ?_⟩
  simp only [reduceCtorEq, Option.map_some, Option.some.injEq, false_or]
  split
  next hpartner => rw [hcards other hpartner]
  next => rfl

/-- What is produced for a player does not depend on the hands that they do not see. -/
theorem produces_iff (h : b.SameFor player hands) (payload : Payload) :
    { b with hands }.Produces player payload ↔ b.Produces player payload := by
  constructor
  · intro hp
    cases hp with
    | deal hseat =>
      rw [h.dealPayload_eq hseat]
      exact .deal hseat
    | scene =>
      rw [h.scenePayload_eq]
      exact .scene
    | showPartner hseat hempty =>
      have hempty' := (h.hand_eq_nil_iff player).mp hempty
      rw [h.showCardsPayload_eq hseat hempty']
      exact .showPartner hseat hempty'
  · intro hp
    cases hp with
    | deal hseat =>
      rw [← h.dealPayload_eq hseat]
      exact .deal hseat
    | scene =>
      rw [← h.scenePayload_eq]
      exact .scene
    | showPartner hseat hempty =>
      rw [← h.showCardsPayload_eq hseat hempty]
      exact .showPartner hseat ((h.hand_eq_nil_iff player).mpr hempty)

end SameFor

end Battle

namespace Sent

/-- The hand that a player had. -/
def hand (x : Sent) (player : Text) : List Card := (x.hands.lookup player).getD []

/-- A player saw their own hand, and their partner's when their own was empty. -/
def Sees (x : Sent) (player : Text) (seat : Fin 4) : Prop :=
  x.bySeat seat = player ∨
    x.hand player = [] ∧ ∃ own, x.bySeat own = player ∧ seat = Battle.partnerSeat own

/-- Whether play had ended. -/
def Ended (x : Sent) : Prop := x.phase = .awaitingSettlement ∨ x.phase = .finished

/-- **What a Send may be.** It has no field for a hand, or it goes to the one player it is produced
for, or play has ended. -/
def Discreet (x : Sent) : Prop :=
  ∀ targets payload, x.output = .client targets payload → payload.plain = false →
    ∃ b : Battle, x = b.sending x.output ∧
      ((∃ player, targets = [player] ∧ b.Produces player payload) ∨
        payload = .showCards (b.showCardsPayload none) ∧ x.Ended)

/-- **What a Send may reveal** to a player it goes to: what the player saw, and all hands when play
had ended. -/
theorem Discreet.sees {x : Sent} (h : x.Discreet) {targets : List Text} {payload : Payload}
    (hx : x.output = .client targets payload) {player : Text} (hplayer : player ∈ targets)
    {seat : Fin 4} {cards : List Card} (hcards : payload.handCards seat = some cards) :
    cards = blank ∨
      x.Sees player seat ∧ cards = Battle.toFixedCards (x.hand (x.bySeat seat)) ∨
      (∃ shown, payload = .showCards shown) ∧ x.Ended := by
  have hplain : payload.plain = false := by
    cases payload <;> first | rfl | cases hcards
  obtain ⟨b, heq, ⟨own, rfl, hp⟩ | ⟨rfl, hended⟩⟩ := h targets payload hx hplain
  · obtain rfl := List.mem_singleton.mp hplayer
    rw [heq]
    exact (hp.sees hcards).imp_right .inl
  · exact .inr (.inr ⟨⟨_, rfl⟩, hended⟩)

end Sent

namespace Battle

variable {b : Battle} {rest : Battle → Battle}

theorem discreet_of_plain {output : Output}
    (h : ∀ targets payload, output = .client targets payload → payload.plain = true) :
    (b.sending output).Discreet := by
  intro targets payload heq hplain
  rw [h targets payload heq] at hplain
  cases hplain

theorem discreet_of_produces {player : Text} {payload : Payload} (h : b.Produces player payload) :
    (b.sending (.client [player] payload)).Discreet := by
  intro targets payload' heq _
  cases heq
  exact ⟨b, rfl, .inl ⟨player, rfl, h⟩⟩

theorem discreet_showAll {targets : List Text}
    (hphase : b.phase = .awaitingSettlement ∨ b.phase = .finished) :
    (b.sending (.client targets (.showCards (b.showCardsPayload none)))).Discreet := by
  intro targets' payload heq _
  cases heq
  exact ⟨b, rfl, .inr ⟨rfl, hphase⟩⟩

/-! ### Handlers -/

/-- Everything that has been sent is discreet. -/
def Quiet (b : Battle) : Prop := ∀ x ∈ b.sent, x.Discreet

theorem quiet_emit {outputs : List Output} (h : b.Quiet)
    (houtputs : ∀ output ∈ outputs, (b.sending output).Discreet)
    (hrest : ∀ refused sent, { b with refused, sent }.Quiet →
      (rest { b with refused, sent }).Quiet) :
    (emit outputs b rest).Quiet := by
  induction outputs generalizing b with
  | nil => exact hrest b.refused b.sent h
  | cons output outputs ih =>
    have hsent : ∀ x ∈ b.sending output :: b.sent, x.Discreet := by
      intro x hx
      obtain rfl | hx := List.mem_cons.mp hx
      · exact houtputs _ List.mem_cons_self
      · exact h x hx
    have htail : ∀ o ∈ outputs, (b.sending o).Discreet :=
      fun o ho => houtputs o (List.mem_cons_of_mem _ ho)
    rw [emit]
    split
    · exact ih hsent htail fun refused sent hq => hrest refused sent hq
    · exact h
    · exact ih hsent htail fun refused sent hq => hrest refused sent hq

theorem quiet_emit_plain {targets : List Text} {payload : Payload} (h : b.Quiet)
    (hplain : payload.plain = true)
    (hrest : ∀ refused sent, { b with refused, sent }.Quiet →
      (rest { b with refused, sent }).Quiet) :
    (emit [.client targets payload] b rest).Quiet := by
  refine quiet_emit h (fun output hmem => ?_) hrest
  obtain rfl := List.mem_singleton.mp hmem
  refine discreet_of_plain fun targets' payload' heq => ?_
  cases heq
  exact hplain

theorem quiet_withActive {rest : Fin 4 → Battle} (h : b.Quiet) (hrest : ∀ seat, (rest seat).Quiet) :
    (b.withActive rest).Quiet := by
  rw [withActive]
  split
  · exact hrest _
  · exact h

theorem quiet_changeAutoState {player : Text} {enabled : Bool} (h : b.Quiet)
    (hrest : ∀ b₁ : Battle, b₁.Quiet → (rest b₁).Quiet) :
    (b.changeAutoState player enabled rest).Quiet := by
  rw [changeAutoState]
  split
  · exact hrest b h
  · exact quiet_emit_plain h rfl fun _ _ => hrest _

theorem quiet_after (h : b.Quiet) (deadline : ActionDeadline) : (b.after deadline).Quiet := by
  rw [after]
  split
  · exact h
  · exact h

theorem quiet_startAction (h : b.Quiet) : b.startAction.Quiet := by
  have hopen : b.openAction.Quiet := h
  refine quiet_withActive hopen fun seat => ?_
  split
  · exact hopen
  · have hafter : ∀ b₁ : Battle, b₁.Quiet → (b₁.askAction seat).Quiet := by
      intro b₁ h₁
      have hsubmit : (if b₁.useAI (b₁.bySeat seat) then b₁.submitAI seat else b₁).Quiet := by
        split
        · exact h₁
        · exact h₁
      rw [askAction]
      generalize (if b₁.useAI (b₁.bySeat seat) then b₁.submitAI seat else b₁) = b₂ at hsubmit
      change (if _ then b₂ else emit _ b₂ id).Quiet
      split
      · exact hsubmit
      · exact quiet_emit_plain hsubmit rfl fun _ _ hq => hq
    exact hafter _ (quiet_after hopen _)

theorem quiet_start (h : b.Quiet) (intn : ℤ) (swaps : List (Fin 104 × Fin 104)) :
    (b.start intn swaps).Quiet := by
  rw [start]
  split
  · exact h
  · extract_lets custom bankerSeat
    split
    · exact h
    · refine quiet_emit h (fun output hmem => ?_) fun _ _ => quiet_startAction
      simp only [startOutputs, List.cons_append, List.nil_append, List.mem_cons,
        List.mem_map] at hmem
      obtain rfl | rfl | rfl | ⟨seat, -, rfl⟩ := hmem
      · exact discreet_of_plain (by rintro _ _ ⟨⟩; rfl)
      · exact discreet_of_plain (by rintro targets payload ⟨⟩)
      · exact discreet_of_plain (by rintro _ _ ⟨⟩; rfl)
      · exact discreet_of_produces (.deal rfl)

theorem quiet_advanceTurn (h : b.Quiet) : b.advanceTurn.Quiet := by
  obtain ⟨passCount, log, activeSeat, heq⟩ := advanceLoop_eq [1, 2, 3, 4] b
  have hseat : b.advanceSeat.Quiet := by
    rw [advanceSeat, heq]
    exact h
  rw [advanceTurn]
  generalize b.advanceSeat = b₁ at hseat
  split
  · rw [finishTrick]
    split
    · exact hseat
    · split
      · exact hseat
      · exact quiet_emit_plain hseat rfl fun _ _ hq => quiet_startAction hq
  · exact quiet_startAction hseat

theorem quiet_recordPlay (h : b.Quiet) (seat : Fin 4) (cards : List Card) :
    (b.recordPlay seat cards).Quiet := by
  rw [recordPlay]
  split
  · exact h
  · exact h

theorem quiet_awardFinalScoreCards (h : b.Quiet) : b.awardFinalScoreCards.Quiet := by
  rw [awardFinalScoreCards]
  split
  · exact h
  · exact h

/-- The hands of all are shown after the phase has changed, the partner's to the seat that has
finished. -/
theorem quiet_finishSeat {seat : Fin 4} (h : b.Quiet) (hempty : b.seatHand seat = []) :
    (b.finishSeat seat).Quiet := by
  rw [finishSeat]
  dsimp only
  split
  · refine quiet_emit (quiet_awardFinalScoreCards h) (fun output hmem => ?_) fun _ _ hq => hq
    simp only [List.mem_cons, List.not_mem_nil, or_false] at hmem
    obtain rfl | rfl := hmem
    · exact discreet_showAll (.inl rfl)
    · exact discreet_of_plain (by rintro targets payload ⟨⟩)
  · refine quiet_emit h (fun output hmem => ?_) fun _ _ hq => quiet_advanceTurn hq
    obtain rfl := List.mem_singleton.mp hmem
    exact discreet_of_produces (.showPartner rfl hempty)

theorem quiet_move (h : b.Quiet) (seat : Fin 4) (cards : List Card) :
    (b.move seat cards).Quiet := by
  rw [move]
  refine quiet_emit_plain (quiet_recordPlay h seat cards) rfl fun _ _ hq => ?_
  split
  next hempty => exact quiet_finishSeat hq hempty.1
  next => exact quiet_advanceTurn hq

theorem quiet_playWithSource (h : b.Quiet) (player : Text) (cards : List Card) (verifyCode : UInt32)
    (source : Source) : (b.playWithSource player cards verifyCode source).Quiet := by
  have hreject :
      (if source = .player then emit [.client [player] .outCardRejection] b id else b).Quiet := by
    split
    · exact quiet_emit_plain h rfl fun _ _ hq => hq
    · exact h
  rw [playWithSource]
  split
  · exact hreject
  · refine quiet_withActive h fun seat => ?_
    split
    · exact hreject
    · split
      · exact quiet_changeAutoState h fun _ hq => quiet_move hq seat cards
      · exact quiet_move h seat cards

theorem quiet_nextRevision (h : b.Quiet) : b.nextRevision.Quiet := h

theorem quiet_setAuto (h : b.Quiet) (player : Text) (enabled early : Bool) :
    (b.setAuto player enabled early).Quiet := by
  rw [setAuto]
  split
  · exact h
  · refine quiet_changeAutoState h fun b₁ h₁ => quiet_emit_plain h₁ rfl fun _ _ h₂ => ?_
    split
    · exact h₂
    · refine quiet_withActive h₂ fun seat => ?_
      split
      · exact quiet_playWithSource (quiet_nextRevision h₂) _ _ _ _
      · exact h₂

theorem quiet_timer (h : b.Quiet) (deadline : ActionDeadline) : (b.timer deadline).Quiet := by
  rw [timer]
  split
  · exact h
  · refine quiet_withActive h fun seat => ?_
    dsimp only
    split
    · exact h
    · split
      · split
        · exact quiet_changeAutoState h fun _ h₁ => quiet_playWithSource h₁ _ _ _ _
        · exact h
      · exact quiet_playWithSource h _ _ _ _

theorem quiet_applyAIResult (h : b.Quiet) (result : AIResult) (early : Bool) :
    (b.applyAIResult result early).Quiet := by
  rw [applyAIResult]
  split
  · exact h
  · refine quiet_withActive h fun seat => ?_
    dsimp only
    split
    · exact h
    · split
      · exact quiet_after (quiet_nextRevision h) _
      · exact quiet_playWithSource (quiet_nextRevision h) _ _ _ _

theorem quiet_restorePlayerView (h : b.Quiet) (player : Text) :
    (b.restorePlayerView player).Quiet := by
  rw [restorePlayerView]
  refine quiet_emit h (fun output hmem => ?_) fun _ _ hq => ?_
  · simp only [List.mem_cons, List.not_mem_nil, or_false] at hmem
    obtain rfl | rfl := hmem
    · exact discreet_of_plain (by rintro _ _ ⟨⟩; rfl)
    · exact discreet_of_produces .scene
  · split
    · refine quiet_withActive hq fun seat => ?_
      split
      · exact quiet_emit_plain hq rfl fun _ _ hq' => hq'
      · exact hq
    · exact hq

theorem quiet_reconnect (h : b.Quiet) (player : Text) : (b.reconnect player).Quiet := by
  rw [reconnect]
  split
  · exact h
  · dsimp only
    split
    · exact quiet_changeAutoState h fun _ hq => quiet_restorePlayerView hq player
    · exact h

theorem quiet_scene (h : b.Quiet) (player : Text) : (b.scene player).Quiet := by
  rw [scene]
  split
  · exact h
  · refine quiet_changeAutoState h fun b₁ hq => ?_
    split
    · exact quiet_restorePlayerView hq player
    · exact hq

theorem quiet_preview (h : b.Quiet) (player : Text) (cards : List Card) :
    (b.preview player cards).Quiet := by
  rw [preview]
  split
  · exact h
  · refine quiet_withActive h fun seat => ?_
    split
    · exact h
    · exact quiet_emit_plain h rfl fun _ _ hq => hq

theorem quiet_finishReplay (h : b.Quiet) (stat : List Text) (notice : Bool) :
    (b.finishReplay stat notice).Quiet := by
  rw [finishReplay]
  split
  · exact h
  · refine quiet_emit h (fun output hmem => discreet_of_plain ?_) fun _ _ hq => hq
    rintro targets payload rfl
    simp only [List.append_assoc, List.mem_append, List.mem_singleton, reduceCtorEq,
      false_or] at hmem
    obtain hmem | hmem := hmem
    · split at hmem
      · cases hmem
      · cases List.mem_singleton.mp hmem
        rfl
    · split at hmem
      · cases List.mem_singleton.mp hmem
      · cases hmem

theorem quiet_phase (h : b.Quiet) (phase : Phase) : { b with phase }.Quiet := h

/-- The end shows all hands only when it changes the phase to `finished` first. -/
theorem quiet_finish (h : b.Quiet) (reveal waits : Bool) (stat : List Text) :
    (b.finish reveal waits stat).Quiet := by
  refine quiet_emit h (fun output hmem => ?_) fun _ _ hq => ?_
  · obtain hmem | hmem := List.mem_append.mp hmem
    · split at hmem
      · cases List.mem_singleton.mp hmem
        exact discreet_showAll (.inr rfl)
      · cases hmem
    · cases List.mem_singleton.mp hmem
      exact discreet_of_plain (by rintro _ _ ⟨⟩; rfl)
  · dsimp only
    split
    · exact hq
    · exact quiet_finishReplay (quiet_phase hq .finalizingReplay) stat reveal

theorem quiet_handle (h : b.Quiet) (c : Command) : (b.handle c).Quiet := by
  cases c with
  | initializeBattle valid rules =>
    rw [handle, initializeBattle]
    split <;> exact h
  | updatePlayers request =>
    rw [handle, updatePlayers]
    split
    · dsimp only
      split <;> exact h
    · exact h
  | prepare gameNum subgameNum =>
    rw [handle, prepare]
    split
    · exact h
    · split
      · exact h
      · split <;> exact h
  | provideCustomDeck gameNum subgameNum decks =>
    rw [handle, provideCustomDeck]
    split <;> exact h
  | start intn swaps => exact quiet_start h intn swaps
  | exit player =>
    rw [handle, exit]
    split <;> exact h
  | setAuto player enabled early => exact quiet_setAuto h player enabled early
  | setOffline player offline =>
    rw [handle, setOffline]
    split <;> exact h
  | play player cards verifyCode => exact quiet_playWithSource h player cards verifyCode .player
  | preview player cards => exact quiet_preview h player cards
  | timer deadline =>
    have herase : { b with pending := b.pending.erase deadline }.Quiet := h
    exact quiet_timer herase deadline
  | aiResult result early => exact quiet_applyAIResult h result early
  | reconnect player => exact quiet_reconnect h player
  | scene player => exact quiet_scene h player
  | snapshot => exact quiet_withActive h fun _ => h
  | forceFinish waits stat =>
    rw [handle, forceFinish]
    split
    · exact quiet_finish (quiet_nextRevision h) true waits stat
    · exact h
  | completeSettlement accepted waits stat =>
    rw [handle, completeSettlement]
    split
    · exact quiet_finish h false waits stat
    · exact h
  | replayDone stat notice => exact quiet_finishReplay h stat notice
  | deleteBarrier => exact h

end Battle

theorem quiet_of_reachable {b : Battle} (h : battles.Reachable b) : b.Quiet := by
  refine h.invariant ?_ ?_
  · rintro b ⟨isNewbie, hasAI, rfl⟩
    exact nofun
  · intro b a b' hb _ hstep
    obtain ⟨-, ⟨-, rfl⟩ | ⟨-, rfl⟩⟩ := step_cases hstep
    · exact hb
    · have hreceive : (b.receive a).Quiet := hb
      exact Battle.quiet_handle hreceive a.command

/-- **Hidden cards stay hidden.** What has been sent to a player reveals the hands that the player
saw, and the cards that are shown when play has ended. What is sent with hands before is what is
produced for one player, and that is the same whatever the hands are that the player does not
see. -/
theorem hidden_cards {b : Battle} (h : battles.Reachable b) :
    (∀ x ∈ b.sent, ∀ targets payload, x.output = .client targets payload → ∀ player ∈ targets,
      ∀ seat cards, payload.handCards seat = some cards →
        cards = blank ∨
        x.Sees player seat ∧ cards = Battle.toFixedCards (x.hand (x.bySeat seat)) ∨
        (∃ shown, payload = .showCards shown) ∧ x.Ended) ∧
    (∀ x ∈ b.sent, x.Discreet) ∧
    ∀ (b₁ : Battle) player hands, b₁.SameFor player hands → ∀ payload,
      { b₁ with hands }.Produces player payload ↔ b₁.Produces player payload := by
  have hquiet := quiet_of_reachable h
  exact ⟨fun x hx _ _ heq _ hplayer _ _ hcards => (hquiet x hx).sees heq hplayer hcards, hquiet,
    fun _ _ _ hsame => hsame.produces_iff⟩

/-- The opening sends eight outputs, four of them Deals. -/
theorem hidden_cards_opening : ∃ b, battles.Reachable b ∧ b.phase = .playing ∧ b.sent.length = 8 ∧
    ∀ x ∈ b.sent, x.Discreet := by
  obtain ⟨b, h, hp⟩ := battles.exists_reachableUnder_of_run (fun _ _ => True)
    (s := { isNewbie := false }) opening
    (fun b => decide (b.phase = .playing ∧ b.sent.length = 8)) ⟨false, false, rfl⟩
      (by decide +kernel)
  obtain ⟨hplaying, hlength⟩ := of_decide_eq_true hp
  exact ⟨b, h, hplaying, hlength, (hidden_cards h).2.1⟩

end GameServiceRuntime.Nhsk
