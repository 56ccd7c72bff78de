import GameServiceRuntime.Nhsk.Comparison
import GameServiceRuntime.Nhsk.Tricks

/-!
# A turn has a live deadline

A handler that gives up the deadline of a turn bumps the turn revision and relies on the move it
makes next: a move that is accepted opens the next opportunity, which has a deadline of its own. So
the invariant is not only that a timer of the current revision is pending, but that its move will be
accepted when it comes back. The automatic move is: it passes if it can, and otherwise it plays one
card, which has a value to play when the deck has no other cards.
-/

namespace GameServiceRuntime.Nhsk

/-- All cards have a value of a playing card. -/
def Ranked (cards : List Card) : Prop := ∀ card ∈ cards, 1 ≤ cardValue card ∧ cardValue card ≤ 13

instance (cards : List Card) : Decidable (Ranked cards) :=
  inferInstanceAs (Decidable (∀ card ∈ cards, _))

theorem ranked_ordinaryDeck : Ranked ordinaryDeck := by decide +kernel

theorem classifyCards_singleton {card : Card} (h : 1 ≤ cardValue card ∧ cardValue card ≤ 13) :
    (classifyCards [card]).isSome = true := by
  have hall : ∀ value < 14, 1 ≤ value → (classifyCards [value]).isSome = true := by decide
  have hvalue : cardValue (cardValue card) = cardValue card := Nat.mod_mod _ _
  have hsame : ([card].map cardValue).Perm ([cardValue card].map cardValue) := by simp [hvalue]
  rw [classifyCards_congr hsame]
  exact hall _ (Nat.lt_succ_of_le h.2) h.1

namespace Battle

variable {b b₁ b' : Battle} {seat : Fin 4}

/-! ### The automatic move -/

/-- The loop of `localAutoCards` finds a card of the hand. -/
theorem foldl_lower_mem (card : Card) (cards : List Card) :
    cards.foldl (fun card candidate =>
      let c := cardLogicValue (cardValue candidate)
      let v := cardLogicValue (cardValue card)
      if c < v ∨ c = v ∧ candidate < card then candidate else card) card ∈ card :: cards := by
  induction cards generalizing card with
  | nil => exact List.mem_cons_self
  | cons candidate cards ih =>
    rw [List.foldl_cons]
    obtain heq | hmem := List.mem_cons.mp (ih _)
    · rw [heq]
      dsimp only
      split
      · exact List.mem_cons_of_mem _ List.mem_cons_self
      · exact List.mem_cons_self
    · exact List.mem_cons_of_mem _ (List.mem_cons_of_mem _ hmem)

/-- **The automatic move is accepted.** It passes when there is something to beat, and plays one
card when there is not. -/
theorem localAutoCards_valid {player : Text} (hcards : b.hand player ≠ [])
    (hranked : Ranked (b.hand player)) :
    b.validActionCandidate player (b.localAutoCards player) = true := by
  cases hlast : b.lastCards with
  | cons card cards =>
    simp [localAutoCards, validActionCandidate, validateCards, hlast]
  | nil =>
    cases hhand : b.hand player with
    | nil => exact absurd hhand hcards
    | cons card cards =>
      have hmem := foldl_lower_mem card cards
      rw [← hhand] at hmem
      have hone := classifyCards_singleton (hranked _ hmem)
      simp only [localAutoCards, hlast, hhand]
      simp only [validActionCandidate, validateCards, hlast, holds, hone]
      simpa using hmem

theorem hand_ranked (hc : b.Conserved) (hs : b.started) (hranked : Ranked b.dealt) (player : Text) :
    Ranked (b.hand player) := by
  intro card hmem
  have hperm := hc.perm hs
  refine hranked card (hperm.mem_iff.mp (List.mem_append_left _ ?_))
  rw [hand] at hmem
  cases hlookup : b.hands.lookup player with
  | none =>
    rw [hlookup] at hmem
    cases hmem
  | some cards =>
    rw [hlookup, Option.getD_some] at hmem
    refine List.mem_flatten.mpr ⟨cards, ?_, hmem⟩
    exact List.mem_map_of_mem (AList.mem_lookup_iff.mp hlookup)

/-! ### Deadlines -/

/-- A timer of the current turn whose move will be accepted. -/
def Due (b : Battle) (d : ActionDeadline) : Prop :=
  d.turnRevision = b.turnRevision ∧ d.source ≠ .player ∧
    (d.source = .ai → ∀ seat : Fin 4, b.activeSeat = seat →
      b.validActionCandidate (b.bySeat seat) d.cards = true)

/-- There is such a timer, and the code of the turn is none of the codes that are refused. -/
structure Armed (b : Battle) : Prop where
  due : ∃ d ∈ b.pending, b.Due d
  odd : b.verifyCode.toNat % 2 = 1

/-- What is assumed of a subgame. -/
structure Calm (b : Battle) : Prop where
  sent : b.sendFailed = false
  timed : b.timerFailed = false
  auto : b.rules.timeoutAutoMove = true
  ranked : Ranked b.dealt

theorem odd_add_two {v : UInt32} (h : v.toNat % 2 = 1) : (v + 2).toNat % 2 = 1 := by
  rw [UInt32.toNat_add]
  have htwo : UInt32.toNat 2 = 2 := rfl
  omega

theorem Opens.armed (h : Opens b₁ b') (hodd : b₁.verifyCode.toNat % 2 = 1)
    (hfails : b₁.afterFails = false) (hlive : b'.panicked = false) : b'.Armed := by
  obtain ⟨d, hd, hrevision, hsource⟩ := h.deadline (h.range hlive) hfails
  refine ⟨⟨d, hd, hrevision, ?_, ?_⟩, ?_⟩
  · obtain hsource | hsource := hsource <;> rw [hsource] <;> nofun
  · obtain hsource | hsource := hsource <;> rw [hsource] <;> nofun
  · rw [h.verifyCode]
    exact odd_add_two hodd

/-- A move leads to an opportunity with a deadline, or play ends. -/
theorem armed_move {cards : List Card} (hfour : ∀ seat, b.bySeat seat ≠ [])
    (hodd : b.verifyCode.toNat % 2 = 1) (hr : b.refused = none) (hfails : b.afterFails = false)
    (hplaying : (b.move seat cards).phase = .playing)
    (hlive : (b.move seat cards).panicked = false) : (b.move seat cards).Armed := by
  have hrecord := turn_recordPlay b seat cards
  have hkept := congrArg (fun k => k.2.2.2.2.2.2.2.2.1) (b.kept_recordPlay seat cards)
  simp only [turn, Prod.mk.injEq] at hrecord
  cases turned_move hfour seat cards with
  | stopped _ hend =>
    have hended := hend (hrecord.2.2.trans hr)
    rw [hplaying] at hended
    cases hended
  | @opened b₁ _ hopens hnear =>
    have hturn := hnear.turn
    have hnear := congrArg (fun k => k.2.2.2.2.2.2.2.2.1) hnear.kept
    simp only [turn, Prod.mk.injEq] at hturn
    refine hopens.armed ?_ ?_ hlive
    · rw [hturn.1, hrecord.1.1]
      exact hodd
    · exact (hnear.trans hkept).trans hfails

/-- **A due timer makes its move.** -/
theorem timer_due {d : ActionDeadline} (hround : b.Round) (hplaying : b.phase = .playing)
    (hlt : b.activeSeat < 4) (hodd : b.verifyCode.toNat % 2 = 1) (hr : b.refused = none)
    (hauto : b.rules.timeoutAutoMove = true) (hranked : ∀ player, Ranked (b.hand player))
    (hdue : b.Due d) :
    ∃ b₁ seat cards, Framed b b₁ ∧ b.timer d = b₁.move seat cards := by
  obtain ⟨hrevision, hsource, hai⟩ := hdue
  obtain ⟨seat, hseat⟩ : ∃ seat : Fin 4, b.activeSeat = seat := ⟨⟨_, hlt⟩, rfl⟩
  have hcards : b.hand (b.bySeat seat) ≠ [] := hround.active seat hseat
  have hcode : b.verifyCode ≠ 0 := by
    intro hzero
    rw [hzero] at hodd
    cases hodd
  have hplay : ∀ b₁, Framed b b₁ → ∃ cards, b₁.playWithSource (b.bySeat seat)
      (if d.source = .ai then d.cards else b₁.localAutoCards (b.bySeat seat)) b₁.verifyCode
        d.source =
        b₁.move seat cards := by
    rintro b₁ ⟨auto, offline, refused, sent, -, rfl⟩
    have heq :=
      @playWithSource_active { b with auto, offline, refused, sent } seat d.source hplaying
      hseat hsource
    refine ⟨_, (heq _).trans (if_neg ?_)⟩
    rintro (hzero | hinvalid)
    · exact hcode hzero
    · refine hinvalid ?_
      split
      next hs => exact hai hs seat hseat
      next => exact localAutoCards_valid hcards (hranked _)
  rw [timer, if_neg (by simp [hrevision, hplaying]), withActive_of_eq hseat]
  dsimp only
  rw [if_neg (by simp [hround.four seat, hcards])]
  split
  · rw [changeAutoState]
    split
    · obtain ⟨cards, hmove⟩ := hplay b (.refl b)
      exact ⟨b, seat, cards, .refl b, hmove⟩
    · obtain ⟨refused, sent, rfl, he⟩ := emit_none (show
        { b with auto := Function.update b.auto (b.bySeat seat) true }.refused = none from hr) _ _
      rw [he]
      have hframe : Framed b
          { b with auto := Function.update b.auto (b.bySeat seat) true, refused := none, sent } :=
        ⟨_, _, _, _, fun _ => rfl, rfl⟩
      obtain ⟨cards, hmove⟩ := hplay _ hframe
      exact ⟨_, seat, cards, hframe, hmove⟩
  · obtain ⟨cards, hmove⟩ := hplay b (.refl b)
    exact ⟨b, seat, cards, .refl b, hmove⟩

/-- What holds of a state of play when a Command arrives. -/
structure Primed (b : Battle) : Prop extends Armed b where
  round : b.Round
  range : b.activeSeat < 4
  refused : b.refused = none
  afterFails : b.afterFails = false
  auto : b.rules.timeoutAutoMove = true
  ranked : ∀ player, Ranked (b.hand player)

theorem Primed.not_lapse (h : b.Primed) (hseat : b.activeSeat = seat) : ¬(b.verifyCode = 0 ∨
      ¬b.validActionCandidate (b.bySeat seat) (b.localAutoCards (b.bySeat seat))) := by
  rintro (hzero | hinvalid)
  · have hodd := h.odd
    rw [hzero] at hodd
    cases hodd
  · exact hinvalid (localAutoCards_valid (h.round.active seat hseat) (h.ranked _))

/-- The automatic move is played when it is the answer to the request of the turn. -/
theorem Primed.aiResult_outedCards (h : b.Primed) (hplaying : b.phase = .playing)
    (hseat : b.activeSeat = seat) :
    (b.applyAIResult ⟨⟨b.gameNum, b.subgameNum, b.userID (b.bySeat seat), seat,
      b.turnRevision, b.verifyCode, b.actionStartedAt⟩, b.localAutoCards (b.bySeat seat), false⟩
      false).outedCards =
        b.outedCards ++ [b.localAutoCards (b.bySeat seat)] := by
  have hlapse := h.not_lapse hseat
  have hvalid := (not_or.mp hlapse).2
  rw [applyAIResult, if_neg (by simp [hplaying, hseat]), withActive_of_eq hseat]
  dsimp only
  rw [if_neg (by simpa [h.round.four seat] using hvalid), if_neg (by simp)]
  have hplay := @playWithSource_active b.nextRevision seat .ai hplaying hseat (by rintro ⟨⟩)
    (b.localAutoCards (b.bySeat seat))
  exact (congrArg outedCards (hplay.trans (if_neg hlapse))).trans (move_outedCards ..)

/-- A move in a Battle that differs by Sends and by the turn revision. -/
theorem Primed.armed_move {cards : List Card} (h : b.Primed)
    (hframe : Framed b b₁ ∨ Framed b.nextRevision b₁)
    (hplaying : (b₁.move seat cards).phase = .playing)
    (hlive : (b₁.move seat cards).panicked = false) : (b₁.move seat cards).Armed := by
  obtain ⟨auto, offline, refused, sent, hr, rfl⟩ | ⟨auto, offline, refused, sent, hr, rfl⟩ := hframe
  all_goals exact Battle.armed_move h.round.four h.odd (hr h.refused) h.afterFails hplaying hlive

/-- **An effect leaves a deadline** in a state of play. -/
theorem Effect.armed (he : Effect b b') (h : b.phase = .playing → b.Primed)
    (hplaying : b'.phase = .playing) (hlive : b'.panicked = false) : b'.Armed := by
  cases he with
  | idle htable hturn hanswers hphase hseats =>
    have hb : b.phase = .playing := (hphase.resolve_right fun hne => hne.1 hplaying) ▸ hplaying
    obtain ⟨d, hd, hrevision, hsource, hai⟩ := (h hb).due
    have hodd := (h hb).odd
    simp only [turn, Prod.mk.injEq] at hturn
    refine ⟨⟨d, hturn.2.2.2.1 ▸ hd, hrevision.trans hturn.2.1.symm, hsource,
      fun hs seat hseat => ?_⟩, hturn.1 ▸ hodd⟩
    rw [hseats (.inl hb)]
    rw [activeSeat_of_table htable] at hseat
    exact valid_of_table htable (hai hs seat hseat)
  | lapse _ hb hseat hreason => exact absurd hreason ((h hb).not_lapse hseat)
  | @delay b₁ seat cards hframe hb hseat hvalid =>
    have hfails := (h hb).afterFails
    have hodd := (h hb).odd
    obtain ⟨auto, offline, refused, sent, -, rfl⟩ := hframe
    have hok : ¬(nextRevision b).afterFails = true := Bool.eq_false_iff.mp hfails
    rw [after, if_neg hok]
    refine ⟨⟨_, List.mem_cons_self, rfl, (by rintro ⟨⟩), fun _ seat' hseat' => ?_⟩, hodd⟩
    obtain rfl : seat = seat' := Fin.ext (hseat.symm.trans hseat')
    exact hvalid
  | ended hframe phase replayFinalized hphase =>
    obtain rfl | rfl | rfl := hphase <;> cases hplaying
  | move hframe hb _ _ => exact (h hb).armed_move hframe hplaying hlive

/-- A timer that comes back makes its move, or the timer that is due is still pending. -/
theorem timer_armed {d : ActionDeadline} (h : b.phase = .playing → b.Primed)
    (hplaying : (b.handle (.timer d)).phase = .playing)
    (hlive : (b.handle (.timer d)).panicked = false) : (b.handle (.timer d)).Armed := by
  rw [handle] at hplaying hlive ⊢
  have hround : ∀ hb : b.phase = .playing, Round { b with pending := b.pending.erase d } :=
    fun hb =>
    (h hb).round.congr rfl rfl fun _ => (h hb).range
  by_cases hdue : b.phase = .playing ∧ b.Due d
  · obtain ⟨hb, hdue⟩ := hdue
    have hp := h hb
    obtain ⟨b₁, seat, cards, hframe, heq⟩ :=
      timer_due (hround hb) hb hp.range hp.odd hp.refused hp.auto hp.ranked hdue
    rw [heq] at hplaying hlive ⊢
    obtain ⟨auto, offline, refused, sent, hr, rfl⟩ := hframe
    exact armed_move hp.round.four hp.odd (hr hp.refused) hp.afterFails hplaying hlive
  · refine (timer_effect _ d).armed (fun hb => ?_) hplaying hlive
    have hp := h hb
    obtain ⟨d', hd', hdue'⟩ := hp.due
    have hne : d' ≠ d := fun heq => hdue ⟨hb, heq ▸ hdue'⟩
    exact ⟨⟨⟨d', (List.mem_erase_of_ne hne).mpr hd', hdue'⟩, hp.odd⟩, hround hb, hp.range,
      hp.refused, hp.afterFails, hp.auto, hp.ranked⟩

/-! ### Runs -/

theorem ready_handle (h : b.Ready) (c : Command) : (b.handle c).Ready := by
  obtain ⟨intn, swaps, rfl⟩ | hrests | ⟨b₁, seat, cards, halike, hplaying, -, -, heq⟩ :=
    b.handle_table c
  · obtain heq | ⟨-, heq⟩ | ⟨bankerSeat, deck, hd⟩ := b.start_cases intn swaps
    · rw [handle, heq]
      exact h
    · rw [handle, heq]
      exact h
    · have hseats := hd.seats
      simp only [Prod.mk.injEq] at hseats
      exact fun _ => hseats.2.2.1.trans (h (.inl hd.prepared))
  · exact hrests.ready h
  · have hkept := b₁.kept_moved seat cards
    simp only [kept, Prod.mk.injEq] at hkept
    obtain ⟨-, -, -, -, -, -, hinit, -⟩ := hkept
    intro _
    rw [heq, hinit]
    exact (halike.rules (h (.inr hplaying))).1

theorem Calm.of_eq (h : b'.Calm)
    (heq : (b'.custom, b'.rules, b'.sendFailed, b'.timerFailed) =
      (b.custom, b.rules, b.sendFailed, b.timerFailed)) : b.Calm := by
  simp only [Prod.mk.injEq] at heq
  obtain ⟨hcustom, hrules, hsent, htimed⟩ := heq
  refine ⟨hsent ▸ h.sent, htimed ▸ h.timed, hrules ▸ h.auto, ?_⟩
  have hranked := h.ranked
  rw [dealt, hcustom] at hranked
  exact hranked

/-- The assumptions on a subgame hold before a Command when they hold after it. -/
theorem calm_of_handle (hready : b.Ready) (hplaying : b.phase = .playing) {c : Command}
    (hc : ∀ intn swaps, c ≠ .start intn swaps) (h : (b.handle c).Calm) : b.Calm := by
  have hinit := hready (.inr hplaying)
  have hrests : ∀ {b₁}, Rests b b₁ → (b₁.custom, b₁.rules, b₁.sendFailed, b₁.timerFailed) =
      (b.custom, b.rules, b.sendFailed, b.timerFailed) := by
    intro b₁ hr
    have htable := hr.table
    have hanswers := hr.answers
    simp only [table, answers, Prod.mk.injEq] at htable hanswers
    rw [htable.2.2.2.1, (hr.rules hinit).2, hanswers.2.1, hanswers.2.2]
  obtain ⟨intn, swaps, rfl⟩ | hr | ⟨b₁, seat, cards, halike, -, -, -, heq⟩ := b.handle_table c
  · exact absurd rfl (hc intn swaps)
  · exact h.of_eq (hrests hr)
  · have hkept := b₁.kept_moved seat cards
    simp only [kept, answers, Prod.mk.injEq] at hkept
    obtain ⟨-, -, -, hcustom, -, -, -, hrules, -, hsent, htimed⟩ := hkept
    refine h.of_eq (Eq.trans ?_ (hrests halike.toRests))
    rw [heq, hcustom, hrules, hsent, htimed]

theorem Dealt.armed {bankerSeat : ℕ} {deck : List Card} (hd : Dealt b b' bankerSeat deck)
    (hcalm : b'.Calm) (hlive : b'.panicked = false) : b'.Armed := by
  have hanswers := hd.answers
  simp only [Battle.answers, Prod.mk.injEq] at hanswers
  obtain ⟨-, hne⟩ | ⟨b₁, hopens, hturn⟩ := hd.turn
  · exact absurd (hd.refused_eq_none hcalm.sent) hne
  · have haround := hopens.around
    simp only [around, Battle.answers, Prod.mk.injEq] at haround
    simp only [Battle.turn, dealtTurn, Prod.mk.injEq] at hturn
    refine hopens.armed (by rw [hturn.1]; rfl) ?_ hlive
    have hfails : b'.afterFails = b₁.afterFails := haround.2.2.2.2.2.2.1.1
    rw [← hfails, hanswers.1, ← hanswers.2.2]
    exact hcalm.timed

end Battle

open Battle

variable {b : Battle}

/-- What is known of a state in which a Command arrives. -/
theorem primed_receive (h : battles.Reachable b) (hlive : b.panicked = false) (a : Action)
    (hplaying : b.phase = .playing) (hcalm : (b.receive a).Calm) (harmed : b.Calm → b.Armed) :
    (b.receive a).Primed := by
  obtain ⟨hsent, hrefused⟩ : b.sendFailed = false ∧ a.refused = none := by
    simpa [receive] using hcalm.sent
  obtain ⟨htimed, hfails⟩ : b.timerFailed = false ∧ a.afterFails = false := by
    simpa [receive] using hcalm.timed
  have hround := (good_of_reachable h hsent).round hplaying
  have hrange := hround.range (.inr hlive)
  have hranked := hand_ranked (conserved_of_reachable h) hround.started hcalm.ranked
  obtain ⟨hdue, hodd⟩ := harmed ⟨hsent, htimed, hcalm.auto, hcalm.ranked⟩
  exact ⟨⟨hdue, hodd⟩, hround.congr rfl rfl fun _ => hrange, hrange, hrefused, hfails,
    hcalm.auto, hranked⟩

theorem ready_of_reachable (h : battles.Reachable b) : b.Ready := by
  refine h.invariant ?_ ?_
  · rintro b ⟨isNewbie, hasAI, rfl⟩
    simp [Ready]
  · intro b a b' hb _ hstep
    obtain ⟨-, ⟨-, rfl⟩ | ⟨-, rfl⟩⟩ := step_cases hstep
    · exact hb
    · exact ready_handle (b := b.receive a) hb a.command

/-- **The step.** -/
theorem armed_step {b b' : Battle} {a : Action} (h : battles.Reachable b)
    (hstep : battles.step b a = some b') (harmed : b.phase = .playing → b.Calm → b.Armed)
    (hplaying : b'.phase = .playing) (hlive : b'.panicked = false) (hcalm : b'.Calm) :
    b'.Armed := by
  obtain ⟨hb, ⟨hstop, rfl⟩ | ⟨-, rfl⟩⟩ := step_cases hstep
  · exact harmed hplaying hcalm
  have hbefore := ready_of_reachable h
  have hready : (b.receive a).Ready := hbefore
  by_cases hstart : ∃ intn swaps, a.command = .start intn swaps
  · obtain ⟨intn, swaps, hc⟩ := hstart
    rw [hc, handle] at hplaying hlive hcalm ⊢
    obtain heq | ⟨-, heq⟩ | ⟨bankerSeat, deck, hd⟩ := (b.receive a).start_cases intn swaps
    · rw [heq] at hplaying hcalm ⊢
      exact (primed_receive h hb a hplaying hcalm (harmed hplaying)).toArmed
    · rw [heq] at hlive
      cases hlive
    · exact hd.armed hcalm hlive
  have hprimed : (b.receive a).phase = .playing → (b.receive a).Primed := by
    intro hp
    have hc : ∀ intn swaps, a.command ≠ .start intn swaps :=
      fun intn swaps hc => hstart ⟨intn, swaps, hc⟩
    exact primed_receive h hb a hp (calm_of_handle hready hp hc hcalm) (harmed hp)
  obtain hc | ⟨d, hc, -⟩ | he := (b.receive a).handle_effect a.command
  · exact absurd hc hstart
  · rw [hc] at hplaying hlive ⊢
    exact timer_armed hprimed hplaying hlive
  · exact he.armed hprimed hplaying hlive

theorem armed_of_reachable (h : battles.Reachable b) :
    b.phase = .playing → b.panicked = false → b.Calm → b.Armed := by
  induction h with
  | init hinit =>
    obtain ⟨isNewbie, hasAI, rfl⟩ := hinit
    nofun
  | step hr _ hstep ih =>
    have hb := (step_cases hstep).1
    exact armed_step hr hstep fun hp hcalm => ih hp hb hcalm

/-- **A turn has a live deadline.** Whatever is played, refused, automated or answered by an AI, and
whoever reconnects or exits: in every state of play there is a timer that has not come back and
whose revision is that of the turn, as long as in this subgame no Send and no timer has been
refused, the cards that were dealt have values to play and `TimeoutAutoMove` is set. A Battle that
has panicked, because a custom deck names a banker's seat that does not exist, handles no Command
any more. -/
theorem turn_has_live_deadline {b : Battle} (h : battles.Reachable b)
    (hplaying : b.phase = .playing)
    (hlive : b.panicked = false) (hsent : b.sendFailed = false) (htimed : b.timerFailed = false)
    (hauto : b.rules.timeoutAutoMove = true) (hranked : Ranked b.dealt) :
    ∃ d ∈ b.pending, d.turnRevision = b.turnRevision := by
  obtain ⟨⟨d, hd, hrevision, -⟩, -⟩ :=
    armed_of_reachable h hplaying hlive ⟨hsent, htimed, hauto, hranked⟩
  exact ⟨d, hd, hrevision⟩

theorem PairsBegun.calm (h : PairsBegun b) : b.Calm := by
  refine ⟨h.sent, h.timed, h.auto, ?_⟩
  rw [dealt, h.custom]
  exact ranked_ordinaryDeck

theorem turn_has_live_deadline_pairs : ∃ b, battles.Reachable b ∧ b.accepted.length = 6 ∧
    ∃ d ∈ b.pending, d.turnRevision = b.turnRevision := by
  obtain ⟨b, h⟩ := pairs_begun
  exact ⟨b, h.reachable, h.plays,
    turn_has_live_deadline h.reachable h.phase_eq h.live h.sent h.timed h.auto h.calm.ranked⟩

section Progress

variable {b : Battle} (h : battles.Reachable b) (hplaying : b.phase = .playing)
    (hlive : b.panicked = false)

include hplaying hlive in
theorem step_of_playing (a : Action) :
    battles.step b a = some ((b.receive a).handle a.command) := by
  simp [battles, hlive, hplaying]

include h hplaying hlive

theorem primed_of_calm (hcalm : b.Calm) (c : Command) : (b.receive { command := c }).Primed :=
  primed_receive h hlive _ hplaying (hcalm.of_eq (by simp [receive]))
    (armed_of_reachable h hplaying hlive)

/-- **A turn that nobody acts in ends.** Under the same assumptions a pending timer makes a move
when it comes back. -/
theorem pending_timer_moves (hcalm : b.Calm) : ∃ d ∈ b.pending, ∃ b' cards,
    battles.step b { command := .timer d } = some b' ∧ b'.outedCards = b.outedCards ++ [cards] := by
  obtain ⟨d, hd, hdue⟩ := (armed_of_reachable h hplaying hlive hcalm).due
  have hp := primed_of_calm h hplaying hlive hcalm (.timer d)
  obtain ⟨b₁, seat, cards, hframe, heq⟩ := timer_due
    (b := { b.receive { command := .timer d } with pending := b.pending.erase d })
    (hp.round.congr rfl rfl fun _ => hp.range) hplaying hp.range hp.odd rfl hp.auto hp.ranked hdue
  have hout := b₁.move_outedCards seat cards
  rw [← heq, outedCards_of_table hframe.alike.table] at hout
  exact ⟨d, hd, _, cards, step_of_playing hplaying hlive _, hout⟩

end Progress

theorem pending_timer_moves_pairs : ∃ b d b', battles.Reachable b ∧
    battles.step b { command := .timer d } = some b' ∧
    b'.outedCards.length = b.outedCards.length + 1 := by
  obtain ⟨b, h⟩ := pairs_begun
  obtain ⟨d, -, b', cards, hstep, hout⟩ := pending_timer_moves h.reachable h.phase_eq h.live h.calm
  exact ⟨b, d, b', h.reachable, hstep, by rw [hout]; simp⟩

end GameServiceRuntime.Nhsk
