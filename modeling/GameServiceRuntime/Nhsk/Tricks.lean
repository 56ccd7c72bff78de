import GameServiceRuntime.Nhsk.Conservation

/-!
# Tricks, turns and points

The log of a subgame says what happened at the table. `Legal` is the rule: a play beats the one
before it in its trick, and a trick is awarded to the seat that played last once every other seat
has passed or has been skipped. The Battle itself keeps one counter, which mixes passes with skipped
seats. What makes it right is that seats are passed over in order: when the counter is `n`, the
seats that have been passed over since the last play are the `n` seats after it (`Since`).

Points move with the tricks. They are lost when a Send is refused between the award and the end of
the trick, so this is about runs in which Sends succeed.

## Main results

* `points_conserved` — captured points, the table and the hands together are 200 points
* `tricks_fair` — the log keeps the rule, and the active seat has cards
-/

namespace GameServiceRuntime.Nhsk

/-! ### The rule -/

/-- The cards to beat in the trick that is being played. -/
def lastPlay : List Event → Option (List Card)
  | .played _ cards :: _ => some cards
  | .passed _ :: log => lastPlay log
  | .skipped .. :: log => lastPlay log
  | _ => none

/-- The seat passed, or it was skipped because its hand was empty or its player had exited. -/
def Event.Quiet (seat : Fin 4) : Event → Prop
  | .passed s => s = seat
  | .skipped s empty exited => s = seat ∧ (empty ∨ exited)
  | _ => False

/-- What the rule asks of an event after what came before it in the subgame. -/
def Legal (log : List Event) : Event → Prop
  | .played _ cards => ∀ previous, lastPlay log = some previous → 0 < compareCardSets cards previous
  | .awarded w => ∃ cards since earlier, log = since ++ .played w cards :: earlier ∧
      (∀ e ∈ since, ∃ seat, e.Quiet seat) ∧ ∀ seat, seat ≠ w → ∃ e ∈ since, e.Quiet seat
  | .awardedFinal w empty => empty ∧ ∃ cards earlier, log = .played w cards :: earlier
  | .passed _ => True
  | .skipped _ empty exited => empty ∨ exited

/-- Every event of a log was legal when it happened. -/
def Fair (log : List Event) : Prop := ∀ e earlier, e :: earlier <:+ log → Legal earlier e

theorem Fair.cons {log : List Event} {e : Event} (h : Fair log) (he : Legal log e) :
    Fair (e :: log) := by
  intro e' earlier hsuffix
  rcases List.suffix_cons_iff.mp hsuffix with heq | hsuffix
  · cases heq
    exact he
  · exact h e' earlier hsuffix

/-- Since `w` played `cards`, the `n` seats after it have passed or have been skipped in order. -/
inductive Since (w : Fin 4) (cards : List Card) : ℕ → List Event → Prop
  | played {log : List Event} : Since w cards 0 (.played w cards :: log)
  | quiet {n : ℕ} {log : List Event} {e : Event} {seat : Fin 4} (h : Since w cards n log)
      (hseat : seat.val = (w + n + 1) % 4) (he : e.Quiet seat) : Since w cards (n + 1) (e :: log)

namespace Since

variable {w : Fin 4} {cards : List Card} {n : ℕ} {log : List Event}

theorem lastPlay_eq (h : Since w cards n log) : lastPlay log = some cards := by
  induction h with
  | played => rfl
  | @quiet n log e seat _ _ he ih =>
    cases e with
    | passed | skipped => exact ih
    | played | awarded | awardedFinal => exact he.elim

theorem split (h : Since w cards n log) :
    ∃ since earlier, log = since ++ .played w cards :: earlier ∧
    (∀ e ∈ since, ∃ seat, e.Quiet seat) ∧
    ∀ (k : ℕ) (seat : Fin 4), k < n → seat.val = (w + k + 1) % 4 → ∃ e ∈ since, e.Quiet seat := by
  induction h with
  | @played log => exact ⟨[], log, rfl, nofun, nofun⟩
  | @quiet n log e seat _ hseat he ih =>
    obtain ⟨since, earlier, rfl, hquiet, hseats⟩ := ih
    refine ⟨e :: since, earlier, rfl, List.forall_mem_cons.mpr ⟨⟨seat, he⟩, hquiet⟩,
      fun k s hk hs => ?_⟩
    rcases Nat.lt_succ_iff_lt_or_eq.mp hk with hk | rfl
    · obtain ⟨e', he', hq⟩ := hseats k s hk hs
      exact ⟨e', List.mem_cons_of_mem _ he', hq⟩
    · obtain rfl : s = seat := Fin.ext (hs.trans hseat.symm)
      exact ⟨e, List.mem_cons_self, he⟩

/-- Three seats passed over are all the others. -/
theorem legal_awarded (h : Since w cards n log) (hn : 3 ≤ n) : Legal log (.awarded w) := by
  obtain ⟨since, earlier, heq, hquiet, hseats⟩ := h.split
  refine ⟨cards, since, earlier, heq, hquiet, fun seat hne => ?_⟩
  have hval : seat.val ≠ w.val := fun heq => hne (Fin.ext heq)
  exact hseats ((seat.val + 3 - w.val) % 4) seat (by omega) (by omega)

end Since

/-! ### Points -/

namespace Battle

variable {b b' : Battle} {seat : Fin 4} {cards : List Card} {w : Fin 4}

/-- Captured points and the table together are the points that were played. -/
def Points (b : Battle) : Prop :=
  ∑ seat, b.capturedPoints seat + score b.scoreCards = score b.outedCards.flatten

theorem score_le (cards : List Card) : score cards ≤ 10 * cards.length := by
  induction cards with
  | nil => rfl
  | cons card cards ih =>
    have hcard : cardScore card ≤ 10 := by
      rw [cardScore]
      split_ifs <;> omega
    simp only [score, List.map_cons, List.sum_cons, List.length_cons] at ih ⊢
    omega

theorem Conserved.score_eq (h : b.Conserved) (hs : b.started) :
    score b.hands.values.flatten + score b.outedCards.flatten = score b.dealt := by
  rw [← score_append]
  exact score_perm (h.perm hs)

/-- No seat's points overflow. -/
theorem Conserved.score_lt (h : b.Conserved) (hs : b.started) :
    score b.outedCards.flatten < 2 ^ 16 := by
  have heq := h.score_eq hs
  have hle := score_le b.dealt
  rw [h.length hs] at hle
  omega

theorem sum_capture (h : b.Points) (hlt : score b.outedCards.flatten < 2 ^ 16) (seat : Fin 4) :
    ∑ s, b.capture seat s = score b.outedCards.flatten := by
  have hrest : ∀ v, ∑ s ∈ Finset.univ.erase seat, Function.update b.capturedPoints seat v s =
      ∑ s ∈ Finset.univ.erase seat, b.capturedPoints s := fun v =>
    Finset.sum_congr rfl fun s hs => Function.update_of_ne (Finset.ne_of_mem_erase hs) ..
  rw [Points, ← Finset.add_sum_erase _ _ (Finset.mem_univ seat)] at h
  rw [← Finset.add_sum_erase _ _ (Finset.mem_univ seat), capture, hrest, Function.update_self,
    Nat.mod_eq_of_lt (by omega)]
  omega

theorem points_recordPlay (h : b.Points) : (b.recordPlay seat cards).Points := by
  rw [Points] at h ⊢
  by_cases hc : cards = [] <;> simp [recordPlay, hc] <;> omega

/-! ### Moves -/

/-- The trick that `w` leads, when `next` is the next seat. -/
structure Led (b : Battle) (w : Fin 4) (next : ℕ) : Prop where
  preOutSeat : b.preOutSeat = some w
  lastCards : b.lastCards ≠ []
  since : Since w b.lastCards b.passCount b.log
  next_eq : next % 4 = (w + b.passCount + 1) % 4

/-- What holds at any point of a move. -/
structure Sound (b : Battle) : Prop where
  started : b.started
  four : ∀ seat, b.bySeat seat ≠ []
  injective : Function.Injective b.bySeat
  points : b.Points
  fair : Fair b.log
  finished : ∀ seat, b.finished seat → b.seatHand seat = []
  partner : ∀ seat, b.seatHand seat = [] → b.seatHand (partnerSeat seat) ≠ []

/-- What holds between two moves. -/
structure Round (b : Battle) : Prop extends Sound b where
  trick : b.lastCards = [] ∧ lastPlay b.log = none ∨ ∃ w, b.Led w b.activeSeat
  active : ∀ seat : Fin 4, b.activeSeat = seat → b.seatHand seat ≠ []
  range : b.custom = none ∨ b.panicked = false → b.activeSeat < 4

/-- What holds when play has ended. -/
structure Settling (b : Battle) : Prop where
  started : b.started
  points : b.Points
  scoreCards : b.scoreCards = []

theorem emit_none (h : b.refused = none) (outputs : List Output) (rest : Battle → Battle) :
    ∃ refused sent, refused = none ∧ emit outputs b rest = rest { b with refused, sent } := by
  obtain ⟨-, -, -, hne⟩ | ⟨refused, sent, hr, he⟩ := emit_cases outputs b rest
  · exact absurd h hne
  · exact ⟨refused, sent, hr h, he⟩

theorem finishTrick_sent (hr : b.refused = none) (hpre : b.preOutSeat = some w)
    (hw : b.bySeat w ≠ []) :
    ∃ refused sent, b.finishTrick = startAction (resetTrick
      { b with
        capturedPoints := b.capture w
        log := .awarded w :: b.log
        refused, sent
        activeSeat := (if b.seatHand w = [] then partnerSeat w else w : Fin 4) }) := by
  rw [finishTrick]
  split
  next hnone =>
    rw [hnone] at hpre
    cases hpre
  next winner hsome =>
    obtain rfl : w = winner := Option.some.inj (hpre.symm.trans hsome)
    rw [if_neg hw]
    obtain ⟨refused, sent, -, he⟩ := emit_none
      (show { b with capturedPoints := b.capture w, log := .awarded w :: b.log }.refused =
        none from hr)
      [.client b.activePlayers (.turnEnd (b.bySeat w) (score b.scoreCards))]
      fun b => startAction (resetTrick
        { b with activeSeat := (if b.seatHand w = [] then partnerSeat w else w : Fin 4) })
    exact ⟨refused, sent, he⟩

/-- A round goes on in a Battle that has the same table. -/
theorem Round.congr (h : b.Round) (htable : b'.table = b.table) (hseats : b'.bySeat = b.bySeat)
    (hrange : b'.custom = none ∨ b'.panicked = false → b.activeSeat < 4) : b'.Round := by
  cases b
  cases b'
  simp only [table, Prod.mk.injEq] at htable hseats
  obtain ⟨rfl, rfl, rfl, rfl, rfl, rfl, rfl, rfl, rfl, rfl, rfl, rfl⟩ := htable
  subst hseats
  obtain ⟨⟨h1, h2, h3, h4, h5, h6, h7⟩, h8 | ⟨w, h8⟩, h9, -⟩ := h
  · exact ⟨⟨h1, h2, h3, h4, h5, h6, h7⟩, .inl h8, h9, hrange⟩
  · exact ⟨⟨h1, h2, h3, h4, h5, h6, h7⟩, .inr ⟨w, h8.1, h8.2, h8.3, h8.4⟩, h9, hrange⟩

theorem Round.startAction (h : b.Round) (hlt : b.activeSeat < 4) :
    b.startAction.Round ∧ b.startAction.phase = b.phase := by
  have haround := (startAction_opens b).around
  simp only [around, Prod.mk.injEq] at haround
  exact ⟨h.congr haround.1 haround.2.2.1 fun _ => hlt, haround.2.1⟩

/-- **The loop of `advanceSeat`** passes over seats in order, for a reason, and stops at a seat that
has cards unless it has gone around the table. -/
theorem advanceLoop_since (n k : ℕ) (hpre : b.preOutSeat = some w)
    (hfour : ∀ seat, b.bySeat seat ≠ []) (hsince : Since w cards b.passCount b.log)
    (hfair : Fair b.log) (hk : (b.activeSeat + k) % 4 = (w + b.passCount + 1) % 4) :
    ∃ passCount log activeSeat,
      advanceLoop (List.range' k n) b = { b with passCount, log, activeSeat } ∧
      Since w cards passCount log ∧ Fair log ∧
      (b.passCount + n ≤ passCount ∨ ∃ seat : Fin 4, activeSeat = seat ∧ b.seatHand seat ≠ [] ∧
        seat.val = (w + passCount + 1) % 4) := by
  induction n generalizing k b with
  | zero => exact ⟨_, _, _, rfl, hsince, hfair, .inl le_rfl⟩
  | succ n ih =>
    rw [List.range'_succ, advanceLoop]
    have hseat : (Fin.ofNat 4 (b.activeSeat + k)).val = (w + b.passCount + 1) % 4 := hk
    generalize Fin.ofNat 4 (b.activeSeat + k) = seat at hseat ⊢
    split
    next hplay =>
      simp only [playable, Bool.and_eq_true, decide_eq_true_eq] at hplay
      exact ⟨_, _, _, rfl, hsince, hfair, .inr ⟨seat, rfl, hplay.1.2, hseat⟩⟩
    next hplay =>
      rw [if_pos (by rw [hpre]; rfl)]
      have hreason : decide (b.seatHand seat = []) = true ∨ b.exited (b.bySeat seat) = true := by
        simp only [playable, Bool.and_eq_true, decide_eq_true_eq, hfour, Bool.not_eq_true',
          not_and, ne_eq, not_false_eq_true, true_and, Bool.not_eq_false] at hplay
        rw [decide_eq_true_eq]
        exact or_iff_not_imp_left.mpr hplay
      have hskip : Event.Quiet seat (.skipped seat (decide (b.seatHand seat = []))
        (b.exited (b.bySeat seat))) := ⟨rfl, hreason⟩
      obtain ⟨passCount, log, activeSeat, heq, hsince', hfair', hstop⟩ :=
        @ih { b with passCount := b.passCount + 1, log := _ :: b.log } (k + 1) hpre hfour
          (hsince.quiet hseat hskip) (hfair.cons hreason) (by dsimp only; omega)
      refine ⟨passCount, log, activeSeat, heq, hsince', hfair', hstop.imp_left fun h => ?_⟩
      dsimp only at h
      omega

/-- **The next turn** after a recorded move. -/
theorem round_advanceTurn (h : b.Sound) (hlt : score b.outedCards.flatten < 2 ^ 16)
    (hr : b.refused = none) (hled : b.Led w (b.activeSeat + 1)) :
    b.advanceTurn.Round ∧ b.advanceTurn.phase = b.phase := by
  obtain ⟨passCount, log, activeSeat, heq, hsince, hfair, hstop⟩ :=
    advanceLoop_since 4 1 hled.preOutSeat h.four hled.since h.fair hled.next_eq
  rw [advanceTurn, advanceSeat, show [1, 2, 3, 4] = List.range' 1 4 from rfl, heq]
  by_cases hpass : 3 ≤ passCount
  · rw [if_pos ⟨by rw [hled.preOutSeat]; rfl, hpass⟩]
    obtain ⟨refused, sent, he⟩ :=
      @finishTrick_sent { b with passCount, log, activeSeat } w hr hled.preOutSeat (h.four w)
    rw [he]
    refine Round.startAction ⟨⟨h.started, h.four, h.injective, ?_,
      hfair.cons (hsince.legal_awarded hpass), h.finished, h.partner⟩, .inl ⟨rfl, rfl⟩,
      fun seat hseat => ?_, fun _ => Fin.is_lt _⟩ (Fin.is_lt _)
    · exact sum_capture h.points hlt w
    · -- the lead goes to the winner, or to a partner who has cards
      change (↑(if b.seatHand w = [] then partnerSeat w else w : Fin 4) : ℕ) = seat at hseat
      change b.seatHand seat ≠ []
      rw [← Fin.ext hseat]
      split
      next hw => exact h.partner w hw
      next hw => exact hw
  · rw [if_neg fun hc => hpass hc.2]
    obtain hround | ⟨seat, rfl, hhand, hseat⟩ := hstop
    · omega
    refine Round.startAction
      ⟨⟨h.started, h.four, h.injective, h.points, hfair, h.finished, h.partner⟩,
      .inr ⟨w, hled.preOutSeat, hled.lastCards, hsince, ?_⟩, fun seat' heq => ?_,
      fun _ => seat.is_lt⟩ seat.is_lt
    · change seat.val % 4 = (w + passCount + 1) % 4
      omega
    · obtain rfl : seat = seat' := Fin.ext heq
      exact hhand

theorem seatHand_recordPlay (hinj : Function.Injective b.bySeat) (seat s : Fin 4)
    (cards : List Card) : (b.recordPlay seat cards).seatHand s =
      if s = seat then (b.seatHand seat).diff cards else b.seatHand s := by
  have hkept := kept_recordPlay b seat cards
  simp only [kept, Prod.mk.injEq] at hkept
  obtain ⟨hhands, -, -, -, -, hseats, -⟩ := hkept
  rw [seatHand, hseats, hand, hhands, Table.lookup_insert_ite]
  by_cases hs : s = seat
  · rw [hs, if_pos rfl, if_pos rfl]
    rfl
  · rw [if_neg hs, if_neg (hinj.ne hs)]
    rfl

/-- The trick after a recorded move, which is legal. -/
theorem led_recordPlay (h : b.Round) (hseat : b.activeSeat = seat)
    (hvalid : b.validActionCandidate (b.bySeat seat) cards) :
    ∃ w, (b.recordPlay seat cards).Led w (seat + 1) ∧ Fair (b.recordPlay seat cards).log ∧
      (cards ≠ [] → w = seat ∧ (b.recordPlay seat cards).log = .played seat cards :: b.log) := by
  simp only [validActionCandidate, Bool.and_eq_true, Bool.or_eq_true, Bool.not_eq_true',
    Bool.and_eq_false_iff, decide_eq_true_eq, decide_eq_false_iff_not] at hvalid
  obtain ⟨⟨⟨-, hlead⟩, -⟩, hbeats⟩ := hvalid
  by_cases hc : cards = []
  · subst hc
    -- a pass is only made in a trick that somebody leads
    obtain ⟨hlast, -⟩ | ⟨w, hled⟩ := h.trick
    · exact absurd hlast (hlead.resolve_left fun hne => hne rfl)
    have hnext : seat.val = (w + b.passCount + 1) % 4 := by
      have := hled.next_eq
      omega
    have hquiet : (Event.passed seat).Quiet seat := rfl
    refine ⟨w, ⟨hled.preOutSeat, hled.lastCards, hled.since.quiet hnext hquiet, ?_⟩,
      h.fair.cons trivial, fun hne => absurd rfl hne⟩
    change (seat.val + 1) % 4 = (w + (b.passCount + 1) + 1) % 4
    omega
  · have hrecord : (b.recordPlay seat cards).log = .played seat cards :: b.log := by
      simp [recordPlay, hc]
    refine ⟨seat, ⟨?_, ?_, ?_, ?_⟩, ?_, fun _ => ⟨rfl, hrecord⟩⟩
    · simp [recordPlay, hc]
    · simp [recordPlay, hc]
    · simpa [recordPlay, hc] using Since.played
    · simp [recordPlay, hc]
    · rw [hrecord]
      refine h.fair.cons fun previous hprev => ?_
      obtain ⟨-, hnone⟩ | ⟨w, hled⟩ := h.trick
      · rw [hnone] at hprev
        cases hprev
      · rw [hled.since.lastPlay_eq] at hprev
        cases hprev
        exact hbeats.resolve_left fun h => h.elim hc hled.lastCards

theorem frame_recordPlay (b : Battle) (seat : Fin 4) (cards : List Card) :
    let b' := b.recordPlay seat cards
    (b'.started, b'.bySeat, b'.refused, b'.phase, b'.finished, b'.activeSeat) =
      (b.started, b.bySeat, b.refused, b.phase, b.finished, b.activeSeat) := by
  rw [recordPlay]
  dsimp only
  split <;> rfl

theorem partnerSeat_partnerSeat : ∀ seat, partnerSeat (partnerSeat seat) = seat := by decide

/-- `b₁` is a round `b` in which a move of the active seat has been recorded. -/
structure Recorded (b b₁ : Battle) (seat : Fin 4) (cards : List Card) : Prop where
  round : b.Round
  started : b₁.started
  seats : b₁.bySeat = b.bySeat
  refused : b₁.refused = none
  finished : b₁.finished = b.finished
  active : b.activeSeat = seat
  points : b₁.Points
  fair : Fair b₁.log
  hand : ∀ s, b₁.seatHand s = if s = seat then (b.seatHand seat).diff cards else b.seatHand s
  led : ∃ w, b₁.Led w (b₁.activeSeat + 1) ∧
    (cards ≠ [] → w = seat ∧ b₁.log = .played seat cards :: b.log)

theorem recorded_of_valid (h : b.Round) (hseat : b.activeSeat = seat)
    (hvalid : b.validActionCandidate (b.bySeat seat) cards) (sent : List Sent) :
    Recorded b { b.recordPlay seat cards with refused := none, sent } seat cards := by
  obtain ⟨w, hled, hfair, hplayed⟩ := led_recordPlay h hseat hvalid
  have hframe := frame_recordPlay b seat cards
  simp only [Prod.mk.injEq] at hframe
  obtain ⟨hstarted, hseats, -, -, hfinished, hactive⟩ := hframe
  refine ⟨h, hstarted ▸ h.started, hseats, rfl, hfinished, hseat, points_recordPlay h.points, hfair,
    fun s => seatHand_recordPlay h.injective seat s cards, w, ?_, hplayed⟩
  refine ⟨hled.preOutSeat, hled.lastCards, hled.since, ?_⟩
  change ((b.recordPlay seat cards).activeSeat + 1) % 4 = _
  rw [hactive, hseat]
  exact hled.next_eq

namespace Recorded

variable {b₁ : Battle}

/-- A seat that acts has cards, so it had not finished. -/
theorem not_finished (h : Recorded b b₁ seat cards) : ¬b₁.finished seat := by
  rw [h.finished]
  exact fun hfin => h.round.active seat h.active (h.round.finished seat hfin)

/-- The hand has just been emptied, so this was a play. -/
theorem played (h : Recorded b b₁ seat cards) (hempty : b₁.seatHand seat = []) : cards ≠ [] := by
  rintro rfl
  rw [h.hand, if_pos rfl] at hempty
  exact h.round.active seat h.active hempty

theorem sound (h : Recorded b b₁ seat cards) {finished : Fin 4 → Bool} {ranks : Fin 4 → ℕ}
    {refused : Option ℕ} {sent : List Sent}
    (hfin : ∀ s, finished s → b₁.finished s ∨ b₁.seatHand s = [])
    (hpartner : b₁.seatHand seat = [] → b₁.seatHand (partnerSeat seat) ≠ []) :
    Sound { b₁ with finished, ranks, refused, sent } := by
  refine ⟨h.started, h.seats ▸ h.round.four, h.seats ▸ h.round.injective, h.points, h.fair,
    fun s hs => (hfin s hs).elim (fun hs => ?_) id, fun s hs => ?_⟩
  · change b₁.seatHand s = []
    have hne : s ≠ seat := fun heq => h.not_finished (heq ▸ hs)
    rw [h.finished] at hs
    rw [h.hand, if_neg hne]
    exact h.round.finished s hs
  · change b₁.seatHand (partnerSeat s) ≠ []
    change b₁.seatHand s = [] at hs
    by_cases h1 : s = seat
    · subst h1
      exact hpartner hs
    by_cases h2 : partnerSeat s = seat
    · intro h3
      obtain rfl : s = partnerSeat seat := by rw [← h2, partnerSeat_partnerSeat]
      exact hpartner (h2 ▸ h3) hs
    · rw [h.hand, if_neg h1] at hs
      rw [h.hand, if_neg h2]
      exact h.round.partner s hs

end Recorded

/-- A move that empties a hand leads to the next turn, or play ends. -/
theorem round_finishSeat {b₁ : Battle} (h : Recorded b b₁ seat cards)
    (hlt : score b₁.outedCards.flatten < 2 ^ 16) (hempty : b₁.seatHand seat = []) :
    Fair (b₁.finishSeat seat).log ∧
      ((b₁.finishSeat seat).Round ∧ (b₁.finishSeat seat).phase = b₁.phase ∨
        (b₁.finishSeat seat).Settling ∧ (b₁.finishSeat seat).phase = .awaitingSettlement) := by
  obtain ⟨w, hled, hplayed⟩ := h.led
  rw [finishSeat]
  dsimp only
  split
  next hpartner =>
    obtain ⟨rfl, hlog⟩ := hplayed (h.played hempty)
    simp only [awardFinalScoreCards, hled.preOutSeat]
    obtain ⟨refused, sent, he, -⟩ | ⟨refused, sent, -, he⟩ := emit_cases _ _ id
    all_goals
      rw [he]
      refine ⟨h.fair.cons ⟨decide_eq_true hempty, cards, b.log, hlog⟩,
        .inr ⟨⟨h.started, ?_, rfl⟩, rfl⟩⟩
      exact sum_capture h.points hlt w
  next hpartner =>
    have hfin : ∀ s, Function.update b₁.finished seat true s → b₁.finished s ∨
      b₁.seatHand s = [] := by
      intro s hs
      by_cases heq : s = seat
      · exact .inr (heq ▸ hempty)
      · rw [Function.update_of_ne heq] at hs
        exact .inl hs
    have hr := h.refused
    obtain ⟨refused, sent, hnone, he⟩ := emit_none (show
      { b₁ with
        finished := Function.update b₁.finished seat true
        ranks := Function.update b₁.ranks seat
          (Finset.univ.filter fun s => Function.update b₁.finished seat true s).card }.refused =
          none
      from hr) _ advanceTurn
    rw [he]
    have hsound : ∀ ranks, Sound
        { b₁ with finished := Function.update b₁.finished seat true, ranks, refused, sent } :=
      fun ranks => h.sound hfin fun _ => hpartner
    have hnext := fun ranks => round_advanceTurn (hsound ranks) hlt hnone
      ⟨hled.preOutSeat, hled.lastCards, hled.since, hled.next_eq⟩
    exact ⟨(hnext _).1.fair, .inl (hnext _)⟩

theorem round_recorded {b₁ : Battle} (h : Recorded b b₁ seat cards)
    (hlt : score b₁.outedCards.flatten < 2 ^ 16) :
    let b' := if b₁.seatHand seat = [] ∧ ¬b₁.finished seat then b₁.finishSeat seat
      else b₁.advanceTurn
    Fair b'.log ∧
    (b'.Round ∧ b'.phase = b₁.phase ∨ b'.Settling ∧ b'.phase = .awaitingSettlement) := by
  dsimp only
  split
  next hc => exact round_finishSeat h hlt hc.1
  next hc =>
    have hempty : b₁.seatHand seat ≠ [] := fun he => hc ⟨he, h.not_finished⟩
    have hsound : b₁.Sound := h.sound (fun _ => .inl) fun he => absurd he hempty
    obtain ⟨w, hled, -⟩ := h.led
    have hnext := round_advanceTurn hsound hlt h.refused hled
    exact ⟨hnext.1.fair, .inl hnext⟩

/-- **A move** leads to the next turn, or play ends. -/
theorem round_move (h : b.Round) (hlt : score (b.recordPlay seat cards).outedCards.flatten < 2 ^ 16)
    (hr : b.refused = none) (hseat : b.activeSeat = seat)
    (hvalid : b.validActionCandidate (b.bySeat seat) cards) :
    Fair (b.move seat cards).log ∧
    ((b.move seat cards).Round ∧ (b.move seat cards).phase = b.phase ∨
      (b.move seat cards).Settling ∧ (b.move seat cards).phase = .awaitingSettlement) := by
  have hframe := frame_recordPlay b seat cards
  simp only [Prod.mk.injEq] at hframe
  obtain ⟨refused, sent, rfl, he⟩ := emit_none (hframe.2.2.1.trans hr) _ _
  rw [move, he, ← hframe.2.2.2.1]
  exact round_recorded (recorded_of_valid h hseat hvalid sent) hlt

/-! ### Runs -/

/-- What holds in every state of a subgame in which no Send is refused. -/
structure Good (b : Battle) : Prop where
  fair : Fair b.log
  round : b.phase = .playing → b.Round
  settling : b.phase = .awaitingSettlement → b.Settling

theorem Settling.congr (h : b.Settling) (htable : b'.table = b.table) : b'.Settling := by
  simp only [table, Prod.mk.injEq] at htable
  obtain ⟨-, hout, hstarted, -, -, -, -, hscore, hcap, -⟩ := htable
  refine ⟨hstarted ▸ h.started, ?_, hscore ▸ h.scoreCards⟩
  rw [Points, hout, hscore, hcap]
  exact h.points

theorem Rests.good (hr : Rests b b') (hlive : b.panicked = false) (h : b.Good) : b'.Good := by
  have hlog : b'.log = b.log := by
    have htable := hr.table
    simp only [Battle.table, Prod.mk.injEq] at htable
    exact htable.2.2.2.2.2.2.2.2.2.2.1
  refine ⟨hlog ▸ h.fair, fun hp => ?_, fun hp => ?_⟩
  · have hb := hr.playing hp
    have hround := h.round hb
    exact hround.congr hr.table (hr.seats (.inl hb)) fun _ => hround.range (.inr hlive)
  · exact (h.settling ((hr.phase.resolve_right fun hne => hne.2 hp) ▸ hp)).congr hr.table

theorem Moves.good (hm : Moves b b') (hr : b.refused = none) (hlive : b.panicked = false)
    (hc : b'.Conserved) (h : b.Good) : b'.Good := by
  obtain ⟨b₁, seat, cards, halike, hplaying, hseat, hvalid, rfl⟩ := hm
  have hround := h.round hplaying
  have hround₁ : b₁.Round :=
    hround.congr halike.table halike.same_seats fun _ => hround.range (.inr hlive)
  have hkept := kept_move b₁ seat cards
  simp only [kept, Prod.mk.injEq] at hkept
  have hframe := frame_recordPlay b₁ seat cards
  simp only [Prod.mk.injEq] at hframe
  have hlt := hc.score_lt ((hkept.2.2.1.trans hframe.1).trans hround₁.started)
  rw [hkept.2.1] at hlt
  obtain ⟨hfair, ⟨hnext, hphase⟩ | ⟨hend, hphase⟩⟩ :=
    round_move hround₁ hlt (halike.refused hr) hseat hvalid
  · refine ⟨hfair, fun _ => hnext, fun hp => ?_⟩
    rw [hphase, halike.same_phase, hplaying] at hp
    cases hp
  · refine ⟨hfair, fun hp => ?_, fun _ => hend⟩
    rw [hphase] at hp
    cases hp

theorem Dealt.seatHand_ne_nil (h : b.Conserved) {bankerSeat : ℕ} {deck : List Card}
    (hd : Dealt b b' bankerSeat deck) (seat : Fin 4) : b'.seatHand seat ≠ [] := by
  have hinj := bySeat_injective h.seated hd.four
  have hseats := hd.seats
  have htable := hd.table
  simp only [Battle.table, Prod.mk.injEq] at htable hseats
  obtain ⟨offset, hoffset, rfl⟩ : ∃ offset < 4, seat = Fin.ofNat 4 (bankerSeat + offset) :=
    ⟨(seat.val + 4 - bankerSeat % 4) % 4, by omega, Fin.ext (by simp only [Fin.val_ofNat]; omega)⟩
  have hlookup := @Table.lookup_foldl_insert _ _ _ _ _ (part deck) _ (nodup_dealt hinj bankerSeat) _
    (List.mem_range.mpr hoffset)
  rw [seatHand, hseats.2.1, hand, htable.1, dealDeck, hlookup, Option.getD_some,
    ← List.length_pos_iff_ne_nil, part, List.length_take, List.length_drop, hd.length]
  omega

theorem Dealt.round (h : b.Conserved) {bankerSeat : ℕ} {deck : List Card}
    (hd : Dealt b b' bankerSeat deck) (hr : b.refused = none) : b'.Round := by
  have hinj := bySeat_injective h.seated hd.four
  have hcards := hd.seatHand_ne_nil h
  have hseats : b'.bySeat = b.bySeat := by
    have := hd.seats
    simp only [Prod.mk.injEq] at this
    exact this.2.1
  have htable := hd.table
  simp only [Battle.table, Prod.mk.injEq] at htable
  obtain ⟨-, hout, hstarted, hcustom, hlast, hpre, -, hscore, hcap, hfin, hlog, hactive⟩ := htable
  refine ⟨⟨hstarted, hseats ▸ hd.four, hseats ▸ hinj, ?_, ?_, ?_, ?_⟩, .inl ⟨hlast, ?_⟩, ?_, ?_⟩
  · simp [Points, hcap, hscore, hout, score]
  · rw [hlog]
    intro e earlier hsuffix
    simp at hsuffix
  · simp [hfin]
  · exact fun seat _ => hcards (partnerSeat seat)
  · rw [hlog]
    rfl
  · exact fun seat _ => hcards seat
  · rw [hcustom, hactive]
    rintro (hnone | hlive)
    · exact hd.banker hnone
    · obtain ⟨-, hne⟩ | ⟨b₁, hopens, -⟩ := hd.turn
      · exact absurd hr hne
      · have heq : b₁.activeSeat = bankerSeat :=
          (activeSeat_of_table hopens.table_eq).symm.trans hactive
        exact heq ▸ hopens.range hlive

/-- A handler in whose subgame no Send has been refused. -/
theorem good_handle (hc : b.Conserved) (h : b.sendFailed = false → b.Good)
    (hsent : b.sendFailed = false → b.refused = none) (hlive : b.panicked = false) (c : Command)
    (hok : (b.handle c).sendFailed = false) : (b.handle c).Good := by
  obtain ⟨intn, swaps, rfl⟩ | hrests | hmoves := b.handle_table c
  · obtain heq | ⟨hphase, heq⟩ | ⟨bankerSeat, deck, hd⟩ := b.start_cases intn swaps
    · rw [handle, heq] at hok ⊢
      exact h hok
    · rw [handle, heq] at hok ⊢
      refine ⟨(h hok).fair, fun hp => ?_, fun hp => ?_⟩
      · exact absurd (hphase.symm.trans hp) (by rintro ⟨⟩)
      · exact absurd (hphase.symm.trans hp) (by rintro ⟨⟩)
    · have hround := hd.round hc (hd.refused_eq_none hok)
      refine ⟨hround.fair, fun _ => hround, fun hp => ?_⟩
      exact absurd (hp.symm.trans hd.phase) (by rintro ⟨⟩)
  · rw [sendFailed_of_answers hrests.answers] at hok
    exact hrests.good hlive (h hok)
  · rw [sendFailed_of_answers hmoves.answers] at hok
    exact hmoves.good (hsent hok) hlive (hmoves.conserved hc) (h hok)

end Battle

open Battle

theorem good_of_reachable {b : Battle} (h : battles.Reachable b) :
    b.sendFailed = false → b.Good := by
  refine h.invariant_of (I := fun b => b.sendFailed = false → b.Good)
    (fun _ => conserved_of_reachable) ?_ ?_
  · rintro b ⟨isNewbie, hasAI, rfl⟩ -
    refine ⟨fun e earlier hsuffix => ?_, nofun, nofun⟩
    simp at hsuffix
  · intro b a b' hb hc _ _ hstep
    obtain ⟨hlive, ⟨-, rfl⟩ | ⟨-, rfl⟩⟩ := step_cases hstep
    · exact hb
    · have hor : (b.receive a).sendFailed = false → b.sendFailed = false ∧ a.refused = none := by
        intro hok
        simpa [receive] using hok
      have hconserved : (b.receive a).Conserved := hc.congr hc.seated rfl
      refine good_handle hconserved (fun hok => ?_) (fun hok => (hor hok).2) hlive a.command
      have hgood := hb (hor hok).1
      exact ⟨hgood.fair,
        fun hp => (hgood.round hp).congr rfl rfl fun _ => (hgood.round hp).range (.inr hlive),
        fun hp => (hgood.settling hp).congr rfl⟩

theorem score_ordinaryDeck : score ordinaryDeck = 200 := by decide

/-- **Points are conserved.** With the ordinary deal, in a subgame in which no Send is refused,
captured points, the table and the hands make 200 points during play, and captured points and the
hands make 200 points when the settlement is requested. -/
theorem points_conserved {b : Battle} (h : battles.Reachable b) (hsent : b.sendFailed = false)
    (hdeal : b.custom = none) :
    (b.phase = .playing →
      ∑ seat, b.capturedPoints seat + score b.scoreCards + score b.hands.values.flatten = 200) ∧
    (b.phase = .awaitingSettlement →
      ∑ seat, b.capturedPoints seat + score b.hands.values.flatten = 200) := by
  have hgood := good_of_reachable h hsent
  have hconserved := conserved_of_reachable h
  have htotal : b.started → score b.hands.values.flatten + score b.outedCards.flatten = 200 := by
    intro hs
    rw [hconserved.score_eq hs, dealt, hdeal]
    exact score_ordinaryDeck
  constructor
  · intro hp
    have hround := hgood.round hp
    have hpoints := hround.points
    have := htotal hround.started
    rw [Points] at hpoints
    omega
  · intro hp
    have hend := hgood.settling hp
    have hpoints := hend.points
    have := htotal hend.started
    rw [Points, hend.scoreCards] at hpoints
    simp only [score, List.map_nil, List.sum_nil] at hpoints
    simp only [score] at this ⊢
    omega

theorem points_conserved_pairs : ∃ b, battles.Reachable b ∧ b.phase = .awaitingSettlement ∧
    ∑ seat, b.capturedPoints seat + score b.hands.values.flatten = 200 := by
  obtain ⟨b, h⟩ := pairs_reachable
  exact ⟨b, h.reachable, h.phase_eq, (points_conserved h.reachable h.sent h.custom).2 h.phase_eq⟩

/-- **The rule of tricks and turns.** With the ordinary deal, in a subgame in which no Send is
refused, a trick is awarded during play only to the seat that played last in it, when every other
seat has passed or has been skipped since; a play beats the one before it; the trick that ends play
goes to the seat that has just played its last cards; and the active seat has cards. -/
theorem tricks_fair {b : Battle} (h : battles.Reachable b) (hsent : b.sendFailed = false)
    (hdeal : b.custom = none) :
    Fair b.log ∧
    (b.phase = .playing → ∃ seat : Fin 4, b.activeSeat = seat ∧ b.seatHand seat ≠ []) := by
  have hgood := good_of_reachable h hsent
  refine ⟨hgood.fair, fun hp => ?_⟩
  have hround := hgood.round hp
  exact ⟨⟨_, hround.range (.inl hdeal)⟩, rfl, hround.active _ rfl⟩

theorem tricks_fair_pairs : (∃ b, battles.Reachable b ∧ endsEarly b.log = true ∧ Fair b.log) ∧
    ∃ b, battles.Reachable b ∧ b.accepted.length = 6 ∧
      ∃ seat : Fin 4, b.activeSeat = seat ∧ b.seatHand seat ≠ [] := by
  obtain ⟨b, h⟩ := pairs_reachable
  obtain ⟨b', h'⟩ := pairs_begun
  exact ⟨⟨b, h.reachable, h.ends, (tricks_fair h.reachable h.sent h.custom).1⟩, b', h'.reachable,
    h'.plays, (tricks_fair h'.reachable h'.sent h'.custom).2 h'.phase_eq⟩

/-! ### The last trick -/

/-- Nobody has passed since the play. -/
theorem not_legal_awarded {w s : Fin 4} {cards : List Card} {log : List Event} :
    ¬Legal (.played s cards :: log) (.awarded w) := by
  rintro ⟨cards', since, earlier, heq, hquiet, hseats⟩
  cases since with
  | nil =>
    have hnext : ∀ seat : Fin 4, seat + 1 ≠ seat := by decide
    obtain ⟨e, he, -⟩ := hseats (w + 1) (hnext w)
    cases he
  | cons e since =>
    obtain ⟨rfl, -⟩ := List.cons.inj heq
    obtain ⟨seat, hq⟩ := hquiet _ List.mem_cons_self
    exact hq

/-- **The last trick is awarded without a pass.** When two partners have no cards left, the trick
goes to the seat that has just played, and no other seat has passed or been skipped since. -/
theorem last_trick_awarded_early : ∃ b, battles.Reachable b ∧ b.sendFailed = false ∧
    b.custom = none ∧
    ∃ w empty earlier, b.log = .awardedFinal w empty :: earlier ∧ ¬Legal earlier (.awarded w) := by
  obtain ⟨b, h⟩ := pairs_reachable
  refine ⟨b, h.reachable, h.sent, h.custom, ?_⟩
  have hends := h.ends
  unfold endsEarly at hends
  split at hends
  next w empty s cards rest heq => exact ⟨w, empty, .played s cards :: rest, heq, not_legal_awarded⟩
  · cases hends

end GameServiceRuntime.Nhsk
