import GameServiceRuntime.Nhsk.Tricks

/-!
# The race of a subgame

A seat finishes when it has played its last card, and its rank is the number of seats that have
finished by then. Play ends with the second seat of a team.

A refused Send can come between a hand becoming empty and the seat finishing. The seat then stays
the active one, and it finishes when it passes, so that the order of the race is the order in which
hands have become empty all the same. What carries this is `Racing.active`: only the active seat can
be without cards and not have finished.
-/

namespace GameServiceRuntime.Nhsk

namespace Battle

variable {b b' : Battle} {seat : Fin 4} {cards : List Card}

/-- The fields of the race. -/
def race (b : Battle) := (b.hands, b.bySeat, b.finished, b.ranks, b.phase)

/-- During play. -/
structure Racing (b : Battle) : Prop where
  empty : ∀ seat, b.finished seat → b.seatHand seat = []
  active : ∀ seat : Fin 4, b.seatHand seat = [] → b.finished seat ∨ b.activeSeat = seat
  apart : ∀ seat, b.finished seat → ¬b.finished (partnerSeat seat)

/-- When play has ended: a team has finished, and a seat of the other team has cards. -/
def Over (b : Battle) : Prop :=
  ∃ seat, (b.finished seat ∧ b.finished (partnerSeat seat)) ∧
    (b.seatHand seat = [] ∧ b.seatHand (partnerSeat seat) = []) ∧
    ∃ other, other ≠ seat ∧ other ≠ partnerSeat seat ∧ ¬b.finished other ∧ b.seatHand other ≠ []

/-- What holds of every Battle. -/
structure Standing (b : Battle) : Prop where
  four : b.phase = .playing ∨ b.phase = .awaitingSettlement → ∀ seat, b.bySeat seat ≠ []
  racing : b.phase = .playing → b.Racing
  ended : b.phase = .awaitingSettlement → b.Over

/-! ### Moves -/

theorem seatHand_of_race (h : b'.race = b.race) (seat : Fin 4) :
    b'.seatHand seat = b.seatHand seat := by
  simp only [race, Prod.mk.injEq] at h
  rw [seatHand, hand, h.1, h.2.1]
  rfl

theorem finished_of_race (h : b'.race = b.race) : b'.finished = b.finished :=
  congrArg (fun t => t.2.2.1) h

theorem ranks_of_race (h : b'.race = b.race) : b'.ranks = b.ranks := congrArg (fun t => t.2.2.2.1) h

theorem phase_of_race (h : b'.race = b.race) : b'.phase = b.phase := congrArg (fun t => t.2.2.2.2) h

theorem race_startAction (b : Battle) : b.startAction.race = b.race := by
  have haround := (startAction_opens b).around
  simp only [around, table, Prod.mk.injEq] at haround
  obtain ⟨⟨hhands, -, -, -, -, -, -, -, -, hfinished, -⟩, hphase, hseats, -, -, -, -, -, -,
    hranks⟩ := haround
  rw [race, hhands, hseats, hfinished, hranks, hphase, race]

theorem race_emit {outputs : List Output} {rest : Battle → Battle}
    (h : ∀ refused sent, (rest { b with refused, sent }).race = b.race) :
    (emit outputs b rest).race = b.race := by
  obtain ⟨refused, sent, he, -⟩ | ⟨refused, sent, -, he⟩ := emit_cases outputs b rest
  · rw [he]
    rfl
  · rw [he, h]

theorem race_advanceTurn (b : Battle) : b.advanceTurn.race = b.race := by
  obtain ⟨passCount, log, activeSeat, heq⟩ := advanceLoop_eq [1, 2, 3, 4] b
  rw [advanceTurn, advanceSeat, heq]
  split
  · rw [finishTrick]
    split
    · rfl
    · split
      · rfl
      · exact race_emit fun _ _ => race_startAction _
  · exact race_startAction _

theorem race_recordPlay (b : Battle) (seat : Fin 4) (cards : List Card) :
    ((b.recordPlay seat cards).race, (b.recordPlay seat cards).activeSeat) =
      ((b.hands.insert (b.bySeat seat) ((b.seatHand seat).diff cards), b.bySeat,
        b.finished, b.ranks, b.phase), b.activeSeat) := by
  rw [recordPlay]
  dsimp only
  split <;> rfl

/-- What a move does to the race, once it is recorded in `b`. -/
inductive Raced (b : Battle) (seat : Fin 4) : Battle → Prop
  /-- the Send that tells the players is refused -/
  | held {b' : Battle} (hrace : b'.race = b.race) (hactive : b'.activeSeat = b.activeSeat) :
    Raced b seat b'
  | goesOn {b' : Battle} (hrace : b'.race = b.race) (h : b.seatHand seat = [] → b.finished seat) :
    Raced b seat b'
  | finishes {b' : Battle} (hempty : b.seatHand seat = []) (hnew : ¬b.finished seat)
      (hrace : b'.race = (b.hands, b.bySeat, Function.update b.finished seat true,
        Function.update b.ranks seat
          (Finset.univ.filter fun s => Function.update b.finished seat true s).card,
        if b.seatHand (partnerSeat seat) = [] then .awaitingSettlement else b.phase)) :
    Raced b seat b'

theorem raced_move (b : Battle) (seat : Fin 4) (cards : List Card) :
    Raced (b.recordPlay seat cards) seat (b.move seat cards) := by
  rw [move]
  generalize b.recordPlay seat cards = b₁
  obtain ⟨refused, sent, he, -⟩ | ⟨refused, sent, -, he⟩ := emit_cases _ b₁ _
  · rw [he]
    exact .held rfl rfl
  · rw [he]
    split
    next hc =>
      refine .finishes hc.1 hc.2 ?_
      rw [finishSeat]
      dsimp only
      split
      next hpartner =>
        have hpartner : b₁.seatHand (partnerSeat seat) = [] := hpartner
        rw [if_pos hpartner]
        refine (race_emit fun _ _ => rfl).trans ?_
        rw [awardFinalScoreCards]
        split <;> rfl
      next hpartner =>
        have hpartner : b₁.seatHand (partnerSeat seat) ≠ [] := hpartner
        rw [if_neg hpartner]
        exact race_emit fun _ _ => race_advanceTurn _
    next hc =>
      refine .goesOn (race_advanceTurn _) fun hempty => ?_
      by_contra hfin
      exact hc ⟨hempty, hfin⟩

/-- What is known of the race when a move of `seat` has been recorded. -/
structure Running (b : Battle) (seat : Fin 4) : Prop where
  playing : b.phase = .playing
  empty : ∀ s, b.finished s → b.seatHand s = []
  others : ∀ s, s ≠ seat → b.seatHand s = [] → b.finished s
  apart : ∀ s, b.finished s → ¬b.finished (partnerSeat s)

theorem Racing.running (h : b.Racing) (hinj : Function.Injective b.bySeat)
    (hplaying : b.phase = .playing)
    (hseat : b.activeSeat = seat) (cards : List Card) : (b.recordPlay seat cards).Running seat := by
  have hhand := fun s => seatHand_recordPlay hinj seat s cards
  have hrecord := race_recordPlay b seat cards
  simp only [race, Prod.mk.injEq] at hrecord
  obtain ⟨⟨-, -, hfinished, -, hphase⟩, -⟩ := hrecord
  refine ⟨hphase.trans hplaying, fun s hs => ?_, fun s hne hs => ?_, hfinished ▸ h.apart⟩
  · -- a seat that had finished has no card to play
    rw [hfinished] at hs
    rw [hhand]
    split
    next heq => rw [← heq, h.empty s hs, List.nil_diff]
    next => exact h.empty s hs
  · rw [hhand, if_neg hne] at hs
    rw [hfinished]
    refine (h.active s hs).resolve_right fun heq => hne (Fin.ext ?_)
    exact heq.symm.trans hseat

namespace Running

theorem next (h : b.Running seat) (hrace : b'.race = b.race)
    (hdone : b.seatHand seat = [] → b.finished seat ∨ b'.activeSeat = seat) :
    (b'.phase = .playing → b'.Racing) ∧ (b'.phase = .awaitingSettlement → b'.Over) := by
  refine ⟨fun _ => ⟨?_, fun s hs => ?_, ?_⟩, fun hp => ?_⟩
  · simpa only [finished_of_race hrace, seatHand_of_race hrace] using h.empty
  · rw [seatHand_of_race hrace] at hs
    rw [finished_of_race hrace]
    by_cases heq : s = seat
    · subst heq
      exact hdone hs
    · exact .inl (h.others s heq hs)
  · simpa only [finished_of_race hrace] using h.apart
  · rw [phase_of_race hrace, h.playing] at hp
    cases hp

theorem partnerSeat_ne : ∀ seat, partnerSeat seat ≠ seat := by decide

/-- The seats beside a seat are those of the other team. -/
theorem beside_ne : ∀ seat : Fin 4, seat + 1 ≠ seat ∧ seat + 1 ≠ partnerSeat seat ∧
    partnerSeat (seat + 1) ≠ seat ∧ partnerSeat (seat + 1) ≠ partnerSeat seat := by decide

theorem finishes (h : b.Running seat) (hempty : b.seatHand seat = [])
    (hcards : ∀ s, b'.seatHand s = b.seatHand s)
    (hfin : ∀ s, b'.finished s ↔ s = seat ∨ b.finished s)
    (hphase : b'.phase = if b.seatHand (partnerSeat seat) = [] then
      .awaitingSettlement else b.phase) :
    (b'.phase = .playing → b'.Racing) ∧ (b'.phase = .awaitingSettlement → b'.Over) := by
  rw [hphase]
  split
  next hpartner =>
    refine ⟨nofun, fun _ => ⟨seat, ?_, ?_, ?_⟩⟩
    · rw [hfin, hfin]
      exact ⟨.inl rfl, .inr (h.others _ (partnerSeat_ne seat) hpartner)⟩
    · rw [hcards, hcards]
      exact ⟨hempty, hpartner⟩
    · -- a seat of the other team has not finished, and so it has cards
      obtain ⟨h1, h2, h3, h4⟩ := beside_ne seat
      have hbehind : ∀ s, s ≠ seat → ¬b.finished s → ¬b'.finished s ∧ b'.seatHand s ≠ [] := by
        intro s hne hs
        rw [hfin, hcards]
        exact ⟨fun hor => hor.elim hne hs, fun hs' => hs (h.others s hne hs')⟩
      by_cases hfirst : b.finished (seat + 1)
      · exact ⟨_, h3, h4, hbehind _ h3 (h.apart _ hfirst)⟩
      · exact ⟨_, h1, h2, hbehind _ h1 hfirst⟩
  next hpartner =>
    have hnot : ¬b.finished (partnerSeat seat) := fun hs => hpartner (h.empty _ hs)
    refine ⟨fun _ => ⟨fun s hs => ?_, fun s hs => .inl ?_, fun s hs hs' => ?_⟩, fun hp => ?_⟩
    · rw [hcards]
      obtain rfl | hs := (hfin s).mp hs
      · exact hempty
      · exact h.empty s hs
    · rw [hcards] at hs
      rw [hfin]
      exact or_iff_not_imp_left.mpr fun hne => h.others s hne hs
    · obtain rfl | hs := (hfin s).mp hs
      · exact ((hfin _).mp hs').elim (partnerSeat_ne s) hnot
      · obtain heq | hs' := (hfin _).mp hs'
        · rw [← heq, partnerSeat_partnerSeat] at hnot
          exact hnot hs
        · exact h.apart s hs hs'
    · rw [h.playing] at hp
      cases hp

end Running

theorem Racing.move (h : b.Racing) (hinj : Function.Injective b.bySeat)
    (hplaying : b.phase = .playing) (hseat : b.activeSeat = seat) (cards : List Card) :
    ((b.move seat cards).phase = .playing → (b.move seat cards).Racing) ∧
      ((b.move seat cards).phase = .awaitingSettlement → (b.move seat cards).Over) := by
  have hrunning := h.running hinj hplaying hseat cards
  have hactive := congrArg Prod.snd (race_recordPlay b seat cards)
  cases raced_move b seat cards with
  | held hrace hactive' =>
    exact hrunning.next hrace fun _ => .inr (hactive'.trans (hactive.trans hseat))
  | goesOn hrace hdone => exact hrunning.next hrace fun hs => .inl (hdone hs)
  | finishes hnone hnew hrace =>
    simp only [race, Prod.mk.injEq] at hrace
    obtain ⟨hhands, hseats, hfinished, -, hphase⟩ := hrace
    refine hrunning.finishes hnone (fun s => ?_) (fun s => ?_) hphase
    · rw [seatHand, hand, hhands, hseats]
      rfl
    · rw [hfinished]
      by_cases heq : s = seat <;> simp [heq]

/-! ### Runs -/

theorem Rests.standing (hr : Rests b b') (h : b.Standing) : b'.Standing := by
  have htable := hr.table
  simp only [Battle.table, Prod.mk.injEq] at htable
  obtain ⟨hhands, -, -, -, -, -, -, -, -, hfinished, -, hactive⟩ := htable
  have hsame : b'.phase = .playing ∨ b'.phase = .awaitingSettlement →
      b'.phase = b.phase ∧ b'.bySeat = b.bySeat := by
    intro hp
    have hphase := hr.phase.resolve_right fun hne => hp.elim hne.1 hne.2
    exact ⟨hphase, hr.seats (hphase ▸ hp)⟩
  have hcards : ∀ {s : Fin 4}, b'.bySeat = b.bySeat → b'.seatHand s = b.seatHand s := by
    intro s hseats
    rw [seatHand, hand, hhands, hseats]
    rfl
  refine ⟨fun hp => ?_, fun hp => ?_, fun hp => ?_⟩
  · obtain ⟨hphase, hseats⟩ := hsame hp
    rw [hseats]
    exact h.four (hphase ▸ hp)
  · obtain ⟨hphase, hseats⟩ := hsame (.inl hp)
    obtain ⟨hempty, hact, hapart⟩ := h.racing (hphase ▸ hp)
    refine ⟨?_, ?_, ?_⟩
    · simpa only [hfinished, hcards hseats] using hempty
    · simpa only [hfinished, hcards hseats, hactive] using hact
    · simpa only [hfinished] using hapart
  · obtain ⟨hphase, hseats⟩ := hsame (.inr hp)
    simpa only [Over, hfinished, hcards hseats] using h.ended (hphase ▸ hp)

theorem Moves.standing (hm : Moves b b') (hseated : b.Seated) (h : b.Standing) : b'.Standing := by
  obtain ⟨b₁, seat, cards, halike, hplaying, hseat, -, rfl⟩ := hm
  have h₁ := halike.toRests.standing h
  have hplaying₁ := halike.same_phase.trans hplaying
  have hfour := h₁.four (.inl hplaying₁)
  have hmove :=
    (h₁.racing hplaying₁).move (bySeat_injective (halike.seated hseated) hfour) hplaying₁ hseat
    cards
  refine ⟨fun _ => ?_, hmove.1, hmove.2⟩
  rw [move_seats]
  exact hfour

theorem Dealt.standing (hc : b.Conserved) {bankerSeat : ℕ} {deck : List Card}
    (hd : Dealt b b' bankerSeat deck) : b'.Standing := by
  have hcards := hd.seatHand_ne_nil hc
  have hseats : b'.bySeat = b.bySeat := congrArg (fun t => t.2.1) hd.seats
  have hfinished : b'.finished = fun _ => false :=
    congrArg (fun t => t.2.2.2.2.2.2.2.2.2.1) hd.table
  refine ⟨fun _ => hseats ▸ hd.four, fun _ => ⟨?_, fun s hs => absurd hs (hcards s), ?_⟩,
    fun hp => ?_⟩
  · simp [hfinished]
  · simp [hfinished]
  · exact absurd (hp.symm.trans hd.phase) nofun

theorem standing_handle (hc : b.Conserved) (h : b.Standing) (c : Command) :
    (b.handle c).Standing := by
  obtain ⟨intn, swaps, rfl⟩ | hr | hm := b.handle_table c
  · obtain heq | ⟨hphase, heq⟩ | ⟨bankerSeat, deck, hd⟩ := b.start_cases intn swaps
    · rw [handle, heq]
      exact h
    · rw [handle, heq]
      refine ⟨fun hp => ?_, fun hp => ?_, fun hp => ?_⟩
      all_goals
        dsimp only at hp
        simp [hphase] at hp
    · exact hd.standing hc
  · exact hr.standing h
  · exact hm.standing hc.seated h

theorem standing_of_reachable (h : battles.Reachable b) : b.Standing := by
  refine h.invariant_of (J := Conserved) (fun _ => conserved_of_reachable) ?_ ?_
  · rintro b ⟨isNewbie, hasAI, rfl⟩
    exact ⟨nofun, nofun, nofun⟩
  · intro b a b' hb hc _ _ hstep
    obtain ⟨-, ⟨-, rfl⟩ | ⟨-, rfl⟩⟩ := step_cases hstep
    · exact hb
    · have hstanding : (b.receive a).Standing :=
        ⟨hb.four,
          fun hp => ⟨(hb.racing hp).empty, (hb.racing hp).active, (hb.racing hp).apart⟩, hb.ended⟩
      exact standing_handle (hc.congr hc.seated rfl : (b.receive a).Conserved) hstanding a.command

/-! ### Places -/

/-- What a Command does to the seats that have finished and to their ranks. -/
inductive Ranking (b b' : Battle) : Prop
  | same (hfinished : b'.finished = b.finished) (hranks : b'.ranks = b.ranks)
  | finishes (seat : Fin 4) (hnew : ¬b.finished seat)
      (hfinished : b'.finished = Function.update b.finished seat true)
      (hranks : b'.ranks = Function.update b.ranks seat
        (Finset.univ.filter fun s => Function.update b.finished seat true s).card)
  | cleared (hfinished : b'.finished = fun _ => false) (hranks : b'.ranks = fun _ => 0)

theorem Moves.ranking (hm : Moves b b') : Ranking b b' := by
  obtain ⟨b₁, seat, cards, halike, -, -, -, rfl⟩ := hm
  have hfinished₁ : b₁.finished = b.finished :=
    congrArg (fun t => t.2.2.2.2.2.2.2.2.2.1) halike.table
  have hrecord := race_recordPlay b₁ seat cards
  simp only [race, Prod.mk.injEq] at hrecord
  obtain ⟨⟨-, -, hfinished₂, hranks₂, -⟩, -⟩ := hrecord
  have hfinished := hfinished₂.trans hfinished₁
  have hranks := hranks₂.trans halike.ranks
  cases raced_move b₁ seat cards with
  | held hrace =>
    exact .same ((finished_of_race hrace).trans hfinished) ((ranks_of_race hrace).trans hranks)
  | goesOn hrace =>
    exact .same ((finished_of_race hrace).trans hfinished) ((ranks_of_race hrace).trans hranks)
  | finishes _ hnew hrace =>
    simp only [race, Prod.mk.injEq, hfinished, hranks] at hnew hrace
    exact .finishes seat hnew hrace.2.2.1 hrace.2.2.2.1

theorem handle_ranking (b : Battle) (c : Command) : Ranking b (b.handle c) := by
  obtain ⟨intn, swaps, rfl⟩ | hr | hm := b.handle_table c
  · obtain heq | ⟨-, heq⟩ | ⟨bankerSeat, deck, hd⟩ := b.start_cases intn swaps
    · rw [handle, heq]
      exact .same rfl rfl
    · rw [handle, heq]
      exact .same rfl rfl
    · exact .cleared (congrArg (fun t => t.2.2.2.2.2.2.2.2.2.1) hd.table) hd.ranks
  · exact .same (congrArg (fun t => t.2.2.2.2.2.2.2.2.2.1) hr.table) hr.ranks
  · exact hm.ranking

/-- The seats that have finished, in the order in which they did, after a step to `b'`. -/
def nextOrder (b b' : Battle) (order : List (Fin 4)) : List (Fin 4) :=
  order.filter b'.finished ++ (List.finRange 4).filter fun seat =>
    b'.finished seat && !b.finished seat

/-- The ranks are the places in the order of finishing. -/
structure Placed (b : Battle) (order : List (Fin 4)) : Prop where
  nodup : order.Nodup
  finished : ∀ seat, b.finished seat = true ↔ seat ∈ order
  ranks : ∀ seat, b.ranks seat = if seat ∈ order then order.idxOf seat + 1 else 0

theorem Placed.next {order : List (Fin 4)} (h : b.Placed order) (hr : Ranking b b') :
    b'.Placed (nextOrder b b' order) := by
  cases hr with
  | same hfinished hranks =>
    have hkeep : order.filter b.finished = order :=
      List.filter_eq_self.mpr fun seat hseat => (h.finished seat).mpr hseat
    have hnew :
      ((List.finRange 4).filter fun seat => b.finished seat && !b.finished seat) = [] := by simp
    rw [nextOrder, hfinished, hkeep, hnew, List.append_nil]
    exact ⟨h.nodup, hfinished ▸ h.finished, hranks ▸ h.ranks⟩
  | finishes seat hnew hfinished hranks =>
    have hout : seat ∉ order := fun hmem => hnew ((h.finished seat).mpr hmem)
    have hfin : ∀ s, b'.finished s = true ↔ s ∈ order ++ [seat] := by
      intro s
      rw [hfinished, List.mem_append, List.mem_singleton, ← h.finished]
      by_cases heq : s = seat <;> simp [heq]
    have hkeep : order.filter b'.finished = order :=
      List.filter_eq_self.mpr fun s hs => (hfin s).mpr (List.mem_append_left _ hs)
    have hnext : ((List.finRange 4).filter fun s => b'.finished s && !b.finished s) = [seat] := by
      have hone :
        ∀ seat : Fin 4, ((List.finRange 4).filter fun s => decide (s = seat)) = [seat] := by decide
      rw [← hone seat]
      congr 1
      funext s
      rw [hfinished]
      by_cases heq : s = seat <;> simp [heq, hnew]
    have hnodup : (order ++ [seat]).Nodup := by simpa using List.Nodup.concat hout h.nodup
    rw [nextOrder, hkeep, hnext]
    refine ⟨hnodup, hfin, fun s => ?_⟩
    rw [hranks]
    by_cases heq : s = seat
    · subst heq
      have hcount : (Finset.univ.filter fun s' => Function.update b.finished s true s').card =
          (order ++ [s]).length := by
        rw [← List.toFinset_card_of_nodup hnodup, ← hfinished]
        congr 1
        ext s'
        simp [hfin, or_comm]
      rw [Function.update_self, hcount, if_pos (by simp), List.idxOf_append_of_notMem hout]
      simp
    · rw [Function.update_of_ne heq, h.ranks s]
      by_cases hmem : s ∈ order
      · rw [if_pos hmem, if_pos (List.mem_append_left _ hmem), List.idxOf_append_of_mem hmem]
      · rw [if_neg hmem, if_neg (by simp [hmem, heq])]
  | cleared hfinished hranks =>
    simp only [nextOrder, hfinished]
    refine ⟨by simp, by simp [hfinished], by simp [hranks]⟩

end Battle

open Battle

/-- The history of a run: the seats that have finished in the subgame, in the order in which they
did. -/
def finishing (b : Battle) (a : Action) (order : List (Fin 4)) : List (Fin 4) :=
  (battles.step b a).elim order fun b' => nextOrder b b' order

theorem placed_of_reachable {p : Battle × List (Fin 4)}
    (h : (battles.logged [] finishing).Reachable p) : battles.Reachable p.1 ∧ p.1.Placed p.2 := by
  refine System.logged_invariant (I := Placed) (J := fun _ => True) (fun _ _ => trivial) ?_ ?_ h
  · rintro b ⟨isNewbie, hasAI, rfl⟩
    exact ⟨List.nodup_nil, by simp, by simp⟩
  · intro b a b' order hb _ _ hstep
    rw [finishing, hstep]
    refine hb.next ?_
    obtain ⟨-, ⟨-, rfl⟩ | ⟨-, rfl⟩⟩ := step_cases hstep
    · exact .same rfl rfl
    · cases handle_ranking (b.receive a) a.command with
      | same hfinished hranks => exact .same hfinished hranks
      | finishes seat hnew hfinished hranks => exact .finishes seat hnew hfinished hranks
      | cleared hfinished hranks => exact .cleared hfinished hranks

end GameServiceRuntime.Nhsk
