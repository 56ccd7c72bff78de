import Mathlib.Algebra.BigOperators.Fin
import GameServiceRuntime.Nhsk.Effect

/-!
# Cards are conserved

Hands and plays together are the deck that was dealt, whatever happens to the subgame: cards only
leave a hand in an accepted play.
-/

namespace GameServiceRuntime.Nhsk

namespace Battle

variable {b b' : Battle}

/-- The cards that a hand holds can be told apart from the rest of it. -/
theorem perm_of_holds {hand cards : List Card} (h : holds hand cards) :
    hand.Perm (cards ++ hand.diff cards) := by
  induction cards generalizing hand with
  | nil => exact .refl _
  | cons card cards ih =>
    simp only [holds, Bool.and_eq_true, List.contains_iff_mem] at h
    rw [List.diff_cons]
    exact (List.perm_cons_erase h.1).trans (.cons card (ih h.2))

theorem holds_of_valid {player : Text} {cards : List Card}
    (h : b.validActionCandidate player cards) : holds (b.hand player) cards := by
  simp only [validActionCandidate, validateCards, Bool.and_eq_true, Bool.or_eq_true,
    decide_eq_true_eq] at h
  obtain ⟨⟨-, rfl | ⟨-, h⟩⟩, -⟩ := h
  · rfl
  · exact h

/-- The deck that was dealt last. -/
def dealt (b : Battle) : List Card := b.custom.elim ordinaryDeck (·.cards)

/-- What is on the table and in the hands is the deck that was dealt. -/
structure Conserved (b : Battle) : Prop where
  seated : b.Seated
  length : b.started → b.dealt.length = 104
  perm : b.started → (b.hands.values.flatten ++ b.outedCards.flatten).Perm b.dealt
  hands : b.started → b.outedCards = [] → b.hands.values.map List.length = [26, 26, 26, 26]

theorem bySeat_injective (h : b.Seated) (hfour : ∀ seat, b.bySeat seat ≠ []) :
    Function.Injective b.bySeat := by
  intro seat seat' heq
  obtain ⟨v, hv, hseat⟩ := h seat (hfour seat)
  obtain ⟨v', hv', hseat'⟩ := h seat' (hfour seat')
  rw [heq, hv'] at hv
  cases hv
  exact Fin.ext (hseat.symm.trans hseat')

theorem flatten_parts (cards : List Card) (n : ℕ) :
    ((List.range n).map (part cards)).flatten = cards.take (n * 26) := by
  induction n with
  | zero => simp
  | succ n ih =>
    rw [List.range_succ, List.map_append, List.flatten_append, ih, Nat.succ_mul, List.take_add]
    simp [part]

theorem nodup_dealt (h : Function.Injective b.bySeat) (bankerSeat : ℕ) :
    ((List.range 4).map fun offset => b.bySeat (Fin.ofNat 4 (bankerSeat + offset))).Nodup := by
  refine List.Nodup.map_on (fun i hi j hj heq => ?_) List.nodup_range
  have := congrArg Fin.val (h heq)
  simp only [Fin.val_ofNat, List.mem_range] at this hi hj
  omega

theorem values_dealDeck (h : Function.Injective b.bySeat) (bankerSeat : ℕ) (deck : List Card) :
    (b.dealDeck bankerSeat deck).values = ((List.range 4).map (part deck)).reverse := by
  rw [Table.values, dealDeck, Table.entries_foldl_insert (nodup_dealt h bankerSeat),
    List.map_reverse, List.map_map]
  rfl

theorem customDeck_length {d : CustomDeck} (h : b.customDeckForSubgame = some d) :
    d.cards.length = 104 := by
  simp only [customDeckForSubgame, Option.ite_none_right_eq_some, validCatalog,
    decide_eq_true_eq] at h
  exact h.1.2 d (List.mem_of_getElem? h.2)

theorem length_ordinaryDeck : ordinaryDeck.length = 104 := by decide

theorem Conserved.congr (h : b.Conserved) (hseated : b'.Seated)
    (heq : (b'.hands, b'.outedCards, b'.started, b'.custom) =
      (b.hands, b.outedCards, b.started, b.custom)) : b'.Conserved := by
  simp only [Prod.mk.injEq] at heq
  obtain ⟨hhands, houted, hstarted, hcustom⟩ := heq
  have hdealt : b'.dealt = b.dealt := by rw [dealt, dealt, hcustom]
  refine ⟨hseated, ?_, ?_, ?_⟩ <;> rw [hstarted]
  · rw [hdealt]
    exact h.length
  · rw [hdealt, hhands, houted]
    exact h.perm
  · rw [hhands, houted]
    exact h.hands

theorem Conserved.kept_eq (h : b.Conserved) (heq : b'.kept = b.kept) : b'.Conserved := by
  simp only [kept, Prod.mk.injEq] at heq
  obtain ⟨hhands, houted, hstarted, hcustom, hplayers, hseats, -⟩ := heq
  refine h.congr ?_ (by rw [hhands, houted, hstarted, hcustom])
  rw [Seated, hplayers, hseats]
  exact h.seated

/-- A recorded play goes from the hand to the plays. -/
theorem Conserved.recordPlay (h : b.Conserved) {seat : Fin 4} {cards : List Card}
    (hvalid : b.validActionCandidate (b.bySeat seat) cards) :
    (b.recordPlay seat cards).Conserved := by
  have hkept := kept_recordPlay b seat cards
  simp only [kept, Prod.mk.injEq] at hkept
  obtain ⟨hhands, houted, hstarted, hcustom, hplayers, hseats, -⟩ := hkept
  have hdealt : (b.recordPlay seat cards).dealt = b.dealt := by rw [dealt, dealt, hcustom]
  refine ⟨?_, ?_, ?_, ?_⟩
  · rw [Seated, hplayers, hseats]
    exact h.seated
  · rw [hstarted, hdealt]
    exact h.length
  · rw [hstarted, hdealt, hhands, houted, List.flatten_append]
    intro hs
    have hhand := perm_of_holds (holds_of_valid hvalid)
    have hinsert :=
      Table.flatten_values_insert b.hands (b.bySeat seat) ((b.seatHand seat).diff cards)
    -- both sides hold what is left of the hand, and it cancels
    have hmoved :
      (Table.values (b.hands.insert (b.bySeat seat) ((b.seatHand seat).diff cards))).flatten
        ++ cards |>.Perm b.hands.values.flatten := by
      refine (List.perm_append_right_iff ((b.seatHand seat).diff cards)).mp ?_
      rw [List.append_assoc]
      exact ((hhand.symm.append_left _).trans hinsert).trans List.perm_append_comm
    refine List.Perm.trans ?_ (h.perm hs)
    rw [List.flatten_singleton]
    refine (List.Perm.append_left _ List.perm_append_comm).trans ?_
    rw [← List.append_assoc]
    exact hmoved.append_right _
  · intro _ hout
    simp [houted] at hout

theorem Dealt.length {bankerSeat : ℕ} {deck : List Card} (hd : Dealt b b' bankerSeat deck) :
    deck.length = 104 := by
  rw [hd.perm.length_eq]
  cases hc : b.customDeckForSubgame with
  | none => exact length_ordinaryDeck
  | some d => exact customDeck_length hc

theorem Dealt.conserved (h : b.Conserved) {bankerSeat : ℕ} {deck : List Card}
    (hd : Dealt b b' bankerSeat deck) : b'.Conserved := by
  have htable := hd.table
  simp only [Battle.table, Prod.mk.injEq] at htable
  obtain ⟨hhands, houted, hstarted, hcustom, -⟩ := htable
  have hperm := hd.perm
  rw [← hcustom, ← dealt] at hperm
  have hdealt : b'.dealt.length = 104 := hperm.length_eq.symm.trans hd.length
  have hvalues : b'.hands.values = _ :=
    (congrArg Table.values hhands).trans (values_dealDeck (bySeat_injective h.seated hd.four) ..)
  refine ⟨?_, fun _ => hdealt, fun _ => ?_, fun _ _ => ?_⟩
  · have hseats := hd.seats
    simp only [Prod.mk.injEq] at hseats
    rw [Seated, hseats.1, hseats.2.1]
    exact h.seated
  · rw [hvalues, houted, List.flatten_nil, List.append_nil]
    refine ((List.reverse_perm _).flatten).trans ?_
    rw [flatten_parts, List.take_of_length_le (by rw [hd.length])]
    exact hperm
  · rw [hvalues]
    simp [List.range_succ, part, hd.length]

theorem Rests.conserved (hr : Rests b b') (h : b.Conserved) : b'.Conserved := by
  have htable := hr.table
  simp only [Battle.table, Prod.mk.injEq] at htable
  exact h.congr (hr.seated h.seated) (by simp [htable])

theorem Moves.conserved (hm : Moves b b') (h : b.Conserved) : b'.Conserved := by
  obtain ⟨b₁, seat, cards, halike, -, -, hvalid, rfl⟩ := hm
  exact ((halike.toRests.conserved h).recordPlay hvalid).kept_eq (kept_move ..)

theorem conserved_handle (h : b.Conserved) (c : Command) : (b.handle c).Conserved := by
  obtain ⟨intn, swaps, rfl⟩ | hr | hm := b.handle_table c
  · obtain heq | ⟨-, heq⟩ | ⟨bankerSeat, deck, hd⟩ := b.start_cases intn swaps
    · rw [handle, heq]
      exact h
    · rw [handle, heq]
      exact ⟨h.seated, (by rintro ⟨⟩), (by rintro ⟨⟩), (by rintro ⟨⟩)⟩
    · exact hd.conserved h
  · exact hr.conserved h
  · exact hm.conserved h

end Battle

open Battle

/-- A step of a Battle that handles what it is sent. -/
theorem step_cases {b b' : Battle} {a : Action} (h : battles.step b a = some b') :
    b.panicked = false ∧ (b.phase = .stopping ∧ b' = b ∨
      b.phase ≠ .stopping ∧ b' = (b.receive a).handle a.command) := by
  simp only [battles] at h
  split_ifs at h with hpanicked hstopping
  · cases h
    exact ⟨Bool.eq_false_iff.mpr hpanicked, .inl ⟨hstopping, rfl⟩⟩
  · cases h
    exact ⟨Bool.eq_false_iff.mpr hpanicked, .inr ⟨hstopping, rfl⟩⟩

theorem conserved_of_reachable {b : Battle} (h : battles.Reachable b) : b.Conserved := by
  refine h.invariant ?_ ?_
  · rintro b ⟨isNewbie, hasAI, rfl⟩
    exact ⟨fun _ hne => absurd rfl hne, nofun, nofun, nofun⟩
  · intro b a b' hb _ hstep
    obtain ⟨-, ⟨-, rfl⟩ | ⟨-, rfl⟩⟩ := step_cases hstep
    · exact hb
    · have h1 : (b.receive a).Conserved := hb.congr hb.seated rfl
      exact conserved_handle h1 a.command

/-- What an accepted play does to the hands. -/
def TakesFromHand (b b' : Battle) (cards : List Card) : Prop :=
  ∃ seat : Fin 4, b.activeSeat = seat ∧
    (b.seatHand seat).Perm (cards ++ b'.hand (b.bySeat seat)) ∧
    ∀ player, player ≠ b.bySeat seat → b'.hand player = b.hand player

theorem takesFromHand_handle {b : Battle} {c : Command} {cards : List Card}
    (hout : (b.handle c).outedCards = b.outedCards ++ [cards]) :
    TakesFromHand b (b.handle c) cards := by
  obtain ⟨intn, swaps, rfl⟩ | hr | ⟨b₁, seat, cards', halike, -, hseat, hvalid, heq⟩ :=
    b.handle_table c
  · obtain heq | ⟨-, heq⟩ | ⟨bankerSeat, deck, hd⟩ := b.start_cases intn swaps
    · simp [handle, heq] at hout
    · simp [handle, heq] at hout
    · have htable := hd.table
      simp only [table, Prod.mk.injEq] at htable
      simp [handle, htable.2.1] at hout
  · have htable := hr.table
    simp only [table, Prod.mk.injEq] at htable
    simp [htable.2.1] at hout
  · have htable := halike.table
    simp only [table, Prod.mk.injEq] at htable
    have hhands := congrArg Prod.fst (b₁.kept_moved seat cards')
    simp only [Battle.kept] at hhands
    rw [heq] at hout ⊢
    obtain rfl : cards' = cards := by simpa [move_outedCards, htable.2.1] using hout
    have hhand : ∀ player, b₁.hand player = b.hand player := by
      intro player
      rw [Battle.hand, htable.1, Battle.hand]
    refine ⟨seat, ?_, ?_, fun player hne => ?_⟩
    · rw [← hseat, activeSeat_of_table halike.table]
    · rw [Battle.hand, hhands, ← halike.same_seats, AList.lookup_insert, Option.getD_some, seatHand,
        ← halike.same_seats, ← hhand]
      exact perm_of_holds (holds_of_valid hvalid)
    · rw [← halike.same_seats] at hne
      rw [Battle.hand, hhands, AList.lookup_insert_ne hne, ← hhand, Battle.hand]

/-- **Cards are conserved.** From the deal on, the hands and the accepted plays together are the
deck that was dealt, whichever Sends are refused; the four hands have 26 cards until the first play;
and a play takes its cards out of the hand of the active player and out of no other. -/
theorem cards_conserved {b : Battle} (h : battles.Reachable b) :
    (b.started → (b.hands.values.flatten ++ b.outedCards.flatten).Perm b.dealt ∧
      b.dealt.length = 104 ∧
      (b.outedCards = [] → b.hands.values.map List.length = [26, 26, 26, 26])) ∧
    ∀ a b' cards, battles.step b a = some b' → b'.outedCards = b.outedCards ++ [cards] →
      TakesFromHand b b' cards := by
  have hc := conserved_of_reachable h
  refine ⟨fun hs => ⟨hc.perm hs, hc.length hs, hc.hands hs⟩, fun a b' cards hstep hout => ?_⟩
  obtain ⟨-, ⟨-, rfl⟩ | ⟨-, rfl⟩⟩ := step_cases hstep
  · simp at hout
  · exact takesFromHand_handle hout

/-- What is known of a Battle in the seventh turn of the pairs. -/
structure PairsBegun (b : Battle) : Prop where
  reachable : battles.Reachable b
  phase_eq : b.phase = .playing
  live : b.panicked = false
  custom : b.custom = none
  sent : b.sendFailed = false
  timed : b.timerFailed = false
  auto : b.rules.timeoutAutoMove = true
  plays : b.accepted.length = 6
  turns : b.opened.length = 7 ∧ b.opportunities = 7 ∧ b.revisions = 7
  /-- the timer of the first turn, which has not come back -/
  first : (⟨1, 1, 1⟩, ⟨1, .timeout, []⟩) ∈ b.timers
  numbers : b.gameNum ≠ 0 ∧ b.subgameNum ≠ 0
  startedAt : b.actionStartedAt ≠ 0

theorem pairs_begun : ∃ b, PairsBegun b := by
  obtain ⟨b, h, hp⟩ := battles.exists_reachableUnder_of_run (fun _ _ => True)
    (s := { isNewbie := false }) (opening ++ pairGame.take 6)
    (fun b => decide (b.custom.isNone = true ∧ b.phase = .playing ∧ b.panicked = false ∧
      b.sendFailed = false ∧ b.timerFailed = false ∧ b.rules.timeoutAutoMove = true ∧
      b.accepted.length = 6 ∧ (b.opened.length = 7 ∧ b.opportunities = 7 ∧ b.revisions = 7) ∧
      (⟨1, 1, 1⟩, ⟨1, .timeout, []⟩) ∈ b.timers ∧ (b.gameNum ≠ 0 ∧ b.subgameNum ≠ 0) ∧
      b.actionStartedAt ≠ 0)) ⟨false, false, rfl⟩ (by decide +kernel)
  obtain ⟨hcustom, hphase, hlive, hsent, htimed, hauto, hplays, hturns, hfirst, hnumbers,
    hstarted⟩ := of_decide_eq_true hp
  exact ⟨b, h, hphase, hlive, Option.isNone_iff_eq_none.mp hcustom, hsent, htimed, hauto, hplays,
    hturns, hfirst, hnumbers, hstarted⟩

/-- The last trick was awarded right after a play. -/
def endsEarly : List Event → Bool
  | .awardedFinal .. :: .played .. :: _ => true
  | _ => false

/-- What is known of a Battle that has played the pairs to their end. -/
structure PairsPlayed (b : Battle) : Prop where
  reachable : battles.Reachable b
  phase_eq : b.phase = .awaitingSettlement
  started : b.started = true
  custom : b.custom = none
  sent : b.sendFailed = false
  ends : endsEarly b.log = true
  plays : b.outedCards.length = pairMoves.length
  distinct : ∀ s s', b.userID (b.bySeat s) = b.userID (b.bySeat s') → s = s'

theorem pairs_reachable : ∃ b, PairsPlayed b := by
  obtain ⟨b, h, hp⟩ := battles.exists_reachableUnder_of_run (fun _ _ => True)
    (s := { isNewbie := false }) (opening ++ pairGame)
    (fun b => decide (b.phase = .awaitingSettlement ∧ b.started = true ∧ b.custom.isNone = true ∧
      b.sendFailed = false ∧ endsEarly b.log = true ∧ b.outedCards.length = pairMoves.length ∧
      ∀ s s', b.userID (b.bySeat s) = b.userID (b.bySeat s') → s = s'))
    ⟨false, false, rfl⟩ (by decide +kernel)
  obtain ⟨hphase, hstarted, hcustom, hsent, hends, hplays, hdistinct⟩ := of_decide_eq_true hp
  exact ⟨b, h, hphase, hstarted, Option.isNone_iff_eq_none.mp hcustom, hsent, hends, hplays,
    hdistinct⟩

theorem cards_conserved_pairs : ∃ b, battles.Reachable b ∧ b.outedCards.length = 89 ∧
    (b.hands.values.flatten ++ b.outedCards.flatten).Perm b.dealt := by
  obtain ⟨b, h⟩ := pairs_reachable
  exact ⟨b, h.reachable, h.plays, ((cards_conserved h.reachable).1 h.started).1⟩

end GameServiceRuntime.Nhsk
