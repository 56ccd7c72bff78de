import GameServiceRuntime.Nhsk.Settlement

/-!
# Results do not depend on the numbers of the seats

`calculateSubgameResult` treats the seats differently: it takes a seat to have finished second
unless its neighbour has, and it only looks at one seat of the team that it takes to be first. That
is right for the ranks with which play ends, where every such guess is the only one left, and for
those the result turns with the seats.
-/

namespace GameServiceRuntime.Nhsk

open Battle

/-- What a seat has, the next seat gets. -/
def rotate {α : Type*} (f : Fin 4 → α) (seat : Fin 4) : α := f (seat - 1)

/-- The ranks with which play ends: two or three seats have finished in some order, both seats of a
team among them. -/
structure EndRanks (ranks : Fin 4 → ℕ) (order : List (Fin 4)) : Prop where
  nodup : order.Nodup
  length : order.length = 2 ∨ order.length = 3
  ranks : ∀ seat, ranks seat = if seat ∈ order then order.idxOf seat + 1 else 0
  team : ∃ seat, seat ∈ order ∧ partnerSeat seat ∈ order

variable {order : List (Fin 4)}

theorem endRanks_of_over {b : Battle} (h : b.Placed order) (hover : b.Over) :
    EndRanks b.ranks order := by
  obtain ⟨seat, ⟨hseat, hpartner⟩, -, other, -, -, hother, -⟩ := hover
  rw [h.finished] at hseat hpartner hother
  refine ⟨h.nodup, ?_, h.ranks, seat, hseat, hpartner⟩
  have hlow : ({seat, partnerSeat seat} : Finset (Fin 4)) ⊆ order.toFinset := by
    intro s hs
    simp only [Finset.mem_insert, Finset.mem_singleton] at hs
    obtain rfl | rfl := hs
    · exact List.mem_toFinset.mpr hseat
    · exact List.mem_toFinset.mpr hpartner
  have hhigh : order.toFinset ⊆ Finset.univ.erase other := by
    intro s hs
    refine Finset.mem_erase.mpr ⟨?_, Finset.mem_univ s⟩
    rintro rfl
    exact hother (List.mem_toFinset.mp hs)
  have h2 := Finset.card_le_card hlow
  have h3 := Finset.card_le_card hhigh
  rw [List.toFinset_card_of_nodup h.nodup,
    Finset.card_pair (Running.partnerSeat_ne seat).symm] at h2
  rw [List.toFinset_card_of_nodup h.nodup, Finset.card_erase_of_mem (Finset.mem_univ other),
    Finset.card_univ, Fintype.card_fin] at h3
  omega

/-! ### The tests of the result -/

/-- A team has finished first and second. -/
def sweeps (q : Fin 4 → UInt8) : Bool :=
  rankAt q 0 + rankAt q 2 = 3 ∨ rankAt q 1 + rankAt q 3 = 3

/-- The team that finished first has finished third too. -/
def straddles (q : Fin 4 → UInt8) : Bool :=
  rankAt q ((firstTeam q + 2) % 4) = 3 ∨ rankAt q (firstTeam q) = 3

/-- The seat that is taken to have finished second. -/
def secondSeat (q : Fin 4 → UInt8) : ℕ :=
  if rankAt q (firstTeam q + 1) = 2 then firstTeam q + 1 else (firstTeam q + 3) % 4

/-- The seat that is taken to have finished first. -/
def firstSeat (q : Fin 4 → UInt8) : ℕ :=
  if rankAt q (firstTeam q) = 1 then firstTeam q else (firstTeam q + 2) % 4

/-- What is left of `decideSubgame` once the tests of the ranks are made. -/
def decideBy (first second lead : ℕ) (sweeps straddles : Bool) (points : Fin 4 → UInt16) :
    SubgameResult × ℕ :=
  let other := (first + 1) % 2
  if sweeps then (.double, first)
  else if straddles then
    if pointAt points second = 200 then (.double, other)
    else if pointAt points first + pointAt points ((first + 2) % 4) = 200 then (.double, first)
    else if pointAt points second < 105 then (.single, first)
    else (.single, other)
  else
    if pointAt points lead = 200 then (.double, first)
    else if pointAt points (first + 1) + pointAt points ((first + 3) % 4) = 200 then
      (.double, other)
    else if pointAt points ((first + 2) % 4) + pointAt points first < 100 then (.single, other)
    else (.single, first)

theorem decideSubgame_eq (q : Fin 4 → UInt8) (points : Fin 4 → UInt16) : decideSubgame q points =
    decideBy (firstTeam q) (secondSeat q) (firstSeat q) (sweeps q) (straddles q) points := by
  simp only [decideSubgame, decideBy, secondSeat, firstSeat, sweeps, straddles, decide_eq_true_eq]
  congr

/-- The tests turn with the seats. A guess of a seat only has to turn where it is used. -/
structure Turns (q : Fin 4 → UInt8) : Prop where
  first : firstTeam (rotate q) = 1 - firstTeam q
  sweeps : sweeps (rotate q) = sweeps q
  straddles : straddles (rotate q) = straddles q
  second : Nhsk.sweeps q = false → Nhsk.straddles q = true →
    secondSeat (rotate q) = (secondSeat q + 1) % 4
  lead : Nhsk.sweeps q = false → Nhsk.straddles q = false →
    firstSeat (rotate q) = (firstSeat q + 1) % 4

instance (q : Fin 4 → UInt8) : Decidable (Turns q) :=
  decidable_of_iff (_ ∧ _ ∧ _ ∧ _ ∧ _)
    ⟨fun ⟨h1, h2, h3, h4, h5⟩ => ⟨h1, h2, h3, h4, h5⟩,
      fun ⟨h1, h2, h3, h4, h5⟩ => ⟨h1, h2, h3, h4, h5⟩⟩

/-- The ranks that the result is worked out from. -/
def endRank (order : List (Fin 4)) (seat : Fin 4) : UInt8 :=
  if seat ∈ order then UInt8.ofNat (order.idxOf seat + 1) else 4

theorem turns_two : ∀ a b : Fin 4, (∃ seat, seat ∈ [a, b] ∧ partnerSeat seat ∈ [a, b]) →
    Turns (endRank [a, b]) := by
  decide +kernel

theorem turns_three : ∀ a b c : Fin 4, [a, b, c].Nodup →
    (∃ seat, seat ∈ [a, b, c] ∧ partnerSeat seat ∈ [a, b, c]) → Turns (endRank [a, b, c]) := by
  decide +kernel

theorem turns_of_endRanks {ranks : Fin 4 → ℕ} (h : EndRanks ranks order) :
    Turns (endRank order) := by
  have hnodup := h.nodup
  have hteam := h.team
  obtain hlen | hlen := h.length
  · obtain ⟨a, b, rfl⟩ := List.length_eq_two.mp hlen
    exact turns_two a b hteam
  · obtain ⟨a, b, c, rfl⟩ := List.length_eq_three.mp hlen
    exact turns_three a b c hnodup hteam

/-! ### Turning the seats -/

theorem pointAt_rotate (points : Fin 4 → UInt16) (seat : ℕ) (h : seat < 4) :
    pointAt (rotate points) ((seat + 1) % 4) = pointAt points seat := by
  have hback : ∀ s : Fin 4, (⟨(s.val + 1) % 4, Nat.mod_lt _ (by decide)⟩ : Fin 4) - 1 = s := by
    decide
  rw [pointAt, pointAt, dif_pos (Nat.mod_lt _ (by decide)), dif_pos h, rotate]
  exact congrArg points (hback ⟨seat, h⟩)

theorem decideBy_rotate {first second lead : ℕ} (sweeps straddles : Bool) (points : Fin 4 → UInt16)
    (hfirst : first < 2) (hsecond : second < 4) (hlead : lead < 4) :
    decideBy (1 - first) ((second + 1) % 4) ((lead + 1) % 4) sweeps straddles (rotate points) =
      ((decideBy first second lead sweeps straddles points).1,
        1 - (decideBy first second lead sweeps straddles points).2) := by
  have h0 : pointAt (rotate points) 0 = pointAt points 3 := pointAt_rotate points 3 (by decide)
  have h1 : pointAt (rotate points) 1 = pointAt points 0 := pointAt_rotate points 0 (by decide)
  have h2 : pointAt (rotate points) 2 = pointAt points 1 := pointAt_rotate points 1 (by decide)
  have h3 : pointAt (rotate points) 3 = pointAt points 2 := pointAt_rotate points 2 (by decide)
  obtain rfl | rfl : first = 0 ∨ first = 1 := by omega
  · simp only [decideBy, pointAt_rotate points _ hsecond, pointAt_rotate points _ hlead, h0,
      h1, h2, h3]
    split_ifs <;> rfl
  · simp only [decideBy, pointAt_rotate points _ hsecond, pointAt_rotate points _ hlead, h0,
      h1, h2, h3]
    rw [UInt16.add_comm (pointAt points 3) (pointAt points 1),
      UInt16.add_comm (pointAt points 2) (pointAt points 0)]
    split_ifs <;> rfl

theorem decideSubgame_rotate {q : Fin 4 → UInt8} (h : Turns q) (points : Fin 4 → UInt16) :
    decideSubgame (rotate q) (rotate points) =
      ((decideSubgame q points).1, 1 - (decideSubgame q points).2) := by
  have hfirst : firstTeam q < 2 := by
    rw [firstTeam]
    split <;> decide
  have hsecond : secondSeat q < 4 := by
    rw [secondSeat]
    split <;> omega
  have hlead : firstSeat q < 4 := by
    rw [firstSeat]
    split <;> omega
  rw [decideSubgame_eq, decideSubgame_eq,
    ← decideBy_rotate _ _ points hfirst hsecond hlead, h.first, h.sweeps, h.straddles]
  cases hsweeps : sweeps q with
  | true => simp only [decideBy, if_true]
  | false =>
    cases hstraddles : straddles q with
    | true =>
      simp only [decideBy, h.second hsweeps hstraddles, Bool.false_eq_true, if_false, if_true]
    | false => simp only [decideBy, h.lead hsweeps hstraddles, Bool.false_eq_true, if_false]

theorem subgameMultiples_rotate : ∀ result ∈ [SubgameResult.single, .double], ∀ winner < 2,
    ∀ automated : Fin 4 → Bool,
    subgameMultiples (1 - winner) result.unit (rotate automated) =
      rotate (subgameMultiples winner result.unit automated) := by
  decide +kernel

/-- The ranks of a Battle, as the result reads them. -/
theorem endRank_eq {ranks : Fin 4 → ℕ} (h : EndRanks ranks order) :
    (fun seat => if UInt8.ofNat (ranks seat) = 0 then 4 else UInt8.ofNat (ranks seat)) =
    endRank order := by
  funext seat
  rw [h.ranks seat, endRank]
  split
  next hmem =>
    refine if_neg fun hzero => ?_
    have hlt := List.idxOf_lt_length_iff.mpr hmem
    have hlen := h.length
    have hval : (order.idxOf seat + 1) % 256 = 0 := congrArg UInt8.toNat hzero
    omega
  next => rfl

/-- **Results do not depend on the numbers of the seats.** When play has ended, the finished seats
have the ranks 1 to `k` in the order in which they finished, `k` is 2 or 3, a team has no cards and
a seat of the other team has. For such ranks the result turns with the seats. -/
theorem results_rotate :
    (∀ p : Battle × List (Fin 4), (battles.logged [] finishing).Reachable p →
      p.1.phase = .awaitingSettlement →
      EndRanks p.1.ranks p.2 ∧ (∀ seat, p.1.finished seat = true ↔ seat ∈ p.2) ∧
      ∃ seat, p.1.seatHand seat = [] ∧ p.1.seatHand (partnerSeat seat) = [] ∧
        ∃ other, other ≠ seat ∧ other ≠ partnerSeat seat ∧ p.1.seatHand other ≠ []) ∧
    ∀ (ranks : Fin 4 → ℕ) (order : List (Fin 4)), EndRanks ranks order →
      ∀ (points : Fin 4 → UInt16) (automated : Fin 4 → Bool),
      let seats := fun seat => UInt8.ofNat (ranks seat)
      let r := calculateSubgameResult .success seats points automated
      let r' := calculateSubgameResult .success (rotate seats) (rotate points) (rotate automated)
      r'.multiples = rotate r.multiples ∧ r'.outcomes = rotate r.outcomes ∧
        r'.winningTeam = 1 - r.winningTeam := by
  constructor
  · intro p h hphase
    obtain ⟨hreachable, hplaced⟩ := placed_of_reachable h
    have hover := (standing_of_reachable hreachable).ended hphase
    obtain ⟨seat, -, hhands, other, hne, hne', -, hcards⟩ := id hover
    exact ⟨endRanks_of_over hplaced hover, hplaced.finished, seat, hhands.1, hhands.2, other, hne,
      hne', hcards⟩
  · intro ranks order h points automated
    have hrank := endRank_eq h
    have hrotated : (fun seat => if rotate (fun s => UInt8.ofNat (ranks s)) seat = 0 then 4
        else rotate (fun s => UInt8.ofNat (ranks s)) seat) = rotate (endRank order) := by
      rw [← hrank]
      rfl
    obtain ⟨hresult, hwinner⟩ := decideSubgame_cases (endRank order) points
    have hmem : (decideSubgame (endRank order) points).1 ∈ [SubgameResult.single, .double] := by
      generalize (decideSubgame (endRank order) points).1 = result at hresult
      cases result <;> simp at hresult ⊢
    have hmultiples := subgameMultiples_rotate _ hmem _ hwinner automated
    simp only [calculateSubgameResult, ne_eq, not_true, if_false, hrank, hrotated,
      decideSubgame_rotate (turns_of_endRanks h), hmultiples, true_and, and_true]
    rfl

theorem results_rotate_pairs : ∃ p : Battle × List (Fin 4),
    (battles.logged [] finishing).Reachable p ∧ p.1.phase = .awaitingSettlement ∧
      EndRanks p.1.ranks p.2 := by
  obtain ⟨b, h⟩ := pairs_reachable
  obtain ⟨order, horder⟩ := System.exists_logged [] finishing h.reachable
  exact ⟨(b, order), horder, h.phase_eq, (results_rotate.1 (b, order) horder h.phase_eq).1⟩

end GameServiceRuntime.Nhsk
