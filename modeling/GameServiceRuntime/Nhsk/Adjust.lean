import GameServiceRuntime.Nhsk.Cards

/-!
# The adjustment of a deal

`swapSingleCards` and `adjustNewbieCards` as they are written, for any number of players, any size
of the hands and any deck: the deck need not have room for all the hands, and then the functions
return where they find that out, in the middle of their loops. An index out of range is a panic, and
`none` here. Products are taken to be in the range of an `int`.

The `while` loop of `swapSingleCards` has no bound. It is a function here because every exchange
leaves its seat with fewer single cards, whatever it does to the other hand.
-/

namespace GameServiceRuntime.Nhsk

theorem length_singleCards (hand : List Card) :
    (singleCards hand).length = (singleValues hand).card := by
  have hsome : ∀ value ∈ List.range' 1 13, (if valueCount hand value = 1 then
      hand.find? fun card => cardValue card = value else none).isSome =
        decide (valueCount hand value = 1) := by
    intro value _
    split
    case isTrue h =>
      have hpos : 0 < valueCount hand value := by omega
      obtain ⟨card, hmem, hcard⟩ := List.countP_pos_iff.mp hpos
      simpa [h] using ⟨card, hmem, of_decide_eq_true hcard⟩
    case isFalse h => simp [h]
  have hcount : (singleCards hand).length =
      ((List.range' 1 13).filter fun value => valueCount hand value = 1).length := by
    rw [singleCards, List.length_filterMap_eq_countP, List.countP_eq_length_filter]
    exact congrArg List.length (List.filter_congr hsome)
  rw [hcount, ← List.toFinset_card_of_nodup ((List.nodup_range' ..).filter _)]
  congr 1
  ext value
  simp only [List.mem_toFinset, List.mem_filter, List.mem_range'_1, decide_eq_true_eq, singleValues,
    Finset.mem_filter, Finset.mem_Icc]
  omega

namespace Adjust

/-- `cards[start:stop]` -/
def slice (cards : List Card) (start stop : ℕ) : Option (List Card) :=
  if start ≤ stop ∧ stop ≤ cards.length then some ((cards.drop start).take (stop - start)) else none

/-- `cards[i], cards[j] = cards[j], cards[i]` -/
def exchange (cards : List Card) (i j : ℕ) : Option (List Card) := do
  let a ← cards[i]?
  let b ← cards[j]?
  some ((cards.set i b).set j a)

def findCardIndex (cards : List Card) (card : Card) : Option ℕ :=
  if card ∈ cards then some (cards.idxOf card) else none

/-- What the loops look for: the position of a single card in the hand and that of the card it is
exchanged for. Or they find a seat that is not in the deck, and the function returns. -/
inductive Found
  | swap (i j : ℕ)
  | leave
  | nothing
  deriving DecidableEq

/-- The loop over the cards of another seat. -/
def scanCards (cards hand : List Card) (single : Card) : List ℕ → Option Found
  | [] => some .nothing
  | index :: rest => do
    let candidate ← cards[index]?
    if cardValue candidate = cardValue single ∨ valueCount hand (cardValue candidate) = 0 then
      scanCards cards hand single rest
    else match findCardIndex hand single with
      | some i => some (.swap i index)
      | none => scanCards cards hand single rest

/-- The loop over the other seats. -/
def scanSeats (size seat : ℕ) (cards hand : List Card) (single : Card) : List ℕ → Option Found
  | [] => some .nothing
  | other :: rest =>
    if other = seat then scanSeats size seat cards hand single rest
    else if cards.length < other * size + size then some .leave
    else match scanCards cards hand single (List.range' (other * size) size) with
      | some .nothing => scanSeats size seat cards hand single rest
      | found => found

/-- The loop over the single cards. -/
def scanSingles (players size seat : ℕ) (cards hand : List Card) : List Card → Option Found
  | [] => some .nothing
  | single :: rest =>
    match scanSeats size seat cards hand single (List.range players) with
    | some .nothing => scanSingles players size seat cards hand rest
    | found => found

/-! ### What the loops find -/

section Found

variable {players size seat : ℕ} {cards hand : List Card} {single : Card}

/-- The exchange of a single card of the hand at `start` for a card from elsewhere whose value the
hand has already. -/
structure Useful (start size : ℕ) (cards hand : List Card) (i j : ℕ) : Prop where
  single : ∃ single ∈ singleCards hand, hand.idxOf single = i ∧ ∃ card, cards[j]? = some card ∧
    cardValue card ≠ cardValue single ∧ 0 < valueCount hand (cardValue card)
  elsewhere : j < start ∨ start + size ≤ j

theorem scanCards_spec (seat size : ℕ) (cards : List Card) (indices : List ℕ)
    (hsingle : single ∈ singleCards hand)
    (hin : ∀ index ∈ indices, index < cards.length)
    (helse : ∀ index ∈ indices, index < seat * size ∨ seat * size + size ≤ index) :
    ∃ found, scanCards cards hand single indices = some found ∧
      ∀ i j, found = .swap i j → Useful (seat * size) size cards hand i j := by
  induction indices with
  | nil => exact ⟨.nothing, rfl, nofun⟩
  | cons index rest ih =>
    obtain ⟨hindex, hin⟩ := List.forall_mem_cons.mp hin
    obtain ⟨hout, helse⟩ := List.forall_mem_cons.mp helse
    have hcard := List.getElem?_eq_getElem hindex
    rw [scanCards, hcard]
    simp only [Option.bind_eq_bind, Option.bind_some]
    split
    · exact ih hin helse
    case isFalse hcond =>
      obtain ⟨hne, hcount⟩ := not_or.mp hcond
      split
      case h_1 i hi =>
        obtain ⟨-, hidx⟩ := Option.ite_none_right_eq_some.mp hi
        refine ⟨_, rfl, ?_⟩
        rintro i' j' ⟨⟩
        exact ⟨⟨single, hsingle, Option.some.inj hidx, _, hcard, hne, Nat.pos_of_ne_zero hcount⟩,
          hout⟩
      case h_2 => exact ih hin helse

theorem scanSeats_spec (seats : List ℕ) (hsingle : single ∈ singleCards hand) :
    ∃ found, scanSeats size seat cards hand single seats = some found ∧
      ∀ i j, found = .swap i j → Useful (seat * size) size cards hand i j := by
  induction seats with
  | nil => exact ⟨.nothing, rfl, nofun⟩
  | cons other rest ih =>
    rw [scanSeats]
    split
    · exact ih
    case isFalse hother =>
      split
      · exact ⟨.leave, rfl, nofun⟩
      case isFalse hfits =>
        -- the hands of two seats do not overlap
        have hapart : other * size + size ≤ seat * size ∨ seat * size + size ≤ other * size := by
          rw [← Nat.succ_mul, ← Nat.succ_mul]
          rcases Nat.lt_or_gt_of_ne hother with h | h
          · exact .inl (Nat.mul_le_mul_right size h)
          · exact .inr (Nat.mul_le_mul_right size h)
        obtain ⟨found, hfound, hswap⟩ := scanCards_spec seat size cards
          (List.range' (other * size) size) hsingle
          (fun index h => by rw [List.mem_range'_1] at h; omega)
          (fun index h => by rw [List.mem_range'_1] at h; omega)
        rw [hfound]
        cases found with
        | nothing => exact ih
        | leave => exact ⟨_, rfl, nofun⟩
        | swap i j => exact ⟨_, rfl, hswap⟩

theorem scanSingles_spec (players size seat : ℕ) (cards : List Card) {singles : List Card}
    (h : ∀ single ∈ singles, single ∈ singleCards hand) :
    ∃ found, scanSingles players size seat cards hand singles = some found ∧
      ∀ i j, found = .swap i j → Useful (seat * size) size cards hand i j := by
  induction singles with
  | nil => exact ⟨.nothing, rfl, nofun⟩
  | cons single rest ih =>
    obtain ⟨hsingle, hrest⟩ := List.forall_mem_cons.mp h
    obtain ⟨found, hfound, hswap⟩ := scanSeats_spec (List.range players) hsingle
    rw [scanSingles, hfound]
    cases found with
    | nothing => exact ih hrest
    | leave => exact ⟨_, rfl, nofun⟩
    | swap i j => exact ⟨_, rfl, hswap⟩

/-- The exchange is one of `swapAt`, and the hand gets the other card. -/
theorem Useful.exchange_eq {start i j : ℕ} (h : Useful start size cards hand i j)
    (hhand : slice cards start (start + size) = some hand) :
    exchange cards (start + i) j = some (swapAt cards (start + i) j) ∧
      ∃ hand', slice (swapAt cards (start + i) j) start (start + size) = some hand' ∧
        (singleCards hand').length < (singleCards hand).length := by
  obtain ⟨⟨single, hsingle, hi, card, hcard, hne, hcount⟩, helse⟩ := h
  obtain ⟨hfits, heq⟩ := Option.ite_none_right_eq_some.mp hhand
  obtain rfl := Option.some.inj heq
  rw [Nat.add_sub_cancel_left] at *
  have hlt := List.idxOf_lt_length_iff.mpr (mem_singleCards hsingle).1
  have hat := List.getElem?_eq_some_iff.mpr ⟨hlt, List.getElem_idxOf hlt⟩
  rw [hi] at hat
  have hdeck := hat
  rw [List.getElem?_take, List.getElem?_drop, Option.ite_none_right_eq_some] at hdeck
  refine ⟨?_, ((swapAt cards (start + i) j).drop start).take size, ?_, ?_⟩
  · rw [exchange, swapAt, hdeck.2, hcard]
    rfl
  · rw [slice, if_pos ⟨hfits.1, hfits.2.trans_eq (swapAt_perm ..).length_eq.symm⟩,
      Nat.add_sub_cancel_left]
  · rw [take_drop_swapAt hat hcard helse, length_singleCards, length_singleCards, ← hi]
    exact singleValues_set_lt hsingle hne hcount

theorem exchange_eq_swapAt {i j : ℕ} {swapped : List Card} (h : exchange cards i j = some swapped) :
    swapped = swapAt cards i j ∧ swapped.Perm cards := by
  have heq : swapped = swapAt cards i j := by
    simp only [exchange, Option.bind_eq_bind, Option.bind_eq_some_iff] at h
    obtain ⟨a, ha, b, hb, ⟨⟩⟩ := h
    rw [swapAt, ha, hb]
  exact ⟨heq, heq ▸ swapAt_perm ..⟩

/-- What an exchange of the loop does to the hand it works on. -/
theorem singleCards_exchange_lt {i j : ℕ}
    (hhand : slice cards (seat * size) (seat * size + size) = some hand)
    (hfound : scanSingles players size seat cards hand (singleCards hand) = some (.swap i j)) :
    ∃ swapped hand', exchange cards (seat * size + i) j = some swapped ∧
      slice swapped (seat * size) (seat * size + size) = some hand' ∧
        (singleCards hand').length < (singleCards hand).length := by
  obtain ⟨found, hfound', huseful⟩ := scanSingles_spec players size seat cards
    fun _ (h : _ ∈ singleCards hand) => h
  obtain rfl := Option.some.inj (hfound'.symm.trans hfound)
  obtain ⟨hex, hand', hhand', hlt⟩ := (huseful i j rfl).exchange_eq hhand
  exact ⟨_, hand', hex, hhand', hlt⟩

end Found

/-! ### The functions -/

/-- The number of single cards of a seat, which the loop decreases. -/
def singleCount (size seat : ℕ) (cards : List Card) : ℕ :=
  (slice cards (seat * size) (seat * size + size)).elim 0 fun hand => (singleCards hand).length

/-- The `while` loop for a seat. The flag says that the function returns from inside it. -/
def swapLoop (players size limit seat : ℕ) (cards : List Card) : Option (List Card × Bool) :=
  match _hhand : slice cards (seat * size) (seat * size + size) with
  | none => none
  | some hand =>
    if limit < (singleCards hand).length then
      match _hfound : scanSingles players size seat cards hand (singleCards hand) with
      | none => none
      | some .leave => some (cards, true)
      | some .nothing => some (cards, false)
      | some (.swap i j) =>
        match _hswap : exchange cards (seat * size + i) j with
        | none => none
        | some swapped => swapLoop players size limit seat swapped
    else some (cards, false)
termination_by singleCount size seat cards
decreasing_by
  obtain ⟨_, hand', hswap', hhand', hlt⟩ := singleCards_exchange_lt _hhand _hfound
  obtain rfl := Option.some.inj (hswap'.symm.trans _hswap)
  rwa [singleCount, singleCount, _hhand, hhand']

/-- The loop over the seats. -/
def swapSeats (players size limit : ℕ) : List ℕ → List Card → Option (List Card)
  | [], cards => some cards
  | seat :: rest, cards =>
    if cards.length < seat * size + size then some cards
    else match swapLoop players size limit seat cards with
      | none => none
      | some (swapped, true) => some swapped
      | some (swapped, false) => swapSeats players size limit rest swapped

def swapSingleCards (cards : List Card) (playerNum handCardCount singleCountToSwap : ℤ) :
    Option (List Card) :=
  if playerNum ≤ 1 ∨ handCardCount ≤ 0 ∨ singleCountToSwap ≤ 0 then some cards
  else swapSeats playerNum.toNat handCardCount.toNat singleCountToSwap.toNat
    (List.range playerNum.toNat) cards

def adjustNewbieCards (cards : List Card) (playerNum handCardCount newPlayerSeat : ℤ) :
    Option (List Card) :=
  if playerNum ≤ 0 ∨ handCardCount ≤ 0 ∨ newPlayerSeat < 0 ∨ playerNum ≤ newPlayerSeat then
    some cards
  else if cards.length < newPlayerSeat * handCardCount + handCardCount then some cards
  else do
    let start := newPlayerSeat.toNat * handCardCount.toNat
    let stop := start + handCardCount.toNat
    let before ← slice cards start stop
    let swapped ← swapSingleCards cards playerNum handCardCount 3
    let after ← slice swapped start stop
    if (singleCards before).length < (singleCards after).length then
      swapSingleCards swapped playerNum handCardCount 4
    else some swapped

theorem slice_isSome {cards : List Card} {start stop : ℕ} (h : start ≤ stop)
    (hstop : stop ≤ cards.length) : ∃ hand, slice cards start stop = some hand :=
  ⟨_, if_pos ⟨h, hstop⟩⟩

theorem swapLoop_perm (players size limit seat : ℕ) (cards : List Card)
    (hfits : seat * size + size ≤ cards.length) :
    ∃ swapped leave, swapLoop players size limit seat cards = some (swapped, leave) ∧
      swapped.Perm cards := by
  fun_induction swapLoop players size limit seat cards with
  | case1 cards h =>
    obtain ⟨hand, hhand⟩ := slice_isSome (Nat.le_add_right (seat * size) size) hfits
    cases h.symm.trans hhand
  | case2 cards hand hhand' hlimit hfound =>
    obtain ⟨found, hfound', -⟩ := scanSingles_spec players size seat cards
      fun _ (h : _ ∈ singleCards hand) => h
    cases hfound.symm.trans hfound'
  | case3 cards => exact ⟨_, _, rfl, .refl _⟩
  | case4 cards => exact ⟨_, _, rfl, .refl _⟩
  | case5 cards hand hhand' hlimit i j hfound hswap =>
    obtain ⟨_, _, hswap', -⟩ := singleCards_exchange_lt hhand' hfound
    cases hswap.symm.trans hswap'
  | case6 cards hand hhand' hlimit i j hfound swapped hswap ih =>
    obtain ⟨-, hperm⟩ := exchange_eq_swapAt hswap
    obtain ⟨result, leave, hloop, hresult⟩ := ih (hfits.trans_eq hperm.length_eq.symm)
    exact ⟨result, leave, hloop, hresult.trans hperm⟩
  | case7 cards => exact ⟨_, _, rfl, .refl _⟩

theorem swapSeats_perm (players size limit : ℕ) (seats : List ℕ) (cards : List Card) :
    ∃ swapped, swapSeats players size limit seats cards = some swapped ∧ swapped.Perm cards := by
  induction seats generalizing cards with
  | nil => exact ⟨cards, rfl, .refl _⟩
  | cons seat rest ih =>
    rw [swapSeats]
    split
    · exact ⟨cards, rfl, .refl _⟩
    case isFalse hfits =>
      obtain ⟨swapped, leave, hloop, hperm⟩ :=
        swapLoop_perm players size limit seat cards (Nat.le_of_not_lt hfits)
      rw [hloop]
      cases leave with
      | true => exact ⟨swapped, rfl, hperm⟩
      | false =>
        obtain ⟨result, hrest, hresult⟩ := ih swapped
        exact ⟨result, hrest, hresult.trans hperm⟩

theorem swapSingleCards_perm (cards : List Card) (playerNum handCardCount singleCountToSwap : ℤ) :
    ∃ swapped, swapSingleCards cards playerNum handCardCount singleCountToSwap = some swapped ∧
      swapped.Perm cards := by
  rw [swapSingleCards]
  split
  · exact ⟨cards, rfl, .refl _⟩
  · exact swapSeats_perm ..

theorem adjustNewbieCards_perm (cards : List Card) (playerNum handCardCount newPlayerSeat : ℤ) :
    ∃ swapped, adjustNewbieCards cards playerNum handCardCount newPlayerSeat = some swapped ∧
      swapped.Perm cards := by
  rw [adjustNewbieCards]
  split
  · exact ⟨cards, rfl, .refl _⟩
  case isFalse hguard =>
    split
    · exact ⟨cards, rfl, .refl _⟩
    case isFalse hfits =>
      have hstop :
        newPlayerSeat.toNat * handCardCount.toNat + handCardCount.toNat ≤ cards.length := by
        obtain ⟨seat, rfl⟩ := Int.eq_ofNat_of_zero_le (by omega : 0 ≤ newPlayerSeat)
        obtain ⟨size, rfl⟩ := Int.eq_ofNat_of_zero_le (by omega : 0 ≤ handCardCount)
        exact Nat.le_of_not_lt (mod_cast hfits)
      have hstart :=
        Nat.le_add_right (newPlayerSeat.toNat * handCardCount.toNat) handCardCount.toNat
      obtain ⟨before, hbefore⟩ := slice_isSome hstart hstop
      obtain ⟨swapped, hswapped, hperm⟩ := swapSingleCards_perm cards playerNum handCardCount 3
      obtain ⟨after, hafter⟩ := slice_isSome hstart (hstop.trans_eq hperm.length_eq.symm)
      simp only [hbefore, hswapped, hafter, Option.bind_eq_bind, Option.bind_some]
      split
      · obtain ⟨again, hagain, hperm'⟩ := swapSingleCards_perm swapped playerNum handCardCount 4
        exact ⟨again, hagain, hperm'.trans hperm⟩
      · exact ⟨swapped, rfl, hperm⟩

/-- The adjustment of a deal ends without a panic and only exchanges cards, and every exchange
leaves the seat that asked for it with fewer single cards. -/
theorem deal_adjustment (cards : List Card) (playerNum handCardCount : ℤ) :
    (∀ singleCountToSwap, ∃ swapped,
      swapSingleCards cards playerNum handCardCount singleCountToSwap = some swapped ∧
        swapped.Perm cards) ∧
    (∀ newPlayerSeat, ∃ swapped,
      adjustNewbieCards cards playerNum handCardCount newPlayerSeat = some swapped ∧
        swapped.Perm cards) ∧
    ∀ (players size seat : ℕ) (deck hand : List Card) (i j : ℕ),
      slice deck (seat * size) (seat * size + size) = some hand →
      scanSingles players size seat deck hand (singleCards hand) = some (.swap i j) →
      ∃ swapped hand', exchange deck (seat * size + i) j = some swapped ∧
        slice swapped (seat * size) (seat * size + size) = some hand' ∧
          (singleCards hand').length < (singleCards hand).length := by
  refine ⟨swapSingleCards_perm cards playerNum handCardCount,
    adjustNewbieCards_perm cards playerNum handCardCount, ?_⟩
  intro players size seat deck hand i j hhand hfound
  exact singleCards_exchange_lt hhand hfound

/-- Two seats with three cards each: the seven of the first seat goes for an eight. -/
theorem deal_adjustment_eights :
    ∃ swapped hand', exchange [7, 8, 9, 24, 10, 11] (0 * 3 + 0) 3 = some swapped ∧
      slice swapped (0 * 3) (0 * 3 + 3) = some hand' ∧
        (singleCards hand').length < (singleCards [7, 8, 9]).length :=
  (deal_adjustment [7, 8, 9, 24, 10, 11] 2 3).2.2 2 3 0 _ [7, 8, 9] 0 3 (by decide) (by decide)

/-! ### Four hands of 26 cards -/

section Ordinary

variable {seat : ℕ} {cards hand : List Card} {single : Card}

/-- What the loops find and what `findSwap` finds, for a hand at `start`. -/
inductive Agrees (start : ℕ) : Found → Option (ℕ × ℕ) → Prop
  | nothing : Agrees start .nothing none
  | swap (i j : ℕ) : Agrees start (.swap i j) (some (start + i, j))

theorem scanCards_agrees (start : ℕ) (cards : List Card) (indices : List ℕ)
    (hsingle : single ∈ hand) (hin : ∀ index ∈ indices, index < cards.length) :
    ∃ found, scanCards cards hand single indices = some found ∧ Agrees start found
      ((indices.find? fun index => (cards[index]?).any fun candidate =>
        cardValue candidate ≠ cardValue single ∧ 0 < valueCount hand (cardValue candidate)).map
          fun index => (start + hand.idxOf single, index)) := by
  induction indices with
  | nil => exact ⟨_, rfl, .nothing⟩
  | cons index rest ih =>
    obtain ⟨hindex, hin⟩ := List.forall_mem_cons.mp hin
    rw [scanCards, List.find?_cons, List.getElem?_eq_getElem hindex]
    simp only [Option.bind_eq_bind, Option.bind_some, Option.any_some, findCardIndex,
      if_pos hsingle]
    by_cases h : cardValue cards[index] ≠ cardValue single ∧
        0 < valueCount hand (cardValue cards[index])
    · rw [decide_eq_true h, if_neg (by omega)]
      exact ⟨_, rfl, .swap ..⟩
    · rw [decide_eq_false h, if_pos (by omega)]
      exact ih hin

theorem scanSeats_agrees (seat : ℕ) (seats : List ℕ) (hsingle : single ∈ hand)
    (hlen : cards.length = 104) (hseats : ∀ other ∈ seats, other < 4) :
    ∃ found, scanSeats 26 seat cards hand single seats = some found ∧ Agrees (seat * 26) found
      ((seats.filter (· ≠ seat)).findSome? fun other =>
        ((List.range' (other * 26) 26).find? fun index => (cards[index]?).any fun candidate =>
          cardValue candidate ≠ cardValue single ∧ 0 < valueCount hand (cardValue candidate)).map
            fun index => (seat * 26 + hand.idxOf single, index)) := by
  induction seats with
  | nil => exact ⟨_, rfl, .nothing⟩
  | cons other rest ih =>
    obtain ⟨hother, hrest⟩ := List.forall_mem_cons.mp hseats
    rw [scanSeats]
    by_cases h : other = seat
    · rw [if_pos h, List.filter_cons_of_neg (by simp [h])]
      exact ih hrest
    · rw [if_neg h, if_neg (by omega), List.filter_cons_of_pos (by simpa using h),
        List.findSome?_cons]
      obtain ⟨found, hfound, hagrees⟩ := scanCards_agrees (seat * 26) cards
        (List.range' (other * 26) 26) hsingle
        (fun index hi => by rw [List.mem_range'_1] at hi; omega)
      rw [hfound]
      generalize Option.map _ _ = target at hagrees
      cases hagrees with
      | nothing => exact ih hrest
      | swap i j => exact ⟨_, rfl, .swap i j⟩

theorem scanSingles_agrees (seat : ℕ) (hlen : cards.length = 104) :
    ∃ found, scanSingles 4 26 seat cards (part cards seat)
      (singleCards (part cards seat)) = some found ∧
      Agrees (seat * 26) found (findSwap cards seat) := by
  rw [findSwap]
  have hsingles : ∀ single ∈ singleCards (part cards seat), single ∈ part cards seat :=
    fun _ h => (mem_singleCards h).1
  generalize singleCards (part cards seat) = singles at hsingles
  induction singles with
  | nil => exact ⟨_, rfl, .nothing⟩
  | cons single rest ih =>
    obtain ⟨hsingle, hrest⟩ := List.forall_mem_cons.mp hsingles
    obtain ⟨found, hfound, hagrees⟩ := scanSeats_agrees seat (List.range 4) hsingle
      hlen fun _ => List.mem_range.mp
    rw [scanSingles, hfound, List.findSome?_cons]
    generalize List.findSome? _ _ = target at hagrees
    cases hagrees with
    | nothing => exact ih hrest
    | swap i j => exact ⟨_, rfl, .swap i j⟩

theorem swapSeat_agrees {limit : ℕ} {found : Found} :
    Agrees (seat * 26) found (findSwap cards seat) →
    limit < (singleCards (part cards seat)).length →
    swapSeat limit seat cards = match found with
      | .swap i j => swapSeat limit seat (swapAt cards (seat * 26 + i) j)
      | _ => cards := by
  intro h hlimit
  rw [swapSeat, if_pos hlimit]
  split
  case h_1 swap hswap =>
    rw [hswap] at h
    cases h
    rfl
  case h_2 hnone =>
    rw [hnone] at h
    cases h
    rfl

theorem swapLoop_ordinary (limit : ℕ) (hseat : seat < 4) (hlen : cards.length = 104) :
    swapLoop 4 26 limit seat cards = some (swapSeat limit seat cards, false) := by
  have hslice {cards : List Card} (hlen : cards.length = 104) :
      slice cards (seat * 26) (seat * 26 + 26) = some (part cards seat) := by
    rw [slice, if_pos (by omega), Nat.add_sub_cancel_left, part]
  fun_induction swapLoop 4 26 limit seat cards with
  | case1 cards h => cases h.symm.trans (hslice hlen)
  | case2 cards hand h hlimit hscan =>
    obtain rfl := Option.some.inj (h.symm.trans (hslice hlen))
    obtain ⟨found, hfound, -⟩ := scanSingles_agrees seat hlen
    cases hscan.symm.trans hfound
  | case3 cards hand h hlimit hscan =>
    obtain rfl := Option.some.inj (h.symm.trans (hslice hlen))
    obtain ⟨found, hfound, hagrees⟩ := scanSingles_agrees seat hlen
    cases hscan.symm.trans hfound
    cases hagrees
  | case4 cards hand h hlimit hscan =>
    obtain rfl := Option.some.inj (h.symm.trans (hslice hlen))
    obtain ⟨found, hfound, hagrees⟩ := scanSingles_agrees seat hlen
    cases hscan.symm.trans hfound
    rw [swapSeat_agrees hagrees hlimit]
  | case5 cards hand h hlimit i j hscan hswap =>
    obtain ⟨_, -, hswap', -⟩ := singleCards_exchange_lt h hscan
    cases hswap.symm.trans hswap'
  | case6 cards hand h hlimit i j hscan swapped hswap ih =>
    obtain ⟨hex, hperm⟩ := exchange_eq_swapAt hswap
    obtain rfl := Option.some.inj (h.symm.trans (hslice hlen))
    obtain ⟨found, hfound, hagrees⟩ := scanSingles_agrees seat hlen
    cases hscan.symm.trans hfound
    rw [swapSeat_agrees hagrees hlimit]
    simpa only [hex] using ih (hperm.length_eq.trans hlen)
  | case7 cards hand h hlimit =>
    obtain rfl := Option.some.inj (h.symm.trans (hslice hlen))
    rw [swapSeat, if_neg hlimit]

theorem swapSeats_ordinary (limit : ℕ) {seats : List ℕ} (hseats : ∀ seat ∈ seats, seat < 4)
    (hlen : cards.length = 104) : swapSeats 4 26 limit seats cards =
      some (seats.foldl (fun cards seat => swapSeat limit seat cards) cards) := by
  induction seats generalizing cards with
  | nil => rfl
  | cons seat rest ih =>
    obtain ⟨hseat, hrest⟩ := List.forall_mem_cons.mp hseats
    rw [swapSeats, if_neg (by omega), swapLoop_ordinary limit hseat hlen]
    exact ih hrest ((swapSeat_perm ..).length_eq.trans hlen)

/-- For two decks and four players this is the adjustment of a Battle. -/
theorem swapSingleCards_ordinary (hlen : cards.length = 104) (singleCountToSwap : ℤ) :
    swapSingleCards cards 4 26 singleCountToSwap =
      some (Nhsk.swapSingleCards cards singleCountToSwap) := by
  rw [swapSingleCards, Nhsk.swapSingleCards]
  by_cases h : singleCountToSwap ≤ 0
  · rw [if_pos (.inr (.inr h)), if_pos h]
  · rw [if_neg (by omega), if_neg h]
    exact swapSeats_ordinary _ (fun _ => List.mem_range.mp) hlen

/-- Three cards of the first hand are exchanged with three of the second. -/
def mixedDeck : List Card := swapAt (swapAt (swapAt ordinaryDeck 0 29) 1 30) 2 31

/-- The first seat has three single cards then, and gives one of them away. -/
theorem swapSingleCards_ordinary_mixed : swapSeat 2 0 mixedDeck = swapAt mixedDeck 13 27 ∧
    swapAt mixedDeck 13 27 ≠ mixedDeck ∧
    swapSingleCards mixedDeck 4 26 2 = some (Nhsk.swapSingleCards mixedDeck 2) := by
  refine ⟨?_, by decide +kernel, swapSingleCards_ordinary (by decide +kernel) 2⟩
  have hfound : findSwap mixedDeck 0 = some (13, 27) := by decide +kernel
  rw [swapSeat, if_pos (by decide +kernel)]
  split
  case h_1 swap hswap =>
    obtain rfl := Option.some.inj (hswap.symm.trans hfound)
    rw [swapSeat, if_neg (by decide +kernel)]
  case h_2 hnone => cases hnone.symm.trans hfound

end Ordinary

end Adjust

end GameServiceRuntime.Nhsk
