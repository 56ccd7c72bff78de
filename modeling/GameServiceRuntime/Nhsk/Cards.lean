import Mathlib.Algebra.GroupWithZero.Nat
import Mathlib.Order.Interval.Finset.Nat

/-!
# Cards and the deal

A card is a byte: the low four bits are its value and the high four its suit. Two decks of 52 cards
are shuffled, adjusted and cut into four hands of 26. The adjustment exchanges cards between the
parts of the deck so that fewer values occur only once in a hand; every exchange takes one such
value away, which is why the loop ends.
-/

namespace GameServiceRuntime.Nhsk

/-- A card, as the byte the wire carries. -/
abbrev Card := ℕ

def cardValue (card : Card) : ℕ := card % 16

/-! ### Patterns -/

/-- `cardPatternKind` -/
inductive PatternKind
  | single
  | pair
  | triple
  | threeTwo
  | bomb
  deriving DecidableEq

/-- `cardPattern` -/
structure Pattern where
  kind : PatternKind
  rank : ℕ
  count : ℕ
  deriving DecidableEq

/-- `counts[value]` -/
def valueCount (cards : List Card) (value : ℕ) : ℕ :=
  cards.countP fun card => cardValue card = value

/-- `classifyCards`. The values are looked at from the ace up, and the last triple and the last pair
seen are kept. -/
def classifyCards (cards : List Card) : Option Pattern :=
  if cards.all fun card => 1 ≤ cardValue card && cardValue card ≤ 13 then
    let values := (List.range' 1 13).filter fun value => 0 < valueCount cards value
    let tripleValue := (values.filter fun value => valueCount cards value = 3).getLast?
    let pairValue := (values.filter fun value => valueCount cards value = 2).getLast?
    match values, tripleValue, pairValue with
    | [value], _, _ =>
      if 4 ≤ cards.length then some ⟨.bomb, value, cards.length⟩
      else if cards.length = 2 then some ⟨.pair, value, 2⟩
      else if cards.length = 3 then some ⟨.triple, value, 3⟩
      else if cards.length = 1 then some ⟨.single, value, 1⟩
      else none
    | _, some value, some _ => if cards.length = 5 then some ⟨.threeTwo, value, 5⟩ else none
    | _, _, _ => none
  else none

def cardLogicValue (value : ℕ) : ℕ := if value < 3 then value + 13 else value

def compareCardSets (higher lower : List Card) : ℤ :=
  match classifyCards higher, classifyCards lower with
  | some h, some l =>
    if h.kind ≠ l.kind then
      if h.kind = .bomb then 1 else if l.kind = .bomb then -1 else 0
    else if h.kind = .bomb ∧ h.count ≠ l.count then
      if l.count < h.count then 1 else -1
    else if cardLogicValue l.rank < cardLogicValue h.rank then 1
    else if cardLogicValue h.rank < cardLogicValue l.rank then -1
    else 0
  | _, _ => 0

/-- What one card counts in `scoreCardsIn`. -/
def cardScore (card : Card) : ℕ :=
  if 4 < card / 16 then 0
  else if cardValue card = 5 then 5
  else if cardValue card = 10 ∨ cardValue card = 13 then 10
  else 0

/-- The points of `scoreCardsIn` -/
def score (cards : List Card) : ℕ := (cards.map cardScore).sum

/-- The cards of `scoreCardsIn` -/
def scoreCards (cards : List Card) : List Card := cards.filter fun card => cardScore card ≠ 0

@[simp] theorem score_append (xs ys : List Card) : score (xs ++ ys) = score xs + score ys := by
  rw [score, List.map_append, List.sum_append, score, score]

theorem score_perm {xs ys : List Card} (h : xs.Perm ys) : score xs = score ys :=
  (h.map cardScore).sum_eq

@[simp] theorem score_scoreCards (cards : List Card) : score (scoreCards cards) = score cards := by
  induction cards with
  | nil => rfl
  | cons card cards ih =>
    simp only [score, scoreCards] at ih ⊢
    by_cases h : cardScore card = 0 <;> simp_all

/-! ### Exchanging single cards -/

/-- The two ordinary decks, before `Shuffle`. -/
def ordinaryDeck : List Card :=
  let deck :=
    (List.range 4).flatMap fun suit => (List.range' 1 13).map fun value => suit * 16 + value
  deck ++ deck

/-- `cards[i], cards[j] = cards[j], cards[i]` -/
def swapAt (cards : List Card) (i j : ℕ) : List Card :=
  match cards[i]?, cards[j]? with
  | some a, some b => (cards.set i b).set j a
  | _, _ => cards

theorem swapAt_perm (cards : List Card) (i j : ℕ) : (swapAt cards i j).Perm cards := by
  fun_cases swapAt cards i j with
  | case1 a b ha hb =>
    obtain ⟨hi, rfl⟩ := List.getElem?_eq_some_iff.mp ha
    obtain ⟨hj, rfl⟩ := List.getElem?_eq_some_iff.mp hb
    exact List.set_set_perm hj hi
  | case2 => exact .refl _

/-- `Shuffle`: the exchanges the random source asks for. -/
def shuffle (swaps : List (Fin 104 × Fin 104)) (cards : List Card) : List Card :=
  swaps.foldl (fun cards swap => swapAt cards swap.1 swap.2) cards

theorem shuffle_perm (swaps : List (Fin 104 × Fin 104)) (cards : List Card) :
    (shuffle swaps cards).Perm cards := by
  induction swaps generalizing cards with
  | nil => exact .refl _
  | cons swap swaps ih => exact (ih _).trans (swapAt_perm ..)

/-- `cards[start:end]` for a seat -/
def part (cards : List Card) (seat : ℕ) : List Card := (cards.drop (seat * 26)).take 26

def singleCards (hand : List Card) : List Card :=
  (List.range' 1 13).filterMap fun value =>
    if valueCount hand value = 1 then hand.find? fun card => cardValue card = value else none

/-- The exchange that the loops of `swapSingleCards` find first for a seat: the position of a single
card in its part and a position of another part with a value the seat has already. -/
def findSwap (cards : List Card) (seat : ℕ) : Option (ℕ × ℕ) :=
  (singleCards (part cards seat)).findSome? fun single =>
    ((List.range 4).filter (· ≠ seat)).findSome? fun other =>
      ((List.range' (other * 26) 26).find? fun index => (cards[index]?).any fun candidate =>
        cardValue candidate ≠ cardValue single ∧
          0 < valueCount (part cards seat) (cardValue candidate)).map fun index =>
        (seat * 26 + (part cards seat).idxOf single, index)

/-- The values that occur once in a seat's part; the loop of `swapSingleCards` ends because each
exchange makes them fewer. -/
def singleValues (hand : List Card) : Finset ℕ :=
  (Finset.Icc 1 13).filter fun value => valueCount hand value = 1

theorem mem_singleCards {hand : List Card} {single : Card} (h : single ∈ singleCards hand) :
    single ∈ hand ∧ cardValue single ∈ singleValues hand := by
  simp only [singleCards, List.mem_filterMap, List.mem_range'_1, Option.ite_none_right_eq_some] at h
  obtain ⟨value, hrange, hcount, hfind⟩ := h
  obtain rfl : cardValue single = value := by simpa using List.find?_some hfind
  refine ⟨List.mem_of_find?_eq_some hfind, ?_⟩
  simp only [singleValues, Finset.mem_filter, Finset.mem_Icc]
  exact ⟨by omega, hcount⟩

/-- Giving a single card away for a value the hand has already leaves fewer single values. -/
theorem singleValues_set_lt {hand : List Card} {single card : Card} (hs : single ∈ singleCards hand)
    (hne : cardValue card ≠ cardValue single) (hc : 0 < valueCount hand (cardValue card)) :
    (singleValues (hand.set (hand.idxOf single) card)).card < (singleValues hand).card := by
  obtain ⟨hmem, hval⟩ := mem_singleCards hs
  have hlt := List.idxOf_lt_length_iff.mpr hmem
  -- the count of the single's value goes down, that of the new card's value goes up
  have hcount : ∀ value, valueCount (hand.set (hand.idxOf single) card) value =
      valueCount hand value - (if cardValue single = value then 1 else 0) +
        (if cardValue card = value then 1 else 0) := by
    intro value
    simp [valueCount, List.countP_set, hlt]
  refine Finset.card_lt_card (Finset.ssubset_iff_subset_ne.mpr ⟨fun value hv => ?_, fun heq => ?_⟩)
  · simp only [singleValues, Finset.mem_filter, hcount] at hv ⊢
    refine ⟨hv.1, ?_⟩
    obtain ⟨-, hv⟩ := hv
    split_ifs at hv with h1 h2 h2
    · exact absurd (h2.trans h1.symm) hne
    · subst h1
      simp only [singleValues, Finset.mem_filter] at hval
      omega
    · subst h2
      omega
    · omega
  · rw [← heq] at hval
    simp only [singleValues, Finset.mem_filter, hcount, if_pos, if_neg hne] at hval
    have := (mem_singleCards hs).2
    simp only [singleValues, Finset.mem_filter] at this
    omega

/-- What an exchange with a card from elsewhere does to a stretch of the deck. -/
theorem take_drop_swapAt {cards : List Card} {start size k index : ℕ} {a b : Card}
    (ha : ((cards.drop start).take size)[k]? = some a) (hb : cards[index]? = some b)
    (hindex : index < start ∨ start + size ≤ index) :
    ((swapAt cards (start + k) index).drop start).take size =
      ((cards.drop start).take size).set k b := by
  simp only [List.getElem?_take, List.getElem?_drop, Option.ite_none_right_eq_some] at ha
  obtain ⟨hk, ha⟩ := ha
  have hlen := (List.getElem?_eq_some_iff.mp ha).1
  rw [swapAt, ha, hb]
  refine List.ext_getElem? fun n => ?_
  simp only [List.getElem?_take, List.getElem?_drop, List.getElem?_set, List.length_take,
    List.length_drop, List.length_set]
  by_cases hn : n < size
  · simp only [hn, if_true, if_neg (by omega : ¬index = start + n)]
    by_cases hkn : k = n
    · subst hkn
      rw [if_pos rfl, if_pos hlen, if_pos rfl, if_pos (by omega)]
    · rw [if_neg (by omega), if_neg hkn]
  · simp only [hn, if_false]
    rw [if_neg (by omega)]

/-- The exchange found gives a single card of the seat away for a value the seat has already. -/
theorem singleValues_findSwap_lt {cards : List Card} {seat : ℕ} {swap : ℕ × ℕ}
    (h : findSwap cards seat = some swap) :
    (singleValues (part (swapAt cards swap.1 swap.2) seat)).card <
      (singleValues (part cards seat)).card := by
  obtain ⟨single, hs, h⟩ := List.exists_of_findSome?_eq_some h
  obtain ⟨other, ho, h⟩ := List.exists_of_findSome?_eq_some h
  obtain ⟨index, hi, rfl⟩ := Option.map_eq_some_iff.mp h
  have hrange := List.mem_range'_1.mp (List.mem_of_find?_eq_some hi)
  have hcond := List.find?_some hi
  obtain ⟨candidate, hcand, hcond⟩ := (Option.any_eq_true _ _).mp hcond
  obtain ⟨hne, hc⟩ := of_decide_eq_true hcond
  have hother : other ≠ seat := by simpa using (List.mem_filter.mp ho).2
  have hlt := List.idxOf_lt_length_iff.mpr (mem_singleCards hs).1
  have hsingle := List.getElem?_eq_some_iff.mpr ⟨hlt, List.getElem_idxOf hlt⟩
  rw [part, take_drop_swapAt hsingle hcand (by omega)]
  exact singleValues_set_lt hs hne hc

/-- The loop of `swapSingleCards` for one seat. -/
def swapSeat (limit : ℕ) (seat : ℕ) (cards : List Card) : List Card :=
  if limit < (singleCards (part cards seat)).length then
    match _h : findSwap cards seat with
    | some swap => swapSeat limit seat (swapAt cards swap.1 swap.2)
    | none => cards
  else cards
termination_by (singleValues (part cards seat)).card
decreasing_by exact singleValues_findSwap_lt _h

/-- `swapSingleCards`, for four seats with 26 cards each. -/
def swapSingleCards (cards : List Card) (singleCountToSwap : ℤ) : List Card :=
  if singleCountToSwap ≤ 0 then cards
  else (List.range 4).foldl (fun cards seat => swapSeat singleCountToSwap.toNat seat cards) cards

def adjustNewbieCards (cards : List Card) (newPlayerSeat : ℕ) : List Card :=
  let swapped := swapSingleCards cards 3
  if (singleCards (part cards newPlayerSeat)).length <
    (singleCards (part swapped newPlayerSeat)).length
  then swapSingleCards swapped 4
  else swapped

theorem swapSeat_perm (limit seat : ℕ) (cards : List Card) :
    (swapSeat limit seat cards).Perm cards := by
  fun_induction swapSeat limit seat cards with
  | case1 cards _ swap _ ih => exact ih.trans (swapAt_perm ..)
  | case2 => exact .refl _
  | case3 => exact .refl _

theorem swapSingleCards_perm (cards : List Card) (singleCountToSwap : ℤ) :
    (swapSingleCards cards singleCountToSwap).Perm cards := by
  rw [swapSingleCards]
  split
  · exact .refl _
  · generalize List.range 4 = seats
    induction seats generalizing cards with
    | nil => exact .refl _
    | cons seat seats ih => exact (ih _).trans (swapSeat_perm ..)

theorem adjustNewbieCards_perm (cards : List Card) (newPlayerSeat : ℕ) :
    (adjustNewbieCards cards newPlayerSeat).Perm cards := by
  rw [adjustNewbieCards]
  split
  · exact (swapSingleCards_perm ..).trans (swapSingleCards_perm ..)
  · exact swapSingleCards_perm ..

end GameServiceRuntime.Nhsk
