import GameServiceRuntime.Nhsk.Cards

/-!
# Comparing what is played

`compareCardSets` sorts two lists of cards into patterns and compares those. Patterns of different
kinds are incomparable unless one of them is a bomb; bombs are compared by how many cards they have
before they are compared by rank, and the rank has the ace and the two above the king.

A list is sorted by how often each value occurs, so neither the order of the cards nor their suits
have a part in the result.
-/

namespace GameServiceRuntime.Nhsk

namespace Pattern

/-- `h` is higher than `l`. -/
def Beats (h l : Pattern) : Prop :=
  if h.kind = l.kind then
    if h.kind = .bomb ∧ h.count ≠ l.count then l.count < h.count
    else cardLogicValue l.rank < cardLogicValue h.rank
  else h.kind = .bomb

variable {h l m : Pattern}

theorem Beats.asymm (hl : h.Beats l) : ¬ l.Beats h := by
  intro lh
  by_cases hkind : h.kind = l.kind
  · rw [Beats, if_pos hkind] at hl
    rw [Beats, if_pos hkind.symm, ← hkind] at lh
    by_cases hbomb : h.kind = .bomb
    · simp only [hbomb, true_and] at hl lh
      split_ifs at hl lh <;> omega
    · simp only [hbomb, false_and, if_false] at hl lh
      omega
  · rw [Beats, if_neg hkind] at hl
    rw [Beats, if_neg (Ne.symm hkind)] at lh
    exact hkind (hl.trans lh.symm)

/-- A bomb beats whatever is none, and patterns of one kind are compared by numbers. -/
theorem Beats.trans (hl : h.Beats l) (lm : l.Beats m) : h.Beats m := by
  by_cases hkind : h.kind = l.kind
  · by_cases lkind : l.kind = m.kind
    · rw [Beats, if_pos hkind] at hl
      rw [Beats, if_pos lkind, ← hkind] at lm
      rw [Beats, if_pos (hkind.trans lkind)]
      by_cases hbomb : h.kind = .bomb
      · simp only [hbomb, true_and] at hl lm ⊢
        split_ifs at hl lm ⊢ <;> omega
      · simp only [hbomb, false_and, if_false] at hl lm ⊢
        omega
    · rw [Beats, if_neg lkind] at lm
      rw [Beats, if_neg (hkind ▸ lkind)]
      exact hkind.trans lm
  · rw [Beats, if_neg hkind] at hl
    by_cases lkind : l.kind = m.kind
    · rw [Beats, if_neg (lkind ▸ hkind)]
      exact hl
    · -- `l` would be a bomb as well
      rw [Beats, if_neg lkind] at lm
      exact absurd (hl.trans lm.symm) hkind

end Pattern

/-! ### The comparison -/

variable {a b c : List Card}

/-- The result says which of the two patterns beats the other. -/
theorem compareCardSets_of_some {h l : Pattern} (ha : classifyCards a = some h)
    (hb : classifyCards b = some l) :
    (h.Beats l ∧ compareCardSets a b = 1) ∨ (l.Beats h ∧ compareCardSets a b = -1) ∨
      (¬ h.Beats l ∧ ¬ l.Beats h ∧ compareCardSets a b = 0) := by
  simp only [compareCardSets, ha, hb]
  by_cases hkind : h.kind = l.kind
  · simp only [Pattern.Beats, hkind, ne_eq, not_true, if_true, if_false]
    split_ifs <;> simp_all
    omega
  · simp only [Pattern.Beats, hkind, Ne.symm hkind, ne_eq, not_false_iff, if_true, if_false]
    split_ifs <;> simp_all

theorem compareCardSets_of_none (hnone : classifyCards a = none ∨ classifyCards b = none) :
    compareCardSets a b = 0 := by
  rw [compareCardSets]
  split
  · next ha hb =>
    rw [ha, hb] at hnone
    simp at hnone
  · rfl

/-- One list is higher when both are patterns and its pattern beats the other's. -/
theorem compareCardSets_pos_iff :
    0 < compareCardSets a b ↔
      ∃ h l, classifyCards a = some h ∧ classifyCards b = some l ∧ h.Beats l := by
  constructor
  · intro hpos
    cases ha : classifyCards a with
    | none => rw [compareCardSets_of_none (.inl ha)] at hpos; omega
    | some h =>
      cases hb : classifyCards b with
      | none => rw [compareCardSets_of_none (.inr hb)] at hpos; omega
      | some l =>
        refine ⟨h, l, rfl, rfl, ?_⟩
        obtain ⟨hbeats, -⟩ | ⟨-, heq⟩ | ⟨-, -, heq⟩ := compareCardSets_of_some ha hb
        · exact hbeats
        · omega
        · omega
  · rintro ⟨h, l, ha, hb, hbeats⟩
    obtain ⟨-, heq⟩ | ⟨hback, -⟩ | ⟨hnot, -⟩ := compareCardSets_of_some ha hb
    · omega
    · exact absurd hback hbeats.asymm
    · exact absurd hbeats hnot

theorem compareCardSets_neg (a b : List Card) : compareCardSets a b = -compareCardSets b a := by
  cases ha : classifyCards a with
  | none => rw [compareCardSets_of_none (.inl ha), compareCardSets_of_none (.inr ha)]; rfl
  | some h =>
    cases hb : classifyCards b with
    | none => rw [compareCardSets_of_none (.inr hb), compareCardSets_of_none (.inl hb)]; rfl
    | some l =>
      obtain ⟨h₁, e₁⟩ | ⟨h₁, e₁⟩ | ⟨h₁, h₁', e₁⟩ := compareCardSets_of_some ha hb <;>
      obtain ⟨h₂, e₂⟩ | ⟨h₂, e₂⟩ | ⟨h₂, h₂', e₂⟩ := compareCardSets_of_some hb ha <;>
      first
        | omega
        | exact absurd h₂ h₁.asymm
        | contradiction

/-! ### What the result depends on -/

theorem valueCount_eq (cards : List Card) (value : ℕ) :
    valueCount cards value = (cards.map cardValue).count value := by
  rw [valueCount, List.count, List.countP_map]
  congr

/-- Only the values matter, and not their order. -/
theorem classifyCards_congr (h : (a.map cardValue).Perm (b.map cardValue)) :
    classifyCards a = classifyCards b := by
  have hcount : valueCount a = valueCount b := funext fun value => by
    rw [valueCount_eq, valueCount_eq, h.count_eq]
  have hlen : a.length = b.length := by simpa using h.length_eq
  have hall : (a.all fun card => 1 ≤ cardValue card && cardValue card ≤ 13) =
      b.all fun card => 1 ≤ cardValue card && cardValue card ≤ 13 := by
    have hvalues := h.all_eq (f := fun value => decide (1 ≤ value) && decide (value ≤ 13))
    rwa [List.all_map, List.all_map] at hvalues
  simp only [classifyCards, hcount, hlen, hall]

/-- **Card comparison is a strict order.** Exchanging the two lists changes the sign, the relation
of being higher is irreflexive and transitive, and the result is the same for lists that have the
same values in another order or with other suits. -/
theorem compareCardSets_strictOrder :
    (∀ a b, compareCardSets a b = -compareCardSets b a) ∧
    (∀ a, ¬ 0 < compareCardSets a a) ∧
    (∀ a b c, 0 < compareCardSets a b → 0 < compareCardSets b c → 0 < compareCardSets a c) ∧
    ∀ a a' b b', (a.map cardValue).Perm (a'.map cardValue) →
    (b.map cardValue).Perm (b'.map cardValue) →
      compareCardSets a b = compareCardSets a' b' := by
  refine ⟨compareCardSets_neg, fun a ha => ?_, fun a b c hab hbc => ?_, fun a a' b b' ha hb => ?_⟩
  · have := compareCardSets_neg a a
    omega
  · obtain ⟨h, l, ha, hb, hl⟩ := compareCardSets_pos_iff.1 hab
    obtain ⟨l', m, hb', hc, lm⟩ := compareCardSets_pos_iff.1 hbc
    obtain rfl : l = l' := Option.some.inj (hb.symm.trans hb')
    exact compareCardSets_pos_iff.2 ⟨h, m, ha, hc, hl.trans lm⟩
  · rw [compareCardSets, compareCardSets, classifyCards_congr ha, classifyCards_congr hb]

end GameServiceRuntime.Nhsk
