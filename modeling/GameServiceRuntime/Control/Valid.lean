import GameServiceRuntime.Control.Compensation

/-!
# Sets that were read or published
-/

namespace GameServiceRuntime.Control

variable {set : ServiceSet}

theorem validSet_mono {valid valid' : ServiceRef → Bool}
    (h : ∀ ref, valid ref = true → valid' ref = true)
    (hset : validSet valid set = true) : validSet valid' set = true := by
  simp only [validSet, Bool.and_eq_true] at hset ⊢
  refine ⟨⟨hset.1.1, ?_⟩, hset.2⟩
  rw [List.all_eq_true] at hset ⊢
  exact fun ref href => h ref (hset.1.2 ref href)

theorem validDrainServiceSet_of_valid (h : validServiceSet set = true) :
    validDrainServiceSet set = true := by
  refine validSet_mono (fun ref href => ?_) h
  simp only [validGroupRef, Bool.and_eq_true] at href
  simp only [validServiceRef, validNode, Bool.and_eq_true]
  exact ⟨href.1.2, href.2⟩

/-- A valid set has no nil in it, so that its clone is the set. -/
theorem cloneServiceSet_eq (h : validDrainServiceSet set = true) :
    cloneServiceSet set = set := by
  simp only [validDrainServiceSet, validSet, Bool.and_eq_true, Bool.not_eq_true'] at h
  have hrefs : Slice.of set.refs.elems = set.refs := by
    rw [Slice.eq_iff]
    exact ⟨rfl, h.1.1.1.2.symm⟩
  have htags : cloneTags set.tags = set.tags := by
    obtain ⟨tags, htags, -⟩ := Option.any_eq_true _ _ |>.1 h.1.1.2
    rw [htags]
    rfl
  simp only [cloneServiceSet, hrefs, htags]

end GameServiceRuntime.Control
