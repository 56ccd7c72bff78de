import Mathlib.Tactic.Common

/-!
# Exclusive tokens

A mutex, a ready flag or a once-only transition is the same thing from the outside: a word that
is set while somebody holds a token, and at most one holder at a time. `Exclusive holds flag` says
so for holders drawn from an arbitrary type, and the lemmas say which moves keep it: nobody new
holds, one holder appears where there was none, the holder passes the token on.

The word may stay set without a holder; tokens that are lost with their word set block the next
acquirer and do not break exclusion.
-/

namespace GameServiceRuntime

/-- At most one holder, and the word is set while there is one. -/
structure Exclusive {H : Type*} (holds : H → Prop) (flag : Prop) : Prop where
  flag_of : ∀ h, holds h → flag
  unique : ∀ h h', holds h → holds h' → h = h'

namespace Exclusive

variable {H : Type*} {holds holds' : H → Prop} {flag flag' : Prop}

/-- Nobody new holds the token and the word stays set. -/
theorem keep (h : Exclusive holds flag) (hsub : ∀ x, holds' x → holds x) (hflag : flag → flag') :
    Exclusive holds' flag' where
  flag_of x hx := hflag (h.flag_of x (hsub x hx))
  unique x y hx hy := h.unique x y (hsub x hx) (hsub y hy)

/-- One holder appears while the word was clear. -/
theorem acquire (h : Exclusive holds flag) (hclear : ¬ flag) (a : H)
    (hsub : ∀ x, holds' x → holds x ∨ x = a) (hflag : flag') : Exclusive holds' flag' := by
  have honly : ∀ x, holds' x → x = a := fun x hx =>
    (hsub x hx).resolve_left fun hc => hclear (h.flag_of x hc)
  exact ⟨fun _ _ => hflag, fun x y hx hy => (honly x hx).trans (honly y hy).symm⟩

/-- The holder passes the token on. -/
theorem transfer (h : Exclusive holds flag) {a b : H} (ha : holds a)
    (hsub : ∀ x, holds' x → holds x ∧ x ≠ a ∨ x = b) (hflag : flag → flag') :
    Exclusive holds' flag' := by
  have honly : ∀ x, holds' x → x = b := fun x hx =>
    (hsub x hx).resolve_left fun hc => hc.2 (h.unique x a hc.1 ha)
  exact ⟨fun _ _ => hflag (h.flag_of a ha), fun x y hx hy => (honly x hx).trans (honly y hy).symm⟩

end Exclusive

end GameServiceRuntime
