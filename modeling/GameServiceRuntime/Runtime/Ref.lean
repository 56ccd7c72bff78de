import Mathlib.Data.Prod.Lex
import GameServiceRuntime.Lib.Slice
import GameServiceRuntime.Lib.Text

/-!
# Service references and envelopes

`gsr.ServiceRef` and the order in which the tooling keeps lists of them: by node, byte by byte, and
then by number. `less` is the comparison handed to `sort.Slice`, `ascending` the check the
validators make of a list. What is sorted and has no two equal neighbours passes the check.
-/

namespace GameServiceRuntime

structure ServiceRef where
  node : Text
  id : UInt64
  deriving DecidableEq

namespace ServiceRef

/-- `ServiceRef{}` -/
def zero : ServiceRef := ⟨[], 0⟩

/-- The comparison of `sort.Slice`. -/
def less (a b : ServiceRef) : Bool :=
  if a.node ≠ b.node then a.node.less b.node else a.id < b.id

/-- What the validators ask of a reference and the next one. -/
def before (a b : ServiceRef) : Bool :=
  !(b.node.less a.node || (a.node = b.node && b.id ≤ a.id))

/-- The order as one of a linearly ordered type. -/
def key (a : ServiceRef) : List ℕ ×ₗ ℕ := toLex (a.node.codes, a.id.toNat)

theorem less_iff_key (a b : ServiceRef) : a.less b = true ↔ a.key < b.key := by
  by_cases hn : a.node = b.node
  · simp [less, key, hn, Prod.Lex.toLex_lt_toLex, UInt64.lt_iff_toNat_lt]
  · have hc : a.node.codes ≠ b.node.codes := fun h => hn (Text.codes_injective h)
    simp [less, key, hn, hc, Prod.Lex.toLex_lt_toLex, Text.less]

/-- Two different references of which the second is not less are in order. -/
theorem before_of_not_less {a b : ServiceRef} (h : b.less a = false) (hne : a ≠ b) :
    a.before b = true := by
  by_cases hn : a.node = b.node
  · have hid : a.id ≠ b.id := fun hid => hne (by cases a; cases b; simp_all)
    have hle : a.id ≤ b.id := by simpa [less, hn] using h
    have hlt : a.id < b.id := UInt64.lt_of_le_of_ne hle hid
    simp [before, hn, Text.less_irrefl, hlt]
  · simpa [before, hn, less, Ne.symm hn] using h

end ServiceRef

/-- `gsr.WireEnvelope`: a Command or a Reply between two nodes. -/
structure WireEnvelope where
  source : ServiceRef
  target : ServiceRef
  session : UInt64
  command : UInt32
  payload : Slice UInt8
  response : Bool
  callPath : Slice ServiceRef
  errorCode : Text
  errorMessage : Text
  deriving DecidableEq

section Sorting

variable {α : Type*} (ref : α → ServiceRef) {l : List α}

/-- `sort.Slice` by a reference. -/
def sortByRef (l : List α) : List α :=
  l.insertionSort fun a b => (ref b).less (ref a) = false

/-- Every element's reference comes strictly before that of the next. -/
def ascending : List α → Bool
  | a :: b :: l => (ref a).before (ref b) && ascending (b :: l)
  | _ => true

/-- No element has the reference of the next. -/
def neighboursDiffer : List α → Bool
  | a :: b :: l => ref a ≠ ref b && neighboursDiffer (b :: l)
  | _ => true

theorem perm_sortByRef (l : List α) : (sortByRef ref l).Perm l := List.perm_insertionSort ..

theorem mem_sortByRef {a : α} : a ∈ sortByRef ref l ↔ a ∈ l :=
  (perm_sortByRef ref l).mem_iff

theorem pairwise_sortByRef (l : List α) :
    (sortByRef ref l).Pairwise fun a b => (ref b).less (ref a) = false := by
  have hle : ∀ a b, (ref b).less (ref a) = false ↔ (ref a).key ≤ (ref b).key := fun a b => by
    rw [← not_lt, ← ServiceRef.less_iff_key, Bool.not_eq_true]
  have : Std.Total fun a b => (ref b).less (ref a) = false :=
    ⟨fun a b => by simpa only [hle] using le_total (ref a).key (ref b).key⟩
  have : IsTrans α fun a b => (ref b).less (ref a) = false :=
    ⟨fun a b c hab hbc => by rw [hle] at *; exact hab.trans hbc⟩
  exact List.pairwise_insertionSort _ l

theorem ascending_of_pairwise (h : l.Pairwise fun a b => (ref b).less (ref a) = false)
    (hd : neighboursDiffer ref l = true) : ascending ref l = true := by
  induction l with
  | nil => rfl
  | cons a l ih =>
    cases l with
    | nil => rfl
    | cons b l =>
      simp only [neighboursDiffer, Bool.and_eq_true, decide_eq_true_eq] at hd
      rw [List.pairwise_cons] at h
      simp [ascending, ih h.2 hd.2, ServiceRef.before_of_not_less (h.1 b (by simp)) hd.1]

/-- **Sorting.** A sorted list without equal neighbours is ascending. -/
theorem ascending_sortByRef (hd : neighboursDiffer ref (sortByRef ref l) = true) :
    ascending ref (sortByRef ref l) = true :=
  ascending_of_pairwise ref (pairwise_sortByRef ref l) hd

end Sorting

end GameServiceRuntime
