import Mathlib.Algebra.Ring.Int.Defs
import Mathlib.Data.Finmap

/-!
# Finite tables

A map of the source that is gone through, counted or filtered is an association list without a
repeated key. Mathlib's `AList` has lookup, insertion and removal; what is added here is the loop
that goes through every entry and keeps, changes or deletes it (`filterMap`), and the list of the
entries' values.

What a proof asks of a table is what a key looks up to. Every operation below has one lemma that
says so, and nothing that is proved from those depends on the order of the entries.

## Main results

* `Table.lookup_filterMap` — a loop over the entries acts on each key by itself
* `Table.mem_values` — a value is in the table when some key looks up to it
* `Table.filter_values` — values that know their keys are found once
* `Table.sum_update` — a change at one key changes a sum by that key's part
-/

namespace GameServiceRuntime

/-- A map of the source. -/
abbrev Table (κ ν : Type*) := AList fun _ : κ => ν

namespace Table

variable {κ ν μ : Type*}

-- Mathlib's instance rewrites inside its data, so that nothing evaluates through it.
instance [DecidableEq κ] [DecidableEq ν] : DecidableEq (Table κ ν) := fun t u =>
  decidable_of_iff (t.entries = u.entries) AList.ext_iff.symm

/-- The entries after a loop that replaces or deletes each of them. -/
def filterMapEntries (f : κ → ν → Option μ) :
    List (Sigma fun _ : κ => ν) → List (Sigma fun _ : κ => μ)
  | [] => []
  | e :: es =>
    match f e.1 e.2 with
    | some v => ⟨e.1, v⟩ :: filterMapEntries f es
    | none => filterMapEntries f es

theorem keys_filterMapEntries (f : κ → ν → Option μ) (es : List (Sigma fun _ : κ => ν)) :
    (filterMapEntries f es).keys.Sublist es.keys := by
  induction es with
  | nil => exact List.Sublist.refl _
  | cons e es ih =>
    simp only [filterMapEntries]
    split
    · exact ih.cons_cons _
    · exact ih.cons _

/-- The loop over a table that replaces or deletes each entry. -/
def filterMap (f : κ → ν → Option μ) (t : Table κ ν) : Table κ μ :=
  ⟨filterMapEntries f t.entries, List.Nodup.sublist (keys_filterMapEntries f t.entries) t.nodupKeys⟩

/-- The loop that deletes the entries that fail a test. -/
def filter (p : κ → ν → Bool) (t : Table κ ν) : Table κ ν :=
  t.filterMap fun k v => if p k v then some v else none

/-- `len(t)` -/
def len (t : Table κ ν) : ℕ := t.entries.length

/-- What `range` goes through, without the keys. -/
def values (t : Table κ ν) : List ν := t.entries.map Sigma.snd

/-! ### Sums over a table -/

/-- The sum over the values. -/
def sum (f : ν → ℤ) (t : Table κ ν) : ℤ := (t.values.map f).sum

theorem sum_filterMap (f : κ → ν → Option μ) (g : μ → ℤ) (t : Table κ ν) :
    sum g (t.filterMap f) = (t.entries.map fun e => (f e.1 e.2).elim 0 g).sum := by
  obtain ⟨es, hnd⟩ := t
  simp only [sum, values, filterMap]
  clear hnd
  induction es with
  | nil => rfl
  | cons e es ih =>
    simp only [filterMapEntries, List.map_cons, List.sum_cons]
    cases f e.1 e.2 with
    | none => simpa using ih
    | some v => simpa using ih

theorem len_eq_sum (t : Table κ ν) : (t.len : ℤ) = sum (fun _ => 1) t := by
  simp [len, sum, values, Function.comp_def]

theorem len_filterMap_le (f : κ → ν → Option μ) (t : Table κ ν) : len (t.filterMap f) ≤ t.len := by
  have := (keys_filterMapEntries f t.entries).length_le
  simpa [List.keys, len, filterMap] using this

variable [DecidableEq κ] in
theorem sum_insert (f : ν → ℤ) (t : Table κ ν) (k : κ) (v : ν) :
    sum f (t.insert k v) = f v + sum f (t.erase k) := rfl

variable [DecidableEq κ] in
theorem sum_erase (f : ν → ℤ) (t : Table κ ν) (k : κ) :
    sum f t = (t.lookup k).elim 0 f + sum f (t.erase k) := by
  obtain ⟨es, hnd⟩ := t
  simp only [sum, values, AList.lookup, AList.erase]
  clear hnd
  induction es with
  | nil => rfl
  | cons e es ih =>
    by_cases h : k = e.1
    · subst h
      have hlookup : (e :: es).dlookup e.1 = some e.2 := List.dlookup_cons_eq ..
      simp [hlookup]
    · rw [List.dlookup_cons_ne _ e h, List.kerase_cons_ne h, List.map_cons, List.map_cons,
        List.sum_cons, List.map_cons, List.map_cons, List.sum_cons, ih]
      omega

variable [DecidableEq κ]

theorem lookup_insert_ite (t : Table κ ν) (k j : κ) (v : ν) :
    AList.lookup j (t.insert k v) = if j = k then some v else t.lookup j := by
  by_cases h : j = k
  · subst h
    rw [AList.lookup_insert, if_pos rfl]
  · rw [AList.lookup_insert_ne h, if_neg h]

/-- An entry after an insertion is the one that was written or an old one. -/
theorem forall_insert {P : κ → ν → Prop} {t : Table κ ν} {k : κ} {v : ν}
    (h : ∀ j w, t.lookup j = some w → P j w) (hv : P k v) :
    ∀ j w, AList.lookup j (t.insert k v) = some w → P j w := by
  intro j w hw
  rw [lookup_insert_ite] at hw
  split at hw
  next hj =>
    cases hw
    exact hj ▸ hv
  · exact h j w hw

theorem lookup_erase_ite (t : Table κ ν) (k j : κ) :
    AList.lookup j (t.erase k) = if j = k then none else t.lookup j := by
  by_cases h : j = k
  · subst h
    rw [AList.lookup_erase, if_pos rfl]
  · rw [AList.lookup_erase_ne h, if_neg h]

theorem len_erase (t : Table κ ν) (k : κ) :
    t.len = (t.lookup k).elim 0 (fun _ => 1) + len (t.erase k) := by
  have h := sum_erase (fun _ => 1) t k
  rw [← len_eq_sum, ← len_eq_sum] at h
  cases hk : t.lookup k <;> simp only [hk, Option.elim_none, Option.elim_some] at h ⊢ <;> omega

theorem len_insert (t : Table κ ν) (k : κ) (v : ν) : len (t.insert k v) = len (t.erase k) + 1 := rfl

/-- A sum is over what the keys look up to. -/
theorem sum_congr (f : ν → ℤ) {t u : Table κ ν} (h : ∀ k, t.lookup k = u.lookup k) :
    sum f t = sum f u := by
  have hperm : t.entries.Perm u.entries :=
    List.lookup_ext t.nodupKeys u.nodupKeys fun k _ => by
      have hk : t.entries.dlookup k = u.entries.dlookup k := h k
      rw [hk]
  rw [sum, sum, List.sum_eq_foldr, List.sum_eq_foldr]
  exact ((hperm.map Sigma.snd).map f).foldr_eq' (fun x _ y _ z => Int.add_left_comm y x z) 0

/-- **One key at a time.** Sums over tables that differ at one key differ by what it looks up to. -/
theorem sum_update (f : ν → ℤ) {t u : Table κ ν} {k : κ}
    (h : ∀ j, j ≠ k → t.lookup j = u.lookup j) :
    sum f t + (u.lookup k).elim 0 f = sum f u + (t.lookup k).elim 0 f := by
  have hrest : sum f (t.erase k) = sum f (u.erase k) := by
    refine sum_congr f fun j => ?_
    rw [lookup_erase_ite, lookup_erase_ite]
    split
    · rfl
    · exact h j ‹_›
  have ht := sum_erase f t k
  have hu := sum_erase f u k
  omega

variable {t : Table κ ν}

theorem dlookup_filterMapEntries (f : κ → ν → Option μ) {es : List (Sigma fun _ : κ => ν)}
    (hnd : es.NodupKeys) (k : κ) :
    (filterMapEntries f es).dlookup k = (es.dlookup k).bind (f k) := by
  induction es with
  | nil => rfl
  | cons e es ih =>
    obtain ⟨j, v⟩ := e
    obtain ⟨hj, hes⟩ := List.nodupKeys_cons.mp hnd
    simp only [filterMapEntries]
    by_cases h : k = j
    · subst h
      rw [List.dlookup_cons_eq, Option.bind_some]
      cases hv : f k v with
      | some w => exact List.dlookup_cons_eq ..
      | none =>
        have hnone : es.dlookup k = none := List.dlookup_eq_none.mpr hj
        simp only [ih hes, hnone, Option.bind_none]
    · rw [List.dlookup_cons_ne _ _ h]
      cases f j v with
      | some w => simp only [List.dlookup_cons_ne _ (⟨j, w⟩ : Sigma fun _ : κ => μ) h, ih hes]
      | none => exact ih hes

/-- **A loop acts on each key by itself.** -/
theorem lookup_filterMap (f : κ → ν → Option μ) (t : Table κ ν) (k : κ) :
    AList.lookup k (t.filterMap f) = (t.lookup k).bind (f k) :=
  dlookup_filterMapEntries f t.nodupKeys k

theorem lookup_filter (p : κ → ν → Bool) (t : Table κ ν) (k : κ) :
    AList.lookup k (t.filter p) = (t.lookup k).filter (p k) := by
  rw [filter, lookup_filterMap]
  cases t.lookup k <;> rfl

theorem mem_values {v : ν} : v ∈ t.values ↔ ∃ k, t.lookup k = some v := by
  simp only [values, List.mem_map]
  constructor
  · rintro ⟨⟨k, w⟩, he, rfl⟩
    exact ⟨k, AList.mem_lookup_iff.mpr he⟩
  · rintro ⟨k, h⟩
    exact ⟨⟨k, v⟩, AList.mem_lookup_iff.mp h, rfl⟩

/-- Where values know their keys, one key's value is all that a search for it finds. -/
theorem filter_values {key : ν → κ} (hkey : ∀ k v, t.lookup k = some v → key v = k)
    (k : κ) : t.values.filter (fun v => key v = k) = (t.lookup k).toList := by
  obtain ⟨es, hnd⟩ := t
  have hall : ∀ e ∈ es, key e.2 = e.1 := fun e he => hkey e.1 e.2 (AList.mem_lookup_iff.mpr he)
  simp only [values, AList.lookup]
  clear hkey
  induction es with
  | nil => rfl
  | cons e es ih =>
    obtain ⟨j, v⟩ := e
    obtain ⟨hj, hes⟩ := List.nodupKeys_cons.mp hnd
    have hv : key v = j := hall ⟨j, v⟩ List.mem_cons_self
    have htail := ih hes fun e he => hall e (List.mem_cons_of_mem _ he)
    rw [List.map_cons, List.filter_cons]
    by_cases h : j = k
    · subst h
      have hnone : es.dlookup j = none := List.dlookup_eq_none.mpr hj
      rw [htail, hnone]
      simp [hv]
    · rw [htail, List.dlookup_cons_ne _ _ (Ne.symm h)]
      simp [hv, h]

theorem len_eq_zero : t.len = 0 ↔ ∀ k, t.lookup k = none := by
  constructor
  · intro h k
    rw [AList.lookup_eq_none, AList.mem_keys, AList.keys, List.length_eq_zero_iff.mp h]
    exact List.not_mem_nil
  · intro h
    by_contra hne
    obtain ⟨e, es, he⟩ := List.exists_cons_of_length_pos (Nat.pos_of_ne_zero hne)
    have hmem : e ∈ t.entries := he ▸ List.mem_cons_self
    have := AList.mem_lookup_iff.mpr hmem
    rw [h e.1] at this
    cases this

/-- **Replacing one list** in a table of lists exchanges it in what the lists hold together. -/
theorem flatten_values_insert {α : Type*} (t : Table κ (List α)) (k : κ) (v : List α) :
    ((values (t.insert k v)).flatten ++ (t.lookup k).getD []).Perm (v ++ t.values.flatten) := by
  cases hk : t.lookup k with
  | none =>
    rw [values, AList.entries_insert_of_notMem (AList.lookup_eq_none.mp hk)]
    simp [values]
  | some w =>
    have hmem : k ∈ t := AList.lookup_isSome.mp (by rw [hk]; rfl)
    obtain ⟨w', l, r, -, ht, hr⟩ := List.exists_of_kerase hmem
    have hw : t.lookup k = some w' :=
      AList.mem_lookup_iff.mpr (by rw [ht]; exact List.mem_append_right _ List.mem_cons_self)
    obtain rfl : w = w' := Option.some.inj (hk.symm.trans hw)
    rw [values, AList.entries_insert, hr, values, ht]
    simp only [List.map_cons, List.map_append, List.flatten_cons, List.flatten_append,
      Option.getD_some, List.append_assoc]
    exact .append_left v (.append_left _ List.perm_append_comm)

section Fill

variable {ι : Type*} {key : ι → κ} {val : ι → ν} {is : List ι}

/-- A loop that sets different keys leaves their entries, the last one first. -/
theorem entries_foldl_insert (hnd : (is.map key).Nodup) :
    (is.foldl (fun t i => t.insert (key i) (val i)) (∅ : Table κ ν)).entries =
      (is.map fun i => (⟨key i, val i⟩ : Sigma fun _ : κ => ν)).reverse := by
  have hloop : ∀ t : Table κ ν, (∀ i ∈ is, key i ∉ t) →
      (is.foldl (fun t i => t.insert (key i) (val i)) t).entries =
        (is.map fun i => (⟨key i, val i⟩ : Sigma fun _ : κ => ν)).reverse ++ t.entries := by
    induction is with
    | nil => exact fun _ _ => rfl
    | cons i is ih =>
      intro t hfresh
      obtain ⟨hi, his⟩ := List.nodup_cons.mp hnd
      rw [List.foldl_cons, ih his]
      · simp [AList.entries_insert_of_notMem (hfresh i List.mem_cons_self), -AList.entries_insert]
      · intro j hj hmem
        rcases (AList.mem_insert _).mp hmem with heq | hmem
        · exact hi (heq ▸ List.mem_map_of_mem hj)
        · exact hfresh j (List.mem_cons_of_mem _ hj) hmem
  rw [hloop ∅ fun _ _ => List.not_mem_nil]
  exact List.append_nil _

theorem lookup_foldl_insert (hnd : (is.map key).Nodup) {i : ι} (hi : i ∈ is) :
    AList.lookup (key i) (is.foldl (fun t i => t.insert (key i) (val i)) (∅ : Table κ ν)) =
      some (val i) := by
  refine AList.mem_lookup_iff.mpr ?_
  rw [entries_foldl_insert hnd, List.mem_reverse]
  exact List.mem_map_of_mem hi

end Fill

end Table

end GameServiceRuntime
