import GameServiceRuntime.Lib.Transition
import GameServiceRuntime.Runtime.Ref

/-!
# The Recorder

`RecorderService` keeps the last entries of every key, at most a given number of them, and the last
sequence number it has accepted for the key. The number is what the next entry has to continue, and
clearing a key does not reset it.

What the Recorder is for is a statement about everything it has accepted, of which it forgets most.
The history of a run is kept beside it: the entries accepted for a key since it was last cleared,
and the sequence number of the last entry ever accepted. The Recorder holds the end of the former,
copied: copying turns an empty payload into no payload and changes nothing else.
-/

namespace GameServiceRuntime.Record

/-- `RecordEntry` -/
structure Entry where
  formatVersion : UInt16
  targetKey : Text
  target : ServiceRef
  source : ServiceRef
  sequence : UInt64
  /-- The zero time is zero. -/
  recordedAt : ℤ
  command : UInt32
  payload : Slice UInt8
  traceID : Text
  deriving DecidableEq

/-- The errors of the package, and those of a context or of a file. -/
inductive Err
  | invalidKey
  | invalidEntry
  | invalidBundle
  | recordNotFound
  | sequenceConflict
  | other (n : ℕ)
  deriving DecidableEq

def formatVersion : UInt16 := 1

/-- `validateKey` -/
def validKey (key : Text) : Bool := key.valid 384

/-- `validateEntry` -/
def validEntry (entry : Entry) : Bool :=
  entry.formatVersion = formatVersion && validKey entry.targetKey && entry.target.node ≠ [] &&
    entry.target.id ≠ 0 && entry.sequence ≠ 0 && entry.recordedAt ≠ 0 && entry.command ≠ 0 &&
    !entry.payload.isNil

def nextSequence (sequence : UInt64) : Option UInt64 :=
  if sequence.toNat = 2 ^ 64 - 1 then none else some (sequence + 1)

def cloneEntry (entry : Entry) : Entry := { entry with payload := entry.payload.copy }

/-- `RecorderService` -/
structure Recorder where
  records : Text → List Entry := fun _ => []
  last : Text → UInt64 := fun _ => 0

def Recorder.append (max : ℕ) (s : Recorder) (entry : Entry) : Recorder × Option Err :=
  if !validEntry entry then (s, some .invalidEntry)
  else
    match nextSequence (s.last entry.targetKey) with
    | none => (s, some .sequenceConflict)
    | some expected =>
      if entry.sequence ≠ expected then (s, some .sequenceConflict)
      else
        let entries := s.records entry.targetKey ++ [cloneEntry entry]
        let entries := if max < entries.length then entries.drop (entries.length - max) else entries
        ({ records := Function.update s.records entry.targetKey entries
           last := Function.update s.last entry.targetKey entry.sequence }, none)

def Recorder.list (max : ℕ) (s : Recorder) (key : Text) (after : UInt64) (limit : ℤ) :
    Except Err (List Entry) :=
  if !validKey key || limit ≤ 0 || max < limit then .error .invalidEntry
  else
    .ok (((s.records key).filter fun entry => after < entry.sequence).take limit.toNat |>.map
      cloneEntry)

def Recorder.clear (s : Recorder) (key : Text) : Recorder × Option Err :=
  if !validKey key then (s, some .invalidKey)
  else ({ s with records := Function.update s.records key [] }, none)

/-- The Commands. -/
inductive Command
  | append (entry : Entry)
  | list (key : Text) (after : UInt64) (limit : ℤ)
  | clear (key : Text)

/-- The key of a Command. -/
def Command.key : Command → Text
  | .append entry => entry.targetKey
  | .list key _ _ | .clear key => key

/-- What `Handle` does with a Command. -/
def Recorder.handle (max : ℕ) (s : Recorder) : Command → Recorder
  | .append entry => (s.append max entry).1
  | .list _ _ _ => s
  | .clear key => (s.clear key).1

/-- The Recorder. -/
def system (max : ℕ) : System Recorder Command where
  init s := s = {}
  step s c := some (s.handle max c)

/-! ### Histories -/

/-- What was accepted for every key: the entries since it was last cleared, and the sequence number
of the last one of all. -/
structure History where
  accepted : Text → List Entry := fun _ => []
  last : Text → ℕ := fun _ => 0

/-- The history after a Command. -/
def History.add (max : ℕ) (s : Recorder) (c : Command) (h : History) : History :=
  match c with
  | .append entry =>
    if (s.append max entry).2.isNone then
      { accepted :=
        Function.update h.accepted entry.targetKey (h.accepted entry.targetKey ++ [entry])
        last := Function.update h.last entry.targetKey entry.sequence.toNat }
    else h
  | .list _ _ _ => h
  | .clear key =>
    if (s.clear key).2.isNone then { h with accepted := Function.update h.accepted key [] } else h

/-- The last entries, at most `max`. -/
def lastOf {α : Type} (max : ℕ) (l : List α) : List α := l.drop (l.length - max)

/-- What is kept of a key and what was accepted for it. -/
structure Window (max : ℕ) (records : List Entry) (last : UInt64) (accepted : List Entry)
    (lastAccepted : ℕ) : Prop where
  retained : records = (lastOf max accepted).map cloneEntry
  last : last.toNat = lastAccepted
  length : accepted.length ≤ lastAccepted
  numbered : accepted.map (fun entry => entry.sequence.toNat) =
    List.range' (lastAccepted + 1 - accepted.length) accepted.length

theorem lastOf_append {α : Type} {max : ℕ} (hmax : 0 < max) (l : List α) (x : α) :
    lastOf max (lastOf max l ++ [x]) = lastOf max (l ++ [x]) := by
  simp only [lastOf, List.length_append, List.length_drop, List.length_singleton]
  rw [List.drop_append_of_le_length (by simp; omega), List.drop_append_of_le_length (by omega),
    List.drop_drop]
  congr 2
  omega

theorem lastOf_of_le {α : Type} {max : ℕ} {l : List α} (h : l.length ≤ max) : lastOf max l = l := by
  rw [lastOf, Nat.sub_eq_zero_of_le h, List.drop_zero]

theorem map_lastOf {α β : Type} (f : α → β) (max : ℕ) (l : List α) :
    (lastOf max l).map f = lastOf max (l.map f) := by
  simp [lastOf, List.map_drop]

section

variable {max : ℕ} {s : Recorder} {entry : Entry}

/-- **What is accepted.** -/
theorem append_accepted_iff : (s.append max entry).2 = none ↔
    validEntry entry = true ∧ entry.sequence.toNat = (s.last entry.targetKey).toNat + 1 := by
  have hlt := entry.sequence.toNat_lt
  have hlast := (s.last entry.targetKey).toNat_lt
  simp only [Recorder.append, nextSequence]
  by_cases hv : validEntry entry = true
  · by_cases hmax : (s.last entry.targetKey).toNat = 2 ^ 64 - 1
    · simp only [hv, hmax]
      simp
      omega
    · have hadd : (s.last entry.targetKey + 1).toNat = (s.last entry.targetKey).toNat + 1 := by
        rw [UInt64.toNat_add]
        exact Nat.mod_eq_of_lt (by have : (1 : UInt64).toNat = 1 := rfl; omega)
      simp only [hv, hmax, Bool.not_true, Bool.false_eq_true, if_false, true_and]
      rw [← hadd, UInt64.toNat_inj]
      by_cases he : entry.sequence = s.last entry.targetKey + 1 <;> simp [he]
  · simp [hv]

theorem append_of_accepted (h : (s.append max entry).2 = none) : (s.append max entry).1 =
    { records := Function.update s.records entry.targetKey
        (lastOf max (s.records entry.targetKey ++ [cloneEntry entry]))
      last := Function.update s.last entry.targetKey entry.sequence } := by
  have hif :
    ∀ l : List Entry, (if max < l.length then l.drop (l.length - max) else l) = lastOf max l := by
    intro l
    split
    · rfl
    · exact (lastOf_of_le (by omega)).symm
  simp only [Recorder.append, hif] at h ⊢
  repeat' split at h
  all_goals simp_all

theorem append_of_rejected (h : (s.append max entry).2 ≠ none) : (s.append max entry).1 = s := by
  simp only [Recorder.append] at h ⊢
  repeat' split at h
  all_goals simp_all

/-! ### The window -/

/-- **The window follows the history.** -/
theorem Window.append {records accepted : List Entry} {last : UInt64} {n : ℕ} (hmax : 0 < max)
    (h : Window max records last accepted n) (he : entry.sequence.toNat = n + 1) :
    Window max (lastOf max (records ++ [cloneEntry entry])) entry.sequence (accepted ++ [entry])
      entry.sequence.toNat where
  retained := by
    rw [h.retained, map_lastOf, lastOf_append hmax, map_lastOf, List.map_append, List.map_singleton]
  last := rfl
  length := by
    have := h.length
    rw [List.length_append, List.length_singleton]
    omega
  numbered := by
    have hlen := h.length
    rw [List.map_append, h.numbered, List.map_singleton, he, List.length_append,
      List.length_singleton,
      List.range'_concat, show n + 1 + 1 - (accepted.length + 1) = n + 1 - accepted.length by omega]
    congr 2
    omega

theorem Window.sequences {records accepted : List Entry} {last : UInt64} {n : ℕ}
    (h : Window max records last accepted n) : records.length ≤ n ∧
      records.map (fun entry => entry.sequence.toNat) =
        List.range' (n + 1 - records.length) records.length := by
  have hlen : records.length = accepted.length - (accepted.length - max) := by
    rw [h.retained, List.length_map, lastOf, List.length_drop]
  have := h.length
  refine ⟨by omega, ?_⟩
  have hmap : records.map (fun entry => entry.sequence.toNat) =
      lastOf max (accepted.map fun entry => entry.sequence.toNat) := by
    rw [h.retained, ← map_lastOf, List.map_map]
    rfl
  rw [hmap, h.numbered, lastOf, List.length_range', List.drop_range', hlen]
  congr 1
  omega

theorem window_step (hmax : 0 < max) {h : History} {c : Command}
    (hw : ∀ key, Window max (s.records key) (s.last key) (h.accepted key) (h.last key))
    (key : Text) : Window max ((s.handle max c).records key) ((s.handle max c).last key)
      ((h.add max s c).accepted key) ((h.add max s c).last key) := by
  cases c with
  | append entry =>
    by_cases ha : (s.append max entry).2 = none
    · have hseq := (append_accepted_iff.mp ha).2
      simp only [Recorder.handle, append_of_accepted ha, History.add, ha,
        Option.isNone_none, if_true, Function.update_apply]
      split
      · rw [(hw _).last] at hseq
        exact (hw _).append hmax hseq
      · exact hw key
    · have hadd : h.add max s (.append entry) = h := if_neg (by simpa using ha)
      rw [hadd, Recorder.handle, append_of_rejected ha]
      exact hw key
  | list _ _ _ => exact hw key
  | clear k =>
    simp only [Recorder.handle, Recorder.clear, History.add]
    by_cases hv : validKey k = true
    · simp only [hv, Bool.not_true, Bool.false_eq_true, if_false, Option.isNone_none, if_true,
        Function.update_apply]
      split
      · exact ⟨by simp [lastOf], (hw key).last, Nat.zero_le _, rfl⟩
      · exact hw key
    · simp only [hv]
      exact hw key

theorem handle_of_ne (s : Recorder) {c : Command} {key : Text} (h : key ≠ c.key) :
    (s.handle max c).records key = s.records key ∧ (s.handle max c).last key = s.last key := by
  cases c with
  | append entry =>
    by_cases ha : (s.append max entry).2 = none
    · rw [Recorder.handle, append_of_accepted ha]
      exact ⟨Function.update_of_ne h .., Function.update_of_ne h ..⟩
    · rw [Recorder.handle, append_of_rejected ha]
      exact ⟨rfl, rfl⟩
  | list _ _ _ => exact ⟨rfl, rfl⟩
  | clear k =>
    rw [Recorder.handle, Recorder.clear]
    split
    · exact ⟨rfl, rfl⟩
    · exact ⟨Function.update_of_ne h .., rfl⟩

/-! ### Pages -/

/-- Reading a key page by page: every page begins after the last entry of the page before. -/
def Recorder.pages (max : ℕ) (s : Recorder) (key : Text) : UInt64 → List ℤ → Except Err (List Entry)
  | _, [] => .ok []
  | after, limit :: limits => do
    let page ← s.list max key after limit
    let rest ← s.pages max key ((page.getLast?.map Entry.sequence).getD after) limits
    return page ++ rest

/-- The entries after a sequence number are the end of the numbered entries. -/
theorem filter_after {k : ℕ} {l : List Entry} (after : UInt64)
    (h : l.map (fun entry => entry.sequence.toNat) = List.range' k l.length) :
    l.filter (fun entry => after < entry.sequence) = l.drop (after.toNat + 1 - k) := by
  induction l generalizing k with
  | nil => simp
  | cons e l ih =>
    rw [List.map_cons, List.length_cons, List.range'_succ] at h
    obtain ⟨he, htail⟩ := List.cons.inj h
    rw [List.filter_cons, ih htail]
    by_cases hlt : after < e.sequence
    · have : after.toNat < e.sequence.toNat := UInt64.lt_iff_toNat_lt.mp hlt
      simp only [hlt, decide_true, if_true]
      rw [Nat.sub_eq_zero_of_le (by omega), Nat.sub_eq_zero_of_le (by omega)]
      rfl
    · have : ¬ after.toNat < e.sequence.toNat := fun hc => hlt (UInt64.lt_iff_toNat_lt.mpr hc)
      simp only [hlt, decide_false, Bool.false_eq_true, if_false]
      rw [show after.toNat + 1 - k = after.toNat + 1 - (k + 1) + 1 by omega, List.drop_succ_cons]

/-- The cursor after a page is where the next one begins. -/
theorem drop_cursor {k n : ℕ} {l : List Entry} (after : UInt64) (hn : 0 < n)
    (h : l.map (fun entry => entry.sequence.toNat) = List.range' k l.length) :
    l.drop
        (((((l.drop (after.toNat + 1 - k)).take n).getLast?.map Entry.sequence).getD after).toNat +
          1 - k) = (l.drop (after.toNat + 1 - k)).drop n := by
  generalize hstart : after.toNat + 1 - k = start
  rw [List.drop_drop]
  cases hlast : ((l.drop start).take n).getLast? with
  | none =>
    have hle : l.length ≤ start := by simpa [hn.ne'] using hlast
    rw [Option.map_none, Option.getD_none, hstart, List.drop_eq_nil_of_le hle,
      List.drop_eq_nil_of_le (by omega)]
  | some e =>
    rw [List.getLast?_eq_getElem?, List.length_take, List.length_drop, List.getElem?_take,
      List.getElem?_drop] at hlast
    split at hlast
    · next hlt =>
      have hi := List.getElem?_eq_some_iff.mp hlast
      have hseq : e.sequence.toNat = k + (start + (min n (l.length - start) - 1)) := by
        have := congrArg (fun m => m[start + (min n (l.length - start) - 1)]?) h
        simpa [hi.1, hi.2] using this
      have hlen := hi.1
      rw [Option.map_some, Option.getD_some, hseq]
      by_cases hfull : n ≤ l.length - start
      · congr 1
        omega
      · rw [List.drop_eq_nil_of_le (by omega), List.drop_eq_nil_of_le (by omega)]
    · cases hlast

/-- **Pages.** What is read is the entries after the cursor, each once and in order, as many as the
limits allow. -/
theorem pages_eq {k : ℕ} {key : Text} (hkey : validKey key = true)
    (hclone : (s.records key).map cloneEntry = s.records key)
    (hnum : (s.records key).map (fun entry => entry.sequence.toNat) =
      List.range' k (s.records key).length) (limits : List ℤ)
    (hlimits : ∀ limit ∈ limits, 0 < limit ∧ limit ≤ max) (after : UInt64) :
    s.pages max key after limits =
      .ok (((s.records key).drop (after.toNat + 1 - k)).take (limits.map Int.toNat).sum) := by
  induction limits generalizing after with
  | nil => simp [Recorder.pages]
  | cons limit limits ih =>
    obtain ⟨hl, hls⟩ := List.forall_mem_cons.mp hlimits
    have hlist : s.list max key after limit =
        .ok (((s.records key).drop (after.toNat + 1 - k)).take limit.toNat) := by
      rw [Recorder.list, if_neg (by simp [hkey]; omega), filter_after after hnum, List.map_take,
        List.map_drop, hclone]
    rw [Recorder.pages, hlist]
    simp only [bind, Except.bind, ih hls, pure, Except.pure, List.map_cons, List.sum_cons]
    rw [drop_cursor after (by omega) hnum, List.take_add]

end

/-- **The Recorder.** In every run, whatever `max`: what is kept of a key is the last `max` of the
entries accepted since it was cleared, numbered one after the other up to the last number accepted;
an entry is accepted if it is valid and continues that number, and only then; reading page by page
gives the entries that are kept, each once and in order; and a Command changes its own key only. -/
theorem recorder_window {max : ℕ} (hmax : 0 < max) {s : Recorder} {h : History}
    (hr : ((system max).logged {} (History.add max)).Reachable (s, h)) :
    (∀ key, s.records key = (lastOf max (h.accepted key)).map cloneEntry ∧
      (s.last key).toNat = h.last key ∧ (s.records key).length ≤ h.last key ∧
      (s.records key).map (fun entry => entry.sequence.toNat) =
        List.range' (h.last key + 1 - (s.records key).length) (s.records key).length) ∧
    (∀ entry, (s.append max entry).2 = none ↔
      validEntry entry = true ∧ entry.sequence.toNat = h.last entry.targetKey + 1) ∧
    (∀ key (limits : List ℤ), validKey key = true → (∀ limit ∈ limits, 0 < limit ∧ limit ≤ max) →
      s.pages max key 0 limits = .ok ((s.records key).take (limits.map Int.toNat).sum)) ∧
    ∀ c key, key ≠ c.key → (s.handle max c).records key = s.records key ∧
      (s.handle max c).last key = s.last key := by
  have hw : ∀ key, Window max (s.records key) (s.last key) (h.accepted key) (h.last key) :=
    (System.logged_invariant (J := fun _ => True)
      (I := fun s h => ∀ key, Window max (s.records key) (s.last key) (h.accepted key) (h.last key))
      (fun _ _ => trivial)
      (by rintro s rfl key; exact ⟨by simp [lastOf], rfl, le_refl _, rfl⟩)
      (by
        rintro s c s' h hI - - hs key
        cases hs
        exact window_step hmax hI key) hr).2
  refine ⟨fun key => ⟨(hw key).retained, (hw key).last, (hw key).sequences⟩, fun entry => ?_,
    fun key limits hkey hlimits => ?_, fun c key => handle_of_ne s⟩
  · rw [append_accepted_iff, (hw _).last]
  · have hclone : (s.records key).map cloneEntry = s.records key := by
      rw [(hw key).retained, List.map_map]
      rfl
    obtain ⟨hlen, hseq⟩ := (hw key).sequences
    rw [pages_eq hkey hclone hseq limits hlimits, Nat.sub_eq_zero_of_le, List.drop_zero]
    change 0 + 1 ≤ _
    omega

/-- An entry with a number. -/
def sampleEntry (sequence : UInt64) : Entry :=
  ⟨1, [107], ⟨[110], 1⟩, ⟨[110], 2⟩, sequence, 1, 1, .of [7], []⟩

theorem recorder_window_sample : ∃ s h, ((system 1).logged {} (History.add 1)).Reachable (s, h) ∧
    s.records [107] = [sampleEntry 2] ∧
    s.records [107] = (lastOf 1 (h.accepted [107])).map cloneEntry := by
  obtain ⟨⟨s, h⟩, hr, hp⟩ := System.exists_reachableUnder_of_run
    ((system 1).logged {} (History.add 1)) (fun _ _ => True)
    [.append (sampleEntry 1), .append (sampleEntry 2)] (s := ({}, {}))
    (fun p => p.1.records [107] = [sampleEntry 2]) ⟨rfl, rfl⟩ (by decide +kernel)
  exact ⟨s, h, hr, of_decide_eq_true hp, ((recorder_window (by decide) hr).1 [107]).1⟩

end GameServiceRuntime.Record
