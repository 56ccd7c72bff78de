import GameServiceRuntime.ServiceGroup.Directory

/-!
# Publishing is compare and set

Any number of clients publish through one directory, other Commands come in between, and a client
may give up on a call whose request is still waiting or whose reply is under way. The directory
handles one Command at a time, so what it does is one sequence of publications; the question is
what that sequence looks like, and what a client that sees a success may conclude from it.

The publications are kept as a history beside the directory. The `k`-th one of a group has revision
`k + 1` and was made against the version of the one before it, or against the zero version. That
one fact (`Entry`) is what the induction carries; that revisions have no gap, that no two
publications of a group expected the same version, and that the counter does not wrap are read off
from it.

A client's success says more than that the directory agreed: it says that the directory committed
what this client sent. The directory normalizes the set again, and what is normalized stays as it
is.

## Main results

* `normalizeServiceSet_idem` — what is normalized stays as it is
* `Linear.handle` — one Command extends the sequence of publications
* `publish_linear` — the whole statement, about every state of directory and clients
-/

namespace GameServiceRuntime.ServiceGroup

open Control

/-! ### Clients -/

/-- The errors of a client: those of the directory, a failed `Call`, and `ErrInvalidResponse`. -/
inductive ClientErr
  | directory (err : Err)
  | call
  | invalidResponse
  deriving DecidableEq

def serviceSetFromResponse (reply : Reply) (name : Text) : Except ClientErr ServiceSet :=
  match reply with
  | .set set =>
    if !validServiceSet (cloneServiceSet set) || set.name ≠ name then .error .invalidResponse
    else .ok (cloneServiceSet set)
  | .error .invalidRequest => .error .invalidResponse
  | .error err => .error (.directory err)
  | .watch _ | .lease _ | .empty | .none => .error .invalidResponse

/-- One call of `Client.Publish`, by a Service or a Runtime with its own reference. -/
structure Call where
  source : ServiceRef
  name : Text
  expected : Version
  refs : List ServiceRef
  tags : Tags

namespace Call

/-- The first half of `Client.Publish`: the set that is sent. -/
def input (c : Call) : Except Err ServiceSet :=
  if !validExpectedVersion c.expected then .error .invalidServiceSet
  else normalizeServiceSet c.name c.refs c.tags

/-- The Command a client sends. -/
def request (c : Call) (input : ServiceSet) : Command :=
  .publish input.name c.expected input.refs.elems (cloneTags input.tags)

/-- The second half of `Client.Publish`: what is made of the reply. -/
def result (c : Call) (input : ServiceSet) (reply : Reply) : Except ClientErr ServiceSet :=
  match serviceSetFromResponse reply input.name with
  | .error err => .error err
  | .ok set =>
    if c.expected = ⟨0, 0⟩ && set.version.revision ≠ 1 then .error .invalidResponse
    else if c.expected ≠ ⟨0, 0⟩ && (set.version.authorityEpoch ≠ c.expected.authorityEpoch ||
        set.version.revision ≠ c.expected.revision + 1) then
      .error .invalidResponse
    else if !sameServiceSetContent set input then .error .invalidResponse
    else .ok (cloneServiceSet set)

end Call

/-- A call under way. The request may be handled after its client has given up. -/
structure Pending where
  call : Call
  input : ServiceSet
  /-- The directory has not handled the request. -/
  queued : Bool := true
  reply : Option Reply := none
  /-- What `Client.Publish` returned. -/
  result : Option (Except ClientErr ServiceSet) := none

/-- A successful publication, and the call it came from if a client made it. -/
structure Commit where
  call : Option ℕ
  name : Text
  expected : Version
  set : ServiceSet

/-- What an input publishes, read off from the reply. -/
def commit (n : Option ℕ) (i : Input) (o : Outcome) : Option Commit :=
  match i.command, o.reply with
  | .publish name expected _ _, .set set => some ⟨n, name, expected, set⟩
  | _, _ => none

/-- The directory, the calls, and the history of what was published. -/
structure World where
  directory : Directory := {}
  calls : ℕ → Option Pending := fun _ => none
  commits : List Commit := []

/-- What can happen. -/
inductive Action
  /-- A client calls `Publish`. -/
  | start (n : ℕ) (call : Call)
  /-- The directory handles the request of a call. -/
  | handle (n : ℕ) (now : Time) (timer : Bool) (delivers : ServiceRef → Bool)
  /-- The directory handles some other Command. -/
  | other (i : Input)
  /-- A client gets its reply. -/
  | finish (n : ℕ)
  /-- A client's `Call` fails. -/
  | fail (n : ℕ)

namespace World

variable (cfg : Config) (w : World)

/-- The directory handles an input that belongs to a call or to none. -/
def handle (n : Option ℕ) (i : Input) : World :=
  let o := w.directory.handle cfg i
  { w with directory := o.directory, commits := w.commits ++ (commit n i o).toList }

/-- The call moves on. -/
def setCall (n : ℕ) (p : Pending) : World :=
  { w with calls := Function.update w.calls n (some p) }

end World

/-- Clients that publish through one directory. -/
def publishing (cfg : Config) : System World Action where
  init w := w = {}
  step w
    | .start n call =>
      if (w.calls n).isSome then none
      else
        match call.input with
        | .error err =>
          some (w.setCall n ⟨call, {}, false, none, some (.error (.directory err))⟩)
        | .ok input => some (w.setCall n ⟨call, input, true, none, none⟩)
    | .handle n now timer delivers =>
      match w.calls n with
      | some ⟨call, input, true, _, result⟩ =>
        let i : Input := ⟨now, call.source, call.request input, timer, delivers⟩
        some ((w.handle cfg n i).setCall n
          ⟨call, input, false, some (w.directory.handle cfg i).reply, result⟩)
      | _ => none
    | .other i => some (w.handle cfg none i)
    | .finish n =>
      match w.calls n with
      | some ⟨call, input, queued, some reply, none⟩ =>
        some (w.setCall n ⟨call, input, queued, some reply, some (call.result input reply)⟩)
      | _ => none
    | .fail n =>
      match w.calls n with
      | some ⟨call, input, queued, reply, none⟩ =>
        some (w.setCall n ⟨call, input, queued, reply, some (.error .call)⟩)
      | _ => none

/-! ### Normalized sets -/

theorem neighboursDiffer_iff_isChain {l : List ServiceRef} :
    neighboursDiffer id l = true ↔ l.IsChain (· ≠ ·) := by
  induction l with
  | nil => simp [neighboursDiffer]
  | cons a l ih =>
    cases l with
    | nil => simp [neighboursDiffer]
    | cons b l => simp [neighboursDiffer, ih]

/-- Sorted references, each once. -/
structure Distinct (refs : List ServiceRef) : Prop where
  sorted : refs.Pairwise fun a b => (id b).less (id a) = false
  chain : refs.IsChain (· ≠ ·)

theorem distinct_destutter (refs : List ServiceRef) :
    Distinct ((sortByRef id refs).destutter (· ≠ ·)) where
  sorted := (pairwise_sortByRef id refs).sublist (List.destutter_sublist ..)
  chain := List.isChain_destutter ..

variable {refs : List ServiceRef}

theorem Distinct.ascending (h : Distinct refs) :
    ascending id refs = true :=
  ascending_of_pairwise id h.sorted (neighboursDiffer_iff_isChain.mpr h.chain)

/-- Sorting again and dropping repetitions again changes nothing. -/
theorem Distinct.destutter_eq (h : Distinct refs) :
    (sortByRef id refs).destutter (· ≠ ·) = refs := by
  have hsort : sortByRef id refs = refs := List.Pairwise.insertionSort_eq h.sorted
  rw [hsort]
  exact List.destutter_of_isChain _ _ h.chain

/-- What normalization gives. -/
structure Normal (set : ServiceSet) : Prop where
  name : set.name.trimmed = true
  refs : ∃ refs, set.refs = .of refs ∧ Distinct refs ∧ refs.all validGroupRef = true
  tags : ∃ tags, set.tags = some tags ∧ validTags tags = true

theorem normal_of_normalize {name : Text} {tags : Tags} {set : ServiceSet}
    (h : normalizeServiceSet name refs tags = .ok set) :
    Normal set ∧ set.name = name ∧ set.version = ⟨0, 0⟩ := by
  unfold normalizeServiceSet at h
  split at h
  · cases h
  next hname =>
    split at h
    · cases h
    next hrefs =>
      split at h
      · cases h
      next htags =>
        cases h
        refine ⟨⟨by simpa using hname, ⟨_, rfl, distinct_destutter refs, ?_⟩, ?_⟩, rfl, rfl⟩
        · rw [List.all_eq_true]
          intro ref href
          have hmem : ref ∈ refs :=
            (mem_sortByRef id).mp ((List.destutter_sublist (· ≠ ·) _).mem href)
          simp only [Bool.not_eq_eq_eq_not, Bool.not_true, Bool.not_eq_false] at hrefs
          exact List.all_eq_true.mp hrefs ref hmem
        · refine ⟨tags.getD ∅, rfl, ?_⟩
          cases tags with
          | none => rfl
          | some tags => simpa using htags

namespace Normal

variable {set : ServiceSet} (h : Normal set)
include h

theorem withVersion (version : Version) : Normal { set with version := version } :=
  ⟨h.name, h.refs, h.tags⟩

@[simp] theorem clone_eq : cloneServiceSet set = set := by
  obtain ⟨refs, hrefs, -⟩ := h.refs
  obtain ⟨tags, htags, -⟩ := h.tags
  cases set
  simp_all [cloneServiceSet, cloneTags]

theorem valid (hv : validVersion set.version = true) : validServiceSet set = true := by
  obtain ⟨refs, hrefs, hd, hall⟩ := h.refs
  obtain ⟨tags, htags, hvalid⟩ := h.tags
  simp [validServiceSet, validSet, h.name, hv, hrefs, htags, hvalid, hd.ascending, hall]

end Normal

/-- **What is normalized stays as it is.** -/
theorem normalizeServiceSet_idem {name : Text} {tags : Tags}
    {set : ServiceSet} (h : normalizeServiceSet name refs tags = .ok set) :
    normalizeServiceSet set.name set.refs.elems (cloneTags set.tags) = .ok set := by
  obtain ⟨hn, -, hversion⟩ := normal_of_normalize h
  obtain ⟨rs, hrefs, hd, hall⟩ := hn.refs
  obtain ⟨ts, htags, hvalid⟩ := hn.tags
  have hname := hn.name
  cases set with
  | mk sname sversion srefs stags =>
    subst hrefs htags hversion
    simp only [normalizeServiceSet, hname, Slice.elems_of, hall, cloneTags, Option.getD_some,
      Option.all_some, hvalid, hd.destutter_eq, Bool.not_true, Bool.false_eq_true, if_false]

/-! ### What a Command does to the groups -/

section Handlers

variable {cfg : Config} {s s' : Directory} {source : ServiceRef} {name : Text} {expected : Version}
  {set : ServiceSet}

/-- The version a client has to expect. -/
def Directory.version (s : Directory) (name : Text) : Version :=
  (s.groups.lookup name).elim ⟨0, 0⟩ ServiceSet.version

/-- A publication that the directory accepts. -/
structure Publishes (cfg : Config) (s : Directory) (name : Text) (expected : Version)
    (set : ServiceSet) : Prop where
  normal : Normal set
  named : set.name = name
  expected_eq : expected = s.version name
  version_eq : set.version = ⟨cfg.authorityEpoch, expected.revision + 1⟩
  room : expected.revision ≠ UInt64.ofNat (2 ^ 64 - 1)

variable {refs : List ServiceRef} {tags : Tags}

theorem publish_ok (h : s.publish cfg source name expected refs tags = .ok (s', set)) :
    Publishes cfg s name expected set ∧ s' = { s with groups := s.groups.insert name set } ∧
      ∃ input, normalizeServiceSet name refs tags = .ok input ∧
        set = { input with version := set.version } := by
  unfold Directory.publish at h
  split at h
  · cases h
  split at h
  · cases h
  split at h
  · cases h
  next input hinput =>
    obtain ⟨hnormal, hname, -⟩ := normal_of_normalize hinput
    split at h
    next current hcurrent =>
      split at h
      · cases h
      next hversion =>
        split at h
        · cases h
        next hroom =>
          cases h
          have hv : current.version = expected := by simpa using hversion
          have hn := hnormal.withVersion ⟨cfg.authorityEpoch, current.version.revision + 1⟩
          refine ⟨⟨hn, hname, ?_, by rw [hv], by rw [← hv]; exact hroom⟩, ?_, input, hinput, rfl⟩
          · simp [Directory.version, hcurrent, hv]
          · rw [hn.clone_eq]
    next hcurrent =>
      split at h
      · cases h
      next hexpected =>
        cases h
        have he : expected = ⟨0, 0⟩ := by simpa using hexpected
        have hn := hnormal.withVersion ⟨cfg.authorityEpoch, 1⟩
        refine ⟨⟨hn, hname, ?_, by rw [he]; rfl, by rw [he]; decide⟩, ?_, input, hinput, rfl⟩
        · simp [Directory.version, hcurrent, he]
        · rw [hn.clone_eq]

/-- What a Command stores, and whom it tells. -/
inductive Stores (cfg : Config) (s : Directory) (n : Option ℕ) (i : Input) (o : Outcome) :
    Option Commit → Prop
  /-- Nothing, and nobody. -/
  | nothing (hgroups : o.directory.groups = s.groups) (hnotes : o.notes = []) :
      Stores cfg s n i o none
  /-- A set that was published against the stored version, and those who watch it. -/
  | stored {c : Commit} (hc : Publishes cfg s c.name c.expected c.set) (hn : c.call = n)
      (hgroups : o.directory.groups = s.groups.insert c.name c.set)
      (hnotes : o.notes = o.directory.notifyWatchers i.delivers c.set) : Stores cfg s n i o (some c)

theorem perform_stores (n : Option ℕ) (i : Input) :
    Stores cfg s n i (s.perform cfg i) (commit n i (s.perform cfg i)) := by
  have h := @Directory.perform_moves cfg s i
  generalize s.perform cfg i = o at h ⊢
  cases h with
  | kept hreply =>
    rcases hreply with ⟨err, rfl⟩ | ⟨hi, rfl⟩ | ⟨⟨name, hi⟩, set, rfl⟩
    · unfold commit
      cases i.command <;> exact .nothing rfl rfl
    · rw [commit, hi]
      exact .nothing rfl rfl
    · rw [commit, hi]
      exact .nothing rfl rfl
  | @published name expected _ _ s' set hi h =>
    obtain ⟨hp, rfl, -⟩ := publish_ok h
    rw [commit, hi, hp.normal.clone_eq]
    exact .stored (c := ⟨n, name, expected, set⟩) hp rfl rfl rfl
  | watched hi | renewed hi | unwatched hi | swept hi =>
    rw [commit, hi]
    exact .nothing rfl rfl

theorem handle_stores (n : Option ℕ) (i : Input) :
    Stores cfg s n i (s.handle cfg i) (commit n i (s.handle cfg i)) := by
  have h := @perform_stores cfg (s.pruneExpiredWatches i.now) n i
  rw [← Directory.handle] at h
  generalize commit n i (s.handle cfg i) = c at h ⊢
  cases h with
  | nothing hg hnotes => exact .nothing hg hnotes
  | stored hc hn hg hnotes =>
    exact .stored ⟨hc.normal, hc.named, hc.expected_eq, hc.version_eq, hc.room⟩ hn hg hnotes

/-- A publication that is answered by a set has committed the normalized input. -/
theorem handle_publish_reply {i : Input} (hi : i.command = .publish name expected refs tags)
    (hr : (s.handle cfg i).reply = .set set) :
    set.version = ⟨cfg.authorityEpoch, expected.revision + 1⟩ ∧
      ∃ input, normalizeServiceSet name refs tags = .ok input ∧
        set = { input with version := set.version } := by
  simp only [Directory.handle, Directory.perform, hi] at hr
  cases h : (s.pruneExpiredWatches i.now).publish cfg i.source name expected refs tags with
  | error err =>
    rw [h] at hr
    cases hr
  | ok r =>
    obtain ⟨s', stored⟩ := r
    obtain ⟨hp, -, hinput⟩ := publish_ok h
    have hset : stored = set := by
      rw [h] at hr
      simpa [hp.normal.clone_eq] using hr
    subst hset
    exact ⟨hp.version_eq, hinput⟩

/-- A publication that is refused changes nothing and notifies nobody: what is left is what the
Command found once the expired leases were gone. -/
theorem handle_publish_error {i : Input} {err : Err}
    (hi : i.command = .publish name expected refs tags)
    (hr : (s.handle cfg i).reply = .error err) :
    (s.handle cfg i).directory = s.pruneExpiredWatches i.now ∧ (s.handle cfg i).notes = [] := by
  simp only [Directory.handle, Directory.perform, hi] at hr ⊢
  cases h : (s.pruneExpiredWatches i.now).publish cfg i.source name expected refs tags with
  | error err => exact ⟨rfl, rfl⟩
  | ok r =>
    rw [h] at hr
    cases hr

end Handlers

/-! ### The sequence of publications -/

section History

variable {cfg : Config} {s s' : Directory} {log : List Commit} {name : Text} {c : Commit}

/-- The publications of a group, in order. -/
def published (log : List Commit) (name : Text) : List Commit := log.filter (·.name = name)

theorem published_append (log : List Commit) (c : Commit) (name : Text) :
    published (log ++ [c]) name =
      if c.name = name then published log name ++ [c] else published log name := by
  rw [published, List.filter_append, published]
  split_ifs with h <;> simp [h]

/-- The `k`-th publication of a group. -/
structure Entry (cfg : Config) (name : Text) (k : ℕ) (c : Commit) : Prop where
  bound : k + 1 < 2 ^ 64
  version_eq : c.set.version = ⟨cfg.authorityEpoch, UInt64.ofNat (k + 1)⟩
  expected_eq : c.expected = if k = 0 then ⟨0, 0⟩ else ⟨cfg.authorityEpoch, UInt64.ofNat k⟩
  normal : Normal c.set
  named : c.set.name = name

/-- What is stored is what was published last, and the publications are counted. -/
structure Linear (cfg : Config) (s : Directory) (log : List Commit) : Prop where
  stored : ∀ name, s.groups.lookup name = (published log name).getLast?.map Commit.set
  entry : ∀ name k c, (published log name)[k]? = some c → Entry cfg name k c

/-- The stored version is the number of publications. -/
theorem Linear.version_eq (h : Linear cfg s log) (name : Text) :
    s.version name = if (published log name).length = 0 then ⟨0, 0⟩
      else ⟨cfg.authorityEpoch, UInt64.ofNat (published log name).length⟩ := by
  rw [Directory.version, h.stored]
  rcases List.eq_nil_or_concat (published log name) with hnil | ⟨l, c, hl⟩
  · simp [hnil]
  · have hentry := h.entry name l.length c (by simp [hl])
    simp [hl, hentry.version_eq]

theorem Linear.nothing (h : Linear cfg s log) (hgroups : s'.groups = s.groups) :
    Linear cfg s' log :=
  ⟨fun name => by rw [hgroups]; exact h.stored name, h.entry⟩

/-- A publication extends the sequence of its group by one. -/
theorem Linear.extend (h : Linear cfg s log) (hc : Publishes cfg s c.name c.expected c.set)
    (hgroups : s'.groups = s.groups.insert c.name c.set) : Linear cfg s' (log ++ [c]) := by
  constructor
  · intro name
    rw [hgroups, Table.lookup_insert_ite, published_append]
    by_cases hname : name = c.name
    · rw [if_pos hname, if_pos hname.symm]
      simp
    · rw [if_neg hname, if_neg (Ne.symm hname)]
      exact h.stored name
  · intro name k d hd
    rw [published_append] at hd
    split_ifs at hd with hname
    · subst hname
      rw [List.getElem?_append] at hd
      split_ifs at hd with hk
      · exact h.entry c.name k d hd
      · -- the new entry is the last one, so its number is that of the stored version
        obtain ⟨hk', rfl⟩ : k = (published log c.name).length ∧ c = d := by
          have := List.getElem?_eq_some_iff.mp hd
          simp only [List.length_singleton] at this
          obtain ⟨hlt, hget⟩ := this
          exact ⟨by omega, by simpa using hget⟩
        have hexp := hc.expected_eq
        rw [h.version_eq, ← hk'] at hexp
        have hrev : c.expected.revision = UInt64.ofNat k := by
          rw [hexp]
          split_ifs with h0
          · rw [h0]
            rfl
          · rfl
        have hlt : k < 2 ^ 64 := by
          rcases Nat.eq_zero_or_pos k with h0 | hpos
          · omega
          · have hlast : (published log c.name)[k - 1]? =
                some ((published log c.name).get ⟨k - 1, by omega⟩) := by
              rw [List.getElem?_eq_getElem (by omega)]
              rfl
            have := (h.entry c.name (k - 1) _ hlast).bound
            omega
        have hroom : k ≠ 2 ^ 64 - 1 := fun hmax => hc.room (by rw [hrev, hmax])
        refine ⟨by omega, ?_, hexp, hc.normal, hc.named⟩
        rw [hc.version_eq, hrev, UInt64.ofNat_add]
        rfl
    · exact h.entry name k d hd

/-- **One Command extends the sequence of publications.** -/
theorem Linear.handle (h : Linear cfg s log) (n : Option ℕ) (i : Input) :
    Linear cfg (s.handle cfg i).directory (log ++ (commit n i (s.handle cfg i)).toList) := by
  have hs := @handle_stores cfg s n i
  generalize commit n i (s.handle cfg i) = c at hs ⊢
  cases hs with
  | nothing hg =>
    rw [Option.toList_none, List.append_nil]
    exact h.nothing hg
  | stored hc _ hg => exact h.extend hc hg

variable (h : Linear cfg s log)
include h

theorem Linear.revisions (name : Text) :
    (published log name).map (fun c => c.set.version.revision.toNat) =
      List.range' 1 (published log name).length := by
  refine List.ext_getElem? fun k => ?_
  rw [List.getElem?_map]
  cases hk : (published log name)[k]? with
  | none =>
    have hlen := List.getElem?_eq_none_iff.mp hk
    rw [List.getElem?_eq_none_iff.mpr (by simpa using hlen)]
    rfl
  | some c =>
    obtain ⟨hlt, -⟩ := List.getElem?_eq_some_iff.mp hk
    have he := h.entry name k c hk
    rw [List.getElem?_range' hlt, Option.map_some, he.version_eq]
    simp only [Option.some.injEq]
    rw [UInt64.toNat_ofNat_of_lt' he.bound]
    omega

theorem Linear.expected {k : ℕ} (hk : (published log name)[k]? = some c) :
    c.expected = ((published log name).take k).getLast?.elim ⟨0, 0⟩ (·.set.version) := by
  have he := (h.entry name k c hk).expected_eq
  obtain ⟨hlt, -⟩ := List.getElem?_eq_some_iff.mp hk
  rw [he, List.getLast?_take]
  cases k with
  | zero => rfl
  | succ j =>
    have hj : (published log name)[j]? = some ((published log name).get ⟨j, by omega⟩) :=
      List.getElem?_eq_getElem (by omega)
    have hversion := (h.entry name j _ hj).version_eq
    simp only [Nat.succ_ne_zero, if_false, Nat.add_sub_cancel, hj, Option.some_or, Option.elim_some,
      hversion]

/-- The version a publication expected tells which one it was. -/
theorem Linear.eq_of_expected {j k : ℕ} {d : Commit} (hj : (published log name)[j]? = some c)
    (hk : (published log name)[k]? = some d) (he : c.expected = d.expected) : j = k := by
  have hc := h.entry name j c hj
  have hd := h.entry name k d hk
  have hbj := hc.bound
  have hbk := hd.bound
  rw [hc.expected_eq, hd.expected_eq] at he
  have hrev := congrArg (fun v => v.revision.toNat) he
  have hval : ∀ n < 2 ^ 64, ((if n = 0 then ⟨0, 0⟩
      else ⟨cfg.authorityEpoch, UInt64.ofNat n⟩ : Version)).revision.toNat = n := by
    intro n hn
    split_ifs with h0
    · rw [h0]
      rfl
    · exact UInt64.toNat_ofNat_of_lt' hn
  simp only [hval j (by omega), hval k (by omega)] at hrev
  exact hrev

theorem Linear.once (name : Text) (v : Version) :
    ((published log name).filter (·.expected = v)).length ≤ 1 := by
  have hpair : (published log name).Pairwise fun c d => c.expected ≠ d.expected := by
    rw [List.pairwise_iff_getElem]
    intro j k hj hk hlt heq
    have := h.eq_of_expected (List.getElem?_eq_getElem hj) (List.getElem?_eq_getElem hk) heq
    omega
  have hfilter := hpair.sublist (List.filter_sublist (p := fun c => decide (c.expected = v)))
  match hl : (published log name).filter (·.expected = v) with
  | [] => rw [hl]; exact Nat.zero_le 1
  | [_] => rw [hl]; exact le_refl 1
  | c :: d :: l =>
    rw [hl, List.pairwise_cons] at hfilter
    have hmem : ∀ e ∈ c :: d :: l, e.expected = v := by
      rw [← hl]
      intro e he
      simpa using (List.mem_filter.mp he).2
    exact absurd ((hmem c (by simp)).trans (hmem d (by simp)).symm) (hfilter.1 d (by simp))

theorem Linear.valid {set : ServiceSet} (hset : s.groups.lookup name = some set) :
    validServiceSet set = true ∧ set.name = name := by
  rw [h.stored] at hset
  obtain ⟨c, hlast, rfl⟩ := Option.map_eq_some_iff.mp hset
  obtain ⟨l, hl⟩ := List.getLast?_eq_some_iff.mp hlast
  have he := h.entry name l.length c (by simp [hl])
  refine ⟨he.normal.valid ?_, he.named⟩
  have hne : UInt64.ofNat (l.length + 1) ≠ 0 := by
    intro h0
    have := congrArg UInt64.toNat h0
    rw [UInt64.toNat_ofNat_of_lt' he.bound] at this
    simp at this
  rw [validVersion, he.version_eq, Bool.and_eq_true]
  exact ⟨decide_eq_true cfg.epoch_ne_zero, decide_eq_true hne⟩

end History

/-! ### What a client may conclude -/

section Clients

variable {cfg : Config} {w w' : World} {n : ℕ}

/-- The directory committed what a call sent, at the revision after the one it expected. -/
structure Committed (cfg : Config) (commits : List Commit) (n : ℕ) (c : Call) (input : ServiceSet)
    (set : ServiceSet) : Prop where
  /-- The call's arguments, normalized. -/
  input_eq : normalizeServiceSet c.name c.refs c.tags = .ok input
  set_eq : set = { input with version := ⟨cfg.authorityEpoch, c.expected.revision + 1⟩ }
  mem : ⟨some n, c.name, c.expected, set⟩ ∈ commits

/-- What is known of a call under way. -/
structure Honest (cfg : Config) (commits : List Commit) (n : ℕ) (p : Pending) : Prop where
  sent : p.queued = true ∨ p.reply.isSome = true → p.call.input = .ok p.input
  replied : ∀ set, p.reply = some (.set set) → Committed cfg commits n p.call p.input set
  returned : ∀ set, p.result = some (.ok set) → Committed cfg commits n p.call p.input set

theorem Honest.mono {commits commits' : List Commit} {p : Pending} (h : Honest cfg commits n p)
    (hsub : commits ⊆ commits') : Honest cfg commits' n p :=
  ⟨h.sent, fun set hr => { h.replied set hr with mem := hsub (h.replied set hr).mem },
    fun set hr => { h.returned set hr with mem := hsub (h.returned set hr).mem }⟩

variable {input : ServiceSet} {c : Call}

theorem input_ok (h : c.input = .ok input) :
    normalizeServiceSet c.name c.refs c.tags = .ok input := by
  unfold Call.input at h
  split at h
  · cases h
  · exact h

/-- A client that returns a set was replied that set. -/
theorem reply_of_result {set : ServiceSet} {reply : Reply} (h : c.result input reply = .ok set) :
    ∃ set', reply = .set set' ∧ set = cloneServiceSet (cloneServiceSet set') := by
  unfold Call.result at h
  split at h
  · cases h
  next received hr =>
    have hset : set = cloneServiceSet received := by
      repeat' split at h
      all_goals cases h
      rfl
    unfold serviceSetFromResponse at hr
    split at hr
    next set' =>
      split at hr <;> cases hr
      exact ⟨set', rfl, hset⟩
    all_goals cases hr

/-- The directory's answer to a call. -/
theorem committed_of_reply {s : Directory} {commits : List Commit} {i : Input} {set : ServiceSet}
    (hinput : c.input = .ok input)
    (hi : i.command = c.request input) (hr : (s.handle cfg i).reply = .set set) :
    Committed cfg (commits ++ (commit (some n) i (s.handle cfg i)).toList) n c input set := by
  have hn := input_ok hinput
  obtain ⟨hversion, input', hinput', hset⟩ := handle_publish_reply hi hr
  rw [normalizeServiceSet_idem hn] at hinput'
  cases hinput'
  have hcommit : commit (some n) i (s.handle cfg i) =
      some ⟨some n, input.name, c.expected, set⟩ := by
    rw [commit, hi, hr]
    rfl
  refine ⟨hn, by rw [hset, hversion], ?_⟩
  rw [hcommit, (normal_of_normalize hn).2.1]
  simp

/-- The invariant of directory, history and clients. -/
structure World.Inv (cfg : Config) (w : World) : Prop where
  linear : Linear cfg w.directory w.commits
  honest : ∀ n p, w.calls n = some p → Honest cfg w.commits n p

theorem World.Inv.handle (h : w.Inv cfg) (n : Option ℕ) (i : Input) : (w.handle cfg n i).Inv cfg :=
  ⟨h.linear.handle n i, fun m p hp => (h.honest m p hp).mono (List.subset_append_left ..)⟩

theorem World.Inv.setCall (h : w.Inv cfg) {p : Pending} (hp : Honest cfg w.commits n p) :
    (w.setCall n p).Inv cfg := by
  refine ⟨h.linear, fun m q hq => ?_⟩
  simp only [World.setCall, Function.update_apply] at hq
  split_ifs at hq with hm
  · cases hq
    subst hm
    exact hp
  · exact h.honest m q hq

theorem World.Inv.step {a : Action} (h : w.Inv cfg) (hs : (publishing cfg).step w a = some w') :
    w'.Inv cfg := by
  cases a with
  | start n call =>
    simp only [publishing] at hs
    split at hs
    · cases hs
    split at hs
    · cases hs
      exact h.setCall ⟨by simp, by simp, by simp⟩
    next input hinput =>
      cases hs
      exact h.setCall ⟨fun _ => hinput, by simp, by simp⟩
  | handle n now timer delivers =>
    simp only [publishing] at hs
    split at hs
    next call input reply result hn =>
      cases hs
      have hp := h.honest n _ hn
      have hinput : call.input = .ok input := hp.sent (.inl rfl)
      refine (h.handle (some n) _).setCall ⟨fun _ => hinput, fun set hr => ?_, ?_⟩
      · exact committed_of_reply hinput rfl (Option.some.inj hr)
      · exact (hp.mono (List.subset_append_left ..)).returned
    · cases hs
  | other i =>
    cases hs
    exact h.handle none i
  | finish n =>
    simp only [publishing] at hs
    split at hs
    next call input queued reply hn =>
      cases hs
      have hp := h.honest n _ hn
      refine h.setCall ⟨hp.sent, hp.replied, fun set hr => ?_⟩
      obtain ⟨set', rfl, hset⟩ := reply_of_result (Option.some.inj hr)
      have hc := hp.replied set' rfl
      have hnormal : Normal set' := by
        rw [hc.set_eq]
        exact (normal_of_normalize hc.input_eq).1.withVersion _
      rw [hnormal.clone_eq, hnormal.clone_eq] at hset
      rw [hset]
      exact hc
    · cases hs
  | fail n =>
    simp only [publishing] at hs
    split at hs
    next call input queued reply hn =>
      cases hs
      have hp := h.honest n _ hn
      exact h.setCall ⟨hp.sent, hp.replied, by simp⟩
    · cases hs

theorem inv_reachable (h : (publishing cfg).Reachable w) : w.Inv cfg := by
  refine h.invariant (I := World.Inv cfg) ?_ fun s a s' hs _ hstep => hs.step hstep
  rintro s rfl
  refine ⟨⟨fun name => rfl, fun name k c hc => ?_⟩, fun n p hp => ?_⟩
  · simp [published] at hc
  · simp at hp

end Clients

/-! ### The statement -/

/-- **Compare and set**, of a directory, its clients and the history of its publications. -/
structure CompareAndSet (cfg : Config) (w : World) : Prop where
  /-- The revisions of a group are `1, 2, 3, …`, one for each publication. -/
  revisions : ∀ name, (published w.commits name).map (fun c => c.set.version.revision.toNat) =
    List.range' 1 (published w.commits name).length
  /-- What is stored is what was published last. -/
  stored : ∀ name,
    w.directory.groups.lookup name = (published w.commits name).getLast?.map Commit.set
  /-- A publication expected the version stored just before it, or else the zero version. -/
  expected : ∀ name k c, (published w.commits name)[k]? = some c →
    c.expected = ((published w.commits name).take k).getLast?.elim ⟨0, 0⟩ (·.set.version)
  /-- Of the publications of a group that expect one version at most one succeeds. -/
  once : ∀ name v, ((published w.commits name).filter (·.expected = v)).length ≤ 1
  /-- What is stored is valid. -/
  valid : ∀ name set, w.directory.groups.lookup name = some set →
    validServiceSet set = true ∧ set.name = name
  /-- A publication that fails leaves everything as it found it, and notifies nobody. The leases
  that have expired are dropped before any Command is looked at. -/
  failed : ∀ (i : Input) name expected refs tags err,
    i.command = .publish name expected refs tags →
    (w.directory.handle cfg i).reply = .error err →
    (w.directory.handle cfg i).directory = w.directory.pruneExpiredWatches i.now ∧
      (w.directory.handle cfg i).directory.groups = w.directory.groups ∧
      (∀ g r, (w.directory.handle cfg i).directory.watching g r =
        (w.directory.watching g r).filter fun lease => i.now < lease.expiresAt) ∧
      (w.directory.handle cfg i).notes = []
  /-- A client that returns a set knows that its own input was committed. -/
  client : ∀ n p set, w.calls n = some p → p.result = some (.ok set) →
    Committed cfg w.commits n p.call p.input set

/-- **Publishing is compare and set.** -/
theorem publish_linear {cfg : Config} {w : World} (h : (publishing cfg).Reachable w) :
    CompareAndSet cfg w := by
  have hw := inv_reachable h
  constructor
  · exact hw.linear.revisions
  · exact hw.linear.stored
  · intro name k c hk
    exact hw.linear.expected hk
  · exact hw.linear.once
  · intro name set hset
    exact hw.linear.valid hset
  · intro i name expected refs tags err hi hr
    obtain ⟨hd, hn⟩ := handle_publish_error hi hr
    refine ⟨hd, by rw [hd]; rfl, fun g r => ?_, hn⟩
    rw [hd]
    exact Directory.watching_pruneExpiredWatches i.now g r
  · intro n p set hp hr
    exact (hw.honest n p hp).returned set hr

/-- A directory with epoch `7` that node `n` publishes to. -/
def sampleConfig : Config := ⟨"n", 30, 7, by decide⟩

/-- Two clients publish against the zero version, and the one that wins publishes again. -/
def contendedRun : List Action :=
  let source : ServiceRef := ⟨"n", 1⟩
  let call (expected : Version) : Call :=
    ⟨source, "g", expected, [source, source], none⟩
  [.start 0 (call ⟨0, 0⟩), .start 1 (call ⟨0, 0⟩), .handle 1 1 true fun _ => true,
    .handle 0 1 true fun _ => true, .finish 0, .finish 1, .start 2 (call ⟨7, 1⟩),
    .handle 2 2 true fun _ => true, .finish 2]

theorem publish_linear_contendedRun :
    ∃ w, (publishing sampleConfig).Reachable w ∧
      ((published w.commits "g").length = 2 ∧
        (w.calls 0).bind Pending.result = some (.error (.directory .versionConflict))) ∧
      CompareAndSet sampleConfig w := by
  obtain ⟨w, hw, hp⟩ := (publishing sampleConfig).exists_reachableUnder_of_run (fun _ _ => True)
    contendedRun (s := {})
    (fun w => (published w.commits "g").length = 2 ∧
      (w.calls 0).bind Pending.result = some (.error (.directory .versionConflict))) rfl
    (by decide +kernel)
  exact ⟨w, hw, of_decide_eq_true hp, publish_linear hw⟩

end GameServiceRuntime.ServiceGroup
