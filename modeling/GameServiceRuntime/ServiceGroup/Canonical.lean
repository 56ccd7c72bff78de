import GameServiceRuntime.Control.Valid
import GameServiceRuntime.ServiceGroup.Watch

/-!
# One form for every set

A set of services is published in one form: references in order, each once, and tags that are not
nil. Three pieces of code make that form. The directory and its clients sort and drop repetitions,
the coordinator does the same to the request of a drain, and for a recovery it keeps the references
distinct first and sorts by exchanges. A validator, written for itself, checks the strict order.

They agree because the order is strict: a list in strict order is determined by its members
(`eq_of_ascending`), so it is enough to know the members of what each of them makes.
-/

namespace GameServiceRuntime

open Control

/-! ### Lists in strict order -/

namespace ServiceRef

theorem key_injective : Function.Injective key := by
  rintro ⟨n, i⟩ ⟨m, j⟩ h
  obtain ⟨hn, hi⟩ := Prod.ext_iff.1 (toLex_inj.1 h)
  rw [mk.injEq]
  exact ⟨Text.codes_injective hn, UInt64.toNat_inj.1 hi⟩

theorem before_iff_key (a b : ServiceRef) : a.before b = true ↔ a.key < b.key := by
  constructor
  · intro h
    rw [← less_iff_key]
    simp only [before, Bool.not_eq_true', Bool.or_eq_false_iff, Bool.and_eq_false_iff,
      decide_eq_false_iff_not] at h
    by_cases hn : a.node = b.node
    · simpa [less, hn] using h.2
    · have hle : ¬b.key < a.key := fun hlt => by
        rw [← less_iff_key, less, if_pos (Ne.symm hn), h.1] at hlt
        cases hlt
      have hne : a.key ≠ b.key := fun hk => hn (congrArg node (key_injective hk))
      exact (less_iff_key a b).2 (lt_of_le_of_ne (not_lt.1 hle) hne)
  · intro h
    refine before_of_not_less ?_ fun hab => h.ne (congrArg key hab)
    rw [← Bool.not_eq_true, less_iff_key]
    exact h.asymm

end ServiceRef

theorem ascending_iff_pairwise {l : List ServiceRef} :
    ascending id l = true ↔ l.Pairwise fun a b => a.key < b.key := by
  have : IsTrans ServiceRef fun a b => a.key < b.key := ⟨fun _ _ _ => lt_trans⟩
  rw [← List.isChain_iff_pairwise]
  induction l with
  | nil => simp [ascending]
  | cons a l ih =>
    cases l with
    | nil => simp [ascending]
    | cons b l => simp [ascending, ih, ServiceRef.before_iff_key]

/-- **A list in strict order is determined by its members.** -/
theorem eq_of_ascending {l₁ l₂ : List ServiceRef} (h₁ : ascending id l₁ = true)
    (h₂ : ascending id l₂ = true) (hmem : ∀ ref, ref ∈ l₁ ↔ ref ∈ l₂) : l₁ = l₂ := by
  have : Std.Irrefl fun a b : ServiceRef => a.key < b.key := ⟨fun _ => lt_irrefl _⟩
  have : Std.Antisymm fun a b : ServiceRef => a.key < b.key :=
    ⟨fun _ _ hab hba => absurd hab hba.asymm⟩
  exact (ascending_iff_pairwise.1 h₁).eq_of_mem_iff (ascending_iff_pairwise.1 h₂) hmem

theorem ascending_canonicalRefs (refs : List ServiceRef) :
    ascending id (canonicalRefs refs) = true :=
  (ServiceGroup.distinct_destutter refs).ascending

theorem canonicalRefs_eq_of_mem {refs refs' : List ServiceRef}
    (h : ∀ ref, ref ∈ refs' ↔ ref ∈ refs) : canonicalRefs refs' = canonicalRefs refs :=
  eq_of_ascending (ascending_canonicalRefs _) (ascending_canonicalRefs _) fun ref => by
    rw [mem_canonicalRefs, mem_canonicalRefs, h]

theorem canonicalRefs_of_ascending {refs : List ServiceRef} (h : ascending id refs = true) :
    canonicalRefs refs = refs :=
  eq_of_ascending (ascending_canonicalRefs refs) h fun _ => mem_canonicalRefs

namespace ServiceGroup

/-! ### Normalization -/

section Normalize

variable {name : Text} {refs : List ServiceRef} {tags : Tags}

theorem validTags_iff {tags : Table Text Text} : validTags tags = true ↔
    ∀ key value, tags.lookup key = some value → key.trimmed = true ∧ value.validString = true := by
  simp only [validTags, List.all_eq_true, Bool.and_eq_true]
  constructor
  · exact fun h key value hlookup => h ⟨key, value⟩ (AList.mem_lookup_iff.1 hlookup)
  · exact fun h e he => h e.1 e.2 (AList.mem_lookup_iff.2 he)

theorem all_validTags_iff : tags.all validTags = true ↔ validTags (tags.getD ∅) = true := by
  cases tags with
  | none => simp [validTags]
  | some tags => simp

/-- The two results are the same error, or the same set. -/
inductive Agree : Except Err ServiceSet → Except Err ServiceSet → Prop
  | error (err : Err) : Agree (.error err) (.error err)
  | ok {left right : ServiceSet} (hname : left.name = right.name)
      (hversion : left.version = right.version) (hrefs : left.refs = right.refs)
      (htags : SameTags left.tags right.tags) : Agree (.ok left) (.ok right)

/-- The order of the references, their repetitions and the entries' order do not matter. -/
theorem normalizeServiceSet_congr {refs' : List ServiceRef} {tags' : Tags}
    (hrefs : ∀ ref, ref ∈ refs' ↔ ref ∈ refs) (htags : SameTags tags' tags) :
    Agree (normalizeServiceSet name refs' tags') (normalizeServiceSet name refs tags) := by
  have hall : refs'.all validGroupRef = refs.all validGroupRef := by
    rw [Bool.eq_iff_iff, List.all_eq_true, List.all_eq_true]
    simp only [hrefs]
  have hvalid : tags'.all validTags = tags.all validTags := by
    rw [Bool.eq_iff_iff, all_validTags_iff, all_validTags_iff, validTags_iff, validTags_iff]
    simp only [htags _]
  unfold normalizeServiceSet
  rw [hall, hvalid]
  split_ifs
  · exact .error _
  · exact .error _
  · exact .error _
  · exact .ok rfl rfl (congrArg Slice.of (canonicalRefs_eq_of_mem hrefs)) htags

/-- **Canonical sets.** Normalization succeeds exactly when the name, the references and the tags
are valid. What it gives is valid with any valid version, has the references of the input, and stays
as it is when it is normalized again; and inputs that are the same but for order and repetitions
give the same. -/
theorem canonical_sets (name : Text) (refs : List ServiceRef) (tags : Tags) :
    ((∃ set, normalizeServiceSet name refs tags = .ok set) ↔
      name.trimmed = true ∧ (∀ ref ∈ refs, validGroupRef ref = true) ∧
        validTags (tags.getD ∅) = true) ∧
    (∀ set, normalizeServiceSet name refs tags = .ok set →
      (∀ version, validVersion version = true →
        validServiceSet { set with version := version } = true) ∧
      (∀ ref, ref ∈ set.refs.elems ↔ ref ∈ refs) ∧
      normalizeServiceSet set.name set.refs.elems set.tags = .ok set) ∧
    ∀ refs' tags', (∀ ref, ref ∈ refs' ↔ ref ∈ refs) → SameTags tags' tags →
      Agree (normalizeServiceSet name refs' tags') (normalizeServiceSet name refs tags) := by
  refine ⟨?_, fun set hset => ⟨fun version hversion => ?_, fun ref => ?_, ?_⟩, fun refs' tags' =>
    normalizeServiceSet_congr⟩
  · unfold normalizeServiceSet
    rw [← all_validTags_iff, ← List.all_eq_true]
    split_ifs <;> simp_all
  · exact ((normal_of_normalize hset).1.withVersion version).valid hversion
  · have hrefs : set.refs.elems = canonicalRefs refs := by
      unfold normalizeServiceSet at hset
      split_ifs at hset
      cases hset
      rfl
    rw [hrefs, mem_canonicalRefs]
  · have hidem := normalizeServiceSet_idem hset
    obtain ⟨ts, htags, -⟩ := (normal_of_normalize hset).1.tags
    rwa [htags] at hidem ⊢

end Normalize

/-! ### The candidate of a recovery -/

section Candidate

theorem exchangeLeast_le (left : ServiceRef) (refs : List ServiceRef) :
    ∀ ref ∈ left :: refs, (exchangeLeast left refs).1.key ≤ ref.key := by
  induction refs generalizing left with
  | nil => simp [exchangeLeast]
  | cons right refs ih =>
    have hcases := List.forall_mem_cons.1 (ih right)
    have hleft := List.forall_mem_cons.1 (ih left)
    rw [exchangeLeast]
    split
    next hless =>
      rw [ServiceRef.less_iff_key] at hless
      exact List.forall_mem_cons.2 ⟨hcases.1.trans hless.le, ih right⟩
    next hless =>
      rw [ServiceRef.less_iff_key, not_lt] at hless
      exact List.forall_mem_cons.2 ⟨hleft.1,
        List.forall_mem_cons.2 ⟨hleft.1.trans hless, hleft.2⟩⟩

theorem exchangeRounds_pairwise {n : ℕ} {refs : List ServiceRef} (hn : refs.length ≤ n) :
    (exchangeRounds n refs).Pairwise fun a b => a.key ≤ b.key := by
  induction n generalizing refs with
  | zero =>
    rw [List.length_eq_zero_iff.1 (Nat.le_zero.1 hn)]
    exact List.Pairwise.nil
  | succ n ih =>
    cases refs with
    | nil => exact List.Pairwise.nil
    | cons left refs =>
      have hperm := exchangeLeast_perm left refs
      have hlength : (exchangeLeast left refs).2.length = refs.length := by
        simpa using hperm.length_eq
      rw [List.length_cons] at hn
      refine List.pairwise_cons.2 ⟨fun ref href => ?_, ih (by omega)⟩
      rw [(exchangeRounds_perm n _).mem_iff] at href
      exact exchangeLeast_le left refs ref (hperm.mem_iff.1 (List.mem_cons_of_mem _ href))

theorem recoveryRefs_nodup {refs : List ServiceRef} {targets : List RecoveryTarget}
    (h : refs.Nodup) : (recoveryRefs refs targets).Nodup := by
  induction targets generalizing refs with
  | nil => exact h
  | cons target targets ih =>
    rw [recoveryRefs]
    split
    · exact ih h
    next hnew => exact ih (List.nodup_append_comm.1 (List.nodup_cons.2 ⟨hnew, h⟩))

/-- **Sorting by exchanges** what has no repetitions leaves it in strict order. -/
theorem ascending_recoveryPublishedSet {operation : RecoveryOperation}
    (h : ascending id operation.expected.refs.elems = true) :
    ascending id (recoveryPublishedSet operation).refs.elems = true := by
  have hnodup : operation.expected.refs.elems.Nodup :=
    (ascending_iff_pairwise.1 h).imp fun hlt heq => hlt.ne (congrArg ServiceRef.key heq)
  have hsorted := exchangeRounds_pairwise
    (le_refl (recoveryRefs operation.expected.refs.elems operation.targets.elems).length)
  have hdistinct := (exchangeRounds_perm
    (recoveryRefs operation.expected.refs.elems operation.targets.elems).length _).nodup_iff.2
    (@recoveryRefs_nodup _ operation.targets.elems hnodup)
  rw [ascending_iff_pairwise]
  refine (hsorted.and hdistinct).imp fun ⟨hle, hne⟩ => lt_of_le_of_ne hle fun hkey => ?_
  exact hne (ServiceRef.key_injective hkey)

end Candidate

/-! ### What a Publish commits -/

section Commits

variable {cfg : Config} {s : Directory} {group : Text} {expected : Version} {refs : List ServiceRef}
  {tags : Tags} {left right set : ServiceSet}

/-- The sets are equal; an empty list may be nil in one of them. -/
structure Equals (left right : ServiceSet) : Prop where
  name : left.name = right.name
  version : left.version = right.version
  refs : left.refs.elems = right.refs.elems
  tags : left.tags = right.tags

theorem Equals.same (h : Equals left right) : sameDrainServiceSet left right = true := by
  have htags : sameTags right.tags right.tags = true := by
    cases right.tags with
    | none => rfl
    | some tags =>
      simp only [sameTags, Tags.pairs, Option.map_some, Option.getD_some, decide_true,
        Bool.true_and, List.all_eq_true, Option.any_some, decide_eq_true_eq]
      exact fun e he => AList.mem_lookup_iff.2 he
  simp [sameDrainServiceSet, sameServiceSetContent, h.version, h.name, h.refs, h.tags, htags]

theorem linear_of_reachable (h : (directory cfg).Reachable s) : ∃ log, Linear cfg s log := by
  refine h.invariant (I := fun s => ∃ log, Linear cfg s log) ?_ ?_
  · rintro s rfl
    exact ⟨[], fun _ => rfl, nofun⟩
  · rintro s i s' ⟨log, hlog⟩ - hstep
    cases hstep
    exact ⟨_, hlog.handle none i⟩

/-- The next version of the same directory. -/
def nextVersion (version : Version) : Version := ⟨version.authorityEpoch, version.revision + 1⟩

theorem nextVersion_ne (version : Version) : nextVersion version ≠ version := by
  intro h
  have hrevision : version.revision + 1 = version.revision := congrArg Version.revision h
  simp at hrevision

/-- **What the directory stores** for a Publish that it accepts. -/
theorem handle_publish_equals (hs : ∃ log, Linear cfg s log)
    (hexpected : validVersion expected = true)
    {i : Input} (hi : i.command = .publish group expected refs tags)
    (hr : (s.handle cfg i).reply = .set set) :
    s.version group = expected ∧ (s.handle cfg i).directory.groups.lookup group = some set ∧
      Equals set ⟨group, nextVersion expected, .of (canonicalRefs refs), cloneTags tags⟩ := by
  have hstores := @handle_stores cfg s none i
  rw [commit, hi, hr] at hstores
  cases hstores with
  | stored hc _ hgroups =>
  obtain ⟨log, hlog⟩ := hs
  have hversion : expected = s.version group := hc.expected_eq
  obtain ⟨hset, input, hinput, hwith⟩ := handle_publish_reply hi hr
  have hepoch : cfg.authorityEpoch = expected.authorityEpoch := by
    rw [hversion, hlog.version_eq] at hexpected ⊢
    split_ifs at hexpected ⊢
    · simp [validVersion] at hexpected
    · rfl
  refine ⟨hversion.symm, by rw [hgroups, AList.lookup_insert], ?_⟩
  unfold normalizeServiceSet at hinput
  split_ifs at hinput
  cases hinput
  rw [hwith, hset, hepoch]
  exact ⟨rfl, rfl, rfl, rfl⟩

/-- The Publish is among the Commands, and is answered with the set. -/
def committed (cfg : Config) (c : Command) : Directory → List Input → Prop
  | _, [] => False
  | s, i :: is =>
    (i.command = c ∧ ∃ set, (s.handle cfg i).reply = .set set) ∨
      committed cfg c (s.handle cfg i).directory is

/-- Nobody publishes the group with another Command. -/
def Alone (group : Text) (c : Command) (is : List Input) : Prop :=
  ∀ i ∈ is, ∀ expected refs tags, i.command = .publish group expected refs tags → i.command = c

/-- A Command that is not a Publish of the group, or not accepted, leaves the group as it is. -/
theorem lookup_handle {c : Command} {i : Input}
    (hi : ∀ expected refs tags, i.command = .publish group expected refs tags → i.command = c)
    (hnot : ¬(i.command = c ∧ ∃ set, (s.handle cfg i).reply = .set set)) :
    (s.handle cfg i).directory.groups.lookup group = s.groups.lookup group := by
  have hstores := @handle_stores cfg s none i
  unfold commit at hstores
  split at hstores
  next name expected refs tags set hcommand hreply =>
    cases hstores with
    | stored _ _ hgroups =>
      have hname : group ≠ name := by
        rintro rfl
        exact hnot ⟨hi _ _ _ hcommand, set, hreply⟩
      rw [hgroups, AList.lookup_insert_ne hname]
  · cases hstores with
    | nothing hgroups => rw [hgroups]

variable {is : List Input}

/-- After the Publish was committed, it is refused. -/
theorem lookup_after_of_version_ne (hs : ∃ log, Linear cfg s log)
    (hexpected : validVersion expected = true) (hne : s.version group ≠ expected)
    (halone : Alone group (.publish group expected refs tags) is) :
    (after cfg s is).groups.lookup group = s.groups.lookup group := by
  induction is generalizing s with
  | nil => rfl
  | cons i is ih =>
    obtain ⟨hi, htail⟩ := List.forall_mem_cons.1 halone
    have hkept := @lookup_handle cfg s group _ i hi fun ⟨hc, set, hr⟩ =>
      hne (handle_publish_equals hs hexpected hc hr).1
    have hversion : (s.handle cfg i).directory.version group = s.version group := by
      rw [Directory.version, Directory.version, hkept]
    obtain ⟨log, hlog⟩ := hs
    rw [after, ih ⟨_, hlog.handle none i⟩ (by rwa [hversion]) htail, hkept]

/-- **What is stored after a Publish that may have been lost**: the set, or what was there
before. -/
theorem lookup_after {old : ServiceSet} (hs : ∃ log, Linear cfg s log)
    (hexpected : validVersion expected = true) (hold : s.groups.lookup group = some old)
    (halone : Alone group (.publish group expected refs tags) is) :
    (committed cfg (.publish group expected refs tags) s is →
      ∃ set, (after cfg s is).groups.lookup group = some set ∧
        Equals set ⟨group, nextVersion expected, .of (canonicalRefs refs), cloneTags tags⟩) ∧
    (¬committed cfg (.publish group expected refs tags) s is →
      (after cfg s is).groups.lookup group = some old) := by
  induction is generalizing s with
  | nil => exact ⟨False.elim, fun _ => hold⟩
  | cons i is ih =>
    obtain ⟨hi, htail⟩ := List.forall_mem_cons.1 halone
    have hs' : ∃ log, Linear cfg (s.handle cfg i).directory log := by
      obtain ⟨log, hlog⟩ := hs
      exact ⟨_, hlog.handle none i⟩
    by_cases hnow : i.command = .publish group expected refs tags ∧
        ∃ set, (s.handle cfg i).reply = .set set
    · obtain ⟨hc, set, hr⟩ := hnow
      obtain ⟨-, hstored, hequals⟩ := handle_publish_equals hs hexpected hc hr
      have hne : (s.handle cfg i).directory.version group ≠ expected := by
        rw [Directory.version, hstored]
        exact hequals.version.trans_ne (nextVersion_ne expected)
      rw [after, lookup_after_of_version_ne hs' hexpected hne htail]
      exact ⟨fun _ => ⟨set, hstored, hequals⟩, fun h => (h (.inl ⟨hc, set, hr⟩)).elim⟩
    · obtain ⟨hyes, hno⟩ := ih hs' ((lookup_handle hi hnow).trans hold) htail
      rw [after]
      exact ⟨fun h => hyes (h.resolve_left hnow), fun h => hno fun hrest => h (.inr hrest)⟩

end Commits

/-! ### Recognising it -/

section Recognise

variable {cfg : Config} {s : Directory}

/-- `c` is the Command of the Publish that a program of the coordinator makes. -/
def Issues (p : Run (Except Control.Err ServiceSet)) (c : Command) : Prop :=
  ∃ es out e, p.Returns es out ∧ e ∈ es ∧ ∃ name expected refs tags,
    e.1 = .publishServiceSet name expected refs tags ∧ c = .publish name expected refs tags

theorem issues_publish {name : Text} {expected : Version} {refs : List ServiceRef} {tags : Tags}
    {c : Command} (h : Issues (Control.publish name expected refs tags) c) :
    c = .publish name expected (canonicalRefs refs) (cloneTags tags) := by
  obtain ⟨es, out, e, hreturns, he, name', expected', refs', tags', hop, rfl⟩ := h
  have hcall := publish_call hreturns e he
  rw [hop] at hcall
  cases hcall
  rfl

/-- A Publish `c` of a group is recognised. The directory stores `candidate` if it accepts it. If
the directory had a set that was as it should be (`before`), and nobody else publishes, then a read
tells whether the Publish was committed: `resolve` ends in `done` if so, and else in `undone`. -/
structure Recognised {φ : Type} (cfg : Config) (s : Directory) (group : Text) (c : Command)
    (candidate : ServiceSet) (before : ServiceSet → Prop) (resolve : Answer → Option φ)
    (done undone : φ) : Prop where
  stored : ∀ i set, i.command = c → (s.handle cfg i).reply = .set set →
    (s.handle cfg i).directory.groups.lookup group = some set ∧ Equals set candidate
  resolved : ∀ old is i, s.groups.lookup group = some old → before old → Alone group c is →
    i.command = .get group → ∃ current,
      ((after cfg s is).handle cfg i).reply = .set current ∧
      (committed cfg c s is → resolve (.ok (.serviceSet none current)) = some done) ∧
      (¬committed cfg c s is → resolve (.ok (.serviceSet none current)) = some undone)

/-- A read of the Directory, run on its answer. -/
theorem run_getDirectory {α : Type} {group : Text} {f : Except Control.Err ServiceSet → Run α}
    {answer : Answer} {set : ServiceSet} (htrimmed : group.trimmed = true)
    (hresponse : Control.serviceSetFromResponse answer group = .ok set) :
    (getDirectory group >>= f).run [answer] = ((f (.ok set)).run []).map fun out =>
      (out.1, (.getServiceSet group, answer) :: out.2) := by
  rw [← hresponse, getDirectory, htrimmed]
  rfl

/-- What is left to show of a Publish is how the two reads are resolved. -/
theorem Recognised.of_reads {φ : Type} {group : Text} {expected : Version} {refs : List ServiceRef}
    {tags : Tags} {candidate : ServiceSet} {before : ServiceSet → Prop}
    {resolve : Answer → Option φ}
    {done undone : φ} (hs : (directory cfg).Reachable s) (hexpected : validVersion expected = true)
    (hcandidate : Equals ⟨group, nextVersion expected, .of (canonicalRefs refs), cloneTags tags⟩
      candidate)
    (hdone : ∀ answer current, group.trimmed = true →
      Control.serviceSetFromResponse answer group = .ok current → Equals current candidate →
      resolve answer = some done)
    (hundone : ∀ answer old, group.trimmed = true →
      Control.serviceSetFromResponse answer group = .ok old → before old →
      resolve answer = some undone) :
    Recognised cfg s group (.publish group expected refs tags)
    candidate before resolve done undone := by
  have hlinear := linear_of_reachable hs
  have hequals : ∀ {set}, Equals set ⟨group, nextVersion expected, .of (canonicalRefs refs),
      cloneTags tags⟩ → Equals set candidate := fun h =>
    ⟨h.name.trans hcandidate.name, h.version.trans hcandidate.version, h.refs.trans hcandidate.refs,
      h.tags.trans hcandidate.tags⟩
  refine ⟨fun i set hi hr => ?_, fun old is i hold hbefore halone hi => ?_⟩
  · obtain ⟨-, hstored, heq⟩ := handle_publish_equals hlinear hexpected hi hr
    exact ⟨hstored, hequals heq⟩
  have hafter : ∃ log, Linear cfg (after cfg s is) log := by
    clear hold halone
    induction is generalizing s with
    | nil => exact hlinear
    | cons i is ih =>
      have hstep : (directory cfg).Reachable (s.handle cfg i).directory := .step hs trivial rfl
      exact ih hstep (linear_of_reachable hstep)
  obtain ⟨hyes, hno⟩ := lookup_after hlinear hexpected hold halone
  -- a set that is stored is what a read of it returns
  have hread : ∀ set, (after cfg s is).groups.lookup group = some set →
      ((after cfg s is).handle cfg i).reply = .set set ∧ group.trimmed = true ∧
        Control.serviceSetFromResponse (.ok (.serviceSet none set)) group = .ok set := by
    intro set hset
    obtain ⟨log, hlog⟩ := hafter
    obtain ⟨hvalid, hname⟩ := hlog.valid hset
    have hclone : cloneServiceSet set = set :=
      cloneServiceSet_eq (validDrainServiceSet_of_valid hvalid)
    have htrimmed : group.trimmed = true := by
      simp only [validServiceSet, validSet, Bool.and_eq_true] at hvalid
      exact hname ▸ hvalid.1.1.1.1.1
    have hget : ((after cfg s is).pruneExpiredWatches i.now).get group = .ok set := by
      have hlookup : ((after cfg s is).pruneExpiredWatches i.now).groups.lookup group = some set :=
        hset
      simp [Directory.get, htrimmed, hlookup, hclone]
    refine ⟨?_, htrimmed, by simp [Control.serviceSetFromResponse, hclone, hvalid, hname]⟩
    simp only [Directory.handle, Directory.perform, hi, hget, hclone]
  by_cases hc : committed cfg (.publish group expected refs tags) s is
  · obtain ⟨set, hset, heq⟩ := hyes hc
    obtain ⟨hreply, htrimmed, hresponse⟩ := hread set hset
    exact ⟨set, hreply, fun _ => hdone _ set htrimmed hresponse (hequals heq), fun h => (h hc).elim⟩
  · obtain ⟨hreply, htrimmed, hresponse⟩ := hread old (hno hc)
    exact ⟨old, hreply, fun h => (hc h).elim, fun _ => hundone _ old htrimmed hresponse hbefore⟩

/-- **Unknown publishes are recognised.** What the coordinator takes for the published set of a
recovery or of a drain is what the directory stores, and, when nobody else publishes, the read that
resolves the operation completes the recovery, or confirms the drain, if the Publish was committed,
and otherwise leaves it where it was. -/
theorem unknown_publish_recognised (hs : (directory cfg).Reachable s) :
    (∀ (r : RecoveryRecord) (c : Command), validDrainServiceSet r.operation.expected = true →
      r.operation.phase = .publishing → Issues r.publish c → ∀ clock,
      Recognised cfg s r.operation.group c (recoveryPublishedSet r.operation)
        (fun old => sameDrainServiceSet old r.operation.expected = true)
        (fun answer => ((advanceRecovery clock r).run [answer]).map
          fun out => out.1.operation.phase)
        .completed .publishing) ∧
    ∀ (r : DrainRecord) (request : StartDrainRequest) (c : Command),
      normalizeStartDrainRequest request = .ok r.request → Issues r.publish c → ∀ clock,
      Recognised cfg s r.request.group c
        (expectedPublishedSet r.request (nextVersion r.request.expected))
        (fun old => old.version = r.request.expected)
        (fun answer => ((confirmPublished clock r).run [answer]).map fun out =>
          (out.1.1.operation.phase, out.1.2))
        (.guarding, true) (r.operation.phase, false) := by
  refine ⟨fun r c hvalid hphase hc clock => ?_, fun r request c hrequest hc clock => ?_⟩
  · simp only [validDrainServiceSet, validSet, Bool.and_eq_true] at hvalid
    have hrefs := ascending_recoveryPublishedSet hvalid.2
    rw [issues_publish hc]
    refine .of_reads hs hvalid.1.1.1.1.2 ⟨rfl, rfl, ?_, rfl⟩ ?_ ?_
    · exact (canonicalRefs_of_ascending (ascending_canonicalRefs _)).trans
        (canonicalRefs_of_ascending hrefs)
    · intro answer current htrimmed hresponse hequals
      simp only [advanceRecovery, hphase]
      rw [run_getDirectory htrimmed hresponse, resolveRecoveryPublish, if_pos hequals.same,
        completeRecoveryPublish]
      obtain ⟨updatedAt, -, heq⟩ :=
        RecoveryRecord.setPhase_eq clock { r with operation := _ } .completed
      rw [heq]
      rfl
    · intro answer old htrimmed hresponse hsame
      have hnot : sameDrainServiceSet old (recoveryPublishedSet r.operation) = false := by
        have hversion : old.version = r.operation.expected.version := by
          simp only [sameDrainServiceSet, Bool.and_eq_true, decide_eq_true_eq] at hsame
          exact hsame.1
        have hne : old.version ≠ (recoveryPublishedSet r.operation).version := by
          rw [hversion]
          exact (nextVersion_ne _).symm
        simp [sameDrainServiceSet, hne]
      simp only [advanceRecovery, hphase]
      rw [run_getDirectory htrimmed hresponse]
      simp [resolveRecoveryPublish, hnot, hsame, Calls.run_pure, hphase]
  · have hnormal : validVersion r.request.expected = true ∧
        ascending id r.request.nextRefs.elems = true := by
      unfold normalizeStartDrainRequest at hrequest
      split_ifs at hrequest with _ _ hexpected
      have heq := Except.ok.inj hrequest
      simp only [Bool.or_eq_true, Bool.not_eq_true', not_or, Bool.not_eq_false] at hexpected
      rw [← heq]
      exact ⟨hexpected.1.2, ascending_canonicalRefs _⟩
    rw [issues_publish hc]
    refine .of_reads hs hnormal.1 ⟨rfl, rfl, ?_, rfl⟩ ?_ ?_
    · exact (canonicalRefs_of_ascending (ascending_canonicalRefs _)).trans
        (canonicalRefs_of_ascending hnormal.2)
    · intro answer current htrimmed hresponse hequals
      have hsame : sameDrainServiceSet current (expectedPublishedSet r.request current.version) =
          true := Equals.same ⟨hequals.name, rfl, hequals.refs, hequals.tags⟩
      have hnext : isExpectedNextVersion r.request.expected current.version = true := by
        rw [hequals.version]
        simp [isExpectedNextVersion, expectedPublishedSet, nextVersion]
      rw [confirmPublished, run_getDirectory htrimmed hresponse]
      simp [hsame, hnext, Calls.run_pure, confirmPublish]
    · intro answer old htrimmed hresponse hversion
      have hnext : isExpectedNextVersion r.request.expected old.version = false := by
        rw [hversion]
        simp [isExpectedNextVersion]
      have hafter : isVersionAfter r.request.expected old.version = false := by
        rw [hversion]
        simp [isVersionAfter]
      rw [confirmPublished, run_getDirectory htrimmed hresponse]
      simp [hnext, hafter, Calls.run_pure]

end Recognise

/-- A Command to a directory at one reading of its clock. -/
def sampleInput (c : Command) : Input := ⟨1, ⟨"n", 1⟩, c, true, fun _ => true⟩

/-- An empty group is published, and a recovery that adds a service to it is under way. -/
def sampleRecovery : RecoveryRecord :=
  let set : ServiceSet := ⟨"g", ⟨7, 1⟩, .of [], some ∅⟩
  let target := Sample.target
  let created := { target with id := 9 }
  ⟨⟨"r", "p", set.name, set, .of []⟩,
    { requestID := "r", principal := "p", group := set.name
      expected := set, phase := .publishing, createdAt := 1, updatedAt := 1
      targets := .of [⟨target, Sample.agent, "b", created, .created, .none⟩] }⟩

/-- The reply to its Publish is lost. -/
theorem unknown_publish_recognised_sample :
    let first := sampleInput (.publish "g" ⟨0, 0⟩ [] none)
    let s := (Directory.handle sampleConfig {} first).directory
    let publish := sampleInput
      (.publish "g" ⟨7, 1⟩ [⟨"n", 9⟩] (some ∅))
    ∃ current, ((after sampleConfig s [publish]).handle sampleConfig
        (sampleInput (.get "g"))).reply = .set current ∧
      ((advanceRecovery Sample.clock sampleRecovery).run [Sample.found current]).map
        (fun out => out.1.operation.phase) = some .completed := by
  intro first s publish
  have hissues : Issues sampleRecovery.publish publish.command := by
    have hrun : sampleRecovery.publish.run [.error (.other 0)] =
        some (.error (.other 0), [(.publishServiceSet "g" ⟨7, 1⟩
          [⟨"n", 9⟩] (some ∅), .error (.other 0))]) := by decide +kernel
    exact ⟨_, _, _, (Calls.returns_of_run hrun).1, List.mem_singleton_self _, _, _, _, _, rfl, rfl⟩
  have hs : (directory sampleConfig).Reachable s := .step (a := first) (.init rfl) trivial rfl
  have h := (unknown_publish_recognised hs).1 sampleRecovery publish.command (by decide +kernel) rfl
    hissues Sample.clock
  obtain ⟨current, hreply, hdone, -⟩ := h.resolved ⟨"g", ⟨7, 1⟩, .of [], some ∅⟩
    [publish] (sampleInput (.get "g")) (by decide +kernel) (by decide +kernel)
    (List.forall_mem_singleton.2 fun _ _ _ _ => rfl) rfl
  have hset : (s.handle sampleConfig publish).reply =
      .set ⟨"g", ⟨7, 2⟩, .of [⟨"n", 9⟩], some ∅⟩ := by decide +kernel
  exact ⟨current, hreply, hdone (.inl ⟨rfl, _, hset⟩)⟩

end ServiceGroup

end GameServiceRuntime
