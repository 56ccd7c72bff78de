import Mathlib.Data.List.Destutter
import GameServiceRuntime.Lib.Transition
import GameServiceRuntime.Control.Types

/-!
# The directory of service groups

`directoryService` of `tooling/servicegroup`: one Service that keeps, for each group, the set of
services published last and the leases of those that watch it. A set is published by compare and
set on its version, and every watcher of the group is then sent the whole new set.

A Command is handled at one reading of the clock, and whatever the Command is, the leases that have
expired by then are dropped first. What the handler asks of the Runtime is part of the input:
whether `After` accepts the timer of the next sweep, and whether `Send` to each subscriber succeeds.
The sends of one Command are returned in their order.

Metrics, `Stop` and `Close` are not modelled.

A definition without a text of its own has the name of what it models.
-/

namespace GameServiceRuntime.ServiceGroup

open Control

structure WatchLease where
  group : Text
  subscriber : ServiceRef
  authorityEpoch : UInt64
  generation : UInt64
  expiresAt : Time
  deriving DecidableEq

structure WatchResult where
  lease : WatchLease
  current : ServiceSet := {}
  found : Bool := false
  deriving DecidableEq

/-- The errors of the package, as the codes of a response. An error of the Runtime is sent as
`invalidRequest`. -/
inductive Err
  | invalidGroup
  | invalidServiceSet
  | groupNotFound
  | versionConflict
  | versionExhausted
  | unauthorized
  | invalidWatch
  | watchExpired
  | watchOwnerMismatch
  | invalidRequest
  deriving DecidableEq

/-- `DirectoryConfig` after the defaults, and the epoch drawn for the instance. -/
structure Config where
  publisherNode : Text
  watchTTL : ℤ
  authorityEpoch : UInt64
  /-- `newAuthorityEpoch` draws until it has something else. -/
  epoch_ne_zero : authorityEpoch ≠ 0

/-- `directoryService` -/
structure Directory where
  groups : Table Text ServiceSet := ∅
  watchers : Table Text (Table ServiceRef WatchLease) := ∅
  nextGeneration : UInt64 := 0
  watcherCount : ℤ := 0
  sweepScheduled : Bool := false

/-- The payloads of the Commands. -/
inductive Command
  | publish (name : Text) (expected : Version) (refs : List ServiceRef) (tags : Tags)
  | get (name : Text)
  | watch (name : Text) (subscriber : ServiceRef)
  | renewWatch (lease : WatchLease)
  | unwatch (lease : WatchLease)
  | sweep
  /-- A payload of another type than the Command's, with a reply. -/
  | malformed
  /-- The sweep with a payload of another type, and a Command the Service does not know. -/
  | refused
  deriving DecidableEq

/-- What the handler replies; a sweep replies nothing. -/
inductive Reply
  | set (set : ServiceSet)
  | watch (result : WatchResult)
  | lease (lease : WatchLease)
  | empty
  | error (err : Err)
  | none
  deriving DecidableEq

/-- One call of `Handle`. -/
structure Input where
  /-- `s.context.Now()` -/
  now : Time
  /-- `commandContext.Source()` -/
  source : ServiceRef
  command : Command
  /-- Whether `After` accepts a timer. -/
  timer : Bool
  /-- Whether `Send` to a subscriber succeeds. -/
  delivers : ServiceRef → Bool

/-- A `ServiceSetChanged` and whether `Send` took it. -/
structure Note where
  subscriber : ServiceRef
  set : ServiceSet
  delivered : Bool
  deriving DecidableEq

/-- What one call of `Handle` leaves. -/
structure Outcome where
  directory : Directory
  reply : Reply
  notes : List Note := []

/-! ### Validation -/

def validExpectedVersion (version : Version) : Bool := version = ⟨0, 0⟩ || validVersion version

def validWatchLease (lease : WatchLease) : Bool :=
  lease.group.trimmed && validGroupRef lease.subscriber && lease.authorityEpoch ≠ 0 &&
    lease.generation ≠ 0 && lease.expiresAt ≠ 0

/-- `sameWatchLease`: all the fields. -/
def sameWatchLease (left right : WatchLease) : Bool := left = right

/-- `normalizeServiceSet`: the references sorted, each once. -/
def normalizeServiceSet (name : Text) (refs : List ServiceRef) (tags : Tags) :
    Except Err ServiceSet :=
  if !name.trimmed then .error .invalidGroup
  else if !refs.all validGroupRef then .error .invalidServiceSet
  else if !tags.all validTags then .error .invalidServiceSet
  else
    .ok
      { name := name
        refs := .of ((sortByRef id refs).destutter (· ≠ ·))
        tags := cloneTags tags }

/-! ### The handlers -/

namespace Directory

variable (cfg : Config) (s : Directory)

/-- The leases of a group, with their subscribers. -/
def groupWatchers (name : Text) : Table ServiceRef WatchLease := (s.watchers.lookup name).getD ∅

def pruneExpiredWatches (now : Time) : Directory :=
  let kept (group : Table ServiceRef WatchLease) :=
    group.filter fun _ lease => now < lease.expiresAt
  { s with
    watchers := s.watchers.filterMap fun _ group =>
      if (kept group).len = 0 then none else some (kept group)
    watcherCount := s.watcherCount -
      (s.watchers.values.map fun group => (group.len - (kept group).len : ℤ)).sum }

/-- `notifyWatchers`: the subscribers in order, each sent the set. -/
def notifyWatchers (delivers : ServiceRef → Bool) (set : ServiceSet) : List Note :=
  (sortByRef WatchLease.subscriber (s.groupWatchers set.name).values).map fun lease =>
    ⟨lease.subscriber, cloneServiceSet set, delivers lease.subscriber⟩

/-- `publish`, without the notifications: the set as it was stored. -/
def publish (source : ServiceRef) (name : Text) (expected : Version) (refs : List ServiceRef)
    (tags : Tags) : Except Err (Directory × ServiceSet) :=
  if source.node ≠ cfg.publisherNode then .error .unauthorized
  else if !validExpectedVersion expected then .error .invalidServiceSet
  else
    match normalizeServiceSet name refs tags with
    | .error err => .error err
    | .ok set =>
      let store (revision : UInt64) : Except Err (Directory × ServiceSet) :=
        let set := { set with version := ⟨cfg.authorityEpoch, revision⟩ }
        .ok ({ s with groups := s.groups.insert name (cloneServiceSet set) }, set)
      match s.groups.lookup name with
      | some current =>
        if current.version ≠ expected then .error .versionConflict
        else if current.version.revision = UInt64.ofNat (2 ^ 64 - 1) then .error .versionExhausted
        else store (current.version.revision + 1)
      | none => if expected ≠ ⟨0, 0⟩ then .error .versionConflict else store 1

def get (name : Text) : Except Err ServiceSet :=
  if !name.trimmed then .error .invalidGroup
  else
    match s.groups.lookup name with
    | none => .error .groupNotFound
    | some set => .ok (cloneServiceSet set)

def scheduleWatchSweep (timer : Bool) : Except Err Directory :=
  if timer then .ok { s with sweepScheduled := true } else .error .invalidRequest

/-- `s.nextGeneration++`, past zero. -/
def newGeneration : UInt64 := if s.nextGeneration + 1 = 0 then 1 else s.nextGeneration + 1

/-- The result of a watch: the lease and what is published now. -/
def snapshot (lease : WatchLease) : WatchResult :=
  match s.groups.lookup lease.group with
  | some current => ⟨lease, cloneServiceSet current, true⟩
  | none => ⟨lease, {}, false⟩

def watch (now : Time) (timer : Bool) (source : ServiceRef) (name : Text)
    (subscriber : ServiceRef) : Except Err (Directory × WatchResult) :=
  if !name.trimmed then .error .invalidGroup
  else if !validGroupRef subscriber then .error .invalidWatch
  else if source ≠ subscriber then .error .watchOwnerMismatch
  else
    match if s.sweepScheduled then .ok s else s.scheduleWatchSweep timer with
    | .error err => .error err
    | .ok s =>
      let lease : WatchLease :=
        ⟨name, subscriber, cfg.authorityEpoch, s.newGeneration, now + cfg.watchTTL⟩
      let groupWatchers := s.groupWatchers name
      let known := (groupWatchers.lookup subscriber).isSome
      .ok
        ({ s with
            nextGeneration := s.newGeneration
            watchers := s.watchers.insert name (groupWatchers.insert subscriber lease)
            watcherCount := if known then s.watcherCount else s.watcherCount + 1 },
          s.snapshot lease)

/-- The lease a subscriber presents, found among those of the group. -/
def presented (source : ServiceRef) (lease : WatchLease) : Except Err Unit :=
  if !validWatchLease lease then .error .invalidWatch
  else if source ≠ lease.subscriber then .error .watchOwnerMismatch
  else if lease.authorityEpoch ≠ cfg.authorityEpoch then .error .watchExpired
  else
    match (s.groupWatchers lease.group).lookup lease.subscriber with
    | none => .error .watchExpired
    | some current => if !sameWatchLease current lease then .error .watchExpired else .ok ()

def renewWatch (now : Time) (source : ServiceRef) (lease : WatchLease) :
    Except Err (Directory × WatchLease) :=
  match s.presented cfg source lease with
  | .error err => .error err
  | .ok () =>
    let current := { lease with expiresAt := now + cfg.watchTTL }
    .ok
      ({ s with
          watchers := s.watchers.insert lease.group
            ((s.groupWatchers lease.group).insert lease.subscriber current) },
        current)

def unwatch (source : ServiceRef) (lease : WatchLease) : Except Err Directory :=
  match s.presented cfg source lease with
  | .error err => .error err
  | .ok () =>
    let groupWatchers := (s.groupWatchers lease.group).erase lease.subscriber
    .ok
      { s with
        watchers :=
          if Table.len groupWatchers = 0 then s.watchers.erase lease.group
          else s.watchers.insert lease.group groupWatchers
        watcherCount := s.watcherCount - 1 }

/-- The Command itself, after the expired leases are gone. -/
def perform (i : Input) : Outcome :=
  match i.command with
  | .publish name expected refs tags =>
    match s.publish cfg i.source name expected refs tags with
    | .error err => ⟨s, .error err, []⟩
    | .ok (s, set) => ⟨s, .set (cloneServiceSet set), s.notifyWatchers i.delivers set⟩
  | .get name =>
    match s.get name with
    | .error err => ⟨s, .error err, []⟩
    | .ok set => ⟨s, .set (cloneServiceSet set), []⟩
  | .watch name subscriber =>
    match s.watch cfg i.now i.timer i.source name subscriber with
    | .error err => ⟨s, .error err, []⟩
    | .ok (s, result) => ⟨s, .watch result, []⟩
  | .renewWatch lease =>
    match s.renewWatch cfg i.now i.source lease with
    | .error err => ⟨s, .error err, []⟩
    | .ok (s, lease) => ⟨s, .lease lease, []⟩
  | .unwatch lease =>
    match s.unwatch cfg i.source lease with
    | .error err => ⟨s, .error err, []⟩
    | .ok s => ⟨s, .empty, []⟩
  | .sweep =>
    let s := { s with sweepScheduled := false }
    if 0 < s.watcherCount then
      match s.scheduleWatchSweep i.timer with
      | .error _ => ⟨s, .none, []⟩
      | .ok s => ⟨s, .none, []⟩
    else ⟨s, .none, []⟩
  | .malformed => ⟨s, .error .invalidRequest, []⟩
  | .refused => ⟨s, .none, []⟩

def handle (i : Input) : Outcome := (s.pruneExpiredWatches i.now).perform cfg i

/-- The lease a subscriber has for a group. -/
def watching (name : Text) (subscriber : ServiceRef) : Option WatchLease :=
  (s.groupWatchers name).lookup subscriber

variable {cfg s} {s' : Directory} {source : ServiceRef} {name : Text}

theorem groupWatchers_of_insert {group : Table ServiceRef WatchLease}
    (h : s'.watchers = s.watchers.insert name group) (g : Text) :
    s'.groupWatchers g = if g = name then group else s.groupWatchers g := by
  rw [groupWatchers, h, Table.lookup_insert_ite]
  split_ifs <;> rfl

theorem groupWatchers_of_erase (h : s'.watchers = s.watchers.erase name) (g : Text) :
    s'.groupWatchers g = if g = name then ∅ else s.groupWatchers g := by
  rw [groupWatchers, h, Table.lookup_erase_ite]
  split_ifs <;> rfl

/-- Exactly the leases that have expired are dropped. -/
theorem watching_pruneExpiredWatches (now : Time) (name : Text) (subscriber : ServiceRef) :
    (s.pruneExpiredWatches now).watching name subscriber =
      (s.watching name subscriber).filter fun lease => now < lease.expiresAt := by
  simp only [watching, groupWatchers, pruneExpiredWatches, Table.lookup_filterMap]
  cases s.watchers.lookup name with
  | none => rfl
  | some group =>
    have hfilter :=
      Table.lookup_filter (fun _ lease => decide (now < lease.expiresAt)) group subscriber
    simp only [Option.bind_some, Option.getD_some]
    rw [← hfilter]
    split_ifs with h
    · exact (Table.len_eq_zero.mp h subscriber).symm
    · rfl

variable {lease : WatchLease} {subscriber : ServiceRef}

theorem watching_of_insert
    (h : s'.watchers = s.watchers.insert name ((s.groupWatchers name).insert subscriber lease))
    (g : Text) (r : ServiceRef) :
    s'.watching g r = if g = name ∧ r = subscriber then some lease else s.watching g r := by
  rw [watching, groupWatchers_of_insert h]
  by_cases hg : g = name
  · subst hg
    rw [if_pos rfl, Table.lookup_insert_ite]
    simp [watching]
  · simp [hg, watching]

theorem watching_of_erase
    (h : s'.watchers =
      if Table.len ((s.groupWatchers name).erase subscriber) = 0 then s.watchers.erase name
      else s.watchers.insert name ((s.groupWatchers name).erase subscriber))
    (g : Text) (r : ServiceRef) :
    s'.watching g r = if g = name ∧ r = subscriber then none else s.watching g r := by
  have hwatching : s'.watching g r =
      if g = name then ((s.groupWatchers name).erase subscriber).lookup r else s.watching g r := by
    split_ifs at h with hlen
    · rw [watching, groupWatchers_of_erase h]
      split_ifs with hg
      · exact (Table.len_eq_zero.mp hlen r).symm
      · rfl
    · rw [watching, groupWatchers_of_insert h]
      split_ifs <;> rfl
  rw [hwatching, Table.lookup_erase_ite]
  by_cases hg : g = name
  · subst hg
    simp [watching]
  · simp [hg]

/-- A lease that is presented is one that the directory has. -/
theorem presented_ok (h : s.presented cfg source lease = .ok ()) :
    source = lease.subscriber ∧ s.watching lease.group lease.subscriber = some lease := by
  unfold presented at h
  split at h
  · cases h
  split at h
  · cases h
  next hsource =>
    split at h
    · cases h
    split at h
    · cases h
    next current hcurrent =>
      split at h
      · cases h
      next hsame =>
        have heq : current = lease := by simpa [sameWatchLease] using hsame
        exact ⟨by simpa using hsource, heq ▸ hcurrent⟩

@[simp] theorem lease_snapshot (s : Directory) (lease : WatchLease) :
    (s.snapshot lease).lease = lease := by
  unfold snapshot
  split <;> rfl

/-- The lease of a watch. -/
def leased (cfg : Config) (s : Directory) (now : Time) (name : Text) (subscriber : ServiceRef) :
    WatchLease := ⟨name, subscriber, cfg.authorityEpoch, s.newGeneration, now + cfg.watchTTL⟩

/-- The directory after a watch. -/
def watched (cfg : Config) (s : Directory) (now : Time) (name : Text) (subscriber : ServiceRef) :
    Directory :=
  { s with
    sweepScheduled := true
    nextGeneration := s.newGeneration
    watchers := s.watchers.insert name
      ((s.groupWatchers name).insert subscriber (leased cfg s now name subscriber))
    watcherCount :=
      if (s.watching name subscriber).isSome then s.watcherCount else s.watcherCount + 1 }

/-- A lease after its renewal. -/
def extended (cfg : Config) (now : Time) (lease : WatchLease) : WatchLease :=
  { lease with expiresAt := now + cfg.watchTTL }

/-- The directory after the renewal. -/
def renewed (cfg : Config) (s : Directory) (now : Time) (lease : WatchLease) : Directory :=
  { s with
    watchers := s.watchers.insert lease.group
      ((s.groupWatchers lease.group).insert lease.subscriber (extended cfg now lease)) }

/-- The directory after a lease is given up. -/
def unwatched (s : Directory) (lease : WatchLease) : Directory :=
  { s with
    watchers :=
      if Table.len ((s.groupWatchers lease.group).erase lease.subscriber) = 0 then
        s.watchers.erase lease.group
      else s.watchers.insert lease.group ((s.groupWatchers lease.group).erase lease.subscriber)
    watcherCount := s.watcherCount - 1 }

/-- What a Command does, once the expired leases are gone. -/
inductive Moves (cfg : Config) (s : Directory) (i : Input) : Outcome → Prop
  /-- It reads, or is refused. -/
  | kept {reply : Reply}
      (hreply : (∃ err, reply = .error err) ∨ (i.command = .refused ∧ reply = .none) ∨
        (∃ name, i.command = .get name) ∧ ∃ set, reply = .set set) : Moves cfg s i ⟨s, reply, []⟩
  | published {name : Text} {expected : Version} {refs : List ServiceRef} {tags : Tags}
      {s' : Directory} {set : ServiceSet} (hi : i.command = .publish name expected refs tags)
      (h : s.publish cfg i.source name expected refs tags = .ok (s', set)) :
      Moves cfg s i ⟨s', .set (cloneServiceSet set), s'.notifyWatchers i.delivers set⟩
  | watched {name : Text} (hi : i.command = .watch name i.source) :
      Moves cfg s i ⟨s.watched cfg i.now name i.source,
        .watch (s.snapshot (s.leased cfg i.now name i.source)), []⟩
  | renewed {lease : WatchLease} (hi : i.command = .renewWatch lease)
      (hsource : i.source = lease.subscriber)
      (hlease : s.watching lease.group lease.subscriber = some lease) :
      Moves cfg s i ⟨s.renewed cfg i.now lease, .lease (extended cfg i.now lease), []⟩
  | unwatched {lease : WatchLease} (hi : i.command = .unwatch lease)
      (hsource : i.source = lease.subscriber)
      (hlease : s.watching lease.group lease.subscriber = some lease) :
      Moves cfg s i ⟨s.unwatched lease, .empty, []⟩
  | swept (hi : i.command = .sweep) :
      Moves cfg s i
        ⟨{ s with sweepScheduled := decide (0 < s.watcherCount) && i.timer }, .none, []⟩

theorem watch_ok {now : Time} {timer : Bool} {r : WatchResult}
    (h : s.watch cfg now timer source name subscriber = .ok (s', r)) :
    source = subscriber ∧ s' = s.watched cfg now name subscriber ∧
      r = s.snapshot (s.leased cfg now name subscriber) := by
  unfold watch at h
  split at h
  · cases h
  split at h
  · cases h
  split at h
  · cases h
  next hsource =>
    rw [not_not] at hsource
    cases hscheduled : s.sweepScheduled with
    | true =>
      rw [if_pos hscheduled] at h
      cases h
      refine ⟨hsource, ?_, rfl⟩
      rw [watched, ← hscheduled]
      rfl
    | false =>
      rw [if_neg (by rw [hscheduled]; decide), scheduleWatchSweep] at h
      cases timer with
      | true =>
        cases h
        exact ⟨hsource, rfl, rfl⟩
      | false => cases h

/-- **A Command** makes one of the moves. -/
theorem perform_moves (i : Input) : Moves cfg s i (s.perform cfg i) := by
  cases hi : i.command with
  | publish name expected refs tags =>
    simp only [perform, hi]
    cases h : s.publish cfg i.source name expected refs tags with
    | error err => exact .kept (.inl ⟨err, rfl⟩)
    | ok p => exact .published hi h
  | get name =>
    simp only [perform, hi]
    cases s.get name with
    | error err => exact .kept (.inl ⟨err, rfl⟩)
    | ok set => exact .kept (.inr (.inr ⟨⟨name, hi⟩, _, rfl⟩))
  | watch name subscriber =>
    simp only [perform, hi]
    cases h : s.watch cfg i.now i.timer i.source name subscriber with
    | error err => exact .kept (.inl ⟨err, rfl⟩)
    | ok p =>
      obtain ⟨s', result⟩ := p
      obtain ⟨rfl, rfl, rfl⟩ := watch_ok h
      exact .watched hi
  | renewWatch lease =>
    simp only [perform, hi, renewWatch]
    cases h : s.presented cfg i.source lease with
    | error err => exact .kept (.inl ⟨err, rfl⟩)
    | ok _ => exact .renewed hi (presented_ok h).1 (presented_ok h).2
  | unwatch lease =>
    simp only [perform, hi, unwatch]
    cases h : s.presented cfg i.source lease with
    | error err => exact .kept (.inl ⟨err, rfl⟩)
    | ok _ => exact .unwatched hi (presented_ok h).1 (presented_ok h).2
  | sweep =>
    have hswept : Moves cfg s i _ := .swept hi
    simp only [perform, hi, scheduleWatchSweep]
    cases hwatched : decide (0 < s.watcherCount) <;> cases htimer : i.timer <;>
      simpa [hwatched, htimer, of_decide_eq_true, of_decide_eq_false] using hswept
  | malformed =>
    simp only [perform, hi]
    exact .kept (.inl ⟨_, rfl⟩)
  | refused =>
    simp only [perform, hi]
    exact .kept (.inr (.inl ⟨hi, rfl⟩))

end Directory

/-- A directory and the Commands it is sent, in any order and from anybody. -/
def directory (cfg : Config) : System Directory Input where
  init s := s = {}
  step s i := some (s.handle cfg i).directory

end GameServiceRuntime.ServiceGroup
