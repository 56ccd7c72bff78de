import GameServiceRuntime.ServiceGroup.Publish

/-!
# A watch has no gap

A subscriber watches a group and is told the set that is published, and from then on it is sent
every set that is published next. It misses none as long as its lease stands.

What stands for the lease is what the subscriber itself knows: the lease its last successful watch
or renewal returned (`held`). The clock has not passed it when a Command is handled, and the
subscriber has not given it up (`stays`). Nothing is assumed about the order of the clock's
readings, and the subscriber may watch the group again at any time; the lease it then gets takes the
place of the one it had, in the directory and with the subscriber.

The one thing to see is that the lease held is the lease in the directory's table, where it stands
under its own subscriber: a publication therefore finds it once, and sends to it once.
-/

namespace GameServiceRuntime.ServiceGroup

open Control

section Watching

variable (cfg : Config) (g : Text) (r : ServiceRef)

/-- The lease a subscriber holds after a Command: the last one it was given. -/
def held (lease : WatchLease) (i : Input) (o : Outcome) : WatchLease :=
  match i.command, o.reply with
  | .watch name subscriber, .watch result =>
    if name = g ∧ subscriber = r then result.lease else lease
  | .renewWatch old, .lease new => if old.group = g ∧ old.subscriber = r then new else lease
  | _, _ => lease

/-- The Command gives the subscriber's lease up. -/
def unwatches (i : Input) (o : Outcome) : Bool :=
  match i.command, o.reply with
  | .unwatch lease, .empty => lease.group = g && lease.subscriber = r
  | _, _ => false

/-- Through all these Commands the lease has not expired and is not given up, and what is sent to
the subscriber arrives. -/
def stays : Directory → WatchLease → List Input → Bool
  | _, _, [] => true
  | s, lease, i :: is =>
    let o := s.handle cfg i
    i.now < lease.expiresAt && !unwatches g r i o && i.delivers r &&
      stays o.directory (held g r lease i o) is

/-- The directory after some Commands. -/
def after : Directory → List Input → Directory
  | s, [] => s
  | s, i :: is => after (s.handle cfg i).directory is

/-- The `ServiceSetChanged` Commands of the group that were sent to the subscriber. -/
def sent : Directory → List Input → List Note
  | _, [] => []
  | s, i :: is =>
    let o := s.handle cfg i
    o.notes.filter (fun n => n.subscriber = r ∧ n.set.name = g) ++ sent o.directory is

end Watching

/-! ### The lease in the table -/

section Table

variable {cfg : Config} {s s' : Directory} {g : Text} {r : ServiceRef}

/-- A lease stands under its own group and subscriber. -/
def Keyed (s : Directory) : Prop :=
  ∀ g r lease, s.watching g r = some lease → lease.group = g ∧ lease.subscriber = r

theorem Keyed.prune (h : Keyed s) (now : Time) : Keyed (s.pruneExpiredWatches now) := by
  intro g r lease hl
  rw [Directory.watching_pruneExpiredWatches] at hl
  exact h g r lease (Option.eq_some_of_filter_eq_some hl)

/-- What a Command does to the leases, once the expired ones are gone. -/
inductive LeaseMove (s : Directory) (i : Input) (o : Outcome) : Prop
  /-- Nothing, and the subscriber is given nothing. -/
  | same (hw : o.directory.watchers = s.watchers) (hheld : ∀ g r lease, held g r lease i o = lease)
      (hun : ∀ g r, unwatches g r i o = false)
  /-- A subscriber is given a lease. -/
  | put (lease : WatchLease)
      (hw : ∀ g r, o.directory.watching g r =
        if g = lease.group ∧ r = lease.subscriber then some lease else s.watching g r)
      (hheld : ∀ g r old, held g r old i o =
        if g = lease.group ∧ r = lease.subscriber then lease else old)
      (hun : ∀ g r, unwatches g r i o = false)
  /-- A subscriber gives its lease up. -/
  | drop (lease : WatchLease)
      (hw : ∀ g r, o.directory.watching g r =
        if g = lease.group ∧ r = lease.subscriber then none else s.watching g r)
      (hheld : ∀ g r old, held g r old i o = old)
      (hun : ∀ g r, unwatches g r i o = decide (g = lease.group ∧ r = lease.subscriber))

theorem perform_leases (i : Input) : LeaseMove s i (s.perform cfg i) := by
  have h := @Directory.perform_moves cfg s i
  generalize s.perform cfg i = o at h ⊢
  cases h with
  | kept hreply =>
    rcases hreply with ⟨err, rfl⟩ | ⟨hi, rfl⟩ | ⟨⟨name, hi⟩, set, rfl⟩
    · refine .same rfl (fun _ _ _ => ?_) fun _ _ => ?_
      · unfold held
        cases i.command <;> rfl
      · unfold unwatches
        cases i.command <;> rfl
    · exact .same rfl (fun _ _ _ => by rw [held, hi]) fun _ _ => by rw [unwatches, hi]
    · exact .same rfl (fun _ _ _ => by rw [held, hi]) fun _ _ => by rw [unwatches, hi]
  | published hi h =>
    obtain ⟨-, rfl, -⟩ := publish_ok h
    exact .same rfl (fun _ _ _ => by rw [held, hi]) fun _ _ => by rw [unwatches, hi]
  | @watched name hi =>
    refine .put (s.leased cfg i.now name i.source) (Directory.watching_of_insert rfl)
      (fun g r old => ?_) fun _ _ => by rw [unwatches, hi]
    rw [held, hi]
    exact if_congr (and_congr eq_comm eq_comm) (s.lease_snapshot _) rfl
  | @renewed lease hi =>
    refine .put (Directory.extended cfg i.now lease) (Directory.watching_of_insert rfl)
      (fun g r old => ?_) fun _ _ => by rw [unwatches, hi]
    rw [held, hi]
    exact if_congr (and_congr eq_comm eq_comm) rfl rfl
  | unwatched hi =>
    refine .drop _ (Directory.watching_of_erase rfl) (fun _ _ _ => by rw [held, hi]) fun g r => ?_
    simp [unwatches, hi, eq_comm]
  | swept hi => exact .same rfl (fun _ _ _ => by rw [held, hi]) fun _ _ => by rw [unwatches, hi]

theorem watching_of_watchers (h : s'.watchers = s.watchers) : s'.watching g r = s.watching g r := by
  rw [Directory.watching, Directory.groupWatchers, h]
  rfl

theorem Keyed.handle (h : Keyed s) (i : Input) : Keyed (s.handle cfg i).directory := by
  intro g r lease hl
  cases @perform_leases cfg (s.pruneExpiredWatches i.now) i with
  | same hw => exact h.prune i.now g r lease (by rwa [← watching_of_watchers hw])
  | put l hw =>
    have hcases := (hw g r).symm.trans hl
    split_ifs at hcases with hkey
    · cases hcases
      exact ⟨hkey.1.symm, hkey.2.symm⟩
    · exact h.prune i.now g r lease hcases
  | drop l hw =>
    have hcases := (hw g r).symm.trans hl
    split_ifs at hcases with hkey
    exact h.prune i.now g r lease hcases

theorem keyed_reachable (h : (directory cfg).Reachable s) : Keyed s := by
  refine h.invariant (I := Keyed) ?_ ?_
  · rintro s rfl g r lease hl
    cases hl
  · intro s i s' hs _ hstep
    cases hstep
    exact hs.handle i

/-- **The lease held is the lease in the table**, from one Command to the next. -/
theorem watching_handle {i : Input} {lease : WatchLease} (hl : s.watching g r = some lease)
    (hnow : i.now < lease.expiresAt) (hun : unwatches g r i (s.handle cfg i) = false) :
    (s.pruneExpiredWatches i.now).watching g r = some lease ∧
      (s.handle cfg i).directory.watching g r = some (held g r lease i (s.handle cfg i)) := by
  have hkept : (s.pruneExpiredWatches i.now).watching g r = some lease := by
    rw [Directory.watching_pruneExpiredWatches, hl]
    simp [Option.filter, hnow]
  refine ⟨hkept, ?_⟩
  cases @perform_leases cfg (s.pruneExpiredWatches i.now) i with
  | same hw hheld =>
    rw [Directory.handle, hheld, watching_of_watchers hw]
    exact hkept
  | put l hw hheld =>
    rw [Directory.handle, hheld, hw]
    split_ifs
    · rfl
    · exact hkept
  | drop l hw hheld hdrop =>
    rw [Directory.handle, hdrop] at hun
    rw [Directory.handle, hheld, hw, if_neg (of_decide_eq_false hun)]
    exact hkept

end Table

/-! ### What is sent -/

section Sent

variable {cfg : Config} {s s' : Directory} {g : Text} {r : ServiceRef} {lease : WatchLease}

/-- The revision that is published, `0` before the first. -/
def Directory.revision (s : Directory) (g : Text) : ℕ := (s.version g).revision.toNat

/-- A publication tells a subscriber of the group once. -/
theorem filter_notifyWatchers (hk : Keyed s) (hl : s.watching g r = some lease)
    (delivers : ServiceRef → Bool) {set : ServiceSet} (hset : Normal set) :
    (s.notifyWatchers delivers set).filter (fun n => n.subscriber = r ∧ n.set.name = g) =
      if set.name = g then [⟨r, set, delivers r⟩] else [] := by
  rw [Directory.notifyWatchers, hset.clone_eq, List.filter_map]
  by_cases hname : set.name = g
  · subst hname
    have hp : ((fun n : Note => decide (n.subscriber = r ∧ n.set.name = set.name)) ∘
        fun l : WatchLease => (⟨l.subscriber, set, delivers l.subscriber⟩ : Note)) =
          fun l => decide (l.subscriber = r) := by
      funext l
      simp
    have hfound :
      (s.groupWatchers set.name).values.filter (fun l => l.subscriber = r) = [lease] := by
      rw [Table.filter_values fun r' l' h' => (hk set.name r' l' h').2]
      exact congrArg Option.toList hl
    have hperm := (perm_sortByRef WatchLease.subscriber
      (s.groupWatchers set.name).values).filter fun l => decide (l.subscriber = r)
    rw [hfound, List.perm_singleton] at hperm
    rw [hp, hperm, if_pos rfl]
    simp [(hk set.name r lease hl).2]
  · rw [if_neg hname, List.map_eq_nil_iff, List.filter_eq_nil_iff]
    simp [hname]

/-- What one Command sends to a subscriber whose lease stands. -/
inductive Sends (cfg : Config) (s s' : Directory) (g : Text) (r : ServiceRef) (ok : Bool) :
    List Note → Prop
  /-- The group is not published, and nothing is sent. -/
  | nothing (h : s'.revision g = s.revision g) : Sends cfg s s' g r ok []
  /-- The group is published, and the new set is sent. -/
  | one {set : ServiceSet} (hname : set.name = g)
      (hepoch : set.version.authorityEpoch = cfg.authorityEpoch)
      (hset : set.version.revision.toNat = s.revision g + 1)
      (h : s'.revision g = s.revision g + 1) : Sends cfg s s' g r ok [⟨r, set, ok⟩]

theorem handle_sends {i : Input} (hk : Keyed s) (hl : s.watching g r = some lease)
    (hnow : i.now < lease.expiresAt) (hun : unwatches g r i (s.handle cfg i) = false) :
    Sends cfg s (s.handle cfg i).directory g r (i.delivers r)
      ((s.handle cfg i).notes.filter fun n => n.subscriber = r ∧ n.set.name = g) := by
  have hl' := (watching_handle hl hnow hun).2
  have hs := @handle_stores cfg s none i
  generalize commit none i (s.handle cfg i) = c at hs
  cases hs with
  | nothing hg hnotes =>
    rw [hnotes, List.filter_nil]
    exact .nothing (by rw [Directory.revision, Directory.version, hg]; rfl)
  | @stored c hc hn hg hnotes =>
    rw [hnotes, filter_notifyWatchers (hk.handle i) hl' i.delivers hc.normal, hc.named]
    split_ifs with hname
    · have hrev : c.set.version.revision.toNat = s.revision g + 1 := by
        have hroom : c.expected.revision.toNat ≠ 2 ^ 64 - 1 := fun hmax =>
          hc.room (UInt64.toNat_inj.mp (hmax.trans (by decide)))
        have hlt := c.expected.revision.toNat_lt
        rw [Directory.revision, ← hname, ← hc.expected_eq, hc.version_eq, UInt64.toNat_add]
        have hone : (1 : UInt64).toNat = 1 := rfl
        rw [hone]
        omega
      refine .one (by rw [hc.named, hname]) (by rw [hc.version_eq]) hrev ?_
      rw [← hrev, Directory.revision, Directory.version, hg, Table.lookup_insert_ite,
        if_pos hname.symm]
      rfl
    · refine .nothing ?_
      rw [Directory.revision, Directory.version, hg, Table.lookup_insert_ite,
        if_neg (Ne.symm hname)]
      rfl

/-- What a subscriber is sent while its lease stands: every revision after the one it started at,
in order. -/
structure Told (cfg : Config) (g : Text) (r : ServiceRef) (revision : ℕ) (s : Directory)
    (is : List Input) : Prop where
  /-- The revisions are consecutive. -/
  consecutive : (sent cfg g r s is).map (fun n => n.set.version.revision.toNat) =
    List.range' (revision + 1) (sent cfg g r s is).length
  /-- None is missing. -/
  complete : revision + (sent cfg g r s is).length = (after cfg s is).revision g
  /-- Each is a set of the group by this directory, and arrived. -/
  genuine : ∀ n ∈ sent cfg g r s is,
    n.set.version.authorityEpoch = cfg.authorityEpoch ∧ n.set.name = g ∧ n.delivered = true

theorem told_of_stays {is : List Input} (hk : Keyed s) (hl : s.watching g r = some lease)
    (h : stays cfg g r s lease is = true) : Told cfg g r (s.revision g) s is := by
  induction is generalizing s lease with
  | nil => exact ⟨rfl, rfl, by simp [sent]⟩
  | cons i is ih =>
    simp only [stays, Bool.and_eq_true, decide_eq_true_eq, Bool.not_eq_eq_eq_not,
      Bool.not_true] at h
    obtain ⟨⟨⟨hnow, hun⟩, hok⟩, hrest⟩ := h
    have htold := ih (hk.handle i) (watching_handle hl hnow hun).2 hrest
    have hsends := handle_sends hk hl hnow hun
    rw [hok] at hsends
    generalize hnotes : ((s.handle cfg i).notes.filter
      fun n => n.subscriber = r ∧ n.set.name = g) = notes at hsends
    have hsent :
      sent cfg g r s (i :: is) = notes ++ sent cfg g r (s.handle cfg i).directory is := by
      rw [← hnotes]
      rfl
    cases hsends with
    | nothing hrev =>
      rw [hrev] at htold
      constructor
      · rw [hsent]
        exact htold.consecutive
      · rw [hsent]
        exact htold.complete
      · rw [hsent]
        exact htold.genuine
    | one hname hepoch hset hrev =>
      rw [hrev] at htold
      constructor
      · rw [hsent, List.singleton_append, List.map_cons, List.length_cons, List.range'_succ,
          htold.consecutive, hset]
      · rw [hsent, List.singleton_append, List.length_cons]
        have := htold.complete
        simp only [after]
        omega
      · rw [hsent, List.singleton_append]
        intro n hn
        rcases List.mem_cons.mp hn with rfl | hn
        · exact ⟨hepoch, hname, rfl⟩
        · exact htold.genuine n hn

end Sent

/-- The version a watch tells, the zero version when there is none. -/
def WatchResult.version (w : WatchResult) : Version :=
  if w.found then w.current.version else ⟨0, 0⟩

theorem version_snapshot (s : Directory) (lease : WatchLease) :
    (s.snapshot lease).version = s.version lease.group := by
  unfold Directory.snapshot Directory.version
  cases s.groups.lookup lease.group <;> rfl

/-- The result of a watch is the lease that is held then, and what is published then. -/
theorem watch_reply {cfg : Config} {s : Directory} {i : Input} {g : Text} {r : ServiceRef}
    {w : WatchResult} (hi : i.command = .watch g r) (hr : (s.handle cfg i).reply = .watch w) :
    (s.handle cfg i).directory.watching g r = some w.lease ∧
      w.version = (s.handle cfg i).directory.version g := by
  have h := @Directory.perform_moves cfg (s.pruneExpiredWatches i.now) i
  rw [Directory.handle] at hr ⊢
  generalize (s.pruneExpiredWatches i.now).perform cfg i = o at h hr ⊢
  cases h with
  | kept hreply => rcases hreply with ⟨err, rfl⟩ | ⟨-, rfl⟩ | ⟨-, set, rfl⟩ <;> cases hr
  | watched hi' =>
    cases hi'.symm.trans hi
    cases hr
    rw [Directory.lease_snapshot]
    refine ⟨(Directory.watching_of_insert rfl _ _).trans (if_pos ⟨rfl, rfl⟩), ?_⟩
    exact version_snapshot _ _
  | published | renewed | unwatched | swept => cases hr

/-- **A watch has no gap.** From a successful watch on, as long as its lease stands and what is sent
to it arrives, the subscriber is sent the revisions that follow the one it was told, each once and
in order, up to the one that is published. -/
theorem watch_no_gap {cfg : Config} {s : Directory} {i : Input} {is : List Input} {g : Text}
    {r : ServiceRef} {w : WatchResult} (h : (directory cfg).Reachable s)
    (hi : i.command = .watch g r) (hr : (s.handle cfg i).reply = .watch w)
    (hstays : stays cfg g r (s.handle cfg i).directory w.lease is = true) :
    w.version = s.version g ∧
      Told cfg g r w.version.revision.toNat (s.handle cfg i).directory is := by
  obtain ⟨hl, hversion⟩ := watch_reply hi hr
  have hk : Keyed (s.handle cfg i).directory := (keyed_reachable h).handle i
  rw [hversion]
  refine ⟨?_, told_of_stays hk hl hstays⟩
  have hs := @handle_stores cfg s none i
  rw [commit, hi, hr] at hs
  cases hs with
  | nothing hg => rw [Directory.version, hg]; rfl

/-- A set is published, the subscriber watches again, and another set is published. -/
def watchedInputs : List Input :=
  let subscriber : ServiceRef := ⟨"n", 2⟩
  let publish (expected : Version) : Command :=
    .publish "g" expected [subscriber] none
  [⟨2, ⟨"n", 1⟩, publish ⟨0, 0⟩, true, fun _ => true⟩,
    ⟨3, subscriber, .watch "g" subscriber, true, fun _ => true⟩,
    ⟨32, ⟨"n", 1⟩, publish ⟨7, 1⟩, true, fun _ => true⟩]

theorem watch_no_gap_watchedInputs :
    let subscriber : ServiceRef := ⟨"n", 2⟩
    let first : Input := ⟨1, subscriber, .watch "g" subscriber, true, fun _ => true⟩
    ∃ w, ((Directory.handle sampleConfig {} first).reply = .watch w ∧
        stays sampleConfig "g" subscriber
          (Directory.handle sampleConfig {} first).directory w.lease watchedInputs = true) ∧
      (sent sampleConfig "g" subscriber
        (Directory.handle sampleConfig {} first).directory watchedInputs).length = 2 ∧
      Told sampleConfig "g" subscriber w.version.revision.toNat
        (Directory.handle sampleConfig {} first).directory watchedInputs := by
  intro subscriber first
  have hr : (Directory.handle sampleConfig {} first).reply =
      .watch ⟨⟨"g", subscriber, 7, 1, 31⟩, {}, false⟩ := by decide +kernel
  have hstays : stays sampleConfig "g" subscriber
      (Directory.handle sampleConfig {} first).directory
      ⟨"g", subscriber, 7, 1, 31⟩ watchedInputs = true := by decide +kernel
  refine ⟨_, ⟨hr, hstays⟩, by decide +kernel, ?_⟩
  exact (watch_no_gap (.init rfl) rfl hr hstays).2

end GameServiceRuntime.ServiceGroup
