import GameServiceRuntime.ServiceGroup.Watch
import Mathlib.Algebra.Order.BigOperators.Group.List

/-!
# The books of the leases

The directory counts its leases as they come and go, keeps those of a group in a map of their own
that is dropped with the last of them, numbers them, and has a sweep under way as long as there is
one. Each of these is kept by several handlers, and by the loop that drops what has expired before
every Command.

A lease is handed out by a watch or a renewal. One that was handed out and is no longer the one in
the table is spent: whoever presents it is refused, and it never comes back. A new lease has a new
generation, and a renewed one is later than it was, so neither can be a lease of the past. It is
here that the clock must not go back.
-/

namespace GameServiceRuntime.ServiceGroup

open Control

def Directory.stop (s : Directory) : Directory :=
  { s with groups := ∅, watchers := ∅, watcherCount := 0, sweepScheduled := false }

/-- How many leases are stored. -/
def Directory.leases (s : Directory) : ℤ :=
  Table.sum (fun group => (Table.len group : ℤ)) s.watchers

/-- The lease a reply hands out. -/
def Reply.granted : Reply → Option WatchLease
  | .watch result => some result.lease
  | .lease granted => some granted
  | .set _ | .empty | .error _ | .none => .none

/-- The lease a reply hands out for a watch. -/
def Reply.watched : Reply → Option WatchLease
  | .watch result => some result.lease
  | .set _ | .lease _ | .empty | .error _ | .none => .none

/-- The directory, its clock, and the leases it has handed out, the last one first. -/
structure Office where
  directory : Directory := {}
  now : Time
  /-- Those of the watches. -/
  watched : List WatchLease := []
  /-- Those of the watches and the renewals. -/
  granted : List WatchLease := []
  /-- Every timer was accepted so far. -/
  timers : Bool := true

/-- What the Runtime calls. -/
inductive Visit
  | handle (i : Input)
  | stop

/-- A directory and its Commands, whose clock does not go back. -/
def office (cfg : Config) : System Office Visit where
  init w := ∃ now, w = { now := now }
  step w
    | .handle i =>
      if i.now < w.now then none
      else
        let o := w.directory.handle cfg i
        some
          { directory := o.directory
            now := i.now
            watched := o.reply.watched.toList ++ w.watched
            granted := o.reply.granted.toList ++ w.granted
            timers := w.timers && i.timer }
    | .stop => some { w with directory := w.directory.stop }

/-! ### Counting -/

section Count

variable {cfg : Config} {s : Directory} {i : Input} {o : Outcome} {name : Text} {lease : WatchLease}
  {subscriber : ServiceRef}

/-- The count is right, and no group is empty. -/
structure Counted (s : Directory) : Prop where
  count : s.watcherCount = s.leases
  nonempty : ∀ name group, s.watchers.lookup name = some group → Table.len group ≠ 0

/-- The leases of the other groups. -/
def Directory.others (s : Directory) (name : Text) : ℤ :=
  Table.sum (fun group => (Table.len group : ℤ)) (s.watchers.erase name)

theorem leases_eq (s : Directory) (name : Text) :
    s.leases = (s.groupWatchers name).len + s.others name := by
  rw [Directory.leases, Table.sum_erase _ s.watchers name, Directory.groupWatchers]
  cases s.watchers.lookup name <;> rfl

theorem leases_of_insert {s' : Directory} {group : Table ServiceRef WatchLease}
    (h : s'.watchers = s.watchers.insert name group) : s'.leases = group.len + s.others name := by
  rw [Directory.leases, h, Table.sum_insert]
  rfl

theorem len_insert (group : Table ServiceRef WatchLease) (subscriber : ServiceRef)
    (lease : WatchLease) : (Table.len (group.insert subscriber lease) : ℤ) =
      Table.len group + if (group.lookup subscriber).isSome then 0 else 1 := by
  rw [Table.len_eq_sum, Table.len_eq_sum, Table.sum_insert, Table.sum_erase _ group subscriber]
  cases group.lookup subscriber <;> simp [add_comm]

theorem len_erase {group : Table ServiceRef WatchLease}
    (h : group.lookup subscriber = some lease) :
    (Table.len (group.erase subscriber) : ℤ) = Table.len group - 1 := by
  rw [Table.len_eq_sum, Table.len_eq_sum, Table.sum_erase _ group subscriber, h]
  simp

theorem sum_sub_sum_sub {α : Type} (f g : α → ℤ) (xs : List α) :
    (xs.map f).sum - (xs.map fun x => f x - g x).sum = (xs.map g).sum := by
  induction xs with
  | nil => rfl
  | cons x xs ih =>
    simp only [List.map_cons, List.sum_cons]
    omega

theorem Counted.prune (h : Counted s) (now : Time) : Counted (s.pruneExpiredWatches now) := by
  constructor
  · rw [Directory.leases]
    simp only [Directory.pruneExpiredWatches]
    rw [Table.sum_filterMap, h.count, Directory.leases, Table.sum, sum_sub_sum_sub, Table.values,
      List.map_map]
    refine congrArg List.sum (List.map_congr_left fun e _ => ?_)
    simp only [Function.comp_apply]
    split_ifs with hlen
    · simp [hlen]
    · rfl
  · intro name group hgroup
    simp only [Directory.pruneExpiredWatches, Table.lookup_filterMap,
      Option.bind_eq_some_iff] at hgroup
    obtain ⟨old, -, hkept⟩ := hgroup
    split_ifs at hkept with hlen
    cases hkept
    exact hlen

theorem Counted.moves (h : Counted s) (hmoves : Directory.Moves cfg s i o) :
    Counted o.directory := by
  cases hmoves with
  | kept => exact h
  | published _ hpublish =>
    obtain ⟨-, rfl, -⟩ := publish_ok hpublish
    exact ⟨h.count, h.nonempty⟩
  | @watched name hi =>
    refine ⟨?_, Table.forall_insert h.nonempty (Nat.succ_ne_zero _)⟩
    have hcount := h.count.trans (leases_eq s name)
    rw [leases_of_insert rfl, len_insert]
    cases hknown : (s.groupWatchers name).lookup i.source with
    | none =>
      simp only [Directory.watched, Directory.watching, hknown, Option.isSome_none,
        Bool.false_eq_true, if_false]
      omega
    | some lease =>
      simp only [Directory.watched, Directory.watching, hknown, Option.isSome_some, if_true]
      omega
  | @renewed lease _ _ hlease =>
    refine ⟨?_, Table.forall_insert h.nonempty (Nat.succ_ne_zero _)⟩
    have hcount := h.count.trans (leases_eq s lease.group)
    rw [Directory.watching] at hlease
    rw [leases_of_insert rfl, len_insert, hlease]
    simp only [Directory.renewed, Option.isSome_some, if_true]
    omega
  | @unwatched lease _ _ hlease =>
    have hcount := h.count.trans (leases_eq s lease.group)
    have hlen := len_erase hlease
    constructor
    · show s.watcherCount - 1 = (s.unwatched lease).leases
      by_cases hempty : Table.len ((s.groupWatchers lease.group).erase lease.subscriber) = 0
      · have hleases : (s.unwatched lease).leases = s.others lease.group := by
          rw [Directory.leases, Directory.unwatched, if_pos hempty]
          rfl
        omega
      · have hleases : (s.unwatched lease).leases = _ := leases_of_insert (if_neg hempty)
        omega
    · intro name group hgroup
      simp only [Directory.unwatched] at hgroup
      split_ifs at hgroup with hempty
      · rw [Table.lookup_erase_ite] at hgroup
        split_ifs at hgroup
        exact h.nonempty name group hgroup
      · exact Table.forall_insert h.nonempty hempty name group hgroup
  | swept => exact ⟨h.count, h.nonempty⟩

theorem leases_pos {r : ServiceRef} (h : s.watching name r = some lease) : 0 < s.leases := by
  have hlen : (s.groupWatchers name).len ≠ 0 := fun hzero => by
    rw [Directory.watching, Table.len_eq_zero.1 hzero r] at h
    cases h
  have hothers : 0 ≤ s.others name := by
    refine List.sum_nonneg fun n hn => ?_
    obtain ⟨group, -, rfl⟩ := List.mem_map.1 hn
    exact Int.natCast_nonneg _
  rw [leases_eq s name]
  omega

/-- The leases of one directory are among those of another. -/
def Among (s' s : Directory) : Prop :=
  ∀ name subscriber lease, s'.watching name subscriber = some lease →
    s.watching name subscriber = some lease

theorem among_prune (s : Directory) (now : Time) : Among (s.pruneExpiredWatches now) s := by
  intro name subscriber lease h
  rw [Directory.watching_pruneExpiredWatches] at h
  exact Option.eq_some_of_filter_eq_some h

theorem among_of_watchers {s' : Directory} (h : s'.watchers = s.watchers) : Among s' s := by
  intro name subscriber lease hlease
  rwa [← watching_of_watchers h]

theorem among_unwatched (s : Directory) (lease : WatchLease) : Among (s.unwatched lease) s := by
  intro name subscriber lease' h
  rw [Directory.watching_of_erase rfl] at h
  split_ifs at h
  exact h

/-- A sweep is scheduled if there is a lease. -/
def Swept (s : Directory) : Prop :=
  ∀ name subscriber lease, s.watching name subscriber = some lease → s.sweepScheduled = true

theorem Swept.moves (h : Swept s) (hcounted : Counted s) (htimer : i.timer = true)
    (hmoves : Directory.Moves cfg s i o) : Swept o.directory := by
  cases hmoves with
  | kept => exact h
  | published _ hpublish =>
    obtain ⟨-, rfl, -⟩ := publish_ok hpublish
    exact h
  | watched => exact fun _ _ _ _ => rfl
  | @renewed lease _ _ hlease => exact fun _ _ _ _ => h _ _ _ hlease
  | @unwatched lease => exact fun _ _ _ hl => h _ _ _ (among_unwatched s lease _ _ _ hl)
  | swept =>
    intro name subscriber lease hl
    have hpos : 0 < s.watcherCount := by
      rw [hcounted.count]
      exact leases_pos (among_of_watchers (s := s) rfl _ _ _ hl)
    simp [hpos, htimer]

end Count

/-! ### Generations -/

/-- What the leases that were handed out have to do with those that are stored. -/
structure Numbered (cfg : Config) (s : Directory) (now : Time) (watched granted : List WatchLease) :
    Prop where
  next : s.nextGeneration.toNat = watched.length
  ordered : watched.Pairwise fun newer older => older.generation.toNat < newer.generation.toNat
  subset : ∀ lease ∈ watched, lease ∈ granted
  bound : ∀ lease ∈ granted, lease.generation.toNat ≤ watched.length
  stored : ∀ name subscriber lease, s.watching name subscriber = some lease →
    lease ∈ granted ∧ lease.expiresAt ≤ now + cfg.watchTTL
  /-- A stored lease is the latest of its generation. -/
  latest : ∀ lease ∈ granted, ∀ name subscriber current, s.watching name subscriber = some current →
    current.generation = lease.generation →
      lease.group = name ∧ lease.subscriber = subscriber ∧ lease.expiresAt ≤ current.expiresAt

section Numbers

variable {cfg : Config} {s s' : Directory} {i : Input} {o : Outcome} {now now' : Time}
  {watched granted : List WatchLease}

theorem Numbered.among (h : Numbered cfg s now watched granted) (hamong : Among s' s)
    (hnext : s'.nextGeneration = s.nextGeneration) (hnow : now ≤ now') :
    Numbered cfg s' now' watched granted where
  next := by rw [hnext, h.next]
  ordered := h.ordered
  subset := h.subset
  bound := h.bound
  stored name subscriber lease hl := by
    obtain ⟨hgranted, hexpires⟩ := h.stored name subscriber lease (hamong _ _ _ hl)
    exact ⟨hgranted, hexpires.trans (add_le_add_left hnow _)⟩
  latest lease hlease name subscriber current hl :=
    h.latest lease hlease name subscriber current (hamong _ _ _ hl)

theorem Numbered.generation_leased (h : Numbered cfg s now watched granted)
    (hfew : watched.length + 1 < 2 ^ 64) (name : Text) (subscriber : ServiceRef) :
    (s.leased cfg now name subscriber).generation.toNat = watched.length + 1 := by
  have hsucc : (s.nextGeneration + 1).toNat = watched.length + 1 := by
    rw [UInt64.toNat_add, h.next]
    exact Nat.mod_eq_of_lt hfew
  have hne : s.nextGeneration + 1 ≠ 0 := fun hzero => by
    rw [hzero] at hsucc
    cases hsucc
  rw [Directory.leased, Directory.newGeneration, if_neg hne, hsucc]

theorem Numbered.of_watched (h : Numbered cfg s now watched granted)
    (hfew : watched.length + 1 < 2 ^ 64) (name : Text) (subscriber : ServiceRef) :
    Numbered cfg (s.watched cfg now name subscriber) now
      (s.leased cfg now name subscriber :: watched)
      (s.leased cfg now name subscriber :: granted) := by
  have hnew := h.generation_leased hfew name subscriber
  have hold : ∀ lease ∈ granted,
      (s.leased cfg now name subscriber).generation ≠ lease.generation := by
    intro lease hlease heq
    have hbound := h.bound lease hlease
    rw [← heq] at hbound
    omega
  have hinsert : (s.watched cfg now name subscriber).watchers = s.watchers.insert name
      ((s.groupWatchers name).insert subscriber (s.leased cfg now name subscriber)) := rfl
  have hwatching := Directory.watching_of_insert hinsert
  constructor
  · exact hnew
  · refine List.pairwise_cons.2 ⟨fun lease hlease => ?_, h.ordered⟩
    have hbound := h.bound lease (h.subset lease hlease)
    omega
  · exact List.forall_mem_cons.2
      ⟨List.mem_cons_self, fun lease hlease => List.mem_cons_of_mem _ (h.subset lease hlease)⟩
  · refine List.forall_mem_cons.2 ⟨hnew.le, fun lease hlease => ?_⟩
    exact (h.bound lease hlease).trans (Nat.le_succ _)
  · intro g r lease hl
    rw [hwatching] at hl
    split_ifs at hl
    · cases hl
      exact ⟨List.mem_cons_self, le_refl _⟩
    · exact ⟨List.mem_cons_of_mem _ (h.stored g r lease hl).1, (h.stored g r lease hl).2⟩
  · intro lease hlease g r current hl heq
    rw [hwatching] at hl
    split_ifs at hl with hkey
    · cases hl
      rcases List.mem_cons.1 hlease with rfl | hlease
      · exact ⟨hkey.1.symm, hkey.2.symm, le_refl _⟩
      · exact absurd heq (hold lease hlease)
    · rcases List.mem_cons.1 hlease with rfl | hlease
      · exact absurd heq.symm (hold current (h.stored g r current hl).1)
      · exact h.latest lease hlease g r current hl heq

theorem Numbered.of_renewed {lease : WatchLease} (h : Numbered cfg s now watched granted)
    (hlease : s.watching lease.group lease.subscriber = some lease) :
    Numbered cfg (s.renewed cfg now lease) now watched
      (Directory.extended cfg now lease :: granted) := by
  obtain ⟨hgranted, hexpires⟩ := h.stored _ _ _ hlease
  have hinsert : (s.renewed cfg now lease).watchers = s.watchers.insert lease.group
      ((s.groupWatchers lease.group).insert lease.subscriber (Directory.extended cfg now lease)) :=
      rfl
  have hwatching := Directory.watching_of_insert hinsert
  constructor
  · exact h.next
  · exact h.ordered
  · exact fun l hl => List.mem_cons_of_mem _ (h.subset l hl)
  · exact List.forall_mem_cons.2 ⟨h.bound lease hgranted, h.bound⟩
  · intro g r current hl
    rw [hwatching] at hl
    split_ifs at hl
    · cases hl
      exact ⟨List.mem_cons_self, le_refl _⟩
    · exact ⟨List.mem_cons_of_mem _ (h.stored g r current hl).1, (h.stored g r current hl).2⟩
  · intro old hold g r current hl heq
    rw [hwatching] at hl
    split_ifs at hl with hkey
    · cases hl
      rcases List.mem_cons.1 hold with rfl | hold
      · exact ⟨hkey.1.symm, hkey.2.symm, le_refl _⟩
      · obtain ⟨hgroup, hsubscriber, hle⟩ := h.latest old hold _ _ lease hlease heq
        exact ⟨hgroup.trans hkey.1.symm, hsubscriber.trans hkey.2.symm, hle.trans hexpires⟩
    · rcases List.mem_cons.1 hold with rfl | hold
      · obtain ⟨hgroup, hsubscriber, -⟩ := h.latest lease hgranted g r current hl heq
        exact absurd ⟨hgroup.symm, hsubscriber.symm⟩ hkey
      · exact h.latest old hold g r current hl heq

theorem Numbered.moves (h : Numbered cfg s i.now watched granted)
    (hmoves : Directory.Moves cfg s i o)
    (hfew : (o.reply.watched.toList ++ watched).length < 2 ^ 64) :
    Numbered cfg o.directory i.now (o.reply.watched.toList ++ watched)
      (o.reply.granted.toList ++ granted) := by
  cases hmoves with
  | kept hreply => rcases hreply with ⟨err, rfl⟩ | ⟨-, rfl⟩ | ⟨-, set, rfl⟩ <;> exact h
  | published _ hpublish =>
    obtain ⟨-, rfl, -⟩ := publish_ok hpublish
    exact h.among (among_of_watchers rfl) rfl (le_refl _)
  | @watched name =>
    rw [Reply.watched, Reply.granted, Directory.lease_snapshot]
    exact h.of_watched (by simpa [Reply.watched, Nat.add_comm] using hfew) name i.source
  | renewed _ _ hlease => exact h.of_renewed hlease
  | @unwatched lease => exact h.among (among_unwatched s lease) rfl (le_refl _)
  | swept => exact h.among (among_of_watchers rfl) rfl (le_refl _)

/-- **A lease of the past does not come back.** -/
theorem Numbered.spent (h : Numbered cfg s i.now watched granted)
    (hmoves : Directory.Moves cfg s i o)
    (hfew : (o.reply.watched.toList ++ watched).length < 2 ^ 64) {lease : WatchLease}
    (hlease : lease ∈ granted) (hspent : s.watching lease.group lease.subscriber ≠ some lease) :
    o.directory.watching lease.group lease.subscriber ≠ some lease := by
  intro hback
  cases hmoves with
  | kept => exact hspent hback
  | published _ hpublish =>
    obtain ⟨-, rfl, -⟩ := publish_ok hpublish
    exact hspent hback
  | @watched name =>
    rw [show Directory.watching _ _ _ = _ from Directory.watching_of_insert rfl _ _] at hback
    split_ifs at hback with hkey
    · have hnew :=
        h.generation_leased (by simpa [Reply.watched, Nat.add_comm] using hfew) name i.source
      have hbound := h.bound lease hlease
      rw [Option.some_inj.1 hback] at hnew
      omega
    · exact hspent hback
  | @renewed old _ _ hold =>
    rw [show Directory.watching _ _ _ = _ from Directory.watching_of_insert rfl _ _] at hback
    split_ifs at hback with hkey
    · have heq := Option.some_inj.1 hback
      have hgeneration : old.generation = lease.generation := by rw [← heq, Directory.extended]
      obtain ⟨-, -, hle⟩ := h.latest lease hlease _ _ old hold hgeneration
      have hexpires := (h.stored _ _ old hold).2
      have hlease' : lease.expiresAt = i.now + cfg.watchTTL := by rw [← heq, Directory.extended]
      have hsame : old = lease := by
        rw [← heq, Directory.extended, ← hlease', le_antisymm hle (hexpires.trans hlease'.ge)]
      rw [← hsame] at hspent
      exact hspent hold
    · exact hspent hback
  | @unwatched old => exact hspent (among_unwatched s old _ _ _ hback)
  | swept => exact hspent hback

end Numbers

/-! ### Whole runs -/

/-- The books are in order. -/
structure Office.InOrder (cfg : Config) (w : Office) : Prop where
  counted : Counted w.directory
  keyed : Keyed w.directory
  swept : w.timers = true → Swept w.directory
  numbered : w.watched.length < 2 ^ 64 → Numbered cfg w.directory w.now w.watched w.granted

section Runs

variable {cfg : Config} {w w' : Office} {s : Directory} {lease : WatchLease}

theorem Office.InOrder.step {a : Visit} (h : w.InOrder cfg)
    (hstep : (office cfg).step w a = some w') : w'.InOrder cfg := by
  cases a with
  | stop =>
    cases hstep
    refine ⟨⟨rfl, nofun⟩, nofun, fun _ => nofun, fun hfew => ?_⟩
    exact (h.numbered hfew).among nofun rfl (le_refl _)
  | handle i =>
    simp only [office] at hstep
    split_ifs at hstep with hnow
    cases hstep
    have hmoves := @Directory.perform_moves cfg (w.directory.pruneExpiredWatches i.now) i
    refine ⟨(h.counted.prune i.now).moves hmoves, h.keyed.handle i, fun htimers => ?_,
      fun hfew => ?_⟩
    · rw [Bool.and_eq_true] at htimers
      refine Swept.moves (fun _ _ _ hl => ?_) (h.counted.prune i.now) htimers.2 hmoves
      exact h.swept htimers.1 _ _ _ (among_prune _ _ _ _ _ hl)
    · have hbefore : w.watched.length < 2 ^ 64 := by
        rw [List.length_append] at hfew
        omega
      exact ((h.numbered hbefore).among (among_prune _ i.now) rfl (not_lt.1 hnow)).moves hmoves hfew

theorem inOrder_of_reachable (hw : (office cfg).Reachable w) : w.InOrder cfg := by
  refine hw.invariant (I := Office.InOrder cfg) ?_ fun w a w' h _ hstep => h.step hstep
  rintro _ ⟨now, rfl⟩
  exact ⟨⟨rfl, nofun⟩, nofun, fun _ => nofun, fun _ => ⟨rfl, .nil, nofun, nofun, nofun, nofun⟩⟩

/-- The directory has a lease that has not expired. -/
def Directory.holds (s : Directory) (now : Time) (lease : WatchLease) : Prop :=
  s.watching lease.group lease.subscriber = some lease ∧ now < lease.expiresAt

theorem watching_prune_iff {now : Time} {name : Text} {subscriber : ServiceRef} :
    (s.pruneExpiredWatches now).watching name subscriber = some lease ↔
      s.watching name subscriber = some lease ∧ now < lease.expiresAt := by
  rw [Directory.watching_pruneExpiredWatches, Option.filter_eq_some_iff, decide_eq_true_eq]

/-- A lease that has not expired stays, unless its subscriber watches again or presents it. -/
theorem watching_handle_or {i : Input} {name : Text} {subscriber : ServiceRef}
    (hl : s.watching name subscriber = some lease) (hnow : i.now < lease.expiresAt) :
    (s.handle cfg i).directory.watching name subscriber = some lease ∨
      i.source = subscriber ∧ (i.command = .watch name subscriber ∨ i.command = .renewWatch lease ∨
        i.command = .unwatch lease) := by
  have hkept := watching_prune_iff.2 ⟨hl, hnow⟩
  have hmoves := @Directory.perform_moves cfg (s.pruneExpiredWatches i.now) i
  rw [Directory.handle]
  generalize s.pruneExpiredWatches i.now = s at hkept hmoves ⊢
  generalize s.perform cfg i = o at hmoves ⊢
  cases hmoves with
  | kept | swept => exact .inl hkept
  | published _ hpublish =>
    obtain ⟨-, rfl, -⟩ := publish_ok hpublish
    exact .inl hkept
  | @watched watched hi =>
    by_cases hkey : name = watched ∧ subscriber = i.source
    · obtain ⟨rfl, rfl⟩ := hkey
      exact .inr ⟨rfl, .inl hi⟩
    · exact .inl (((Directory.watching_of_insert rfl _ _).trans (if_neg hkey)).trans hkept)
  | @renewed old hi hsource hold =>
    by_cases hkey : name = old.group ∧ subscriber = old.subscriber
    · obtain ⟨rfl, rfl⟩ := hkey
      cases hold.symm.trans hkept
      exact .inr ⟨hsource, .inr (.inl hi)⟩
    · exact .inl (((Directory.watching_of_insert rfl _ _).trans (if_neg hkey)).trans hkept)
  | @unwatched old hi hsource hold =>
    by_cases hkey : name = old.group ∧ subscriber = old.subscriber
    · obtain ⟨rfl, rfl⟩ := hkey
      cases hold.symm.trans hkept
      exact .inr ⟨hsource, .inr (.inr hi)⟩
    · exact .inl (((Directory.watching_of_erase rfl _ _).trans (if_neg hkey)).trans hkept)

/-- A lease that its subscriber does not hold has no effect. -/
theorem handle_unheld {i : Input} (hi : i.command = .renewWatch lease ∨ i.command = .unwatch lease)
    (hlease : ¬(i.source = lease.subscriber ∧ s.holds i.now lease)) :
    (s.handle cfg i).directory = s.pruneExpiredWatches i.now ∧
      ∃ err, (s.handle cfg i).reply = .error err := by
  have hmoves := @Directory.perform_moves cfg (s.pruneExpiredWatches i.now) i
  rw [Directory.handle]
  generalize hs : s.pruneExpiredWatches i.now = s₁ at hmoves ⊢
  generalize s₁.perform cfg i = o at hmoves ⊢
  cases hmoves with
  | kept hreply =>
    rcases hreply with herror | ⟨hi', -⟩ | ⟨⟨name, hi'⟩, -⟩
    · exact ⟨rfl, herror⟩
    · rw [hi'] at hi
      simp at hi
    · rw [hi'] at hi
      simp at hi
  | published hi' | watched hi' | swept hi' =>
    rw [hi'] at hi
    simp at hi
  | renewed hi' hsource hold | unwatched hi' hsource hold =>
    rw [hi'] at hi
    simp at hi
    subst hi
    rw [← hs] at hold
    exact absurd ⟨hsource, watching_prune_iff.1 hold⟩ hlease

/-- What the books say, in every state. -/
structure Bookkeeping (cfg : Config) (w : Office) : Prop where
  /-- The count is that of the leases that are stored, and no group is empty. -/
  counted : Counted w.directory
  /-- A lease stands under its group and subscriber. -/
  keyed : Keyed w.directory
  /-- No two watches were given one generation. -/
  generations : (w.watched.map WatchLease.generation).Nodup
  /-- No two leases that are stored have one. -/
  distinct : ∀ name subscriber lease name' subscriber' lease',
    w.directory.watching name subscriber = some lease →
    w.directory.watching name' subscriber' = some lease' → lease.generation = lease'.generation →
    name = name' ∧ subscriber = subscriber'
  /-- A sweep is scheduled. -/
  swept : w.timers = true → ∀ name subscriber lease,
    w.directory.watching name subscriber = some lease → w.directory.sweepScheduled = true
  /-- A lease that has not expired stays, unless its subscriber watches again or presents it. -/
  owned : ∀ (i : Input) name subscriber lease,
    w.directory.watching name subscriber = some lease → i.now < lease.expiresAt →
    (w.directory.handle cfg i).directory.watching name subscriber = some lease ∨
      i.source = subscriber ∧ (i.command = .watch name subscriber ∨ i.command = .renewWatch lease ∨
        i.command = .unwatch lease)
  /-- A lease that its subscriber does not hold is refused. -/
  refused : ∀ (i : Input) lease, i.command = .renewWatch lease ∨ i.command = .unwatch lease →
    ¬(i.source = lease.subscriber ∧ w.directory.holds i.now lease) →
    (w.directory.handle cfg i).directory = w.directory.pruneExpiredWatches i.now ∧
      ∃ err, (w.directory.handle cfg i).reply = .error err
  /-- A lease that was replaced, renewed, given up or dropped is not stored again. -/
  spent : ∀ lease ∈ w.granted, w.directory.watching lease.group lease.subscriber ≠ some lease →
    ∀ w', ((office cfg).startAt w).Reachable w' → w'.watched.length < 2 ^ 64 →
    w'.directory.watching lease.group lease.subscriber ≠ some lease

theorem spent_of_reachable (hw : (office cfg).Reachable w) (hlease : lease ∈ w.granted)
    (hspent : w.directory.watching lease.group lease.subscriber ≠ some lease)
    (hw' : ((office cfg).startAt w).Reachable w') (hfew : w'.watched.length < 2 ^ 64) :
    w'.directory.watching lease.group lease.subscriber ≠ some lease := by
  have hall := hw'.invariant (I := fun w' => (office cfg).Reachable w' ∧ lease ∈ w'.granted ∧
    (w'.watched.length < 2 ^ 64 →
      w'.directory.watching lease.group lease.subscriber ≠ some lease)) ?_ ?_
  · exact hall.2.2 hfew
  · rintro _ rfl
    exact ⟨hw, hlease, fun _ => hspent⟩
  · intro w₁ a w₂ ⟨hw₁, hlease, hspent⟩ _ hstep
    refine ⟨.step hw₁ trivial hstep, ?_⟩
    cases a with
    | stop =>
      cases hstep
      exact ⟨hlease, fun _ => nofun⟩
    | handle i =>
      have hnumbered := (inOrder_of_reachable hw₁).numbered
      simp only [office, System.startAt] at hstep
      split_ifs at hstep with hnow
      cases hstep
      refine ⟨List.mem_append_right _ hlease, fun hfew => ?_⟩
      have hbefore : w₁.watched.length < 2 ^ 64 := by
        rw [List.length_append] at hfew
        omega
      refine ((hnumbered hbefore).among (among_prune _ i.now) rfl (not_lt.1 hnow)).spent
        (Directory.perform_moves i) hfew hlease fun hback => ?_
      exact hspent hbefore (among_prune _ _ _ _ _ hback)

/-- **The books of the leases.** -/
theorem leases_booked (cfg : Config) {w : Office} (hw : (office cfg).Reachable w)
    (hfew : w.watched.length < 2 ^ 64) : Bookkeeping cfg w := by
  have h := inOrder_of_reachable hw
  have hnumbered := h.numbered hfew
  refine ⟨h.counted, h.keyed, ?_, ?_, h.swept, fun i _ _ _ => watching_handle_or,
    fun i _ => handle_unheld, fun lease hlease hspent w' => spent_of_reachable hw hlease hspent⟩
  · refine List.pairwise_map.2 (hnumbered.ordered.imp fun hlt heq => ?_)
    rw [heq] at hlt
    exact lt_irrefl _ hlt
  · intro name subscriber lease name' subscriber' lease' hl hl' heq
    obtain ⟨hgroup, hsubscriber, -⟩ := hnumbered.latest lease (hnumbered.stored _ _ _ hl).1
      name' subscriber' lease' hl' heq.symm
    obtain ⟨hgroup', hsubscriber'⟩ := h.keyed name subscriber lease hl
    exact ⟨hgroup'.symm.trans hgroup, hsubscriber'.symm.trans hsubscriber⟩

end Runs

theorem leases_booked_sample : ∃ w lease, (office sampleConfig).Reachable w ∧
    w.watched.length < 2 ^ 64 ∧ w.timers = true ∧
    w.directory.watching "g" ⟨"n", 2⟩ = some lease ∧
    Bookkeeping sampleConfig w := by
  obtain ⟨w, hw, hp⟩ := System.exists_reachableUnder_of_run (office sampleConfig) (fun _ _ => True)
    (watchedInputs.map Visit.handle) (s := { now := 1 })
    (fun w => decide (w.watched.length < 2 ^ 64) && w.timers &&
      (w.directory.watching "g" ⟨"n", 2⟩).isSome) ⟨1, rfl⟩
    (by decide +kernel)
  simp only [Bool.and_eq_true, decide_eq_true_eq, Option.isSome_iff_exists] at hp
  obtain ⟨⟨hfew, htimers⟩, lease, hlease⟩ := hp
  exact ⟨w, lease, hw, hfew, htimers, hlease, leases_booked sampleConfig hw hfew⟩

end GameServiceRuntime.ServiceGroup
