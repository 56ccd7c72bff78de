import GameServiceRuntime.Control.Loops
import GameServiceRuntime.Control.NodeAgent

/-!
# Drain before stop

A service is stopped for a request only after it was taken out of its group, its guard said that it
is draining, and nobody who minds visits it. The three are in three places: the drain operation
collects the guards and reads the visitors, the stop operation is begun from a drain that is ready,
and the NodeAgent's runner looks at the Directory once more.

The guards are the part that has a history. A target is marked as guarded in a turn that has just
read the Directory as it was published, possibly many commands before the operation moves on, and
the mark stays. So the invariant is about the calls made so far (`DrainRecord.Guarded`): for every
mark there are a read and an answer of the guard, in this order.

A stop operation refers to its drain by the RequestID only. What makes that enough is that a drain
that is ready to stop does not change any more (`Advances.eq_of_turns`).
-/

namespace GameServiceRuntime.Control

/-! ### Records, up to their times -/

section Frame

variable (clock : Clock) {es : List Event}

theorem DrainRecord.touch_eq (r : DrainRecord) : ∃ updatedAt, r.operation.updatedAt ≤ updatedAt ∧
    r.touch clock = { r with operation := { r.operation with updatedAt := updatedAt } } := by
  unfold touch
  split
  · exact ⟨_, le_refl _, rfl⟩
  next h => exact ⟨clock.later, not_lt.1 h, rfl⟩

theorem DrainRecord.setPhase_eq (r : DrainRecord) (phase : DrainPhase) :
    ∃ updatedAt, r.operation.updatedAt ≤ updatedAt ∧ r.setPhase clock phase =
      { r with operation := { r.operation with phase := phase, updatedAt := updatedAt } } :=
  DrainRecord.touch_eq clock { r with operation := { r.operation with phase := phase } }

theorem confirmPublish_eq (r : DrainRecord) (published : ServiceSet) :
    ∃ updatedAt, r.operation.updatedAt ≤ updatedAt ∧ confirmPublish clock r published =
      { r with operation := { r.operation with
        published := published
        targets := drainTargets r.operation.original published
        phase := .guarding
        updatedAt := updatedAt } } := by
  unfold confirmPublish
  rw [cloneDrainServiceSet_eq]
  exact DrainRecord.setPhase_eq clock { r with operation := { r.operation with
    published := published, targets := drainTargets r.operation.original published } } .guarding

theorem StopRecord.touch_eq (r : StopRecord) : ∃ updatedAt, r.operation.updatedAt ≤ updatedAt ∧
    r.touch clock = { r with operation := { r.operation with updatedAt := updatedAt } } := by
  unfold touch
  split
  · exact ⟨_, le_refl _, rfl⟩
  next h => exact ⟨clock.later, not_lt.1 h, rfl⟩

theorem StopRecord.setPhase_eq (r : StopRecord) (phase : StopPhase) :
    ∃ updatedAt, r.operation.updatedAt ≤ updatedAt ∧ r.setPhase clock phase =
      { r with operation := { r.operation with phase := phase, updatedAt := updatedAt } } := by
  unfold setPhase
  split
  next h => exact ⟨_, le_refl _, by rw [← h]⟩
  · exact StopRecord.touch_eq clock { r with operation := { r.operation with phase := phase } }

theorem StopRecord.setTargets_eq (r : StopRecord) (targets : List StopTarget) (applied : Bool) :
    ∃ updatedAt, r.operation.updatedAt ≤ updatedAt ∧ r.setTargets clock targets applied =
      { r with operation := { r.operation with
        targets := r.operation.targets.refill targets, updatedAt := updatedAt } } := by
  unfold setTargets
  split
  · exact StopRecord.touch_eq clock
      { r with operation := { r.operation with targets := r.operation.targets.refill targets } }
  · exact ⟨_, le_refl _, rfl⟩

theorem StopTurn.frame {r r' : StopRecord} (h : StopTurn clock r es r') :
    r'.operation.requestID = r.operation.requestID ∧
      r'.operation.principal = r.operation.principal ∧ r'.operation.group = r.operation.group ∧
      r'.operation.published = r.operation.published ∧
      r'.operation.targets.elems.map StopTarget.target =
        r.operation.targets.elems.map StopTarget.target := by
  cases h with
  | terminal => exact ⟨rfl, rfl, rfl, rfl, rfl⟩
  | unread =>
    obtain ⟨u, -, heq⟩ := r.setPhase_eq clock .waiting
    rw [heq]
    exact ⟨rfl, rfl, rfl, rfl, rfl⟩
  | superseded =>
    obtain ⟨u, -, heq⟩ := r.setPhase_eq clock .superseded
    rw [heq]
    exact ⟨rfl, rfl, rfl, rfl, rfl⟩
  | @went e es₁ es₂ set targets applied b _ _ _ hreceipts hbegin =>
    obtain ⟨u, -, htargets⟩ := r.setTargets_eq clock b.targets (applied || b.applied)
    obtain ⟨v, -, hphase⟩ := (r.setTargets clock b.targets (applied || b.applied)).setPhase_eq clock
      (b.phase.getD (concludedPhase b.targets))
    rw [hphase, htargets]
    refine ⟨rfl, rfl, rfl, rfl, ?_⟩
    calc b.targets.map StopTarget.target
        = targets.map StopTarget.target :=
          map_eq_of_forall₂ (beginStops_spec _ _ _ hbegin).1 fun _ _ h => h.target_eq
      _ = r.operation.targets.elems.map StopTarget.target :=
          map_eq_of_forall₂ (readStopReceipts_spec _ _ _ hreceipts).1 fun _ _ h => h.target_eq

/-- What stays of a drain from its start on. -/
structure DrainHead where
  request : StartDrainRequest
  requestID : Text
  principal : Text
  group : Text
  expected : Version
  createdAt : Time

/-- The head of a record. -/
def DrainRecord.head (r : DrainRecord) : DrainHead where
  request := r.request
  requestID := r.operation.requestID
  principal := r.operation.principal
  group := r.operation.group
  expected := r.operation.expected
  createdAt := r.operation.createdAt

variable {clock} in
@[simp] theorem DrainRecord.head_touch (r : DrainRecord) : (r.touch clock).head = r.head := by
  obtain ⟨u, -, heq⟩ := r.touch_eq clock
  rw [heq]
  rfl

variable {clock} in
@[simp] theorem DrainRecord.head_setPhase (r : DrainRecord) (phase : DrainPhase) :
    (r.setPhase clock phase).head = r.head := by
  obtain ⟨u, -, heq⟩ := r.setPhase_eq clock phase
  rw [heq]
  rfl

variable {clock} in
@[simp] theorem head_confirmPublish (r : DrainRecord) (published : ServiceSet) :
    (confirmPublish clock r published).head = r.head := by
  obtain ⟨u, -, heq⟩ := confirmPublish_eq clock r published
  rw [heq]
  rfl

variable {clock} in
theorem Turn.head_eq {r r' : DrainRecord} {more : Bool} (h : Turn clock r es r' more) :
    r'.head = r.head := by
  cases h with
  | stay => rfl
  | mismatched | superseded => exact r.head_setPhase _
  | unpublished => exact (r.withOriginal _).head_setPhase _
  | published => exact head_confirmPublish (r.withOriginal _) _
  | confirmed => exact head_confirmPublish r _
  | unguarded | visited => exact (r.withTargets _).head_touch
  | guarded | clear => exact (r.withTargets _).head_setPhase _

variable {clock} in
theorem Advances.head_eq {r r' : DrainRecord} (h : Advances clock r es r') : r'.head = r.head := by
  induction h with
  | last h => exact (advanceOnce_turn h).head_eq
  | next h _ ih => exact ih.trans (advanceOnce_turn h).head_eq

end Frame

/-! ### Guards -/

theorem mem_drainTargets {original published : ServiceSet} {t : DrainTarget} :
    t ∈ (drainTargets original published).elems ↔
      ∃ ref, (ref ∈ original.refs.elems ∧ ref ∉ published.refs.elems) ∧ t = { ref := ref } := by
  simp only [drainTargets, Slice.elems_of, mem_sortByRef, List.mem_map, List.mem_filter,
    decide_eq_true_eq]
  simp only [eq_comm]

/-- The Directory was read as `published`, and after that the guard of the service said that it is
draining. -/
def GuardedAfter (calls : List Event) (group : Text) (published : ServiceSet)
    (target : ServiceRef) : Prop :=
  ∃ read answer set, [read, answer].Sublist calls ∧ Event.Reads read group set ∧
    sameDrainServiceSet set published = true ∧ Event.Guards answer target

theorem GuardedAfter.append {calls : List Event} {group : Text} {published : ServiceSet}
    {target : ServiceRef} (h : GuardedAfter calls group published target) (es : List Event) :
    GuardedAfter (calls ++ es) group published target := by
  obtain ⟨read, answer, set, hsub, hrest⟩ := h
  exact ⟨read, answer, set, hsub.trans (List.sublist_append_left _ _), hrest⟩

/-- The phases in which the targets are those of the published set. -/
def DrainPhase.targeted : DrainPhase → Bool
  | .guarding | .waitingVisitors | .readyToStop => true
  | _ => false

/-- The phases in which all targets are guarded. -/
def DrainPhase.drained : DrainPhase → Bool
  | .waitingVisitors | .readyToStop => true
  | _ => false

/-- The marks of a drain are backed by the calls made so far. -/
structure DrainRecord.Guarded (calls : List Event) (r : DrainRecord) : Prop where
  targets : r.operation.phase.targeted = true → r.operation.targets.elems.map DrainTarget.ref =
    (drainTargets r.operation.original r.operation.published).elems.map DrainTarget.ref
  marks : ∀ t ∈ r.operation.targets.elems, t.guarded = true →
    GuardedAfter calls r.request.group r.operation.published t.ref
  all : r.operation.phase.drained = true → ∀ t ∈ r.operation.targets.elems, t.guarded = true

section Drain

variable {clock : Clock} {r r' : DrainRecord} {es calls : List Event} {more : Bool}

theorem DrainRecord.Guarded.append (h : r.Guarded calls) (es : List Event) :
    r.Guarded (calls ++ es) :=
  ⟨h.targets, fun t ht hguarded => (h.marks t ht hguarded).append es, h.all⟩

theorem DrainRecord.Guarded.new (clock : Clock) (request : StartDrainRequest) :
    (newDrainRecord clock request).Guarded calls where
  targets hphase := by cases hphase
  marks t ht := by cases ht
  all hphase := by cases hphase

theorem DrainRecord.Guarded.touch (h : r.Guarded calls) : (r.touch clock).Guarded calls := by
  obtain ⟨u, -, heq⟩ := r.touch_eq clock
  rw [heq]
  exact ⟨h.targets, h.marks, h.all⟩

/-- A record whose marks are backed, in a phase that says nothing of the targets. -/
theorem DrainRecord.Guarded.of_marks {phase : DrainPhase} (htargeted : phase.targeted = false)
    (hmarks : ∀ t ∈ r.operation.targets.elems, t.guarded = true →
      GuardedAfter calls r.request.group r.operation.published t.ref) :
    (r.setPhase clock phase).Guarded calls := by
  obtain ⟨u, -, heq⟩ := r.setPhase_eq clock phase
  rw [heq]
  refine ⟨?_, hmarks, ?_⟩
  · intro hphase
    exact absurd (hphase.symm.trans htargeted) Bool.noConfusion
  · intro hphase
    cases phase <;> simp_all [DrainPhase.targeted, DrainPhase.drained]

/-- A record whose targets are right and all guarded, in any phase. -/
theorem DrainRecord.Guarded.of_all (phase : DrainPhase)
    (htargets : r.operation.targets.elems.map DrainTarget.ref =
      (drainTargets r.operation.original r.operation.published).elems.map DrainTarget.ref)
    (hmarks : ∀ t ∈ r.operation.targets.elems, t.guarded = true →
      GuardedAfter calls r.request.group r.operation.published t.ref)
    (hall : ∀ t ∈ r.operation.targets.elems, t.guarded = true) :
    (r.setPhase clock phase).Guarded calls := by
  obtain ⟨u, -, heq⟩ := r.setPhase_eq clock phase
  rw [heq]
  exact ⟨fun _ => htargets, hmarks, fun _ => hall⟩

theorem DrainRecord.Guarded.confirmPublish (published : ServiceSet) :
    (Control.confirmPublish clock r published).Guarded calls := by
  obtain ⟨u, -, heq⟩ := confirmPublish_eq clock r published
  rw [heq]
  refine ⟨fun _ => rfl, ?_, fun hphase => nomatch hphase⟩
  intro t ht hguarded
  obtain ⟨ref, -, rfl⟩ := mem_drainTargets.1 ht
  cases hguarded

theorem DrainRecord.Guarded.guardTargets {read : Event} {set : ServiceSet} {ts : List DrainTarget}
    {all : Bool} (h : r.Guarded calls) (hphase : r.operation.phase = .guarding)
    (hread : read.Reads r.request.group set)
    (hsame : sameDrainServiceSet set r.operation.published = true)
    (hloop : (Control.guardTargets r.operation.targets.elems).Returns es (ts, all)) :
    (r.withTargets ts).Guarded (calls ++ read :: es) ∧
    (all = true → ∀ t ∈ ts, t.guarded = true) := by
  obtain ⟨hsteps, hall⟩ := guardTargets_spec hloop
  refine ⟨⟨?_, ?_, ?_⟩, hall⟩
  · intro htargeted
    refine Eq.trans (map_eq_of_forall₂ hsteps ?_) (h.targets htargeted)
    rintro t t' (rfl | ⟨rfl, -⟩)
    · rfl
    · rfl
  · intro t' ht' hguarded
    obtain ⟨t, ht, rfl | ⟨rfl, answer, hanswer, hguards⟩⟩ := exists_of_forall₂ hsteps ht'
    · exact (h.marks t' ht hguarded).append _
    · refine ⟨read, answer, set, ?_, hread, hsame, hguards⟩
      have hpair : [read, answer].Sublist (read :: es) :=
        (List.singleton_sublist.2 hanswer).cons_cons read
      exact hpair.trans (List.sublist_append_right _ _)
  · intro hdrained
    have hguarding : r.operation.phase.drained = true := hdrained
    rw [hphase] at hguarding
    cases hguarding

theorem DrainRecord.Guarded.countVisitors {ts : List DrainTarget} {all : Bool} (h : r.Guarded calls)
    (hloop : (Control.countVisitors r.operation.targets.elems).Returns es (ts, all)) :
    (r.withTargets ts).Guarded calls := by
  have hsteps := (countVisitors_spec hloop).1
  have hkeeps : ∀ t' ∈ ts, ∃ t ∈ r.operation.targets.elems,
      t'.ref = t.ref ∧ t'.guarded = t.guarded := by
    intro t' ht'
    obtain ⟨t, ht, rfl | ⟨e, -, visitors, -, rfl⟩⟩ := exists_of_forall₂ hsteps ht'
    · exact ⟨t', ht, rfl, rfl⟩
    · exact ⟨t, ht, rfl, rfl⟩
  refine ⟨?_, ?_, ?_⟩
  · intro htargeted
    refine Eq.trans (map_eq_of_forall₂ hsteps ?_) (h.targets htargeted)
    rintro t t' (rfl | ⟨e, -, visitors, -, rfl⟩)
    · rfl
    · rfl
  · intro t' ht' hguarded
    obtain ⟨t, ht, href, hmark⟩ := hkeeps t' ht'
    rw [href]
    exact h.marks t ht (hmark ▸ hguarded)
  · intro hdrained t' ht'
    obtain ⟨t, ht, -, hmark⟩ := hkeeps t' ht'
    rw [hmark]
    exact h.all hdrained t ht

/-- **A turn keeps the marks backed.** -/
theorem DrainRecord.Guarded.turn (h : r.Guarded calls) (ht : Turn clock r es r' more) :
    r'.Guarded (calls ++ es) := by
  have happend : ∀ es', r.Guarded (calls ++ es') := h.append
  cases ht with
  | stay => exact happend es
  | mismatched | superseded => exact .of_marks rfl (happend _).marks
  | unpublished => exact .of_marks (by split <;> rfl) (happend _).marks
  | published | confirmed => exact .confirmPublish _
  | unguarded hphase hread hsame hloop => exact (h.guardTargets hphase hread hsame hloop).1.touch
  | guarded hphase hread hsame hloop =>
    obtain ⟨hguarded, hall⟩ := h.guardTargets hphase hread hsame hloop
    refine .of_all _ (hguarded.targets ?_) hguarded.marks (hall rfl)
    show r.operation.phase.targeted = true
    rw [hphase]
    rfl
  | visited _ _ _ hloop => exact ((happend _).countVisitors hloop).touch
  | @clear e es set ts hphase _ _ hloop =>
    have hguarded := (happend (e :: es)).countVisitors hloop
    refine .of_all _ (hguarded.targets ?_) hguarded.marks (hguarded.all ?_)
    · show r.operation.phase.targeted = true
      rw [hphase]
      rfl
    · show r.operation.phase.drained = true
      rw [hphase]
      rfl

/-- **The loop of `advance`** keeps them. -/
theorem Advances.guarded (h : Advances clock r es r') (hr : r.Guarded calls) :
    r'.Guarded (calls ++ es) :=
  h.induction (I := fun r calls => r.Guarded calls) (fun _ _ _ _ _ hr ht => hr.turn ht) hr

/-! ### Readiness -/

theorem Turn.ne_ready (h : Turn clock r es r' true) : r'.operation.phase ≠ .readyToStop := by
  cases h with
  | published | confirmed => rw [confirmPublish, DrainRecord.phase_setPhase]; decide
  | guarded => rw [DrainRecord.phase_setPhase]; decide

/-- A drain in a phase without turns does not change. -/
theorem Advances.eq_of_turns (h : Advances clock r es r') (hr : r.operation.phase.turns = 0) :
    r' = r := by
  have hturn : ∀ es₁ r₁ more, Turn clock r es₁ r₁ more → more = false ∧ r₁ = r := by
    intro es₁ r₁ more ht
    cases ht with
    | stay => exact ⟨rfl, rfl⟩
    | mismatched hphase | unpublished hphase | published hphase | confirmed hphase
    | unguarded hphase | guarded hphase | visited hphase | clear hphase =>
      rw [hphase] at hr; cases hr
    | superseded hphase => rcases hphase with h | h | h <;> rw [h] at hr <;> cases hr
  cases h with
  | last h => exact (hturn _ _ _ (advanceOnce_turn h)).2
  | next h => exact absurd (hturn _ _ _ (advanceOnce_turn h)).1 Bool.noConfusion

/-- **A drain becomes ready** in a loop that read the visitors of every target, with no strong one
among them. -/
theorem Advances.cleared (h : Advances clock r es r') (hr : r.operation.phase ≠ .readyToStop)
    (hr' : r'.operation.phase = .readyToStop) :
    ∀ t ∈ r'.operation.targets.elems, Cleared es t.ref := by
  induction h with
  | last h =>
    cases advanceOnce_turn h with
    | stay => exact absurd hr' hr
    | clear hphase hread hsame hloop =>
      obtain ⟨u, -, heq⟩ := DrainRecord.setPhase_eq clock (DrainRecord.withTargets _ _) .readyToStop
      rw [heq]
      intro t ht
      exact ((countVisitors_spec hloop).2 rfl t ht).mono fun e he => List.mem_cons_of_mem _ he
    | mismatched | superseded => rw [DrainRecord.phase_setPhase] at hr'; cases hr'
    | unpublished => rw [DrainRecord.phase_setPhase] at hr'; split at hr' <;> cases hr'
    | unguarded hphase | visited hphase =>
      rw [DrainRecord.phase_touch] at hr'
      exact absurd (hphase.symm.trans hr') (by decide)
  | next h _ ih =>
    intro t ht
    exact (ih (advanceOnce_turn h).ne_ready hr' t ht).mono fun e he => List.mem_append_right _ he

end Drain

/-! ### Stop operations and their drains -/

/-- A stop operation is one of a drain that is ready, with its principal, set and targets. -/
structure StopRecord.Linked (t : Tables) (requestID : Text) (r : StopRecord) : Prop where
  requestID_eq : r.operation.requestID = requestID
  drain : ∃ d, t.operations.lookup requestID = some d ∧ d.operation.phase = .readyToStop ∧
    r.operation.principal = d.operation.principal ∧ r.operation.group = d.operation.group ∧
    r.operation.published = d.operation.published ∧
    r.operation.targets.elems.map StopTarget.target =
      d.operation.targets.elems.map DrainTarget.ref

/-- What holds of the tables after the calls made so far. -/
structure Tables.Drained (calls : List Event) (t : Tables) : Prop where
  drains : ∀ requestID r, t.operations.lookup requestID = some r →
    r.Guarded calls ∧ r.request.group = r.operation.group
  stops : ∀ requestID r, t.stops.lookup requestID = some r → r.Linked t requestID

section Tables

variable {clock : Clock} {t t' : Tables} {c : Command} {es calls : List Event}

variable {requestID : Text} {r r' : StopRecord}

theorem Change.drain_stays (h : Change clock t c es t') {d : DrainRecord}
    (hd : t.operations.lookup requestID = some d) (hturns : d.operation.phase.turns = 0) :
    t'.operations.lookup requestID = some d := by
  cases h with
  | start hnormal hnew hadvance =>
    rw [Table.lookup_insert_ite, if_neg]
    · exact hd
    · rintro rfl
      rw [hnew] at hd
      cases hd
  | resolve hold howner hadvance =>
    rw [Table.lookup_insert_ite]
    split
    next hkey =>
      rw [hkey, hold] at hd
      cases hd
      rw [hadvance.eq_of_turns hturns]
    · exact hd
  | _ => exact hd

/-- A stop operation begins linked, and keeps what links it. -/
theorem StopRecord.Linked.turn (h : r.Linked t requestID) (ht : StopTurn clock r es r') :
    r'.Linked t requestID := by
  obtain ⟨hid, hprincipal, hgroup, hpublished, htargets⟩ := ht.frame
  obtain ⟨d, hd, hready, h₁, h₂, h₃, h₄⟩ := h.drain
  exact ⟨hid.trans h.requestID_eq, d, hd, hready, hprincipal.trans h₁, hgroup.trans h₂,
    hpublished.trans h₃, htargets.trans h₄⟩

theorem StopRecord.linked_new {request : BeginStopRequest} {d : DrainRecord}
    (hd : t.operations.lookup request.requestID = some d)
    (hready : d.operation.phase = .readyToStop)
    (howner : d.operation.principal = request.principal)
    (htargets : request.targets.elems.map StopTargetRequest.target =
      d.operation.targets.elems.map DrainTarget.ref) :
    StopRecord.Linked t request.requestID
      ⟨request, newStopOperation clock request d.operation⟩ := by
  refine ⟨rfl, d, hd, hready, howner.symm, rfl, cloneDrainServiceSet_eq _, ?_⟩
  rw [← htargets]
  simp [newStopOperation, Function.comp_def]

/-- **Every command keeps the tables in order.** -/
theorem Tables.Drained.change (h : t.Drained calls) (hc : Change clock t c es t') :
    t'.Drained (calls ++ es) := by
  have hmono : ∀ requestID r, t.stops.lookup requestID = some r → r.Linked t' requestID := by
    intro requestID r hr
    obtain ⟨hid, d, hd, hready, hrest⟩ := h.stops requestID r hr
    exact ⟨hid, d, hc.drain_stays hd (by rw [hready]; rfl), hready, hrest⟩
  have hdrains : ∀ requestID r, t.operations.lookup requestID = some r →
      r.Guarded (calls ++ es) ∧ r.request.group = r.operation.group := fun requestID r hr =>
    ⟨(h.drains requestID r hr).1.append es, (h.drains requestID r hr).2⟩
  cases hc with
  | keep | beginRecovery | moveRecovery => exact ⟨hdrains, hmono⟩
  | @start request normalized es r hnormal hnew hadvance =>
    refine ⟨?_, hmono⟩
    intro requestID r' hr'
    rw [Table.lookup_insert_ite] at hr'
    split at hr'
    · cases hr'
      have hhead := hadvance.head_eq
      refine ⟨hadvance.guarded ?_, ?_⟩
      · exact .new clock normalized
      · have hrequest := congrArg DrainHead.request hhead
        have hgroup := congrArg DrainHead.group hhead
        exact (congrArg StartDrainRequest.group hrequest).trans hgroup.symm
    · exact hdrains _ _ hr'
  | @resolve requestID principal es r r' hold howner hadvance =>
    refine ⟨?_, hmono⟩
    intro id r₁ hr₁
    rw [Table.lookup_insert_ite] at hr₁
    split at hr₁
    · cases hr₁
      obtain ⟨hguarded, hsame⟩ := h.drains requestID r hold
      have hhead := hadvance.head_eq
      refine ⟨hadvance.guarded hguarded, ?_⟩
      have hrequest := congrArg DrainHead.request hhead
      have hgroup := congrArg DrainHead.group hhead
      exact ((congrArg StartDrainRequest.group hrequest).trans hsame).trans hgroup.symm
    · exact hdrains _ _ hr₁
  | @beginStop request normalized e es set d r hnormal hnew hdrain hready howner htargets _
    _ hturn =>
    refine ⟨hdrains, ?_⟩
    intro id r₁ hr₁
    rw [Table.lookup_insert_ite] at hr₁
    split at hr₁
    next hid =>
      cases hr₁
      rw [hid]
      obtain ⟨heq, d', hd', hrest⟩ :=
        (StopRecord.linked_new hdrain hready howner htargets).turn hturn
      exact ⟨heq, d', hd', hrest⟩
    · exact hmono _ _ hr₁
  | @resolveStop requestID principal es r r' hold howner hphase hturn =>
    refine ⟨hdrains, ?_⟩
    intro id r₁ hr₁
    rw [Table.lookup_insert_ite] at hr₁
    split at hr₁
    next hid =>
      cases hr₁
      rw [hid]
      obtain ⟨heq, d', hd', hrest⟩ := (h.stops requestID r hold).turn hturn
      exact ⟨heq, d', hd', hrest⟩
    · exact hmono _ _ hr₁

theorem Event.Reads.not_sends {e : Event} {group : Text} {set : ServiceSet} (h : e.Reads group set)
    (task : NodeStopTask) : ¬e.Sends task := by
  intro hs
  rw [Event.Sends, h.1] at hs
  cases hs

theorem RecoveryTurn.not_sends {r r' : RecoveryRecord} (h : RecoveryTurn clock r es r') :
    ∀ e ∈ es, ∀ task, ¬e.Sends task := by
  intro e he task hs
  rcases h.only e he with ⟨group, hop⟩ | ⟨task', hop⟩ | ⟨agent, id, removed, hop⟩ <;>
    rw [Event.Sends, hop] at hs <;> cases hs

theorem RecoveryMove.not_sends {r r' : RecoveryRecord}
    (h : RecoveryMove clock requestID r c es r') : ∀ e ∈ es, ∀ task, ¬e.Sends task := by
  cases h with
  | turn _ _ hturn => exact hturn.not_sends
  | unconfirmed _ _ hes => exact not_sends_of_glance hes
  | confirmed _ _ hread _ hpublish =>
    refine List.forall_mem_cons.2 ⟨hread.not_sends, fun e he task hs => ?_⟩
    have honly := publish_only _ _ _ _ _ _ hpublish e he
    rw [show e.1 = .beginNodeStop task from hs] at honly
    exact honly
  | abandoned => simp

theorem StopTurn.sends (h : StopTurn clock r es r') :
    Confirmed es ∧ ∀ e ∈ es, ∀ task, e.Sends task →
      task.requestID = r.operation.requestID ∧ task.group = r.operation.group ∧
        task.published = r.operation.published ∧
        task.target ∈ r.operation.targets.elems.map StopTarget.target := by
  have hsilent : ∀ es : List Event, (∀ e ∈ es, ∀ task, ¬e.Sends task) → Confirmed es ∧
      ∀ e ∈ es, ∀ task, e.Sends task → task.requestID = r.operation.requestID ∧
        task.group = r.operation.group ∧ task.published = r.operation.published ∧
        task.target ∈ r.operation.targets.elems.map StopTarget.target := fun es hes =>
    ⟨.of_silent hes, fun e he task hs => absurd hs (hes e he task)⟩
  cases h with
  | terminal => exact hsilent _ (by simp)
  | unread _ hes => exact hsilent _ (not_sends_of_glance hes)
  | superseded _ hread => exact hsilent _ (by simpa using hread.not_sends)
  | @went e es₁ es₂ set targets applied b _ hread _ hreceipts hbegin =>
    obtain ⟨hsteps, hquiet⟩ := readStopReceipts_spec _ _ _ hreceipts
    obtain ⟨-, hconfirmed, htasks, -⟩ := beginStops_spec _ _ _ hbegin
    have hfront : ∀ e' ∈ e :: es₁, ∀ task, ¬e'.Sends task :=
      List.forall_mem_cons.2 ⟨hread.not_sends, hquiet⟩
    refine ⟨(Confirmed.of_silent hfront).append hconfirmed, ?_⟩
    intro e' he' task hs
    rw [← List.cons_append, List.mem_append] at he'
    rcases he' with he' | he'
    · exact absurd hs (hfront e' he' task)
    · obtain ⟨target, htarget, rfl⟩ := htasks e' he' task hs
      obtain ⟨target₀, htarget₀, hstep⟩ := exists_of_forall₂ hsteps htarget
      refine ⟨rfl, rfl, cloneDrainServiceSet_eq _, List.mem_map.2 ⟨target₀, htarget₀, ?_⟩⟩
      exact hstep.target_eq.symm

/-- A task for a target of a drain that was ready before the command, sent for a stop operation of
the drain's principal. -/
def Tables.Dispatches (t t' : Tables) (task : NodeStopTask) : Prop :=
  ∃ drain stop, t.operations.lookup task.requestID = some drain ∧
    drain.operation.phase = .readyToStop ∧ t'.stops.lookup task.requestID = some stop ∧
    stop.operation.requestID = task.requestID ∧
    stop.operation.principal = drain.operation.principal ∧ task.group = drain.operation.group ∧
    task.published = drain.operation.published ∧
    task.target ∈ drain.operation.targets.elems.map DrainTarget.ref ∧
    task.target ∉ task.published.refs.elems

/-- The targets of a drain are the references that were not published. -/
theorem DrainRecord.Guarded.mem_targets {r : DrainRecord} (h : r.Guarded calls)
    (hphase : r.operation.phase.targeted = true) (ref : ServiceRef) :
    ref ∈ r.operation.targets.elems.map DrainTarget.ref ↔
      ref ∈ r.operation.original.refs.elems ∧ ref ∉ r.operation.published.refs.elems := by
  rw [h.targets hphase, List.mem_map]
  constructor
  · rintro ⟨t, ht, rfl⟩
    obtain ⟨ref, href, rfl⟩ := mem_drainTargets.1 ht
    exact href
  · intro href
    exact ⟨_, mem_drainTargets.2 ⟨ref, href, rfl⟩, rfl⟩

/-- What is sent in a turn of a stop operation that is linked. -/
theorem StopRecord.Linked.dispatches (h : r.Linked t requestID) (hdrained : t.Drained calls)
    (ht : StopTurn clock r es r') (hr' : t'.stops.lookup requestID = some r') :
    ∀ e ∈ es, ∀ task, e.Sends task → t.Dispatches t' task := by
  intro e he task hs
  obtain ⟨hid, hgroup, hpublished, htarget⟩ := ht.sends.2 e he task hs
  obtain ⟨hid', hprincipal', -⟩ := ht.frame
  obtain ⟨d, hd, hready, hprincipal, hgroup₀, hpublished₀, htargets⟩ := h.drain
  have hkey : task.requestID = requestID := hid.trans h.requestID_eq
  rw [htargets] at htarget
  refine ⟨d, r', hkey ▸ hd, hready, hkey ▸ hr', hid'.trans hid.symm, hprincipal'.trans hprincipal,
    hgroup.trans hgroup₀, hpublished.trans hpublished₀, htarget, ?_⟩
  have htargeted : d.operation.phase.targeted = true := by rw [hready]; rfl
  rw [hpublished, hpublished₀]
  exact (((hdrained.drains _ _ hd).1.mem_targets htargeted _).1 htarget).2

/-- **Every task a command sends** is one for a target of a ready drain, right after a read of the
Directory that agrees with what was published. -/
theorem Change.sends (hc : Change clock t c es t') (h : t.Drained calls) :
    Confirmed es ∧ ∀ e ∈ es, ∀ task, e.Sends task → t.Dispatches t' task := by
  have hsilent : (∀ e ∈ es, ∀ task, ¬e.Sends task) →
      Confirmed es ∧ ∀ e ∈ es, ∀ task, e.Sends task → t.Dispatches t' task := fun hes =>
    ⟨.of_silent hes, fun e he task hs => absurd hs (hes e he task)⟩
  have hdrain : (∀ e ∈ es, e.1.OfDrain) → ∀ e ∈ es, ∀ task, ¬e.Sends task := by
    intro honly e he task hs
    have hof := honly e he
    rw [show e.1 = .beginNodeStop task from hs] at hof
    exact hof
  cases hc with
  | keep hes =>
    refine hsilent fun e he task hs => ?_
    obtain ⟨group, hop⟩ := hes e he
    rw [Event.Sends, hop] at hs
    cases hs
  | start _ _ hadvance | resolve _ _ hadvance => exact hsilent (hdrain hadvance.only)
  | @beginStop request normalized e es set d r _ _ hd hready howner htargets hread _ hturn =>
    have hlinked : StopRecord.Linked t normalized.requestID
        ⟨normalized, newStopOperation clock normalized d.operation⟩ :=
      StopRecord.linked_new hd hready howner htargets
    have hfirst : ∀ e' ∈ [e], ∀ task, ¬Event.Sends e' task := by simpa using hread.not_sends
    refine ⟨(Confirmed.of_silent hfirst).append hturn.sends.1, ?_⟩
    intro e' he' task hs
    rcases List.mem_cons.1 he' with rfl | he'
    · exact absurd hs (hread.not_sends task)
    · exact hlinked.dispatches h hturn (AList.lookup_insert _) e' he' task hs
  | @resolveStop requestID principal es r r' hold howner hphase hturn =>
    exact ⟨hturn.sends.1, (h.stops _ _ hold).dispatches h hturn (AList.lookup_insert _)⟩
  | beginRecovery _ _ _ _ _ _ _ hread _ hturn =>
    exact hsilent (List.forall_mem_cons.2 ⟨hread.not_sends, hturn.not_sends⟩)
  | moveRecovery _ hmove => exact hsilent hmove.not_sends

/-- **A drain becomes ready** in a command that read the visitors of every target. -/
theorem Change.cleared (hc : Change clock t c es t') {r : DrainRecord}
    (hr : t'.operations.lookup requestID = some r) (hready : r.operation.phase = .readyToStop)
    (hbefore : ∀ r₀, t.operations.lookup requestID = some r₀ →
      r₀.operation.phase ≠ .readyToStop) :
    ∀ target ∈ r.operation.targets.elems, Cleared es target.ref := by
  cases hc with
  | start _ _ hadvance =>
    rw [Table.lookup_insert_ite] at hr
    split at hr
    · cases hr
      exact hadvance.cleared (by simp [newDrainRecord]) hready
    · exact absurd hready (hbefore r hr)
  | resolve hold _ hadvance =>
    rw [Table.lookup_insert_ite] at hr
    split at hr
    next hid =>
      cases hr
      exact hadvance.cleared (hbefore _ (hid ▸ hold)) hready
    · exact absurd hready (hbefore r hr)
  | _ => exact absurd hready (hbefore r hr)

end Tables

theorem reachable_drained {cfg : Config} {w : World} (h : (system cfg).Reachable w) :
    w.state.tables.Drained w.calls := by
  refine h.invariant (I := fun w => w.state.tables.Drained w.calls) ?_ ?_
  · rintro _ rfl
    exact ⟨by simp, by simp⟩
  · intro w a w' hw _ hstep
    obtain ⟨es, reply, -, hcalls, -, hchange, -⟩ := step_change hstep
    rw [hcalls]
    exact hw.change hchange

/-- **Drain before stop.** In every run of the coordinator, whatever the services it calls answer:

* the targets of an operation that waits for visitors or is ready to stop are the references of the
  original set that were not published, each marked as guarded, and for each the guard said that it
  is draining after the Directory was read as published;
* in a step in which an operation becomes ready, the visitors of every target are read and none is
  strong;
* a task sent to an agent is one for a target of an operation of the same request that is ready, for
  a stop operation of the same principal; the target is not in the published set; and the call right
  before it read the Directory as published.

And in every run of an agent, `Runtime.Stop` is called for a task in a step in which the runner read
the Directory as the task has it published. -/
theorem drain_before_stop (cfg : Config) (agent : NodeAgent.Config) :
    (∀ w, (system cfg).Reachable w → ∀ requestID r,
      w.state.operations.lookup requestID = some r →
      r.operation.phase = .waitingVisitors ∨ r.operation.phase = .readyToStop →
      (∀ ref, ref ∈ r.operation.targets.elems.map DrainTarget.ref ↔
        ref ∈ r.operation.original.refs.elems ∧ ref ∉ r.operation.published.refs.elems) ∧
      ∀ target ∈ r.operation.targets.elems, target.guarded = true ∧
        GuardedAfter w.calls r.operation.group r.operation.published target.ref) ∧
    (∀ w a w', (system cfg).Reachable w → step cfg w a = some w' →
      ∃ es, w'.calls = w.calls ++ es ∧
        (∀ requestID r, w'.state.operations.lookup requestID = some r →
          r.operation.phase = .readyToStop →
          (∀ r₀, w.state.operations.lookup requestID = some r₀ →
            r₀.operation.phase ≠ .readyToStop) →
          ∀ target ∈ r.operation.targets.elems, Cleared es target.ref) ∧
        (∀ e ∈ es, ∀ task, e.Sends task → w.state.tables.Dispatches w'.state.tables task) ∧
        Confirmed es) ∧
    ∀ w a w', (NodeAgent.system agent).Reachable w → NodeAgent.step agent w a = some w' →
      w'.stop.calls ≠ w.stop.calls →
      ∃ task current, a = .stopRunner (.prepare task (some current)) ∧
        sameDrainServiceSet current task.published = true ∧
        w'.stop.calls = task :: w.stop.calls := by
  refine ⟨?_, ?_, fun w a w' _ hstep hcalls => NodeAgent.stop_after_confirmed hstep hcalls⟩
  · intro w hw requestID r hr hphase
    obtain ⟨hguarded, hgroup⟩ := (reachable_drained hw).drains requestID r hr
    have htargeted : r.operation.phase.targeted = true := by
      rcases hphase with h | h <;> rw [h] <;> rfl
    have hdrained : r.operation.phase.drained = true := by
      rcases hphase with h | h <;> rw [h] <;> rfl
    refine ⟨hguarded.mem_targets htargeted, fun target htarget => ?_⟩
    have hmark := hguarded.all hdrained target htarget
    exact ⟨hmark, hgroup ▸ hguarded.marks target htarget hmark⟩
  · intro w a w' hw hstep
    obtain ⟨es, reply, -, hcalls, -, hchange, -⟩ := step_change hstep
    obtain ⟨hconfirmed, hsends⟩ := hchange.sends (reachable_drained hw)
    exact ⟨es, hcalls, fun requestID r hr hready hbefore => hchange.cleared hr hready hbefore,
      hsends, hconfirmed⟩

/-! ### A run -/

namespace Sample

/-- A coordinator with one principal. -/
def config : Config where
  gateway := ⟨"n", 1⟩
  allowedPrincipals := ["p"]
  auditLimit := 8

/-- A clock that shows one. -/
def clock : Clock := ⟨1, 1, 1, by decide, by decide, by decide⟩

/-- The service that is drained. -/
def target : ServiceRef := ⟨"n", 7⟩

/-- The agent of its node. -/
def agent : ServiceRef := ⟨"n", 2⟩

/-- The group `g` with some services, at a revision. -/
def group (revision : UInt64) (refs : List ServiceRef) : ServiceSet :=
  { name := "g", version := ⟨1, revision⟩, refs := .of refs, tags := some ∅ }

/-- The Directory answers with a set. -/
def found (set : ServiceSet) : Answer := .ok (.serviceSet none set)

/-- A command of the gateway, with the answers to its calls. -/
def action (command : Command) (answers : List Answer) : Action where
  source := config.gateway
  command := command
  clock := clock
  answers := answers

/-- The group is emptied, the guard drains, and there are no visitors. -/
def drain : Action :=
  action (.start ⟨"r", "p", "g", ⟨1, 1⟩, .of [], some ∅⟩)
    [found (group 1 [target]), found (group 2 []), found (group 2 []),
      .ok (.guardStatus none ⟨true, 1⟩), found (group 2 []), .ok (.visitors none (.of []))]

/-- The target is to be stopped, and its agent queues the task. -/
def stop : Action :=
  action (.beginStop ⟨"r", "p", .of [⟨target, agent⟩]⟩)
    [found (group 2 []), found (group 2 []), .error (.other 0), found (group 2 []),
      .ok (.stopReceipt none ⟨"r", target, .queued, .none, 1⟩)]

/-- The task the agent gets. -/
def task : NodeStopTask := ⟨agent, "r", target, "g", group 2 []⟩

end Sample

theorem drain_before_stop_sample :
    ∃ w w' r e, (system Sample.config).Reachable w ∧ step Sample.config w Sample.stop = some w' ∧
      w.state.operations.lookup (Text.ofString "r") = some r ∧
      r.operation.targets.elems = [⟨Sample.target, true, 0⟩] ∧
      GuardedAfter w.calls r.operation.group r.operation.published Sample.target ∧
      e ∈ w'.calls ∧ e.Sends Sample.task ∧
      w.state.tables.Dispatches w'.state.tables Sample.task := by
  obtain ⟨w, hw, hp⟩ := System.exists_reachableUnder_of_run (system Sample.config)
    (fun _ _ => True) [Sample.drain] (s := {})
    (fun w => ((w.state.operations.lookup (Text.ofString "r")).any fun r =>
        r.operation.phase = .readyToStop &&
          r.operation.targets.elems = [⟨Sample.target, true, 0⟩]) &&
      (step Sample.config w Sample.stop).any fun w' =>
        (w'.calls.drop w.calls.length).any fun e => e.1 = .beginNodeStop Sample.task)
    rfl (by decide +kernel)
  obtain ⟨hguards, hsteps, -⟩ := drain_before_stop Sample.config NodeAgent.sampleConfig
  rw [Bool.and_eq_true, Option.any_eq_true, Option.any_eq_true] at hp
  obtain ⟨⟨r, hr, hphase⟩, w', hw', hsent⟩ := hp
  obtain ⟨hready, htargets⟩ : r.operation.phase = .readyToStop ∧
      r.operation.targets.elems = [⟨Sample.target, true, 0⟩] := by simpa using hphase
  obtain ⟨es, hcalls, -, hdispatches, -⟩ := hsteps w Sample.stop w' hw hw'
  rw [hcalls, List.drop_left, List.any_eq_true] at hsent
  obtain ⟨e, he, hop⟩ := hsent
  have hsends : e.1 = .beginNodeStop Sample.task := of_decide_eq_true hop
  refine ⟨w, w', r, e, hw, hw', hr, htargets, ?_, ?_, hsends, hdispatches e he _ hsends⟩
  · exact ((hguards w hw _ r hr (.inr hready)).2 ⟨Sample.target, true, 0⟩ (by simp [htargets])).2
  · rw [hcalls]
    exact List.mem_append_right _ he

end GameServiceRuntime.Control
