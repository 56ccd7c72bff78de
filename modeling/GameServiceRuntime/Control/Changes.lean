import GameServiceRuntime.Control.Coordinator

/-!
# What a command changes

The handlers of the coordinator are long, and what is proved of them is about the records they
leave and the calls they make on the way. Both are said here once, as relations: `Turn` for a turn
of the loop of `advance`, `StopTurn` and `RecoveryTurn` for `advanceStop` and `advanceRecovery`, and
`Change` for a command. The invariants of the later modules go through the constructors of these
and never through the handlers.

The audit log and the metrics are no part of it. A reply that is not an error carries a record of
the state the command left (`Reply.Stored`), which is why an invariant of the records is one of the
replies.

## Main results

* `advance_iff` — four turns are as good as a loop without a bound
* `handle_changed` — every command makes one of the changes, and replies with what is stored
-/

namespace GameServiceRuntime.Control

/-! ### Events -/

/-- A read of the Directory that returned a set. -/
def Event.Reads (e : Event) (group : Text) (set : ServiceSet) : Prop :=
  e.1 = .getServiceSet group ∧ serviceSetFromResponse e.2 group = .ok set

/-- A call to the guard of a service, answered that it is draining. -/
def Event.Guards (e : Event) (target : ServiceRef) : Prop :=
  (e.1 = .beginGuard target ∨ e.1 = .guardStatus target) ∧ guardDraining e.2 = true

/-- The list of the visitors of a service, as it was returned. -/
def Event.Lists (e : Event) (target : ServiceRef) (visitors : List VisitorRef) : Prop :=
  e.1 = .listVisitors target ∧ visitorsFromResponse e.2 = .ok visitors

/-- At most one read of the Directory. -/
def Glance (group : Text) (es : List Event) : Prop :=
  es = [] ∨ ∃ answer, es = [(.getServiceSet group, answer)]

variable {group : Text}

theorem getDirectory_ok {es : List Event} {set : ServiceSet}
    (h : (getDirectory group).Returns es (.ok set)) : ∃ e : Event, es = [e] ∧
    e.Reads group set := by
  unfold getDirectory at h
  split at h
  · simp at h
  · simp only [Calls.ask_bind, Calls.returns_call, Calls.returns_pure] at h
    obtain ⟨answer, _, rfl, rfl, hset⟩ := h
    exact ⟨_, rfl, rfl, hset.symm⟩

theorem getDirectory_glance {es : List Event} {out : Except Err ServiceSet}
    (h : (getDirectory group).Returns es out) : Glance group es := by
  unfold getDirectory at h
  split at h
  · exact .inl (Calls.returns_pure.1 h).1
  · simp only [Calls.ask_bind, Calls.returns_call, Calls.returns_pure] at h
    obtain ⟨answer, _, rfl, rfl, -⟩ := h
    exact .inr ⟨answer, rfl⟩

theorem Event.Reads.glance {e : Event} {set : ServiceSet} (h : e.Reads group set) :
    Glance group [e] := by
  obtain ⟨op, answer⟩ := e
  obtain rfl : op = .getServiceSet group := h.1
  exact .inr ⟨answer, rfl⟩

/-- **A read of the Directory** says nothing, or returns a set. -/
theorem post_getDirectory {α : Type} {f : Except Err ServiceSet → Run α} {before : List Event}
    {Q : List Event → α → Prop}
    (herror : ∀ es err, Glance group es → (f (.error err)).Post (before ++ es) Q)
    (hok : ∀ e set, e.Reads group set → (f (.ok set)).Post (before ++ [e]) Q) :
    (getDirectory group >>= f).Post before Q := by
  refine .bind fun es out hdir => ?_
  cases out with
  | error err => exact herror es err (getDirectory_glance hdir)
  | ok set =>
    obtain ⟨e, rfl, hread⟩ := getDirectory_ok hdir
    exact hok e set hread

/-! ### Drain -/

section Drain

variable (clock : Clock)

/-- The record with the set that was found before the publish. -/
def DrainRecord.withOriginal (r : DrainRecord) (set : ServiceSet) : DrainRecord :=
  { r with operation := { r.operation with original := set } }

/-- The record with other targets. -/
def DrainRecord.withTargets (r : DrainRecord) (targets : List DrainTarget) : DrainRecord :=
  { r with operation := { r.operation with targets := r.operation.targets.refill targets } }

/-- The publish of a drain. -/
def DrainRecord.publish (r : DrainRecord) : Run (Except Err ServiceSet) :=
  Control.publish r.request.group r.request.expected r.request.nextRefs.elems r.request.nextTags

/-- What one turn of `advance` does to a record, with which calls, and whether the loop goes on. -/
inductive Turn (r : DrainRecord) : List Event → DrainRecord → Bool → Prop
  /-- The phase has no turn, or the Directory says nothing new. -/
  | stay {es : List Event} (hes : Glance r.request.group es) : Turn r es r false
  | mismatched {e : Event} {set : ServiceSet} (hphase : r.operation.phase = .preparing)
      (hread : e.Reads r.request.group set) (hversion : set.version ≠ r.request.expected) :
      Turn r [e] (r.setPhase clock .conflict) false
  | unpublished {e : Event} {es : List Event} {set : ServiceSet} {err : Err}
      (hphase : r.operation.phase = .preparing) (hread : e.Reads r.request.group set)
      (hversion : set.version = r.request.expected) (hpublish : r.publish.Returns es (.error err)) :
      Turn r (e :: es) ((r.withOriginal set).setPhase clock
        (if err = .versionConflict then .conflict else .publishUnknown)) false
  | published {e : Event} {es : List Event} {set published : ServiceSet}
      (hphase : r.operation.phase = .preparing) (hread : e.Reads r.request.group set)
      (hversion : set.version = r.request.expected)
      (hpublish : r.publish.Returns es (.ok published)) :
      Turn r (e :: es) (confirmPublish clock (r.withOriginal set) published) true
  | confirmed {e : Event} {set : ServiceSet} (hphase : r.operation.phase = .publishUnknown)
      (hread : e.Reads r.request.group set)
      (hsame : sameDrainServiceSet set (expectedPublishedSet r.request set.version) = true)
      (hnext : isExpectedNextVersion r.request.expected set.version = true) :
      Turn r [e] (confirmPublish clock r set) true
  | superseded {e : Event} {set : ServiceSet}
      (hphase : r.operation.phase = .publishUnknown ∨ r.operation.phase = .guarding ∨
        r.operation.phase = .waitingVisitors)
      (hread : e.Reads r.request.group set) : Turn r [e] (r.setPhase clock .superseded) false
  | unguarded {e : Event} {es : List Event} {set : ServiceSet} {targets : List DrainTarget}
      (hphase : r.operation.phase = .guarding) (hread : e.Reads r.request.group set)
      (hsame : sameDrainServiceSet set r.operation.published = true)
      (hguard : (guardTargets r.operation.targets.elems).Returns es (targets, false)) :
      Turn r (e :: es) ((r.withTargets targets).touch clock) false
  | guarded {e : Event} {es : List Event} {set : ServiceSet} {targets : List DrainTarget}
      (hphase : r.operation.phase = .guarding) (hread : e.Reads r.request.group set)
      (hsame : sameDrainServiceSet set r.operation.published = true)
      (hguard : (guardTargets r.operation.targets.elems).Returns es (targets, true)) :
      Turn r (e :: es) ((r.withTargets targets).setPhase clock .waitingVisitors) true
  | visited {e : Event} {es : List Event} {set : ServiceSet} {targets : List DrainTarget}
      (hphase : r.operation.phase = .waitingVisitors) (hread : e.Reads r.request.group set)
      (hsame : sameDrainServiceSet set r.operation.published = true)
      (hcount : (countVisitors r.operation.targets.elems).Returns es (targets, false)) :
      Turn r (e :: es) ((r.withTargets targets).touch clock) false
  | clear {e : Event} {es : List Event} {set : ServiceSet} {targets : List DrainTarget}
      (hphase : r.operation.phase = .waitingVisitors) (hread : e.Reads r.request.group set)
      (hsame : sameDrainServiceSet set r.operation.published = true)
      (hcount : (countVisitors r.operation.targets.elems).Returns es (targets, true)) :
      Turn r (e :: es) ((r.withTargets targets).setPhase clock .readyToStop) false

variable {clock} {r r' : DrainRecord} {es : List Event} {more : Bool}

/-- What `advanceOnce` and the functions it calls end in. -/
abbrev Turned (clock : Clock) (r : DrainRecord) (es : List Event)
    (out : DrainRecord × Bool) : Prop :=
  Turn clock r es out.1 out.2

theorem prepare_turn (hphase : r.operation.phase = .preparing) :
    (prepare clock r).Post [] (Turned clock r) := by
  refine post_getDirectory (fun es err hes => .pure (.stay hes)) fun e set hread => ?_
  refine .ite (fun hversion => .pure (.mismatched hphase hread hversion)) fun hversion => ?_
  rw [not_not] at hversion
  refine .bind fun es out hpublish => ?_
  simp only [cloneDrainServiceSet_eq]
  cases out with
  | error err =>
    have hturn : Turn clock r _ _ _ := .unpublished hphase hread hversion hpublish
    cases err <;> exact .pure hturn
  | ok published => exact .pure (.published hphase hread hversion hpublish)

theorem confirmPublished_turn (hphase : r.operation.phase = .publishUnknown) :
    (confirmPublished clock r).Post [] (Turned clock r) := by
  refine post_getDirectory (fun es err hes => .pure (.stay hes)) fun e set hread => ?_
  refine .ite (fun hsame => ?_) fun _ => .ite (fun _ => ?_) fun _ => .pure (.stay hread.glance)
  · rw [Bool.and_eq_true] at hsame
    exact .pure (.confirmed hphase hread hsame.1 hsame.2)
  · exact .pure (.superseded (.inl hphase) hread)

/-- `directoryStillPublished` gives way to the loops behind it, or ends the turn. -/
theorem post_directoryStillPublished {rest : DrainRecord → Run (DrainRecord × Bool)}
    (hphase : r.operation.phase = .guarding ∨ r.operation.phase = .waitingVisitors)
    (hrest : ∀ (e : Event) set, e.Reads r.request.group set →
      sameDrainServiceSet set r.operation.published = true → (rest r).Post [e] (Turned clock r)) :
    (do match ← directoryStillPublished clock r with
        | (r, false) => pure (r, false)
        | (r, true) => rest r : Run (DrainRecord × Bool)).Post [] (Turned clock r) := by
  refine .bind
    (post_getDirectory (fun es err hes => .pure (.pure (.stay hes))) fun e set hread => ?_)
  exact .ite (fun hsame => .pure (hrest e set hread hsame)) fun _ =>
    .pure (.pure (.superseded (.inr hphase) hread))

theorem guard_turn (hphase : r.operation.phase = .guarding) :
    (guard clock r).Post [] (Turned clock r) := by
  refine post_directoryStillPublished (.inl hphase) fun e set hread hsame => ?_
  refine .bind fun es out hguard => ?_
  obtain ⟨targets, _ | _⟩ := out
  · exact .pure (.unguarded hphase hread hsame hguard)
  · exact .pure (.guarded hphase hread hsame hguard)

theorem waitForVisitors_turn (hphase : r.operation.phase = .waitingVisitors) :
    (waitForVisitors clock r).Post [] (Turned clock r) := by
  refine post_directoryStillPublished (.inr hphase) fun e set hread hsame => ?_
  refine .bind fun es out hcount => ?_
  obtain ⟨targets, _ | _⟩ := out
  · exact .pure (.visited hphase hread hsame hcount)
  · exact .pure (.clear hphase hread hsame hcount)

/-- **A turn of `advance`** is one of those. -/
theorem advanceOnce_turn (h : (advanceOnce clock r).Returns es (r', more)) :
    Turn clock r es r' more := by
  refine (?_ : (advanceOnce clock r).Post [] (Turned clock r)) es (r', more) h
  unfold advanceOnce
  split
  · exact prepare_turn ‹_›
  · exact confirmPublished_turn ‹_›
  · exact guard_turn ‹_›
  · exact waitForVisitors_turn ‹_›
  · exact .pure (.stay (.inl rfl))

/-- The turns `advance` can still take in a phase. -/
def DrainPhase.turns : DrainPhase → ℕ
  | .preparing | .publishUnknown => 3
  | .guarding => 2
  | .waitingVisitors => 1
  | _ => 0

@[simp] theorem DrainRecord.phase_touch (r : DrainRecord) :
    (r.touch clock).operation.phase = r.operation.phase := by
  unfold touch
  split <;> rfl

@[simp] theorem DrainRecord.phase_setPhase (r : DrainRecord) (phase : DrainPhase) :
    (r.setPhase clock phase).operation.phase = phase := by
  rw [setPhase, phase_touch]

/-- A turn that goes on ends in a phase with fewer turns. -/
theorem Turn.turns_lt (h : Turn clock r es r' true) :
    r'.operation.phase.turns < r.operation.phase.turns := by
  cases h with
  | published hphase | confirmed hphase =>
    rw [hphase, confirmPublish, DrainRecord.phase_setPhase]; decide
  | guarded hphase => rw [hphase, DrainRecord.phase_setPhase]; decide

variable (clock) in
/-- The loop of `advance`, without a bound on the turns. -/
inductive Advances : DrainRecord → List Event → DrainRecord → Prop
  | last {r r' : DrainRecord} {es : List Event} (h : (advanceOnce clock r).Returns es (r', false)) :
      Advances r es r'
  | next {r r₁ r' : DrainRecord} {es₁ es₂ : List Event}
      (h : (advanceOnce clock r).Returns es₁ (r₁, true)) (ht : Advances r₁ es₂ r') :
      Advances r (es₁ ++ es₂) r'

theorem advance_succ_iff {n : ℕ} :
    (advance clock (n + 1) r).Returns es r' ↔ (advanceOnce clock r).Returns es (r', false) ∨
      ∃ es₁ es₂ r₁, es = es₁ ++ es₂ ∧ (advanceOnce clock r).Returns es₁ (r₁, true) ∧
        (advance clock n r₁).Returns es₂ r' := by
  constructor
  · intro h
    obtain ⟨es₁, es₂, ⟨r₁, more⟩, rfl, h₁, hrest⟩ := Calls.returns_bind.1 h
    cases more with
    | true => exact .inr ⟨es₁, es₂, r₁, rfl, h₁, hrest⟩
    | false =>
      obtain ⟨rfl, rfl⟩ := Calls.returns_pure.1 hrest
      rw [List.append_nil]
      exact .inl h₁
  · rintro (h | ⟨es₁, es₂, r₁, rfl, h₁, h₂⟩)
    · exact Calls.returns_bind.2 ⟨es, [], (r', false), (List.append_nil es).symm, h,
        Calls.returns_pure.2 ⟨rfl, rfl⟩⟩
    · exact Calls.returns_bind.2 ⟨es₁, es₂, (r₁, true), rfl, h₁, h₂⟩

/-- **The loop ends by itself** before the turns run out. -/
theorem advance_iff_of_turns {n : ℕ} (hn : r.operation.phase.turns < n) :
    (advance clock n r).Returns es r' ↔ Advances clock r es r' := by
  induction n generalizing r es with
  | zero => omega
  | succ n ih =>
    rw [advance_succ_iff]
    constructor
    · rintro (h | ⟨es₁, es₂, r₁, rfl, h₁, h₂⟩)
      · exact .last h
      · have hlt := (advanceOnce_turn h₁).turns_lt
        exact .next h₁ ((ih (by omega)).1 h₂)
    · rintro (h | ⟨h₁, h₂⟩)
      · exact .inl h
      · have hlt := (advanceOnce_turn h₁).turns_lt
        exact .inr ⟨_, _, _, rfl, h₁, (ih (by omega)).2 h₂⟩

theorem advance_iff : (advance clock 4 r).Returns es r' ↔ Advances clock r es r' := by
  refine advance_iff_of_turns ?_
  cases r.operation.phase <;> decide

/-- What the turns preserve, the loop preserves: `I` is about the record and the calls so far. -/
theorem Advances.induction {I : DrainRecord → List Event → Prop}
    (hturn : ∀ r es r' es' more, I r es → Turn clock r es' r' more → I r' (es ++ es'))
    {before : List Event} (h : Advances clock r es r') (hr : I r before) : I r' (before ++ es) := by
  induction h generalizing before with
  | last h => exact hturn _ _ _ _ _ hr (advanceOnce_turn h)
  | next h _ ih =>
    rw [← List.append_assoc]
    exact ih (hturn _ _ _ _ _ hr (advanceOnce_turn h))

end Drain

/-! ### Stop and recovery -/

section Operations

variable (clock : Clock)

/-- What `advanceStop` does to a record, with which calls. -/
inductive StopTurn (r : StopRecord) : List Event → StopRecord → Prop
  | terminal (hphase : stopTerminal r.operation.phase = true) : StopTurn r [] r
  | unread {es : List Event} (hphase : stopTerminal r.operation.phase = false)
      (hes : Glance r.operation.published.name es) : StopTurn r es (r.setPhase clock .waiting)
  | superseded {e : Event} {set : ServiceSet} (hphase : stopTerminal r.operation.phase = false)
      (hread : e.Reads r.operation.published.name set) :
      StopTurn r [e] (r.setPhase clock .superseded)
  | went {e : Event} {es₁ es₂ : List Event} {set : ServiceSet} {targets : List StopTarget}
      {applied : Bool} {b : BegunStops} (hphase : stopTerminal r.operation.phase = false)
      (hread : e.Reads r.operation.published.name set)
      (hsame : sameDrainServiceSet set r.operation.published = true)
      (hreceipts : (readStopReceipts r.operation.requestID r.operation.targets.elems).Returns es₁
        (targets, applied))
      (hbegin : (beginStops r.operation targets).Returns es₂ b) :
      StopTurn r (e :: (es₁ ++ es₂)) ((r.setTargets clock b.targets (applied || b.applied)).setPhase
        clock (b.phase.getD (concludedPhase b.targets)))

/-- What `advanceRecovery` does to a record, with which calls. -/
inductive RecoveryTurn (r : RecoveryRecord) : List Event → RecoveryRecord → Prop
  | stay (hpublishing : r.operation.phase ≠ .publishing)
      (hcreating : r.operation.phase ≠ .creating) : RecoveryTurn r [] r
  | looked {es : List Event} {out : Except Err ServiceSet}
      (hphase : r.operation.phase = .publishing)
      (hout : (getDirectory r.operation.group).Returns es out) :
      RecoveryTurn r es (resolveRecoveryPublish clock r out)
  | unread {es : List Event} (hphase : r.operation.phase = .creating)
      (hes : Glance r.operation.group es) : RecoveryTurn r es (r.touch clock)
  | changed {e : Event} {set : ServiceSet} (hphase : r.operation.phase = .creating)
      (hread : e.Reads r.operation.group set)
      (hsame : sameDrainServiceSet set r.operation.expected = false) :
      RecoveryTurn r [e] (r.setPhase clock .failed)
  | went {e : Event} {es : List Event} {set : ServiceSet} {targets : List RecoveryTarget}
      (hphase : r.operation.phase = .creating) (hread : e.Reads r.operation.group set)
      (hsame : sameDrainServiceSet set r.operation.expected = true)
      (hrecover : (recoverTargets r.operation.requestID r.operation.targets.elems).Returns es
        targets) :
      RecoveryTurn r (e :: es) (concludeRecovery clock (r.setTargets clock targets))

variable {clock} {es : List Event}

theorem matchesStopDirectory_glance {published : ServiceSet} {out : Except Err Bool}
    (h : (matchesStopDirectory published).Returns es out) : Glance published.name es := by
  refine (?_ : (matchesStopDirectory published).Post [] fun es _ => Glance published.name es) es
    out h
  exact post_getDirectory (fun es err hes => .pure hes) fun e set hread => .pure hread.glance

/-- See `post_getDirectory`, when only agreement with what was published matters. -/
theorem post_matchesStopDirectory {α : Type} {published : ServiceSet} {f : Except Err Bool → Run α}
    {before : List Event} {Q : List Event → α → Prop}
    (herror : ∀ es err, Glance published.name es → (f (.error err)).Post (before ++ es) Q)
    (hok : ∀ (e : Event) set, e.Reads published.name set →
      (f (.ok (sameDrainServiceSet set published))).Post (before ++ [e]) Q) :
    (matchesStopDirectory published >>= f).Post before Q :=
  .bind (post_getDirectory (fun es err hes => .pure (herror es err hes)) fun e set hread =>
    .pure (hok e set hread))

theorem advanceStop_turn {r r' : StopRecord} (h : (advanceStop clock r).Returns es r') :
    StopTurn clock r es r' := by
  refine (?_ : (advanceStop clock r).Post [] (StopTurn clock r)) es r' h
  refine .ite (fun hphase => .pure (.terminal hphase)) fun hphase => ?_
  rw [Bool.not_eq_true] at hphase
  refine post_matchesStopDirectory (fun es err hes => .pure (.unread hphase hes))
    fun e set hread => ?_
  cases hsame : sameDrainServiceSet set r.operation.published with
  | false => exact .pure (.superseded hphase hread)
  | true =>
    refine .bind fun es₁ out hreceipts => .bind fun es₂ b hbegin => .pure ?_
    show StopTurn clock r (e :: (es₁ ++ es₂)) _
    exact .went hphase hread hsame hreceipts hbegin

theorem advanceRecovery_turn {r r' : RecoveryRecord}
    (h : (advanceRecovery clock r).Returns es r') : RecoveryTurn clock r es r' := by
  refine (?_ : (advanceRecovery clock r).Post [] (RecoveryTurn clock r)) es r' h
  unfold advanceRecovery
  split
  next hphase => exact .bind fun es out hout => .pure (.looked hphase hout)
  next hphase =>
    refine post_getDirectory (fun es err hes => .pure (.unread hphase hes)) fun e set hread => ?_
    refine .ite (fun hsame => ?_) fun hsame => ?_
    · rw [Bool.not_eq_true'] at hsame
      exact .pure (.changed hphase hread hsame)
    · rw [Bool.not_eq_true', Bool.not_eq_false] at hsame
      exact .bind fun es targets hrecover => .pure (.went hphase hread hsame hrecover)
  next hpublishing hcreating => exact .pure (.stay hpublishing hcreating)

end Operations

/-! ### Commands -/

/-- The three tables of records. -/
structure Tables where
  operations : Table Text DrainRecord
  stops : Table Text StopRecord
  recoveries : Table Text RecoveryRecord

/-- The tables of a state, without its audit log. -/
def State.tables (s : State) : Tables := ⟨s.operations, s.stops, s.recoveries⟩

@[simp] theorem State.operations_tables (s : State) : s.tables.operations = s.operations := rfl

@[simp] theorem State.stops_tables (s : State) : s.tables.stops = s.stops := rfl

@[simp] theorem State.recoveries_tables (s : State) : s.tables.recoveries = s.recoveries := rfl

/-- A reply without an error is the clone of an operation that is stored. -/
def Reply.Stored (t : Tables) : Reply → Prop
  | .drain (.ok operation) =>
    ∃ requestID r, t.operations.lookup requestID = some r ∧
      operation = cloneDrainOperation r.operation
  | .stop (.ok operation) =>
    ∃ requestID r, t.stops.lookup requestID = some r ∧ operation = cloneStopOperation r.operation
  | .recovery (.ok operation) =>
    ∃ requestID r, t.recoveries.lookup requestID = some r ∧
      operation = cloneRecoveryOperation r.operation
  | _ => True

/-- The record `handleStart` starts with. -/
def newDrainRecord (clock : Clock) (request : StartDrainRequest) : DrainRecord where
  request := request
  operation :=
    { requestID := request.requestID
      principal := request.principal
      group := request.group
      expected := request.expected
      phase := .preparing
      createdAt := clock.now
      updatedAt := clock.now }

/-- The publish of a recovery. -/
def RecoveryRecord.publish (r : RecoveryRecord) : Run (Except Err ServiceSet) :=
  Control.publish r.operation.group r.operation.expected.version
    (recoveryPublishedSet r.operation).refs.elems (recoveryPublishedSet r.operation).tags

theorem RecoveryRecord.touch_eq (clock : Clock) (r : RecoveryRecord) :
    ∃ updatedAt, r.operation.updatedAt ≤ updatedAt ∧
      r.touch clock = { r with operation := { r.operation with updatedAt := updatedAt } } := by
  unfold touch
  split
  · exact ⟨_, le_refl _, rfl⟩
  next h => exact ⟨clock.later, not_lt.1 h, rfl⟩

theorem RecoveryRecord.setPhase_eq (clock : Clock) (r : RecoveryRecord) (phase : RecoveryPhase) :
    ∃ updatedAt, r.operation.updatedAt ≤ updatedAt ∧ r.setPhase clock phase =
      { r with operation := { r.operation with phase := phase, updatedAt := updatedAt } } := by
  unfold setPhase
  split
  next h => exact ⟨_, le_refl _, by rw [← h]⟩
  · exact RecoveryRecord.touch_eq clock
      { r with operation := { r.operation with phase := phase } }

@[simp] theorem RecoveryRecord.group_setPhase (clock : Clock) (r : RecoveryRecord)
    (phase : RecoveryPhase) : (r.setPhase clock phase).operation.group = r.operation.group := by
  obtain ⟨u, -, heq⟩ := r.setPhase_eq clock phase
  rw [heq]

@[simp] theorem RecoveryRecord.expected_setPhase (clock : Clock) (r : RecoveryRecord)
    (phase : RecoveryPhase) :
    (r.setPhase clock phase).operation.expected = r.operation.expected := by
  obtain ⟨u, -, heq⟩ := r.setPhase_eq clock phase
  rw [heq]

/-- The record after its publish, with or without a confirmation. -/
def RecoveryRecord.afterPublish (clock : Clock) (r : RecoveryRecord) :
    Except Err ServiceSet → RecoveryRecord
  | .error _ => r.setPhase clock .publishing
  | .ok published => completeRecoveryPublish clock (r.setPhase clock .publishing) published

/-- The record of an abandoned recovery. -/
def RecoveryRecord.abandon (clock : Clock) (r : RecoveryRecord) : RecoveryRecord :=
  { r with operation := { r.operation with
    targets := r.operation.targets.refill (r.operation.targets.elems.map fun target =>
      { target with state := .abandoned, failure := .none }) } : RecoveryRecord }.setPhase
    clock .abandoned

/-- What a command does to a recovery that there is, with which calls. -/
inductive RecoveryMove (clock : Clock) (requestID : Text) (r : RecoveryRecord) :
    Command → List Event → RecoveryRecord → Prop
  | turn {principal : Text} {es : List Event} {r' : RecoveryRecord}
      (howner : r.operation.principal = principal)
      (hphase : recoveryTerminal r.operation.phase = false) (hturn : RecoveryTurn clock r es r') :
      RecoveryMove clock requestID r (.resolveRecovery requestID principal) es r'
  | unconfirmed {principal : Text} {es : List Event} (howner : r.operation.principal = principal)
      (hphase : r.operation.phase = .awaitingConfirmation) (hes : Glance r.operation.group es) :
      RecoveryMove clock requestID r (.confirmRecovery requestID principal) es
        (r.setPhase clock .failed)
  | confirmed {principal : Text} {e : Event} {es : List Event} {set : ServiceSet}
      {out : Except Err ServiceSet} (howner : r.operation.principal = principal)
      (hphase : r.operation.phase = .awaitingConfirmation) (hread : e.Reads r.operation.group set)
      (hsame : sameDrainServiceSet set r.operation.expected = true)
      (hpublish : r.publish.Returns es out) :
      RecoveryMove clock requestID r (.confirmRecovery requestID principal) (e :: es)
        (r.afterPublish clock out)
  | abandoned {principal : Text} (howner : r.operation.principal = principal)
      (hcompleted : r.operation.phase ≠ .completed)
      (hpublishing : r.operation.phase ≠ .publishing) :
      RecoveryMove clock requestID r (.abandonRecovery requestID principal) [] (r.abandon clock)

/-- What a command does to the tables, with which calls. -/
inductive Change (clock : Clock) (t : Tables) : Command → List Event → Tables → Prop
  /-- Nothing changes; the Directory may have been looked at. -/
  | keep {c : Command} {es : List Event} (hes : ∀ e ∈ es, ∃ group, e.1 = .getServiceSet group) :
      Change clock t c es t
  | start {request normalized : StartDrainRequest} {es : List Event} {r : DrainRecord}
      (hnormal : normalizeStartDrainRequest request = .ok normalized)
      (hnew : t.operations.lookup normalized.requestID = none)
      (hadvance : Advances clock (newDrainRecord clock normalized) es r) :
      Change clock t (.start request) es
        { t with operations := t.operations.insert normalized.requestID r }
  | resolve {requestID principal : Text} {es : List Event} {r r' : DrainRecord}
      (hold : t.operations.lookup requestID = some r) (howner : r.operation.principal = principal)
      (hadvance : Advances clock r es r') :
      Change clock t (.resolve requestID principal) es
        { t with operations := t.operations.insert requestID r' }
  | beginStop {request normalized : BeginStopRequest} {e : Event} {es : List Event}
      {set : ServiceSet} {drain : DrainRecord} {r : StopRecord}
      (hnormal : normalizeBeginStopRequest request = .ok normalized)
      (hnew : t.stops.lookup normalized.requestID = none)
      (hdrain : t.operations.lookup normalized.requestID = some drain)
      (hready : drain.operation.phase = .readyToStop)
      (howner : drain.operation.principal = normalized.principal)
      (htargets : normalized.targets.elems.map StopTargetRequest.target =
        drain.operation.targets.elems.map DrainTarget.ref)
      (hread : e.Reads drain.operation.published.name set)
      (hsame : sameDrainServiceSet set drain.operation.published = true)
      (hadvance : StopTurn clock ⟨normalized, newStopOperation clock normalized drain.operation⟩
        es r) :
      Change clock t (.beginStop request) (e :: es)
        { t with stops := t.stops.insert normalized.requestID r }
  | resolveStop {requestID principal : Text} {es : List Event} {r r' : StopRecord}
      (hold : t.stops.lookup requestID = some r) (howner : r.operation.principal = principal)
      (hphase : stopTerminal r.operation.phase = false) (hadvance : StopTurn clock r es r') :
      Change clock t (.resolveStop requestID principal) es
        { t with stops := t.stops.insert requestID r' }
  | beginRecovery {request normalized : BeginRecoveryRequest} {e : Event} {es : List Event}
      {set : ServiceSet} {stop : StopRecord} {r : RecoveryRecord}
      (hnormal : normalizeBeginRecoveryRequest request = .ok normalized)
      (hnew : t.recoveries.lookup normalized.requestID = none)
      (hstop : t.stops.lookup normalized.requestID = some stop)
      (howner : stop.operation.principal = normalized.principal)
      (hterminal : stopTerminal stop.operation.phase = true)
      (htargets : stop.operation.targets.elems.map StopTarget.target =
        normalized.targets.elems.map RecoveryTargetRequest.removed)
      (habsent : ∀ target ∈ normalized.targets.elems,
        target.removed ∉ normalized.expected.refs.elems)
      (hread : e.Reads normalized.group set)
      (hsame : sameDrainServiceSet set normalized.expected = true)
      (hadvance : RecoveryTurn clock ⟨normalized, newRecoveryOperation clock normalized⟩ es r) :
      Change clock t (.beginRecovery request) (e :: es)
        { t with recoveries := t.recoveries.insert normalized.requestID r }
  | moveRecovery {requestID : Text} {c : Command} {es : List Event} {r r' : RecoveryRecord}
      (hold : t.recoveries.lookup requestID = some r)
      (hmove : RecoveryMove clock requestID r c es r') :
      Change clock t c es { t with recoveries := t.recoveries.insert requestID r' }

section Handlers

variable {clock : Clock} {cfg : Config} {s s' : State} {source : ServiceRef} {reply : Reply}
  {es : List Event} {requestID principal : Text}

/-- What a handler ends in: one of the changes, and a reply with an error or with what is stored. -/
def Changed (clock : Clock) (s : State) (c : Command) (es : List Event)
    (out : State × Reply) : Prop :=
  Change clock s.tables c es out.1.tables ∧ out.2.Stored out.1.tables

variable {c : Command} {s₁ : State} {answer : Reply}

/-- A handler that has not looked at the Directory and answers keeps the tables it was given. -/
theorem post_answer (htables : s₁.tables = s.tables) (hstored : answer.Stored s.tables) :
    (pure (s₁, answer) : Handled).Post [] (Changed clock s c) := by
  refine .pure ?_
  rw [Changed, htables]
  exact ⟨.keep (by simp), hstored⟩

/-- See `post_answer`, after a look at the Directory. -/
theorem post_answer_of_glance {group : Text} (hes : Glance group es)
    (htables : s₁.tables = s.tables) (hstored : answer.Stored s.tables) :
    (pure (s₁, answer) : Handled).Post es (Changed clock s c) := by
  refine .pure ?_
  rw [Changed, htables]
  refine ⟨.keep ?_, hstored⟩
  rcases hes with rfl | ⟨answer, rfl⟩
  · simp
  · simp

variable {action : String}

theorem post_authorize {deny : State → Err → Handled} {go : State → Handled}
    (hdeny : ∀ s₁ err, s₁.tables = s.tables → (deny s₁ err).Post [] (Changed clock s c))
    (hgo : (go s).Post [] (Changed clock s c)) :
    (match authorize clock cfg s source requestID principal action with
      | (s, some err) => deny s err
      | (s, none) => go s).Post [] (Changed clock s c) := by
  unfold authorize
  split_ifs
  · exact hdeny s _ rfl
  · exact hdeny s _ rfl
  · exact hdeny s _ rfl
  · exact hgo
  · exact hdeny _ _ rfl

theorem post_authorizedRecovery {deny : State → Err → Handled}
    {go : State → RecoveryRecord → Handled}
    (hdeny : ∀ s₁ err, s₁.tables = s.tables → (deny s₁ err).Post [] (Changed clock s c))
    (hgo : ∀ r, s.recoveries.lookup requestID = some r → r.operation.principal = principal →
      (go s r).Post [] (Changed clock s c)) :
    (match authorizedRecovery clock cfg s source requestID principal action with
      | (s, .error err) => deny s err
      | (s, .ok r) => go s r).Post [] (Changed clock s c) := by
  unfold authorizedRecovery authorize
  split_ifs
  · exact hdeny s _ rfl
  · exact hdeny s _ rfl
  · exact hdeny s _ rfl
  · cases hold : s.recoveries.lookup requestID with
    | none => simpa only [hold] using hdeny s _ rfl
    | some r =>
      by_cases howner : r.operation.principal = principal
      · simpa [hold, howner] using hgo r hold howner
      · simpa [hold, howner] using hdeny s .operationOwnerMismatch rfl
  · exact hdeny _ _ rfl

theorem handleStart_changed {request : StartDrainRequest} :
    (handleStart clock cfg s source request).Post [] (Changed clock s (.start request)) := by
  refine .ite (fun _ => post_answer rfl trivial) fun _ => ?_
  cases hnormal : normalizeStartDrainRequest request with
  | error err => exact post_answer rfl trivial
  | ok normalized =>
    refine .ite (fun _ => post_answer rfl trivial) fun _ => ?_
    split
    next existing hold =>
      exact .ite (fun _ => post_answer rfl trivial) fun _ =>
        post_answer rfl ⟨_, existing, hold, rfl⟩
    next hold =>
      refine .bind fun es r hadvance => .pure ⟨.start hnormal hold (advance_iff.1 hadvance), ?_⟩
      exact ⟨_, r, AList.lookup_insert _, rfl⟩

theorem handleResolve_changed :
    (handleResolve clock cfg s source requestID principal).Post []
      (Changed clock s (.resolve requestID principal)) := by
  refine post_authorize (fun _ _ htables => post_answer htables trivial) ?_
  split
  · exact post_answer rfl trivial
  next r hold =>
    refine .ite (fun _ => post_answer rfl trivial) fun howner => ?_
    rw [not_not] at howner
    refine .bind fun es r' hadvance => .pure ⟨.resolve hold howner (advance_iff.1 hadvance), ?_⟩
    exact ⟨_, r', AList.lookup_insert _, rfl⟩

theorem handleGet_changed :
    (handleGet clock cfg s source requestID principal).Post []
      (Changed clock s (.get requestID principal)) := by
  refine post_authorize (fun _ _ htables => post_answer htables trivial) ?_
  split
  · exact post_answer rfl trivial
  next r hold =>
    exact .ite (fun _ => post_answer rfl trivial) fun _ => post_answer rfl ⟨_, r, hold, rfl⟩

theorem handleListAudit_changed :
    (handleListAudit clock cfg s source principal).Post []
      (Changed clock s (.listAudit principal)) := by
  unfold handleListAudit
  split_ifs <;> exact post_answer rfl trivial

theorem handleBeginStop_changed {request : BeginStopRequest} :
    (handleBeginStop clock cfg s source request).Post []
    (Changed clock s (.beginStop request)) := by
  refine .ite (fun _ => post_answer rfl trivial) fun _ => ?_
  cases hnormal : normalizeBeginStopRequest request with
  | error err => exact post_answer rfl trivial
  | ok normalized =>
    refine .ite (fun _ => post_answer rfl trivial) fun _ => ?_
    split
    next existing hold =>
      exact .ite (fun _ => post_answer rfl trivial) fun _ =>
        post_answer rfl ⟨_, existing, hold, rfl⟩
    next hold =>
      split
      · exact post_answer rfl trivial
      next drain hdrain =>
        refine .ite (fun _ => post_answer rfl trivial) fun hready => ?_
        refine .ite (fun _ => post_answer rfl trivial) fun howner => ?_
        refine .ite (fun _ => post_answer rfl trivial) fun htargets => ?_
        rw [not_not] at hready howner htargets
        refine post_matchesStopDirectory
          (fun es err hes => post_answer_of_glance hes rfl trivial) fun e set hread => ?_
        cases hsame : sameDrainServiceSet set drain.operation.published with
        | false => exact post_answer_of_glance hread.glance rfl trivial
        | true =>
          refine .bind fun es r hadvance => .pure ⟨?_, _, r, AList.lookup_insert _, rfl⟩
          exact .beginStop hnormal hold hdrain hready howner htargets hread hsame
            (advanceStop_turn hadvance)

theorem handleResolveStop_changed :
    (handleResolveStop clock cfg s source requestID principal).Post []
      (Changed clock s (.resolveStop requestID principal)) := by
  refine post_authorize (fun _ _ htables => post_answer htables trivial) ?_
  split
  · exact post_answer rfl trivial
  next r hold =>
    refine .ite (fun _ => post_answer rfl trivial) fun howner => ?_
    refine .ite (fun _ => post_answer rfl ⟨_, r, hold, rfl⟩) fun hphase => ?_
    rw [not_not] at howner
    rw [Bool.not_eq_true] at hphase
    refine .bind fun es r' hadvance => .pure ⟨?_, _, r', AList.lookup_insert _, rfl⟩
    exact .resolveStop hold howner hphase (advanceStop_turn hadvance)

theorem handleGetStop_changed :
    (handleGetStop clock cfg s source requestID principal).Post []
      (Changed clock s (.getStop requestID principal)) := by
  refine post_authorize (fun _ _ htables => post_answer htables trivial) ?_
  split
  · exact post_answer rfl trivial
  next r hold =>
    exact .ite (fun _ => post_answer rfl trivial) fun _ => post_answer rfl ⟨_, r, hold, rfl⟩

theorem handleBeginRecovery_changed {request : BeginRecoveryRequest} :
    (handleBeginRecovery clock cfg s source request).Post []
      (Changed clock s (.beginRecovery request)) := by
  refine .ite (fun _ => post_answer rfl trivial) fun _ => ?_
  cases hnormal : normalizeBeginRecoveryRequest request with
  | error err => exact post_answer rfl trivial
  | ok normalized =>
    refine .ite (fun _ => post_answer rfl trivial) fun _ => ?_
    split
    next existing hold =>
      exact .ite (fun _ => post_answer rfl trivial) fun _ =>
        post_answer rfl ⟨_, existing, hold, rfl⟩
    next hold =>
      split
      · exact post_answer rfl trivial
      next stop hstop =>
        refine .ite (fun _ => post_answer rfl trivial) fun howner => ?_
        refine .ite (fun _ => post_answer rfl trivial) fun hmatch => ?_
        refine .ite (fun _ => post_answer rfl trivial) fun hany => ?_
        rw [not_not] at howner
        obtain ⟨hterminal, htargets⟩ : stopTerminal stop.operation.phase = true ∧
            stop.operation.targets.elems.map StopTarget.target =
              normalized.targets.elems.map RecoveryTargetRequest.removed := by
          simpa using hmatch
        have habsent : ∀ target ∈ normalized.targets.elems,
            target.removed ∉ normalized.expected.refs.elems := by
          simpa using hany
        refine post_getDirectory
          (fun es err hes => post_answer_of_glance hes rfl trivial) fun e set hread => ?_
        refine .ite (fun _ => post_answer_of_glance hread.glance rfl trivial) fun hsame => ?_
        rw [Bool.not_eq_true', Bool.not_eq_false] at hsame
        refine .bind fun es r hadvance => .pure ⟨?_, _, r, AList.lookup_insert _, rfl⟩
        exact .beginRecovery hnormal hold hstop howner hterminal htargets habsent hread hsame
          (advanceRecovery_turn hadvance)

theorem handleResolveRecovery_changed :
    (handleResolveRecovery clock cfg s source requestID principal).Post []
      (Changed clock s (.resolveRecovery requestID principal)) := by
  refine post_authorizedRecovery (fun _ _ htables => post_answer htables trivial)
    fun r hold howner => ?_
  refine .ite (fun _ => post_answer rfl ⟨_, r, hold, rfl⟩) fun hphase => ?_
  rw [Bool.not_eq_true] at hphase
  refine .bind fun es r' hadvance => .pure ⟨?_, _, r', AList.lookup_insert _, rfl⟩
  exact .moveRecovery hold (.turn howner hphase (advanceRecovery_turn hadvance))

theorem handleGetRecovery_changed :
    (handleGetRecovery clock cfg s source requestID principal).Post []
      (Changed clock s (.getRecovery requestID principal)) :=
  post_authorizedRecovery (fun _ _ htables => post_answer htables trivial) fun r hold _ =>
    post_answer rfl ⟨_, r, hold, rfl⟩

theorem handleConfirmRecovery_changed :
    (handleConfirmRecovery clock cfg s source requestID principal).Post []
      (Changed clock s (.confirmRecovery requestID principal)) := by
  refine post_authorizedRecovery (fun _ _ htables => post_answer htables trivial)
    fun r hold howner => ?_
  refine .ite (fun _ => post_answer rfl trivial) fun hphase => ?_
  rw [not_not] at hphase
  refine post_getDirectory (fun es err hes => ?_) fun e set hread => ?_
  · exact .pure ⟨.moveRecovery hold (.unconfirmed howner hphase hes), trivial⟩
  refine .ite (fun _ => ?_) fun hany => ?_
  · exact .pure ⟨.moveRecovery hold (.unconfirmed howner hphase hread.glance), trivial⟩
  have hsame : sameDrainServiceSet set r.operation.expected = true := by
    simpa [Except.toOption] using hany
  refine .bind fun es out hpublish => ?_
  rw [RecoveryRecord.group_setPhase, RecoveryRecord.expected_setPhase] at hpublish
  have hchange : Change clock s.tables (.confirmRecovery requestID principal) (e :: es) _ :=
    .moveRecovery hold (.confirmed howner hphase hread hsame hpublish)
  cases out <;> exact .pure ⟨hchange, requestID, _, AList.lookup_insert _, rfl⟩

theorem handleAbandonRecovery_changed :
    (handleAbandonRecovery clock cfg s source requestID principal).Post []
      (Changed clock s (.abandonRecovery requestID principal)) := by
  refine post_authorizedRecovery (fun _ _ htables => post_answer htables trivial)
    fun r hold howner => ?_
  refine .ite (fun _ => post_answer rfl trivial) fun hphase => ?_
  obtain ⟨hcompleted, hpublishing⟩ : r.operation.phase ≠ .completed ∧
      r.operation.phase ≠ .publishing := by
    simpa using hphase
  exact .pure ⟨.moveRecovery hold (.abandoned howner hcompleted hpublishing), requestID, _,
    AList.lookup_insert _, rfl⟩

/-- **Every command makes one of the changes**, and replies with an error or with what is stored. -/
theorem handle_changed (c : Command) :
    (handle clock cfg s source c).Post [] (Changed clock s c) := by
  cases c with
  | start request => exact handleStart_changed
  | resolve requestID principal => exact handleResolve_changed
  | get requestID principal => exact handleGet_changed
  | listAudit principal => exact handleListAudit_changed
  | beginStop request => exact handleBeginStop_changed
  | resolveStop requestID principal => exact handleResolveStop_changed
  | getStop requestID principal => exact handleGetStop_changed
  | beginRecovery request => exact handleBeginRecovery_changed
  | confirmRecovery requestID principal => exact handleConfirmRecovery_changed
  | resolveRecovery requestID principal => exact handleResolveRecovery_changed
  | getRecovery requestID principal => exact handleGetRecovery_changed
  | abandonRecovery requestID principal => exact handleAbandonRecovery_changed
  | malformedDrain | malformedAudit | malformedStop | malformedRecovery =>
    exact post_answer rfl trivial

theorem answers_of_outcome {a : Action} {out : State × Reply}
    (h : outcome cfg s a = some (out, es)) : ∀ e ∈ es, e.2 ∈ a.answers := by
  intro e he
  rw [← (Calls.returns_of_run h).2]
  exact List.mem_map_of_mem he

/-- A step of the coordinator is such a change. -/
theorem step_change {w w' : World} {a : Action} (h : step cfg w a = some w') :
    ∃ es reply, outcome cfg w.state a = some ((w'.state, reply), es) ∧
      w'.calls = w.calls ++ es ∧ w'.replies = w.replies ++ [reply] ∧
      Change a.clock w.state.tables a.command es w'.state.tables ∧
      reply.Stored w'.state.tables := by
  obtain ⟨⟨⟨s', reply⟩, es⟩, hout, rfl⟩ := Option.map_eq_some_iff.1 h
  exact ⟨es, reply, hout, rfl, rfl, handle_changed _ _ _ (Calls.returns_of_run hout).1⟩

end Handlers

end GameServiceRuntime.Control
