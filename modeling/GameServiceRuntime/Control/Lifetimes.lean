import GameServiceRuntime.Control.Compensation
import GameServiceRuntime.Control.Interference

/-!
# The lifetime of an operation

An operation is begun once under its RequestID and then only moved forward: what it does on the way
it does at most once, and where it has come to an end it stays. There is an exception to each of two
of these. A recovery that has failed is still abandoned when its owner says so, and a recovery with
several services to create reads the Directory once for all of them.

The calls are told apart by the operations they are made for. A command is about one operation, so a
history of calls with the operations (`history`) is enough to count what is done for one of them,
and the phase of the operation says how much of it has been done.

## Main results

* `terminal_absorbing` — an operation that has come to an end does not change
* `abandon_of_failed` — a run in which one does
* `requests_once` — a RequestID is good for one operation, and for one publish of each kind
* `creation_gated` — a service is created with the consent of the Directory
* `creation_ungated` — a run in which the second of two is not
-/

namespace GameServiceRuntime.Control

/-! ### Phases of a recovery -/

section Phases

variable {clock : Clock} {r r' : RecoveryRecord} {es : List Event}

@[simp] theorem RecoveryRecord.phase_touch (r : RecoveryRecord) :
    (r.touch clock).operation.phase = r.operation.phase := by
  obtain ⟨u, -, heq⟩ := r.touch_eq clock
  rw [heq]

@[simp] theorem RecoveryRecord.phase_setPhase (r : RecoveryRecord) (phase : RecoveryPhase) :
    (r.setPhase clock phase).operation.phase = phase := by
  obtain ⟨u, -, heq⟩ := r.setPhase_eq clock phase
  rw [heq]

/-- How far a recovery has come; a publish is the step from `1` to `2`. -/
def RecoveryPhase.stage : RecoveryPhase → ℕ
  | .creating | .awaitingConfirmation => 1
  | .publishing => 2
  | .completed | .failed => 3
  | .abandoned => 4

/-- `advanceRecovery` ends in the same phase or a later one, and abandons nothing. -/
theorem RecoveryTurn.phase (h : RecoveryTurn clock r es r') :
    r'.operation.phase = r.operation.phase ∨ r.operation.phase.stage ≤ r'.operation.phase.stage ∧
      r'.operation.phase ≠ .abandoned := by
  cases h with
  | stay => exact .inl rfl
  | @looked es out hphase =>
    rw [hphase]
    cases out with
    | error err => exact .inl ((r.phase_touch).trans hphase)
    | ok set =>
      simp only [resolveRecoveryPublish, completeRecoveryPublish]
      split_ifs
      · exact .inr (by rw [RecoveryRecord.phase_setPhase]; decide)
      · exact .inr (by rw [RecoveryRecord.phase_setPhase]; decide)
      · exact .inl hphase
  | unread => exact .inl r.phase_touch
  | changed hphase => exact .inr (by rw [RecoveryRecord.phase_setPhase, hphase]; decide)
  | @went e es set targets hphase =>
    rw [hphase]
    simp only [concludeRecovery]
    split_ifs
    · exact .inr (by rw [RecoveryRecord.phase_setPhase]; decide)
    · exact .inr (by rw [RecoveryRecord.phase_setPhase]; decide)
    · refine .inl ?_
      rw [RecoveryRecord.phase_touch, RecoveryRecord.setTargets, RecoveryRecord.phase_touch, hphase]

/-- The targets of an abandoned recovery say so. -/
def RecoveryRecord.Abandoned (r : RecoveryRecord) : Prop :=
  r.operation.phase = .abandoned →
    ∀ target ∈ r.operation.targets.elems, target.state = .abandoned ∧ target.failure = .none

theorem RecoveryTurn.abandoned (h : RecoveryTurn clock r es r')
    (hr : r.operation.phase ≠ .abandoned) : r'.Abandoned := by
  intro hphase
  rcases h.phase with heq | ⟨-, hne⟩
  · exact absurd (heq.symm.trans hphase) hr
  · exact absurd hphase hne

theorem RecoveryMove.abandoned_after {requestID : Text} {c : Command}
    (h : RecoveryMove clock requestID r c es r') : r'.Abandoned := by
  cases h with
  | turn _ hphase hturn =>
    refine hturn.abandoned fun habandoned => ?_
    rw [habandoned] at hphase
    cases hphase
  | unconfirmed => exact fun h => absurd h (by rw [RecoveryRecord.phase_setPhase]; decide)
  | @confirmed _ _ _ _ out =>
    intro h
    cases out <;> simp [RecoveryRecord.afterPublish, completeRecoveryPublish] at h
  | abandoned =>
    obtain ⟨u, -, heq⟩ := RecoveryRecord.setPhase_eq clock { r with operation := _ } .abandoned
    rw [RecoveryRecord.abandon, heq]
    intro _ target htarget
    obtain ⟨_, -, rfl⟩ := List.mem_map.1 htarget
    exact ⟨rfl, rfl⟩

theorem RecoveryRecord.Abandoned.abandon_eq (h : r.Abandoned)
    (hphase : r.operation.phase = .abandoned) : r.abandon clock = r := by
  have hmap : (r.operation.targets.elems.map fun target =>
      { target with state := .abandoned, failure := .none }) = r.operation.targets.elems := by
    refine (List.map_congr_left fun target htarget => ?_).trans (List.map_id _)
    obtain ⟨hstate, hfailure⟩ := h hphase target htarget
    rw [← hstate, ← hfailure]
    rfl
  have htargets : r.operation.targets.refill r.operation.targets.elems = r.operation.targets := by
    rw [Slice.eq_iff]
    refine ⟨rfl, ?_⟩
    cases hnil : r.operation.targets.isNil <;>
      simp [Slice.refill, hnil, r.operation.targets.elems_of_isNil]
  rw [RecoveryRecord.abandon, hmap, htargets, RecoveryRecord.setPhase, if_pos hphase]

end Phases

section Tables

variable {clock : Clock} {t t' : Tables} {c : Command} {es : List Event} {requestID : Text}

theorem Change.abandoned (h : Change clock t c es t')
    (ht : ∀ requestID r, t.recoveries.lookup requestID = some r → r.Abandoned) :
    ∀ requestID r, t'.recoveries.lookup requestID = some r → r.Abandoned := by
  cases h with
  | beginRecovery _ _ _ _ _ _ _ _ _ hturn =>
    exact Table.forall_insert ht (hturn.abandoned nofun)
  | moveRecovery _ hmove => exact Table.forall_insert ht hmove.abandoned_after
  | _ => exact ht

/-- A stop operation that has come to an end stays as it is. -/
theorem Change.terminal_stop (h : Change clock t c es t') {r : StopRecord}
    (hr : t.stops.lookup requestID = some r) (hphase : stopTerminal r.operation.phase = true) :
    t'.stops.lookup requestID = some r := by
  cases h with
  | beginStop _ hnew =>
    rw [AList.lookup_insert_ne, hr]
    rintro rfl
    rw [hnew] at hr
    cases hr
  | resolveStop hold _ hopen =>
    rw [AList.lookup_insert_ne, hr]
    rintro rfl
    rw [hold] at hr
    cases hr
    rw [hopen] at hphase
    cases hphase
  | _ => exact hr

/-- So does a recovery, unless it has failed and is abandoned. -/
theorem Change.terminal_recovery (h : Change clock t c es t') {r : RecoveryRecord}
    (hr : t.recoveries.lookup requestID = some r)
    (hphase : recoveryTerminal r.operation.phase = true) (habandoned : r.Abandoned)
    (hspared : ∀ principal, c = .abandonRecovery requestID principal →
      r.operation.phase ≠ .failed) :
    t'.recoveries.lookup requestID = some r := by
  cases h with
  | beginRecovery _ hnew =>
    rw [AList.lookup_insert_ne, hr]
    rintro rfl
    rw [hnew] at hr
    cases hr
  | @moveRecovery id c es r₁ r' hold hmove =>
    by_cases hid : requestID = id
    · subst hid
      rw [hold] at hr
      cases hr
      rw [AList.lookup_insert]
      cases hmove with
      | turn _ hopen =>
        rw [hopen] at hphase
        cases hphase
      | unconfirmed _ hwaiting | confirmed _ hwaiting =>
        rw [hwaiting] at hphase
        cases hphase
      | @abandoned principal _ hcompleted hpublishing =>
        have hfailed := hspared principal rfl
        rw [habandoned.abandon_eq]
        cases h : r.operation.phase <;> simp_all [recoveryTerminal]
    · rw [AList.lookup_insert_ne hid, hr]
  | _ => exact hr

end Tables

/-! ### Terminal phases -/

variable {cfg : Config}

theorem reachable_abandoned {w : World} (h : (system cfg).Reachable w) :
    ∀ requestID r, w.state.recoveries.lookup requestID = some r → r.Abandoned := by
  refine h.invariant (I := fun w =>
    ∀ requestID r, w.state.recoveries.lookup requestID = some r → r.Abandoned) ?_ ?_
  · rintro _ rfl
    simp
  · intro w a w' hw _ hstep
    obtain ⟨es, reply, -, -, -, hchange, -⟩ := step_change hstep
    exact hchange.abandoned hw

/-- The command abandons a recovery that has failed, with authority. -/
def AbandonsFailed (cfg : Config) (w : World) (a : Action) : Prop :=
  ∃ requestID principal r, a.command = .abandonRecovery requestID principal ∧
    w.state.recoveries.lookup requestID = some r ∧ r.operation.phase = .failed ∧
    ¬Intrudes cfg w.state.tables a.source a.command

/-- What has come to an end in one state is unchanged in the other. -/
structure Frozen (t t' : Tables) : Prop where
  drains : ∀ requestID r, t.operations.lookup requestID = some r →
    r.operation.phase = .conflict ∨ r.operation.phase = .superseded →
    t'.operations.lookup requestID = some r
  stops : ∀ requestID r, t.stops.lookup requestID = some r →
    stopTerminal r.operation.phase = true → t'.stops.lookup requestID = some r
  recoveries : ∀ requestID r, t.recoveries.lookup requestID = some r →
    recoveryTerminal r.operation.phase = true → t'.recoveries.lookup requestID = some r

theorem Frozen.trans {t t' t'' : Tables} (h : Frozen t t') (h' : Frozen t' t'') : Frozen t t'' where
  drains id r hr hphase := h'.drains id r (h.drains id r hr hphase) hphase
  stops id r hr hphase := h'.stops id r (h.stops id r hr hphase) hphase
  recoveries id r hr hphase := h'.recoveries id r (h.recoveries id r hr hphase) hphase

variable {a : Action}

theorem step_frozen {w w' : World} (hw : (system cfg).Reachable w) (hstep : step cfg w a = some w')
    (hok : ¬AbandonsFailed cfg w a) :
    Frozen w.state.tables w'.state.tables := by
  obtain ⟨es, reply, hout, -, -, hchange, -⟩ := step_change hstep
  refine ⟨fun id r hr hphase => ?_, fun id r hr => hchange.terminal_stop hr,
    fun id r hr hphase => ?_⟩
  · refine hchange.drain_stays hr ?_
    rcases hphase with h | h <;> rw [h] <;> rfl
  · by_cases hintrudes : Intrudes cfg w.state.tables a.source a.command
    · have hsame := (outcome_of_refuses (handle_of_intrudes hintrudes) hout).2
      rw [show w'.state.tables = w.state.tables from hsame]
      exact hr
    · exact hchange.terminal_recovery hr hphase (reachable_abandoned hw id r hr)
        fun principal hc hfailed => hok ⟨id, principal, r, hc, hr, hfailed, hintrudes⟩

/-- **Terminal phases are absorbing**, in the runs in which no recovery that has failed is
abandoned: the records do not change at all. -/
theorem terminal_absorbing (cfg : Config) {w w' : World} (hw : (system cfg).Reachable w)
    (hlater : ((system cfg).startAt w).ReachableUnder (fun w a => ¬AbandonsFailed cfg w a) w') :
    Frozen w.state.tables w'.state.tables := by
  have hboth := hlater.invariant (I := fun w' =>
    (system cfg).Reachable w' ∧ Frozen w.state.tables w'.state.tables) ?_ ?_
  · exact hboth.2
  · rintro _ rfl
    exact ⟨hw, fun _ _ hr _ => hr, fun _ _ hr _ => hr, fun _ _ hr _ => hr⟩
  · intro w₁ a w₂ ⟨hw₁, hfrozen⟩ hok hstep
    exact ⟨.step hw₁ trivial hstep, hfrozen.trans (step_frozen hw₁ hstep hok)⟩

namespace Sample

/-- A recovery of the target is begun, and its agent fails to create a service. -/
def fail : Action :=
  { recover (group 2 []) with
    answers := [found (group 2 []), found (group 2 []), .ok (.recoveryReceipt none
      ⟨"r", target, "b", .zero, .failed, .create, 1⟩)] }

/-- It is abandoned. -/
def abandon : Action := action (.abandonRecovery "r" "p") []

/-- It is resolved. -/
def resolve : Action := action (.resolveRecovery "r" "p") []

end Sample

/-- The phase of the recovery under the RequestID of the samples. -/
def World.recoveryPhase (w : World) : Option RecoveryPhase :=
  (w.state.recoveries.lookup (Text.ofString "r")).map fun r => r.operation.phase

/-- A recovery that has failed is abandoned. -/
theorem abandon_of_failed : ∃ w w', (system Sample.config).Reachable w ∧
    step Sample.config w Sample.abandon = some w' ∧ w.recoveryPhase = some .failed ∧
    w'.recoveryPhase = some .abandoned := by
  obtain ⟨w, hw, hp⟩ := System.exists_reachableUnder_of_run (system Sample.config)
    (fun _ _ => True) [Sample.drain, Sample.stopped, Sample.fail] (s := {})
    (fun w => decide (w.recoveryPhase = some .failed) &&
      ((step Sample.config w Sample.abandon).any fun w' => w'.recoveryPhase = some .abandoned)) rfl
    (by decide +kernel)
  simp only [Bool.and_eq_true, decide_eq_true_eq, Option.any_eq_true_iff_get] at hp
  obtain ⟨hfailed, hsome, habandoned⟩ := hp
  exact ⟨w, _, hw, (Option.some_get hsome).symm, hfailed, habandoned⟩

theorem terminal_absorbing_sample : ∃ w w', (system Sample.config).Reachable w ∧
    w.recoveryPhase = some .failed ∧ step Sample.config w Sample.resolve = some w' ∧
    Frozen w.state.tables w'.state.tables := by
  obtain ⟨w, hw, hp⟩ := System.exists_reachableUnder_of_run (system Sample.config)
    (fun _ _ => True) [Sample.drain, Sample.stopped, Sample.fail] (s := {})
    (fun w => decide (w.recoveryPhase = some .failed) &&
      (step Sample.config w Sample.resolve).isSome)
    rfl (by decide +kernel)
  simp only [Bool.and_eq_true, decide_eq_true_eq, Option.isSome_iff_exists] at hp
  obtain ⟨hfailed, w', hstep⟩ := hp
  refine ⟨w, w', hw, hfailed, hstep,
    terminal_absorbing Sample.config hw (.step (.init rfl) ?_ hstep)⟩
  rintro ⟨_, _, _, hc, -⟩
  cases hc

/-! ### Calls, with the operations they are made for -/

/-- The three kinds of operations. -/
inductive Kind
  | drain
  | stop
  | recovery
  deriving DecidableEq

/-- The operation a command is about. -/
def Command.about : Command → Option (Kind × Text)
  | .start request => some (.drain, request.requestID)
  | .resolve requestID _ | .get requestID _ => some (.drain, requestID)
  | .beginStop request => some (.stop, request.requestID)
  | .resolveStop requestID _ | .getStop requestID _ => some (.stop, requestID)
  | .beginRecovery request => some (.recovery, request.requestID)
  | .confirmRecovery requestID _ | .resolveRecovery requestID _ | .getRecovery requestID _
  | .abandonRecovery requestID _ => some (.recovery, requestID)
  | _ => none

/-- A call, and the operation it was made for. -/
abbrev Tagged := Option (Kind × Text) × Event

/-- The coordinator, with the calls and the operations they were made for. -/
def history (cfg : Config) : System (World × List Tagged) Action :=
  (system cfg).logged [] fun w a h =>
    h ++ (outcome cfg w.state a).elim [] fun out => out.2.map fun e => (a.command.about, e)

theorem history_step {p p' : World × List Tagged} (h : (history cfg).step p a = some p') :
    ∃ es, p'.2 = p.2 ++ es.map (fun e => (a.command.about, e)) ∧
      Change a.clock p.1.state.tables a.command es p'.1.state.tables := by
  obtain ⟨w', hstep, rfl⟩ := Option.map_eq_some_iff.1 h
  obtain ⟨es, reply, hout, -, -, hchange, -⟩ := step_change hstep
  refine ⟨es, ?_, hchange⟩
  simp [hout]

/-! ### Publishing once -/

/-- The call is a publish. -/
def Event.publishes (e : Event) : Bool :=
  match e.1 with
  | .publishServiceSet .. => true
  | _ => false

/-- How often something was published for an operation. -/
def publishCount (about : Option (Kind × Text)) (h : List Tagged) : ℕ :=
  h.countP fun x => x.1 = about && x.2.publishes

/-- The publishes a drain can still make. -/
def DrainPhase.publishes : DrainPhase → ℕ
  | .preparing => 1
  | _ => 0

/-- The publishes a recovery can still make. -/
def RecoveryPhase.publishes (phase : RecoveryPhase) : ℕ := if phase.stage = 1 then 1 else 0

/-- The publishes an operation can still make. One that is not there yet can make one. -/
def Tables.publishes (t : Tables) : Option (Kind × Text) → ℕ
  | some (.drain, requestID) =>
    (t.operations.lookup requestID).elim 1 fun r => r.operation.phase.publishes
  | some (.recovery, requestID) =>
    (t.recoveries.lookup requestID).elim 1 fun r => r.operation.phase.publishes
  | some (.stop, _) | none => 0

/-- The calls of a stop. -/
def Op.OfStop : Op → Prop
  | .getServiceSet _ | .beginNodeStop _ | .getNodeStopReceipt _ _ _ => True
  | _ => False

section Publishes

variable {clock : Clock} {es : List Event} {group : Text}

theorem publishCount_append (about about' : Option (Kind × Text)) (h : List Tagged)
    (es : List Event) : publishCount about (h ++ es.map fun e => (about', e)) =
      publishCount about h + if about' = about then es.countP Event.publishes else 0 := by
  rw [publishCount, List.countP_append, List.countP_map]
  split_ifs with heq <;> simp [heq, publishCount, Function.comp_def]

theorem countP_publishes_eq_zero (h : ∀ e ∈ es, ¬e.1.OfPublish) :
    es.countP Event.publishes = 0 := by
  rw [List.countP_eq_zero]
  intro e he hpublishes
  have hnot := h e he
  revert hnot hpublishes
  cases hop : e.1 <;> simp [Event.publishes, Op.OfPublish, hop]

theorem Event.Reads.publishes {e : Event} {set : ServiceSet} (h : e.Reads group set) :
    e.publishes = false := by
  rw [Event.publishes, h.1]

theorem Glance.countP_publishes (h : Glance group es) : es.countP Event.publishes = 0 := by
  rcases h with rfl | ⟨answer, rfl⟩ <;> simp [Event.publishes]

theorem publish_countP_le (name : Text) (expected : Version) (refs : List ServiceRef)
    (tags : Tags) : (publish name expected refs tags).Post [] fun (es : List Event) _ =>
      es.countP Event.publishes ≤ 1 := by
  refine .ite (fun _ => .pure (by simp)) fun _ => ?_
  split
  · exact .pure (by simp)
  · exact .ask_bind fun _ => .pure List.countP_le_length

/-- **A turn of a drain** publishes when it leaves the first phase, and only then. -/
theorem Turn.publishes {r r' : DrainRecord} {more : Bool} (h : Turn clock r es r' more) :
    es.countP Event.publishes + r'.operation.phase.publishes ≤ r.operation.phase.publishes := by
  have hguards {ts es out} (h : (guardTargets ts).Returns es out) :
    es.countP Event.publishes = 0 := by
    have honly : (guardTargets ts).Only fun op => ¬op.OfPublish :=
      guardTargets_only (fun _ => ⟨id, id⟩) ts
    exact countP_publishes_eq_zero (honly es out h)
  have hlists {ts es out} (h : (countVisitors ts).Returns es out) :
    es.countP Event.publishes = 0 := by
    have honly : (countVisitors ts).Only fun op => ¬op.OfPublish :=
      countVisitors_only (fun _ => id) ts
    exact countP_publishes_eq_zero (honly es out h)
  cases h with
  | stay hes => rw [hes.countP_publishes, Nat.zero_add]
  | mismatched _ hread | superseded _ hread =>
    simp [hread.publishes, DrainPhase.publishes]
  | confirmed _ hread => simp [hread.publishes, confirmPublish, DrainPhase.publishes]
  | unpublished hphase hread _ hpublish =>
    have hcount := publish_countP_le _ _ _ _ _ _ hpublish
    rw [hphase, DrainRecord.phase_setPhase, List.countP_cons_of_neg (by simp [hread.publishes])]
    split_ifs <;> exact hcount
  | published hphase hread _ hpublish =>
    have hcount := publish_countP_le _ _ _ _ _ _ hpublish
    rw [hphase, confirmPublish, DrainRecord.phase_setPhase,
      List.countP_cons_of_neg (by simp [hread.publishes])]
    exact hcount
  | unguarded hphase hread _ hguard =>
    simp [hread.publishes, hguards hguard, DrainRecord.withTargets]
  | guarded hphase hread _ hguard =>
    simp [hread.publishes, hguards hguard, DrainPhase.publishes]
  | visited hphase hread _ hcount =>
    simp [hread.publishes, hlists hcount, DrainRecord.withTargets]
  | clear hphase hread _ hcount =>
    simp [hread.publishes, hlists hcount, DrainPhase.publishes]

theorem Advances.publishes {r r' : DrainRecord} (h : Advances clock r es r') :
    es.countP Event.publishes + r'.operation.phase.publishes ≤ r.operation.phase.publishes := by
  have hstart : ([] : List Event).countP Event.publishes + r.operation.phase.publishes ≤
      r.operation.phase.publishes := by simp
  refine h.induction (I := fun r₁ es =>
    es.countP Event.publishes + r₁.operation.phase.publishes ≤ r.operation.phase.publishes) ?_
      hstart
  intro r₁ es r₂ es' more hle hturn
  have hcount := hturn.publishes
  rw [List.countP_append]
  omega

theorem matchesStopDirectory_only (published : ServiceSet) :
    (matchesStopDirectory published).Only Op.OfStop := by
  intro es out hmatches e he
  rcases matchesStopDirectory_glance hmatches with rfl | ⟨answer, rfl⟩
  · cases he
  · rw [List.mem_singleton.1 he]
    trivial

theorem readStopReceipts_only (requestID : Text) (ts : List StopTarget) :
    (readStopReceipts requestID ts).Only Op.OfStop := by
  induction ts with
  | nil => exact .pure _
  | cons t ts ih => exact .ask_bind trivial fun _ => ih.bind fun _ => .pure _

theorem beginStops_only (operation : StopOperation) (ts : List StopTarget) :
    (beginStops operation ts).Only Op.OfStop := by
  induction ts with
  | nil => exact .pure _
  | cons t ts ih =>
    unfold beginStops
    split
    · exact ih.bind fun _ => .pure _
    · refine (matchesStopDirectory_only _).bind fun out => ?_
      split
      · exact .pure _
      · exact .pure _
      · exact .ask_bind trivial fun _ => ih.bind fun _ => .pure _

theorem Glance.ofStop (h : Glance group es) : ∀ e ∈ es, e.1.OfStop := by
  rcases h with rfl | ⟨answer, rfl⟩ <;> simp [Op.OfStop]

theorem StopTurn.only {r r' : StopRecord} (h : StopTurn clock r es r') :
    ∀ e ∈ es, e.1.OfStop := by
  cases h with
  | terminal => simp
  | unread _ hes => exact hes.ofStop
  | superseded _ hread => exact hread.glance.ofStop
  | went _ hread _ hreceipts hbegin =>
    refine List.forall_mem_cons.2 ⟨hread.glance.ofStop _ List.mem_cons_self, ?_⟩
    exact List.forall_mem_append.2
      ⟨readStopReceipts_only _ _ _ _ hreceipts, beginStops_only _ _ _ _ hbegin⟩

theorem StopTurn.publishes {r r' : StopRecord} (h : StopTurn clock r es r') :
    es.countP Event.publishes = 0 := by
  refine countP_publishes_eq_zero fun e he hpublish => ?_
  have hstop := h.only e he
  cases hop : e.1 <;> simp_all [Op.OfStop, Op.OfPublish]

theorem RecoveryTurn.publishes {r r' : RecoveryRecord} (h : RecoveryTurn clock r es r') :
    es.countP Event.publishes + r'.operation.phase.publishes ≤ r.operation.phase.publishes := by
  have hcount : es.countP Event.publishes = 0 := by
    refine countP_publishes_eq_zero fun e he => ?_
    rcases h.only e he with ⟨_, hop⟩ | ⟨_, hop⟩ | ⟨_, _, _, hop⟩ <;> simp [hop, Op.OfPublish]
  rw [hcount, Nat.zero_add, RecoveryPhase.publishes, RecoveryPhase.publishes]
  rcases h.phase with heq | ⟨hle, -⟩
  · rw [heq]
  · have hstage : 1 ≤ r.operation.phase.stage := by cases r.operation.phase <;> decide
    split_ifs <;> omega

theorem RecoveryMove.publishes {requestID : Text} {c : Command} {r r' : RecoveryRecord}
    (h : RecoveryMove clock requestID r c es r') : c.about = some (.recovery, requestID) ∧
    es.countP Event.publishes + r'.operation.phase.publishes ≤ r.operation.phase.publishes := by
  cases h with
  | turn _ _ hturn => exact ⟨rfl, hturn.publishes⟩
  | unconfirmed _ _ hes =>
    refine ⟨rfl, ?_⟩
    rw [hes.countP_publishes, RecoveryRecord.phase_setPhase]
    exact Nat.zero_le _
  | @confirmed _ _ _ _ out _ hphase hread _ hpublish =>
    have hcount := publish_countP_le _ _ _ _ _ _ hpublish
    have hafter : (r.afterPublish clock out).operation.phase.publishes = 0 := by
      cases out <;> simp [RecoveryRecord.afterPublish, completeRecoveryPublish] <;> rfl
    refine ⟨rfl, ?_⟩
    rw [hphase, hafter, List.countP_cons_of_neg (by simp [hread.publishes])]
    exact hcount
  | abandoned =>
    refine ⟨rfl, ?_⟩
    rw [RecoveryRecord.abandon, RecoveryRecord.phase_setPhase]
    exact Nat.zero_le _

/-- A record that is written leaves the others what they can still do. -/
theorem elim_lookup_insert_le {ν : Type} {m : Table Text ν} {f : ν → ℕ} {id : Text} {v : ν} {n : ℕ}
    (h : n + f v ≤ (m.lookup id).elim 1 f) (id' : Text) :
    (if id = id' then n else 0) + ((m.insert id v).lookup id').elim 1 f ≤
    (m.lookup id').elim 1 f := by
  by_cases hid : id = id'
  · subst hid
    simpa using h
  · simp [hid, AList.lookup_insert_ne (Ne.symm hid)]

variable {t t' : Tables} {c : Command} {id : Text} {n : ℕ}

theorem Tables.publishes_insert_drain {r : DrainRecord}
    (h : n + r.operation.phase.publishes ≤ t.publishes (some (.drain, id)))
    (about : Option (Kind × Text)) : (if some (.drain, id) = about then n else 0) +
      { t with operations := t.operations.insert id r : Tables }.publishes about ≤
        t.publishes about := by
  match about with
  | some (.drain, id') => simpa [Tables.publishes] using elim_lookup_insert_le h id'
  | some (.stop, _) | some (.recovery, _) | none => simp [Tables.publishes]

theorem Tables.publishes_insert_recovery {r : RecoveryRecord}
    (h : n + r.operation.phase.publishes ≤ t.publishes (some (.recovery, id)))
    (about : Option (Kind × Text)) : (if some (.recovery, id) = about then n else 0) +
      { t with recoveries := t.recoveries.insert id r : Tables }.publishes about ≤
        t.publishes about := by
  match about with
  | some (.recovery, id') => simpa [Tables.publishes] using elim_lookup_insert_le h id'
  | some (.stop, _) | some (.drain, _) | none => simp [Tables.publishes]

/-- **A command** makes the publishes its operation then can no longer make. -/
theorem Change.publishes (h : Change clock t c es t') (about : Option (Kind × Text)) :
    (if c.about = about then es.countP Event.publishes else 0) + t'.publishes about ≤
      t.publishes about := by
  have hstops (stops : Table Text StopRecord) :
      { t with stops := stops : Tables }.publishes about = t.publishes about := by
    rcases about with - | ⟨_ | _ | _, _⟩ <;> rfl
  cases h with
  | keep hes =>
    have hcount : es.countP Event.publishes = 0 := countP_publishes_eq_zero fun e he => by
      obtain ⟨group, hop⟩ := hes e he
      simp [hop, Op.OfPublish]
    simp [hcount]
  | start hnormal hnew hadvance =>
    rw [Command.about, ← (normalizeStartDrainRequest_head hnormal).1]
    refine Tables.publishes_insert_drain ?_ about
    rw [Tables.publishes, hnew]
    exact hadvance.publishes
  | resolve hold _ hadvance =>
    refine Tables.publishes_insert_drain ?_ about
    rw [Tables.publishes, hold]
    exact hadvance.publishes
  | beginStop _ _ _ _ _ _ hread _ hturn => simp [hread.publishes, hturn.publishes, hstops]
  | resolveStop _ _ _ hturn => simp [hturn.publishes, hstops]
  | beginRecovery hnormal hnew _ _ _ _ _ hread _ hturn =>
    rw [Command.about, ← (normalizeBeginRecoveryRequest_head hnormal).1,
      List.countP_cons_of_neg (by simp [hread.publishes])]
    refine Tables.publishes_insert_recovery ?_ about
    rw [Tables.publishes, hnew]
    exact hturn.publishes
  | moveRecovery hold hmove =>
    obtain ⟨hc, hle⟩ := hmove.publishes
    rw [hc]
    refine Tables.publishes_insert_recovery ?_ about
    rw [Tables.publishes, hold]
    exact hle

end Publishes

theorem publishCount_le {p : World × List Tagged} (hp : (history cfg).Reachable p)
    (about : Option (Kind × Text)) :
    publishCount about p.2 + p.1.state.tables.publishes about ≤
      Tables.publishes ⟨∅, ∅, ∅⟩ about := by
  refine hp.invariant (I := fun p => publishCount about p.2 + p.1.state.tables.publishes about ≤
    Tables.publishes ⟨∅, ∅, ∅⟩ about) ?_ ?_
  · rintro ⟨_, _⟩ ⟨rfl, rfl⟩
    exact (Nat.zero_add _).le
  · intro p a p' hle _ hstep
    obtain ⟨es, hes, hchange⟩ := history_step hstep
    have hcount := hchange.publishes about
    rw [hes, publishCount_append]
    omega

/-! ### Repeated requests -/

section Repeated

/-- The service sets have the same content. -/
structure ServiceSet.Same (left right : ServiceSet) : Prop where
  name : left.name = right.name
  version : left.version = right.version
  refs : left.refs.elems = right.refs.elems
  tags : SameTags left.tags right.tags

/-- The requests are the same, as sequences of references and as maps of tags. -/
structure StartDrainRequest.Same (left right : StartDrainRequest) : Prop where
  requestID : left.requestID = right.requestID
  principal : left.principal = right.principal
  group : left.group = right.group
  expected : left.expected = right.expected
  nextRefs : left.nextRefs.elems = right.nextRefs.elems
  nextTags : SameTags left.nextTags right.nextTags

structure BeginStopRequest.Same (left right : BeginStopRequest) : Prop where
  requestID : left.requestID = right.requestID
  principal : left.principal = right.principal
  targets : left.targets.elems = right.targets.elems

structure BeginRecoveryRequest.Same (left right : BeginRecoveryRequest) : Prop where
  requestID : left.requestID = right.requestID
  principal : left.principal = right.principal
  group : left.group = right.group
  expected : left.expected.Same right.expected
  targets : left.targets.elems = right.targets.elems

theorem pairs_eq (tags : Tags) : tags.pairs = (tags.getD ∅).entries := by
  cases tags <;> rfl

/-- As many tags, and every one of the first in the second, is the same map. -/
theorem sameTags_iff {left right : Tags} : sameTags left right = true ↔ SameTags left right := by
  have hlookup (e : Sigma fun _ : Text => Text) :
      (right.any fun m => m.lookup e.1 = some e.2) = true ↔ e ∈ right.pairs := by
    cases right with
    | none => simp [Tags.pairs]
    | some m => simpa [Tags.pairs] using AList.mem_lookup_iff
  simp only [sameTags, Bool.and_eq_true, decide_eq_true_eq, List.all_eq_true, hlookup]
  rw [pairs_eq, pairs_eq]
  constructor
  · rintro ⟨hlength, hsubset⟩ key
    refine AList.perm_lookup (List.Subperm.perm_of_length_le ?_ hlength.ge)
    exact (left.getD ∅).nodupKeys.nodup.subperm hsubset
  · intro h
    have hperm : (left.getD ∅).entries.Perm (right.getD ∅).entries :=
      List.lookup_ext (left.getD ∅).nodupKeys (right.getD ∅).nodupKeys fun key value => by
        have := h key
        unfold AList.lookup at this
        rw [this]
    exact ⟨hperm.length_eq, fun e he => hperm.subset he⟩

theorem sameDrainServiceSet_iff {left right : ServiceSet} :
    sameDrainServiceSet left right = true ↔ left.Same right := by
  simp only [sameDrainServiceSet, sameServiceSetContent, Bool.and_eq_true, decide_eq_true_eq,
    sameTags_iff]
  exact ⟨fun ⟨hversion, ⟨hname, hrefs⟩, htags⟩ => ⟨hname, hversion, hrefs, htags⟩,
    fun h => ⟨h.version, ⟨h.name, h.refs⟩, h.tags⟩⟩

theorem sameStartDrainRequest_iff {left right : StartDrainRequest} :
    sameStartDrainRequest left right = true ↔ left.Same right := by
  simp only [sameStartDrainRequest, Bool.and_eq_true, decide_eq_true_eq, sameTags_iff]
  exact ⟨fun ⟨⟨⟨⟨⟨hid, hprincipal⟩, hgroup⟩, hexpected⟩, hrefs⟩, htags⟩ =>
    ⟨hid, hprincipal, hgroup, hexpected, hrefs, htags⟩,
    fun h => ⟨⟨⟨⟨⟨h.requestID, h.principal⟩, h.group⟩, h.expected⟩, h.nextRefs⟩, h.nextTags⟩⟩

theorem sameBeginStopRequest_iff {left right : BeginStopRequest} :
    sameBeginStopRequest left right = true ↔ left.Same right := by
  simp only [sameBeginStopRequest, Bool.and_eq_true, decide_eq_true_eq]
  exact ⟨fun ⟨⟨hid, hprincipal⟩, htargets⟩ => ⟨hid, hprincipal, htargets⟩,
    fun h => ⟨⟨h.requestID, h.principal⟩, h.targets⟩⟩

theorem sameBeginRecoveryRequest_iff {left right : BeginRecoveryRequest} :
    sameBeginRecoveryRequest left right = true ↔ left.Same right := by
  simp only [sameBeginRecoveryRequest, Bool.and_eq_true, decide_eq_true_eq, sameDrainServiceSet_iff]
  exact ⟨fun ⟨⟨⟨⟨hid, hprincipal⟩, hgroup⟩, hexpected⟩, htargets⟩ =>
    ⟨hid, hprincipal, hgroup, hexpected, htargets⟩,
    fun h => ⟨⟨⟨⟨h.requestID, h.principal⟩, h.group⟩, h.expected⟩, h.targets⟩⟩

/-- The handler returns at once, with the tables as they were: the stored operation if the request
is the same, and a conflict otherwise. -/
def Repeats (s : State) (handled : Handled) (same : Prop) (stored conflict : Reply) : Prop :=
  ∃ s' reply, handled = pure (s', reply) ∧ s'.tables = s.tables ∧ (same → reply = stored) ∧
    (¬same → reply = conflict)

variable {clock : Clock} {cfg : Config} {s : State}

theorem Repeats.of_ite {s₁ s₂ : State} {same : Bool} {stored conflict : Reply} {P : Prop}
    (hP : same = true ↔ P) (h₁ : s₁.tables = s.tables) (h₂ : s₂.tables = s.tables) :
    Repeats s (if !same then pure (s₁, conflict) else pure (s₂, stored)) P stored conflict := by
  cases same with
  | true => exact ⟨s₂, stored, rfl, h₂, fun _ => rfl, fun hnot => absurd (hP.1 rfl) hnot⟩
  | false => exact ⟨s₁, conflict, rfl, h₁, fun hsame => (nomatch hP.2 hsame), fun _ => rfl⟩

theorem handleStart_repeats {request normalized : StartDrainRequest} {r : DrainRecord}
    (hnormal : normalizeStartDrainRequest request = .ok normalized)
    (hallowed : normalized.principal ∈ cfg.allowedPrincipals)
    (hr : s.operations.lookup normalized.requestID = some r) :
    Repeats s (handleStart clock cfg s cfg.gateway request) (r.request.Same normalized)
      (replyOperation (.ok r.operation)) (replyOperation (.error .requestConflict)) := by
  simp only [handleStart, hnormal, hr, ne_eq, not_true, if_false, hallowed]
  exact .of_ite sameStartDrainRequest_iff rfl rfl

theorem handleBeginStop_repeats {request normalized : BeginStopRequest} {r : StopRecord}
    (hnormal : normalizeBeginStopRequest request = .ok normalized)
    (hallowed : normalized.principal ∈ cfg.allowedPrincipals)
    (hr : s.stops.lookup normalized.requestID = some r) :
    Repeats s (handleBeginStop clock cfg s cfg.gateway request) (r.request.Same normalized)
      (replyStopOperation (.ok r.operation))
      (replyStopOperation (.error .stopRequestConflict)) := by
  simp only [handleBeginStop, hnormal, hr, ne_eq, not_true, if_false, hallowed]
  exact .of_ite sameBeginStopRequest_iff rfl rfl

theorem handleBeginRecovery_repeats {request normalized : BeginRecoveryRequest} {r : RecoveryRecord}
    (hnormal : normalizeBeginRecoveryRequest request = .ok normalized)
    (hallowed : normalized.principal ∈ cfg.allowedPrincipals)
    (hr : s.recoveries.lookup normalized.requestID = some r) :
    Repeats s (handleBeginRecovery clock cfg s cfg.gateway request) (r.request.Same normalized)
      (replyRecoveryOperation (.ok r.operation))
      (replyRecoveryOperation (.error .recoveryRequestConflict)) := by
  simp only [handleBeginRecovery, hnormal, hr, ne_eq, not_true, if_false, hallowed]
  exact .of_ite sameBeginRecoveryRequest_iff rfl rfl

end Repeated

/-- **A RequestID is good for one operation.** A drain publishes once at most and so does a
recovery, and nothing else publishes. A request for an operation that there is makes no call and
changes nothing but the audit log. -/
theorem requests_once (cfg : Config) {p : World × List Tagged} (hp : (history cfg).Reachable p) :
    (∀ requestID, publishCount (some (.drain, requestID)) p.2 ≤ 1 ∧
      publishCount (some (.stop, requestID)) p.2 = 0 ∧
      publishCount (some (.recovery, requestID)) p.2 ≤ 1) ∧ publishCount none p.2 = 0 ∧
    (∀ clock request normalized r, normalizeStartDrainRequest request = .ok normalized →
      normalized.principal ∈ cfg.allowedPrincipals →
      p.1.state.operations.lookup request.requestID = some r →
      Repeats p.1.state (handle clock cfg p.1.state cfg.gateway (.start request))
        (r.request.Same normalized) (replyOperation (.ok r.operation))
        (replyOperation (.error .requestConflict))) ∧
    (∀ clock request normalized r, normalizeBeginStopRequest request = .ok normalized →
      normalized.principal ∈ cfg.allowedPrincipals →
      p.1.state.stops.lookup request.requestID = some r →
      Repeats p.1.state (handle clock cfg p.1.state cfg.gateway (.beginStop request))
        (r.request.Same normalized) (replyStopOperation (.ok r.operation))
        (replyStopOperation (.error .stopRequestConflict))) ∧
    ∀ clock request normalized r, normalizeBeginRecoveryRequest request = .ok normalized →
      normalized.principal ∈ cfg.allowedPrincipals →
      p.1.state.recoveries.lookup request.requestID = some r →
      Repeats p.1.state (handle clock cfg p.1.state cfg.gateway (.beginRecovery request))
        (r.request.Same normalized) (replyRecoveryOperation (.ok r.operation))
        (replyRecoveryOperation (.error .recoveryRequestConflict)) := by
  have hcount := publishCount_le hp
  refine ⟨fun requestID => ⟨?_, ?_, ?_⟩, ?_,
    fun clock request normalized r hnormal hallowed hr => ?_,
    fun clock request normalized r hnormal hallowed hr => ?_,
    fun clock request normalized r hnormal hallowed hr => ?_⟩
  · exact (Nat.le_add_right _ _).trans (hcount _)
  · exact Nat.le_zero.1 ((Nat.le_add_right _ _).trans (hcount (some (.stop, requestID))))
  · exact (Nat.le_add_right _ _).trans (hcount _)
  · exact Nat.le_zero.1 ((Nat.le_add_right _ _).trans (hcount none))
  · rw [← (normalizeStartDrainRequest_head hnormal).1] at hr
    exact handleStart_repeats hnormal hallowed hr
  · rw [← (normalizeBeginStopRequest_head hnormal).1] at hr
    exact handleBeginStop_repeats hnormal hallowed hr
  · rw [← (normalizeBeginRecoveryRequest_head hnormal).1] at hr
    exact handleBeginRecovery_repeats hnormal hallowed hr

theorem requests_once_sample : ∃ p, (history Sample.config).Reachable p ∧
    publishCount (some (.drain, "r")) p.2 = 1 ∧ ∃ r,
    p.1.state.operations.lookup (Text.ofString "r") = some r ∧ ∀ clock request normalized,
      request.requestID = Text.ofString "r" → normalizeStartDrainRequest request = .ok normalized →
      normalized.principal = "p" →
      Repeats p.1.state
        (handle clock Sample.config p.1.state Sample.config.gateway (.start request))
        (r.request.Same normalized) (replyOperation (.ok r.operation))
        (replyOperation (.error .requestConflict)) := by
  obtain ⟨p, hp, hcheck⟩ := System.exists_reachableUnder_of_run (history Sample.config)
    (fun _ _ => True) [Sample.drain] (s := ({}, []))
    (fun p => decide (publishCount (some (.drain, "r")) p.2 = 1) &&
      (p.1.state.operations.lookup (Text.ofString "r")).isSome) ⟨rfl, rfl⟩ (by decide +kernel)
  rw [Bool.and_eq_true, decide_eq_true_eq, Option.isSome_iff_exists] at hcheck
  obtain ⟨hcount, r, hr⟩ := hcheck
  refine ⟨p, hp, hcount, r, hr, fun clock request normalized hid hnormal hprincipal => ?_⟩
  refine (requests_once Sample.config hp).2.2.1 clock request normalized r hnormal ?_ (hid ▸ hr)
  rw [hprincipal]
  exact List.mem_singleton_self _

/-! ### Creating with the consent of the Directory -/

/-- Before each service that is created, after the one before it of the same recovery, the Directory
was read in that recovery and returned what the recovery expects. -/
def Gated (t : Tables) (h : List Tagged) : Prop :=
  ∀ before about e after task, h = before ++ (about, e) :: after →
    e.1 = .beginRecoveryCreate task → ∃ r, about = some (.recovery, task.requestID) ∧
      t.recoveries.lookup task.requestID = some r ∧ ∃ earlier read between set,
        before = earlier ++ (about, read) :: between ∧ read.Reads r.operation.group set ∧
        set.Same r.operation.expected ∧
        ∀ x ∈ between, x.1 = about → ∀ task', x.2.1 ≠ .beginRecoveryCreate task'

/-- A recovery that the command begins is of at most one service. -/
def Command.single (s s' : State) : Command → Bool
  | .beginRecovery request =>
    s'.recoveries.lookup request.requestID = s.recoveries.lookup request.requestID ||
      decide (request.targets.elems.length ≤ 1)
  | _ => true

/-- The record is one of a recovery under its RequestID, of one service. -/
structure RecoveryRecord.Single (requestID : Text) (r : RecoveryRecord) : Prop where
  requestID : r.head.requestID = requestID
  targets : r.head.targets.length ≤ 1

/-- The call asks an agent to create a service. -/
def Event.creates (e : Event) : Bool :=
  match e.1 with
  | .beginRecoveryCreate _ => true
  | _ => false

theorem Event.creates_iff {e : Event} :
    e.creates = true ↔ ∃ task, e.1 = .beginRecoveryCreate task := by
  cases hop : e.1 <;> simp [creates, hop]

section Creates

variable {clock : Clock} {es : List Event} {requestID : Text} {r r' : RecoveryRecord}
  {t t' : Tables} {c : Command} {e : Event} {task : RecoveryCreateTask}

theorem recoverTargets_calls (requestID : Text) (ts : List RecoveryTarget) :
    (recoverTargets requestID ts).Post [] fun (es : List Event) _ => es.length ≤ ts.length ∧
      ∀ e ∈ es, ∀ task, e.1 = .beginRecoveryCreate task → task.requestID = requestID := by
  induction ts with
  | nil => exact .pure (by simp)
  | cons t ts ih =>
    refine .ite (fun _ => .bind fun es ts' htail => .pure ?_) fun _ =>
      .ask_bind fun answer => .bind fun es ts' htail => .pure ?_
    · obtain ⟨hlength, hcalls⟩ := ih es ts' htail
      exact ⟨hlength.trans (Nat.le_succ _), hcalls⟩
    · obtain ⟨hlength, hcalls⟩ := ih es ts' htail
      refine ⟨Nat.succ_le_succ hlength, List.forall_mem_cons.2 ⟨fun task hop => ?_, hcalls⟩⟩
      split_ifs at hop
      cases hop
      rfl

theorem Glance.notMem_create {group : Text} (h : Glance group es)
    (hop : e.1 = .beginRecoveryCreate task) : e ∉ es := by
  intro he
  rcases h with rfl | ⟨answer, rfl⟩
  · cases he
  · rw [List.mem_singleton.1 he] at hop
    cases hop

theorem Event.Reads.ne_create {read : Event} {group : Text} {set : ServiceSet}
    (h : read.Reads group set) (hop : e.1 = .beginRecoveryCreate task) : e ≠ read := by
  simpa using h.glance.notMem_create hop

theorem RecoveryTurn.creates (h : RecoveryTurn clock r es r')
    (hr : r.Single requestID) (he : e ∈ es)
    (hop : e.1 = .beginRecoveryCreate task) : task.requestID = requestID ∧ ∃ read set,
      es = [read, e] ∧ read.Reads r.operation.group set ∧ set.Same r.operation.expected := by
  cases h with
  | stay => cases he
  | looked _ hout => exact absurd he ((getDirectory_glance hout).notMem_create hop)
  | unread _ hes => exact absurd he (hes.notMem_create hop)
  | changed _ hread => exact absurd he (hread.glance.notMem_create hop)
  | @went read es set targets _ hread hsame hrecover =>
    obtain ⟨hlength, hcalls⟩ := recoverTargets_calls _ _ _ _ hrecover
    rcases List.mem_cons.1 he with rfl | he
    · exact absurd rfl (hread.ne_create hop)
    have htargets : r.operation.targets.elems.length ≤ 1 := by
      simpa [RecoveryRecord.head] using hr.targets
    obtain ⟨e', rfl⟩ := List.length_eq_one_iff.1
      (le_antisymm (hlength.trans htargets) (List.length_pos_of_mem he))
    obtain rfl := List.mem_singleton.1 he
    exact ⟨(hcalls e he task hop).trans hr.requestID, read, set, rfl, hread,
      sameDrainServiceSet_iff.1 hsame⟩

theorem RecoveryRecord.Single.congr (h : r.Single requestID) (hhead : r'.head = r.head) :
    r'.Single requestID := by
  constructor <;> rw [hhead]
  · exact h.requestID
  · exact h.targets

theorem RecoveryRecord.consent_eq (h : r'.head = r.head) :
    r'.operation.group = r.operation.group ∧ r'.operation.expected = r.operation.expected :=
  ⟨congrArg RecoveryHead.group h, congrArg RecoveryHead.expected h⟩

/-- What a turn creates, said of the record it leaves. -/
theorem RecoveryTurn.creates_after (h : RecoveryTurn clock r es r') (hr : r'.Single requestID)
    (he : e ∈ es) (hop : e.1 = .beginRecoveryCreate task) : task.requestID = requestID ∧
      ∃ read set, es = [read, e] ∧ e ≠ read ∧ read.Reads r'.operation.group set ∧
        set.Same r'.operation.expected := by
  obtain ⟨hgroup, hexpected⟩ := RecoveryRecord.consent_eq h.head_eq
  obtain ⟨hid, read, set, hes, hread, hsame⟩ := h.creates (hr.congr h.head_eq.symm) he hop
  rw [← hgroup] at hread
  rw [← hexpected] at hsame
  exact ⟨hid, read, set, hes, hread.ne_create hop, hread, hsame⟩

/-- **What a command creates** it creates right after a read of the Directory. -/
theorem Change.creates (h : Change clock t c es t')
    (ht' : ∀ requestID r, t'.recoveries.lookup requestID = some r → r.Single requestID)
    (he : e ∈ es)
    (hop : e.1 = .beginRecoveryCreate task) : ∃ r, c.about = some (.recovery, task.requestID) ∧
      t'.recoveries.lookup task.requestID = some r ∧ ∃ earlier read set, es = earlier ++ [read, e] ∧
        e ∉ earlier ++ [read] ∧ read.Reads r.operation.group set ∧
        set.Same r.operation.expected := by
  cases h with
  | keep hes =>
    obtain ⟨group, hread⟩ := hes e he
    rw [hread] at hop
    cases hop
  | start _ _ hadvance | resolve _ _ hadvance =>
    have hdrain := hadvance.only e he
    rw [hop] at hdrain
    exact hdrain.elim
  | beginStop _ _ _ _ _ _ hread _ hturn =>
    rcases List.mem_cons.1 he with rfl | he
    · exact absurd rfl (hread.ne_create hop)
    · have hstop := hturn.only e he
      rw [hop] at hstop
      exact hstop.elim
  | resolveStop _ _ _ hturn =>
    have hstop := hturn.only e he
    rw [hop] at hstop
    exact hstop.elim
  | @beginRecovery request normalized first _ _ _ r hnormal _ _ _ _ _ _ hread _ hturn =>
    rcases List.mem_cons.1 he with rfl | he
    · exact absurd rfl (hread.ne_create hop)
    obtain ⟨hid, read, set, rfl, hne, hreads⟩ :=
      hturn.creates_after (ht' _ r (AList.lookup_insert _)) he hop
    rw [hid]
    refine ⟨r, ?_, AList.lookup_insert _, [first], read, set, rfl, ?_, hreads⟩
    · rw [Command.about, (normalizeBeginRecoveryRequest_head hnormal).1]
    · simpa using ⟨hread.ne_create hop, hne⟩
  | @moveRecovery id _ _ _ r' hold hmove =>
    have hsingle := ht' _ r' (AList.lookup_insert _)
    cases hmove with
    | turn _ _ hturn =>
      obtain ⟨hid, read, set, rfl, hne, hreads⟩ := hturn.creates_after hsingle he hop
      rw [hid]
      exact ⟨r', rfl, AList.lookup_insert _, [], read, set, rfl, by simpa using hne, hreads⟩
    | unconfirmed _ _ hes => exact absurd he (hes.notMem_create hop)
    | confirmed _ _ hread _ hpublish =>
      rcases List.mem_cons.1 he with rfl | he
      · exact absurd rfl (hread.ne_create hop)
      · have hpublishes := publish_only _ _ _ _ _ _ hpublish e he
        rw [hop] at hpublishes
        exact hpublishes.elim
    | abandoned => cases he

theorem Change.head_stays (h : Change clock t c es t')
    (hr : t.recoveries.lookup requestID = some r) :
    ∃ r', t'.recoveries.lookup requestID = some r' ∧ r'.head = r.head := by
  cases h with
  | beginRecovery _ hnew =>
    rw [AList.lookup_insert_ne]
    · exact ⟨r, hr, rfl⟩
    · rintro rfl
      rw [hnew] at hr
      cases hr
  | @moveRecovery id _ _ _ r' hold hmove =>
    by_cases hid : requestID = id
    · subst hid
      rw [hold] at hr
      cases hr
      exact ⟨r', AList.lookup_insert _, hmove.head_eq⟩
    · exact ⟨r, by rw [AList.lookup_insert_ne hid, hr], rfl⟩
  | _ => exact ⟨r, hr, rfl⟩

theorem Change.single {s s' : State} (h : Change clock s.tables c es s'.tables)
    (hc : c.single s s' = true)
    (hs : ∀ requestID r, s.recoveries.lookup requestID = some r → r.Single requestID) :
    ∀ requestID r, s'.recoveries.lookup requestID = some r → r.Single requestID := by
  rw [← State.recoveries_tables]
  generalize ht : s'.tables = t' at h
  cases h with
  | @beginRecovery request normalized _ _ _ _ r hnormal hnew _ _ _ _ _ _ _ hturn =>
    have hnormalized := normalizeBeginRecoveryRequest_ok hnormal
    have hnew' : s'.recoveries.lookup request.requestID = some r := by
      rw [← State.recoveries_tables, ht, ← hnormalized.requestID_eq]
      exact AList.lookup_insert _
    refine Table.forall_insert hs (.congr ⟨rfl, ?_⟩ hturn.head_eq)
    rw [State.recoveries_tables, hnormalized.requestID_eq] at hnew
    rw [targets_head_new, hnormalized.targets_eq]
    simpa [Command.single, hnew, hnew', (perm_sortByRef _ _).length_eq] using hc
  | moveRecovery hold hmove => exact Table.forall_insert hs ((hs _ _ hold).congr hmove.head_eq)
  | _ => exact hs

end Creates

/-- What holds along a run in which every recovery is of one service. -/
structure Consented (p : World × List Tagged) : Prop where
  single : ∀ requestID r, p.1.state.recoveries.lookup requestID = some r → r.Single requestID
  gated : Gated p.1.state.tables p.2

theorem Consented.step {p p' : World × List Tagged} (h : Consented p)
    (hsingle : a.command.single p.1.state p'.1.state = true)
    (hstep : (history cfg).step p a = some p') : Consented p' := by
  obtain ⟨es, hes, hchange⟩ := history_step hstep
  have hsingle' := hchange.single hsingle h.single
  refine ⟨hsingle', ?_⟩
  intro before about e after task heq hop
  rw [hes] at heq
  have hcases : (∃ mid, p.2 = before ++ (about, e) :: mid) ∨
      ∃ es₁, before = p.2 ++ es₁ ∧
      es.map (fun e => (a.command.about, e)) = es₁ ++ (about, e) :: after := by
    rcases List.append_eq_append_iff.1 heq with hnew | ⟨_ | ⟨x, mid⟩, hold, hrest⟩
    · exact .inr hnew
    · exact .inr ⟨[], by simpa using hold.symm, hrest.symm⟩
    · rw [List.cons_append, List.cons.injEq] at hrest
      exact .inl ⟨mid, by rw [hold, hrest.1]⟩
  rcases hcases with ⟨mid, hold⟩ | ⟨_, rfl, hnew⟩
  · obtain ⟨r, habout, hr, earlier, read, between, set, hbefore, hread, hsame, hbetween⟩ :=
      h.gated before about e mid task hold hop
    obtain ⟨r', hr', hhead⟩ := hchange.head_stays hr
    obtain ⟨hgroup, hexpected⟩ := RecoveryRecord.consent_eq hhead
    rw [← hgroup] at hread
    rw [← hexpected] at hsame
    exact ⟨r', habout, hr', earlier, read, between, set, hbefore, hread, hsame, hbetween⟩
  · obtain ⟨es₁, rest, rfl, rfl, hmap⟩ := List.map_eq_append_iff.1 hnew
    obtain ⟨e', es₂, rfl, htag, -⟩ := List.map_eq_cons_iff.1 hmap
    obtain ⟨rfl, rfl⟩ := Prod.mk.inj htag
    obtain ⟨r, habout, hr, earlier, read, set, heq, hnotMem, hread, hsame⟩ :=
      hchange.creates hsingle' (List.mem_append_right _ List.mem_cons_self) hop
    obtain ⟨hbefore, -, -⟩ := (List.append_cons_inj_of_notMem hnotMem List.not_mem_nil).1
      ((List.append_assoc earlier [read] [e']).trans heq.symm)
    refine ⟨r, habout, hr, p.2 ++ earlier.map fun e => (a.command.about, e), read, [], set,
      ?_, hread, hsame, by simp⟩
    rw [← hbefore]
    simp

/-- Every recovery that the step begins is of at most one service. -/
def OneByOne (cfg : Config) (p : World × List Tagged) (a : Action) : Prop :=
  ∀ p' ∈ (history cfg).step p a, a.command.single p.1.state p'.1.state = true

instance (cfg : Config) (p : World × List Tagged) (a : Action) : Decidable (OneByOne cfg p a) :=
  inferInstanceAs (Decidable (∀ p' ∈ (history cfg).step p a, _))

/-- **A service is created with the consent of the Directory**, in the runs in which every recovery
is of one service. -/
theorem creation_gated (cfg : Config) {p : World × List Tagged}
    (hp : (history cfg).ReachableUnder (OneByOne cfg) p) : Gated p.1.state.tables p.2 := by
  refine (hp.invariant (I := Consented) ?_
    fun p a p' h hsingle hstep => h.step (hsingle p' hstep) hstep).gated
  rintro ⟨_, _⟩ ⟨rfl, rfl⟩
  exact ⟨by simp, by simp [Gated]⟩

theorem creation_gated_sample : ∃ p e task,
    (history Sample.config).ReachableUnder (OneByOne Sample.config) p ∧
    (some (.recovery, Text.ofString "r"), e) ∈ p.2 ∧ e.1 = .beginRecoveryCreate task ∧
    Gated p.1.state.tables p.2 := by
  obtain ⟨p, hp, hcheck⟩ := System.exists_reachableUnder_of_run (history Sample.config)
    (OneByOne Sample.config)
    [Sample.drain, Sample.stopped, Sample.recover (Sample.group 2 [])] (s := ({}, []))
    (fun p => p.2.any fun x => x.1 = some (.recovery, Text.ofString "r") && x.2.creates)
    ⟨rfl, rfl⟩ (by decide +kernel)
  obtain ⟨⟨about, e⟩, hmem, hx⟩ := List.any_eq_true.1 hcheck
  rw [Bool.and_eq_true, decide_eq_true_eq] at hx
  obtain ⟨rfl, hcreates⟩ := hx
  obtain ⟨task, hop⟩ := Event.creates_iff.1 hcreates
  exact ⟨p, e, task, hp, hmem, hop, creation_gated Sample.config hp⟩

namespace Sample

/-- Another service that is drained. -/
def other : ServiceRef := ⟨"n", 9⟩

/-- The group is emptied of both. -/
def drainBoth : Action :=
  action (.start ⟨"r", "p", "g", ⟨1, 1⟩, .of [], some ∅⟩)
    [found (group 1 [target, other]), found (group 2 []), found (group 2 []),
      .ok (.guardStatus none ⟨true, 1⟩), .ok (.guardStatus none ⟨true, 1⟩), found (group 2 []),
      .ok (.visitors none (.of [])), .ok (.visitors none (.of []))]

/-- Both are stopped. -/
def stopBoth : Action :=
  action (.beginStop ⟨"r", "p", .of [⟨target, agent⟩, ⟨other, agent⟩]⟩)
    [found (group 2 []), found (group 2 []), .error (.other 0), .error (.other 0),
      found (group 2 []),
      .ok (.stopReceipt none ⟨"r", target, .stopped, .none, 1⟩), found (group 2 []),
      .ok (.stopReceipt none ⟨"r", other, .stopped, .none, 1⟩)]

/-- Both are created again, after one read of the Directory. -/
def recoverBoth : Action :=
  action (.beginRecovery ⟨"r", "p", "g", group 2 [],
    .of [⟨target, agent, "b"⟩, ⟨other, agent, "b"⟩]⟩)
    [found (group 2 []), found (group 2 []), receipt, .error (.other 0)]

/-- The last two calls create for the same record. -/
def createsTwice (log : List Tagged) : Bool :=
  match log.reverse with
  | y :: x :: _ => decide (x.1 = y.1) && x.2.creates && y.2.creates
  | _ => false

end Sample

/-- A recovery of two services creates both after one read of the Directory. -/
theorem creation_ungated : ∃ p, (history Sample.config).Reachable p ∧
    ¬Gated p.1.state.tables p.2 := by
  obtain ⟨p, hp, hcheck⟩ := System.exists_reachableUnder_of_run (history Sample.config)
    (fun _ _ => True) [Sample.drainBoth, Sample.stopBoth, Sample.recoverBoth] (s := ({}, []))
    (fun p => Sample.createsTwice p.2) ⟨rfl, rfl⟩ (by decide +kernel)
  refine ⟨p, hp, fun hgated => ?_⟩
  rcases hreverse : p.2.reverse with _ | ⟨⟨about, e⟩, _ | ⟨⟨about', e'⟩, rest⟩⟩
  · simp [Sample.createsTwice, hreverse] at hcheck
  · simp [Sample.createsTwice, hreverse] at hcheck
  obtain ⟨rfl, hcreates', hcreates⟩ : about' = about ∧ e'.creates = true ∧ e.creates = true := by
    simpa [Sample.createsTwice, hreverse, and_assoc] using hcheck
  obtain ⟨task, hop⟩ := Event.creates_iff.1 hcreates
  obtain ⟨task', hop'⟩ := Event.creates_iff.1 hcreates'
  have heq : p.2 = (rest.reverse ++ [(about', e')]) ++ (about', e) :: [] := by
    rw [← List.reverse_reverse p.2, hreverse]
    simp
  obtain ⟨r, -, -, earlier, read, between, set, hbefore, hread, -, hbetween⟩ :=
    hgated _ about' e [] task heq hop
  -- the call before is the read, or is between
  rcases List.eq_nil_or_concat between with rfl | ⟨front, z, rfl⟩
  · obtain ⟨-, hlast⟩ := List.append_inj' hbefore rfl
    cases hlast
    exact hread.ne_create hop' rfl
  · rw [List.concat_eq_append, ← List.cons_append, ← List.append_assoc] at hbefore
    obtain ⟨-, hlast⟩ := List.append_inj' hbefore rfl
    cases hlast
    exact hbetween (about', e') (by simp) rfl task' hop'

end GameServiceRuntime.Control
