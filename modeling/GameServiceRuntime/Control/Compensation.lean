import Mathlib.Data.List.Destutter
import GameServiceRuntime.Control.Draining

/-!
# What a recovery publishes

A recovery puts new services in the place of the ones a stop operation took down. Its publish is a
compare-and-set of the expected set with the created references added.

Which group that is, is for the request to say. The coordinator finds the stop operation by the
RequestID and compares the principals and the targets, but not the groups: a recovery may be begun
with the name and the current set of any other group, and is then confirmed and published there. So
what is proved holds in the runs in which every recovery is begun with the group of its stop
operation and no agent reports as created a service that is to be replaced (`Compensates`).
-/

namespace GameServiceRuntime.Control

/-! ### The references of a candidate -/

theorem exchangeLeast_perm (left : ServiceRef) (refs : List ServiceRef) :
    ((exchangeLeast left refs).1 :: (exchangeLeast left refs).2).Perm (left :: refs) := by
  induction refs generalizing left with
  | nil => exact List.Perm.refl _
  | cons right refs ih =>
    rw [exchangeLeast]
    split
    · exact (List.Perm.swap _ _ _).trans ((ih right).cons left)
    · exact ((List.Perm.swap _ _ _).trans ((ih left).cons right)).trans (List.Perm.swap _ _ _)

theorem exchangeRounds_perm (n : ℕ) (refs : List ServiceRef) :
    (exchangeRounds n refs).Perm refs := by
  induction n generalizing refs with
  | zero => cases refs <;> exact List.Perm.refl _
  | succ n ih =>
    cases refs with
    | nil => exact List.Perm.refl _
    | cons left refs =>
      rw [exchangeRounds]
      exact ((ih _).cons _).trans (exchangeLeast_perm left refs)

variable {refs : List ServiceRef} {ref : ServiceRef}

theorem mem_exchangeSort :
    ref ∈ exchangeSort refs ↔ ref ∈ refs := (exchangeRounds_perm _ refs).mem_iff

theorem mem_recoveryRefs {targets : List RecoveryTarget} :
    ref ∈ recoveryRefs refs targets ↔ ref ∈ refs ∨ ref ∈ targets.map RecoveryTarget.created := by
  induction targets generalizing refs with
  | nil => simp [recoveryRefs]
  | cons target targets ih =>
    rw [recoveryRefs, ih, List.map_cons, List.mem_cons, ← or_assoc]
    refine or_congr_left ?_
    split
    next hmem =>
      constructor
      · exact .inl
      · rintro (h | rfl)
        · exact h
        · exact hmem
    · rw [List.mem_append, List.mem_singleton]

theorem mem_destutter_ne {α : Type*} [DecidableEq α] {l : List α} {x : α} :
    x ∈ l.destutter (· ≠ ·) ↔ x ∈ l := by
  have hcons : ∀ (l : List α) (a : α), x ∈ l.destutter' (· ≠ ·) a ↔ x = a ∨ x ∈ l := by
    intro l
    induction l with
    | nil => simp
    | cons b l ih =>
      intro a
      rw [List.destutter'_cons]
      split
      · rw [List.mem_cons, ih, List.mem_cons]
      next hab =>
        rw [ih, List.mem_cons, not_not.1 hab, or_self_left]
  cases l with
  | nil => simp
  | cons a l => rw [List.destutter_cons', hcons, List.mem_cons]

theorem mem_canonicalRefs :
    ref ∈ canonicalRefs refs ↔ ref ∈ refs := by
  rw [canonicalRefs, mem_destutter_ne, mem_sortByRef]

/-- **The candidate of a recovery** has the expected references and the created ones. -/
theorem mem_recoveryPublishedSet {operation : RecoveryOperation} :
    ref ∈ (recoveryPublishedSet operation).refs.elems ↔
      ref ∈ operation.expected.refs.elems ∨
        ref ∈ operation.targets.elems.map RecoveryTarget.created := by
  simp only [recoveryPublishedSet, Slice.elems_copy, Slice.elems_of]
  rw [mem_exchangeSort, mem_recoveryRefs]

/-- The call of a publish carries the references in order, each once, and the tags. -/
theorem publish_call {name : Text} {expected : Version} {tags : Tags}
    {es : List Event} {out : Except Err ServiceSet}
    (h : (publish name expected refs tags).Returns es out) :
    ∀ e ∈ es, e.1 = .publishServiceSet name expected (canonicalRefs refs) (cloneTags tags) := by
  unfold publish at h
  split at h
  · rw [(Calls.returns_pure.1 h).1]
    simp
  unfold normalizeServiceSet at h
  split_ifs at h
  · rw [(Calls.returns_pure.1 h).1]
    simp
  · rw [(Calls.returns_pure.1 h).1]
    simp
  · rw [(Calls.returns_pure.1 h).1]
    simp
  · obtain ⟨answer, es', rfl, hend⟩ := Calls.returns_ask_bind.1 h
    rw [(Calls.returns_pure.1 hend).1]
    simp

/-! ### What stays of a recovery -/

/-- What `normalizeBeginRecoveryRequest` makes of a request it accepts. -/
structure BeginRecoveryRequest.Normal (request normalized : BeginRecoveryRequest) : Prop where
  requestID_eq : normalized.requestID = request.requestID
  group_eq : normalized.group = request.group
  expected_eq : normalized.expected = request.expected
  targets_eq : normalized.targets =
    .of (sortByRef RecoveryTargetRequest.removed request.targets.elems)
  requestID : normalized.requestID.trimmed = true
  principal : normalized.principal.trimmed = true
  group : normalized.group.trimmed = true
  expected : validDrainServiceSet normalized.expected = true
  name : normalized.expected.name = normalized.group
  nonempty : normalized.targets.elems ≠ []
  valid : ∀ target ∈ normalized.targets.elems, validRecoveryTargetRequest target = true
  ascends : ascending RecoveryTargetRequest.removed normalized.targets.elems = true

theorem normalizeBeginRecoveryRequest_ok {request normalized : BeginRecoveryRequest}
    (h : normalizeBeginRecoveryRequest request = .ok normalized) : request.Normal normalized := by
  simp only [normalizeBeginRecoveryRequest] at h
  split_ifs at h with hid hprincipal hset hempty hvalid hdistinct
  cases h
  simp only [Bool.not_eq_true', Bool.not_eq_false, Bool.or_eq_true, decide_eq_true_eq, not_or,
    not_not] at hid hprincipal hset hvalid hdistinct
  refine ⟨rfl, rfl, cloneDrainServiceSet_eq _, rfl, hid, hprincipal, hset.1.1, ?_, ?_, ?_, ?_, ?_⟩
  · rw [cloneDrainServiceSet_eq]
    exact hset.1.2
  · rw [cloneDrainServiceSet_eq]
    exact hset.2
  · intro hnil
    have hperm := perm_sortByRef RecoveryTargetRequest.removed request.targets.elems
    rw [show sortByRef _ _ = [] from hnil] at hperm
    exact hempty (by rw [Slice.len, hperm.nil_eq.symm]; rfl)
  · intro target htarget
    exact List.all_eq_true.1 hvalid target ((mem_sortByRef _).1 htarget)
  · exact ascending_sortByRef _ hdistinct

/-- What stays of a recovery from its begin on. -/
structure RecoveryHead where
  request : BeginRecoveryRequest
  requestID : Text
  principal : Text
  group : Text
  expected : ServiceSet
  targets : List RecoveryTargetRequest
  createdAt : Time

/-- What the target of a recovery was begun with. -/
def RecoveryTarget.request (t : RecoveryTarget) : RecoveryTargetRequest :=
  ⟨t.removed, t.agent, t.blueprint⟩

/-- The head of a record. -/
def RecoveryRecord.head (r : RecoveryRecord) : RecoveryHead where
  request := r.request
  requestID := r.operation.requestID
  principal := r.operation.principal
  group := r.operation.group
  expected := r.operation.expected
  targets := r.operation.targets.elems.map RecoveryTarget.request
  createdAt := r.operation.createdAt

section Head

variable {clock : Clock} {r r' : RecoveryRecord} {es : List Event}

@[simp] theorem RecoveryRecord.head_touch (r : RecoveryRecord) : (r.touch clock).head = r.head := by
  obtain ⟨u, -, heq⟩ := r.touch_eq clock
  rw [heq]
  rfl

@[simp] theorem RecoveryRecord.head_setPhase (r : RecoveryRecord) (phase : RecoveryPhase) :
    (r.setPhase clock phase).head = r.head := by
  obtain ⟨u, -, heq⟩ := r.setPhase_eq clock phase
  rw [heq]
  rfl

/-- The record with other targets. -/
def RecoveryRecord.withTargets (r : RecoveryRecord) (targets : List RecoveryTarget) :
    RecoveryRecord :=
  { r with operation := { r.operation with targets := r.operation.targets.refill targets } }

theorem RecoveryRecord.head_withTargets {targets : List RecoveryTarget}
    (h : targets.map RecoveryTarget.request =
      r.operation.targets.elems.map RecoveryTarget.request) :
    (r.withTargets targets).head = r.head :=
  congrArg (fun targets => { r.head with targets := targets }) h

theorem head_completeRecoveryPublish (r : RecoveryRecord) (published : ServiceSet) :
    (completeRecoveryPublish clock r published).head = r.head := by
  rw [completeRecoveryPublish, RecoveryRecord.head_setPhase]
  refine RecoveryRecord.head_withTargets ?_
  rw [List.map_map]
  rfl

theorem head_concludeRecovery (r : RecoveryRecord) : (concludeRecovery clock r).head = r.head := by
  simp only [concludeRecovery]
  split_ifs
  · exact r.head_setPhase _
  · exact r.head_setPhase _
  · exact r.head_touch

theorem head_resolveRecoveryPublish (r : RecoveryRecord) (out : Except Err ServiceSet) :
    (resolveRecoveryPublish clock r out).head = r.head := by
  cases out with
  | error err => exact r.head_touch
  | ok set =>
    simp only [resolveRecoveryPublish]
    split_ifs
    · exact head_completeRecoveryPublish r set
    · exact r.head_setPhase _
    · rfl

theorem RecoverStep.request_eq {requestID : Text} {t t' : RecoveryTarget}
    (h : RecoverStep requestID es t t') : t'.request = t.request := by
  rcases h with rfl | ⟨e, -, receipt, -, rfl⟩
  · rfl
  · rfl

theorem RecoveryTurn.head_eq (h : RecoveryTurn clock r es r') : r'.head = r.head := by
  cases h with
  | stay => rfl
  | looked => exact head_resolveRecoveryPublish r _
  | unread => exact r.head_touch
  | changed => exact r.head_setPhase _
  | went _ _ _ hrecover =>
    rw [head_concludeRecovery, RecoveryRecord.setTargets, RecoveryRecord.head_touch]
    refine RecoveryRecord.head_withTargets ?_
    exact map_eq_of_forall₂ (recoverTargets_spec _ _ _ hrecover).1 fun _ _ h => h.request_eq

theorem RecoveryRecord.head_afterPublish (r : RecoveryRecord) (out : Except Err ServiceSet) :
    (r.afterPublish clock out).head = r.head := by
  cases out with
  | error err => exact r.head_setPhase _
  | ok published => exact (head_completeRecoveryPublish _ published).trans (r.head_setPhase _)

theorem RecoveryRecord.head_abandon (r : RecoveryRecord) : (r.abandon clock).head = r.head := by
  rw [abandon, RecoveryRecord.head_setPhase]
  refine RecoveryRecord.head_withTargets ?_
  rw [List.map_map]
  rfl

/-! ### Created services -/

/-- The new services of a recovery, and the zero reference for those to come. -/
def RecoveryRecord.created (r : RecoveryRecord) : List ServiceRef :=
  r.operation.targets.elems.map RecoveryTarget.created

@[simp] theorem RecoveryRecord.created_touch (r : RecoveryRecord) :
    (r.touch clock).created = r.created := by
  obtain ⟨u, -, heq⟩ := r.touch_eq clock
  rw [heq]
  rfl

@[simp] theorem RecoveryRecord.created_setPhase (r : RecoveryRecord) (phase : RecoveryPhase) :
    (r.setPhase clock phase).created = r.created := by
  obtain ⟨u, -, heq⟩ := r.setPhase_eq clock phase
  rw [heq]
  rfl

theorem created_completeRecoveryPublish (r : RecoveryRecord) (published : ServiceSet) :
    (completeRecoveryPublish clock r published).created = r.created := by
  rw [completeRecoveryPublish, RecoveryRecord.created_setPhase]
  exact List.map_map

theorem created_concludeRecovery (r : RecoveryRecord) :
    (concludeRecovery clock r).created = r.created := by
  simp only [concludeRecovery]
  split_ifs
  · exact r.created_setPhase _
  · exact r.created_setPhase _
  · exact r.created_touch

theorem created_resolveRecoveryPublish (r : RecoveryRecord) (out : Except Err ServiceSet) :
    (resolveRecoveryPublish clock r out).created = r.created := by
  cases out with
  | error err => exact r.created_touch
  | ok set =>
    simp only [resolveRecoveryPublish]
    split_ifs
    · exact created_completeRecoveryPublish r set
    · exact r.created_setPhase _
    · rfl

theorem RecoveryRecord.created_afterPublish (r : RecoveryRecord) (out : Except Err ServiceSet) :
    (r.afterPublish clock out).created = r.created := by
  cases out with
  | error err => exact r.created_setPhase _
  | ok published => exact (created_completeRecoveryPublish _ published).trans (r.created_setPhase _)

theorem RecoveryRecord.created_abandon (r : RecoveryRecord) :
    (r.abandon clock).created = r.created := by
  rw [abandon, RecoveryRecord.created_setPhase]
  exact List.map_map

/-- The service an agent's answer reports as created. -/
def reported : Answer → Option ServiceRef
  | .ok (.recoveryReceipt _ receipt) => some receipt.created
  | _ => none

theorem Event.Receipts.reported_eq {e : Event} {requestID : Text} {t : RecoveryTarget}
    {receipt : RecoveryReceipt} (h : e.Receipts requestID t receipt) :
    reported e.2 = some receipt.created := by
  have hreceipt := h.2
  unfold recoveryReceiptFromResponse at hreceipt
  split at hreceipt
  · cases hreceipt
  · cases hreceipt
  next heq =>
    rw [heq]
    split at hreceipt
    · cases hreceipt
    · cases hreceipt
      rfl
  · cases hreceipt

/-- **A created service comes from a report.** -/
theorem RecoveryTurn.created (h : RecoveryTurn clock r es r') {ref : ServiceRef}
    (href : ref ∈ r'.created) : ref ∈ r.created ∨ ∃ e ∈ es, reported e.2 = some ref := by
  cases h with
  | stay => exact .inl href
  | looked => exact .inl (created_resolveRecoveryPublish r _ ▸ href)
  | unread => exact .inl (r.created_touch ▸ href)
  | changed => exact .inl (r.created_setPhase _ ▸ href)
  | went _ _ _ hrecover =>
    rw [created_concludeRecovery, RecoveryRecord.setTargets, RecoveryRecord.created_touch] at href
    obtain ⟨t', ht', rfl⟩ := List.mem_map.1 href
    obtain ⟨t, ht, rfl | ⟨e, he, receipt, hreceipt, rfl⟩⟩ :=
      exists_of_forall₂ (recoverTargets_spec _ _ _ hrecover).1 ht'
    · exact .inl (List.mem_map_of_mem ht)
    · exact .inr ⟨e, List.mem_cons_of_mem _ he, hreceipt.reported_eq⟩

end Head

section Moves

variable {clock : Clock} {requestID : Text} {r r' : RecoveryRecord} {c : Command} {es : List Event}

theorem RecoveryMove.head_eq (h : RecoveryMove clock requestID r c es r') : r'.head = r.head := by
  cases h with
  | turn _ _ hturn => exact hturn.head_eq
  | unconfirmed => exact r.head_setPhase _
  | confirmed => exact r.head_afterPublish _
  | abandoned => exact r.head_abandon

/-- A created service comes from a report to `ResolveRecovery`. -/
theorem RecoveryMove.created (h : RecoveryMove clock requestID r c es r') {ref : ServiceRef}
    (href : ref ∈ r'.created) : ref ∈ r.created ∨
      (∃ principal, c = .resolveRecovery requestID principal) ∧
      ∃ e ∈ es, reported e.2 = some ref := by
  cases h with
  | turn _ _ hturn => exact (hturn.created href).imp_right fun he => ⟨⟨_, rfl⟩, he⟩
  | unconfirmed => exact .inl (r.created_setPhase _ ▸ href)
  | confirmed => exact .inl (r.created_afterPublish _ ▸ href)
  | abandoned => exact .inl (r.created_abandon ▸ href)

theorem targets_head_new (request : BeginRecoveryRequest) :
    (RecoveryRecord.head ⟨request, newRecoveryOperation clock request⟩).targets =
      request.targets.elems := by
  simp [RecoveryRecord.head, newRecoveryOperation, RecoveryTarget.request, Function.comp_def]

end Moves

/-! ### Nothing that is to be replaced is published -/

/-- None of the answers reports one of the services as created. -/
def Fresh (removed : List ServiceRef) (answers : List Answer) : Prop :=
  ∀ answer ∈ answers, ∀ ref ∈ reported answer, ref ∉ removed

instance (removed : List ServiceRef) (answers : List Answer) : Decidable (Fresh removed answers) :=
  inferInstanceAs (Decidable (∀ answer ∈ answers, ∀ ref ∈ reported answer, ref ∉ removed))

/-- The recovery whose services a command has created. -/
def Command.creating : Command → Option Text
  | .beginRecovery request => some request.requestID
  | .resolveRecovery requestID _ => some requestID
  | _ => none

/-- A recovery that the command begins or moves on is of the group of its stop operation, and no
agent reports a service that is to be replaced as the one it created. -/
def Command.Compensating (t t' : Tables) (answers : List Answer) (c : Command) : Prop :=
  ∀ requestID ∈ c.creating, ∀ r ∈ t'.recoveries.lookup requestID,
    t.recoveries.lookup requestID ≠ some r →
      (∀ stop ∈ t.stops.lookup requestID, r.operation.group = stop.operation.group) ∧
      Fresh (r.head.targets.map RecoveryTargetRequest.removed) answers

/-- Nothing that is to be replaced is expected or created. -/
structure RecoveryRecord.Clean (r : RecoveryRecord) : Prop where
  expected : ∀ target ∈ r.head.targets, target.removed ∉ r.operation.expected.refs.elems
  created : ∀ target ∈ r.head.targets, target.removed ∉ r.created

section Clean

variable {clock : Clock} {t t' : Tables} {c : Command} {es : List Event} {answers : List Answer}
  {requestID : Text} {r r' : RecoveryRecord}

/-- The record after something that keeps its head and creates nothing that is to be replaced. -/
theorem RecoveryRecord.Clean.of_head (h : r.Clean) (hhead : r'.head = r.head)
    (hcreated : ∀ target ∈ r.head.targets, target.removed ∉ r'.created) : r'.Clean := by
  have hexpected : r'.operation.expected = r.operation.expected :=
    congrArg RecoveryHead.expected hhead
  refine ⟨?_, ?_⟩
  · rw [hhead, hexpected]
    exact h.expected
  · rw [hhead]
    exact hcreated

theorem RecoveryRecord.Clean.new {request normalized : BeginRecoveryRequest}
    (hnormal : request.Normal normalized)
    (habsent : ∀ target ∈ normalized.targets.elems,
      target.removed ∉ normalized.expected.refs.elems) :
    RecoveryRecord.Clean ⟨normalized, newRecoveryOperation clock normalized⟩ := by
  refine ⟨?_, ?_⟩
  · rw [targets_head_new]
    intro target htarget
    rw [show RecoveryOperation.expected _ = normalized.expected from cloneDrainServiceSet_eq _]
    exact habsent target htarget
  · rw [targets_head_new]
    intro target htarget hmem
    have hzero : target.removed = .zero := by
      obtain ⟨t, ht, heq⟩ := List.mem_map.1 hmem
      obtain ⟨target', -, rfl⟩ := List.mem_map.1 ht
      exact heq.symm
    have hvalid := hnormal.valid target htarget
    simp [validRecoveryTargetRequest, validServiceRef, hzero, ServiceRef.zero] at hvalid

/-- **Every command keeps the recoveries clean.** -/
theorem Change.clean (hc : Change clock t c es t') (hanswers : ∀ e ∈ es, e.2 ∈ answers)
    (hcomp : c.Compensating t t' answers)
    (h : ∀ requestID r, t.recoveries.lookup requestID = some r → r.Clean) :
    ∀ requestID r, t'.recoveries.lookup requestID = some r → r.Clean := by
  cases hc with
  | @beginRecovery request normalized e es set stop r hnormal hnew _ _ _ _ habsent _ _ hturn =>
    have hnormal := normalizeBeginRecoveryRequest_ok hnormal
    have hbegun : RecoveryRecord.Clean ⟨normalized, newRecoveryOperation clock normalized⟩ :=
      .new hnormal habsent
    have hfresh := (hcomp _ (congrArg some hnormal.requestID_eq.symm) r (AList.lookup_insert _)
      (by simp [hnew])).2
    refine Table.forall_insert h (hbegun.of_head hturn.head_eq fun target htarget hmem => ?_)
    rcases hturn.created hmem with hold | ⟨e', he', hreported⟩
    · exact hbegun.created target htarget hold
    · rw [hturn.head_eq] at hfresh
      exact hfresh e'.2 (hanswers e' (List.mem_cons_of_mem _ he')) _ hreported
        (List.mem_map_of_mem htarget)
  | @moveRecovery requestID c es r r' hold hmove =>
    have hclean := h requestID r hold
    refine Table.forall_insert h (hclean.of_head hmove.head_eq fun target htarget hmem => ?_)
    rcases hmove.created hmem with hcreated | ⟨⟨principal, rfl⟩, e, he, hreported⟩
    · exact hclean.created target htarget hcreated
    by_cases hsame : r = r'
    · exact hclean.created target htarget (hsame ▸ hmem)
    · have hfresh := (hcomp _ rfl r' (AList.lookup_insert _) (by simpa [hold] using hsame)).2
      rw [hmove.head_eq] at hfresh
      exact hfresh e.2 (hanswers e he) _ hreported (List.mem_map_of_mem htarget)
  | keep => exact h
  | start => exact h
  | resolve => exact h
  | beginStop => exact h
  | resolveStop => exact h

end Clean

/-! ### The group of a recovery -/

/-- What is asked of a step: what it makes of a recovery is `Command.Compensating`. A request that
the coordinator refuses may name any group and any services. -/
def Compensates (cfg : Config) (w : World) (a : Action) : Prop :=
  ∀ w' ∈ step cfg w a, a.command.Compensating w.state.tables w'.state.tables a.answers

instance (cfg : Config) (w : World) (a : Action) : Decidable (Compensates cfg w a) :=
  inferInstanceAs (Decidable (∀ w' ∈ step cfg w a, ∀ requestID ∈ a.command.creating,
    ∀ r ∈ w'.state.recoveries.lookup requestID, w.state.recoveries.lookup requestID ≠ some r →
      (∀ stop ∈ w.state.stops.lookup requestID, r.operation.group = stop.operation.group) ∧
      Fresh (r.head.targets.map RecoveryTargetRequest.removed) a.answers))

/-- The stop operation under the same RequestID is one of the same group. -/
def RecoveryRecord.OfGroup (t : Tables) (requestID : Text) (r : RecoveryRecord) : Prop :=
  ∃ stop, t.stops.lookup requestID = some stop ∧ r.operation.group = stop.operation.group

section Group

variable {clock : Clock} {t t' : Tables} {c : Command} {es : List Event} {requestID : Text}
  {r r' : RecoveryRecord}

theorem Change.stop_stays (hc : Change clock t c es t') {stop : StopRecord}
    (hstop : t.stops.lookup requestID = some stop) :
    ∃ stop', t'.stops.lookup requestID = some stop' ∧
      stop'.operation.group = stop.operation.group := by
  cases hc with
  | @beginStop request normalized e es set d r _ hnew =>
    refine ⟨stop, ?_, rfl⟩
    rw [Table.lookup_insert_ite, if_neg]
    · exact hstop
    · rintro rfl
      rw [hnew] at hstop
      cases hstop
  | @resolveStop id principal es r r' hold _ _ hturn =>
    by_cases hid : requestID = id
    · subst hid
      rw [hold] at hstop
      cases hstop
      exact ⟨r', AList.lookup_insert _, hturn.frame.2.2.1⟩
    · refine ⟨stop, ?_, rfl⟩
      rw [Table.lookup_insert_ite, if_neg hid]
      exact hstop
  | _ => exact ⟨stop, hstop, rfl⟩

theorem RecoveryRecord.OfGroup.change (h : r.OfGroup t requestID) (hc : Change clock t c es t') :
    r.OfGroup t' requestID := by
  obtain ⟨stop, hstop, hgroup⟩ := h
  obtain ⟨stop', hstop', hgroup'⟩ := hc.stop_stays hstop
  exact ⟨stop', hstop', hgroup.trans hgroup'.symm⟩

theorem RecoveryRecord.OfGroup.of_head (h : r.OfGroup t requestID) (hhead : r'.head = r.head) :
    r'.OfGroup t requestID := by
  obtain ⟨stop, hstop, hgroup⟩ := h
  exact ⟨stop, hstop, (congrArg RecoveryHead.group hhead).trans hgroup⟩

/-- **Every recovery stays one of the group that was drained**, if it is begun as one. -/
theorem Change.ofGroup {answers : List Answer} (hc : Change clock t c es t')
    (hcomp : c.Compensating t t' answers)
    (h : ∀ requestID r, t.recoveries.lookup requestID = some r → r.OfGroup t requestID) :
    ∀ requestID r, t'.recoveries.lookup requestID = some r → r.OfGroup t' requestID := by
  have hkeep : ∀ requestID r, t.recoveries.lookup requestID = some r → r.OfGroup t' requestID :=
    fun requestID r hr => (h requestID r hr).change hc
  cases hc with
  | @beginRecovery request normalized e es set stop r hnormal hnew hstop =>
    have hnormal := normalizeBeginRecoveryRequest_ok hnormal
    have hgroup := (hcomp _ (congrArg some hnormal.requestID_eq.symm) r (AList.lookup_insert _)
      (by simp [hnew])).1
    exact Table.forall_insert hkeep ⟨stop, hstop, hgroup stop hstop⟩
  | moveRecovery hold hmove =>
    exact Table.forall_insert hkeep ((hkeep _ _ hold).of_head hmove.head_eq)
  | keep | start | resolve | beginStop | resolveStop => exact hkeep

end Group

theorem reachableUnder_compensates {cfg : Config} {w : World}
    (h : (system cfg).ReachableUnder (Compensates cfg) w) :
    ∀ requestID r, w.state.recoveries.lookup requestID = some r →
      r.Clean ∧ r.OfGroup w.state.tables requestID := by
  have hinv := h.invariant (I := fun w =>
    (∀ requestID r, w.state.recoveries.lookup requestID = some r → r.Clean) ∧
    ∀ requestID r, w.state.recoveries.lookup requestID = some r →
      r.OfGroup w.state.tables requestID) ?_ ?_
  · exact fun requestID r hr => ⟨hinv.1 requestID r hr, hinv.2 requestID r hr⟩
  · rintro _ rfl
    exact ⟨by simp, by simp⟩
  · intro w a w' hw hok hstep
    obtain ⟨es, reply, hout, -, -, hchange, -⟩ := step_change hstep
    have hcomp := hok w' hstep
    exact ⟨hchange.clean (answers_of_outcome hout) hcomp hw.1, hchange.ofGroup hcomp hw.2⟩

/-- The recovery a command is about. -/
def Command.recovery : Command → Option Text
  | .beginRecovery request => some request.requestID
  | .confirmRecovery requestID _ | .resolveRecovery requestID _ | .getRecovery requestID _
  | .abandonRecovery requestID _ => some requestID
  | _ => none

/-- The call publishes these references for a group, if its version is the expected one. -/
def Event.Publishes (e : Event) (name : Text) (expected : Version)
    (refs : List ServiceRef) : Prop :=
  ∃ tags, e.1 = .publishServiceSet name expected refs tags

/-- **A recovery publishes only the compensation of its stop**, in the runs in which every recovery
is begun with the group of its stop operation and no agent reports as created a service that is to
be replaced. -/
theorem recovery_publishes_compensation (cfg : Config) {w w' : World} {a : Action}
    (hw : (system cfg).ReachableUnder (Compensates cfg) w) (hstep : step cfg w a = some w') :
    ∃ es, w'.calls = w.calls ++ es ∧
      ∀ requestID, a.command.recovery = some requestID →
        ∀ e ∈ es, ∀ name expected refs, e.Publishes name expected refs →
          ∃ recovery stop, w.state.recoveries.lookup requestID = some recovery ∧
            w.state.stops.lookup requestID = some stop ∧ name = stop.operation.group ∧
            expected = recovery.operation.expected.version ∧
            (∀ ref, ref ∈ refs ↔ ref ∈ recovery.operation.expected.refs.elems ∨
              ref ∈ recovery.operation.targets.elems.map RecoveryTarget.created) ∧
            ∀ target ∈ recovery.operation.targets.elems, target.removed ∉ refs := by
  obtain ⟨es, reply, -, hcalls, -, hchange, -⟩ := step_change hstep
  refine ⟨es, hcalls, ?_⟩
  intro requestID hcommand e he name expected refs ⟨tags, hop⟩
  -- only the confirmation publishes
  have hread : ∀ group, e.1 ≠ .getServiceSet group := by simp [hop]
  have hagent : ¬e.ToAgent := by simp [Event.ToAgent, hop]
  have hturn : ∀ r es r', RecoveryTurn a.clock r es r' → e ∉ es := fun r es r' ht hmem =>
    (ht.only e hmem).elim (fun ⟨group, h⟩ => hread group h) hagent
  generalize hc : a.command = c at hchange hcommand
  generalize ht : w.state.tables = t at hchange
  generalize ht' : w'.state.tables = t' at hchange
  cases hchange with
  | keep hes =>
    obtain ⟨group, hget⟩ := hes e he
    exact absurd hget (hread group)
  | beginRecovery _ _ _ _ _ _ _ hfirst _ hadvance =>
    rcases List.mem_cons.1 he with rfl | he
    · exact absurd hfirst.1 (hread _)
    · exact absurd he (hturn _ _ _ hadvance)
  | @moveRecovery id c es r r' hold hmove =>
    cases hmove with
    | turn _ _ hadvance => exact absurd he (hturn _ _ _ hadvance)
    | unconfirmed _ _ hes =>
      rcases hes with rfl | ⟨answer, rfl⟩
      · cases he
      · rw [List.mem_singleton.1 he] at hop
        cases hop
    | confirmed howner hphase hfirst hsame hpublish =>
      cases hcommand
      subst ht
      obtain ⟨hclean, stop, hstop, hgroup⟩ := reachableUnder_compensates hw _ r hold
      rcases List.mem_cons.1 he with rfl | he
      · exact absurd hfirst.1 (hread _)
      have hcall := publish_call hpublish e he
      rw [hop] at hcall
      cases hcall
      have hrefs : ∀ ref, ref ∈ canonicalRefs (recoveryPublishedSet r.operation).refs.elems ↔
          ref ∈ r.operation.expected.refs.elems ∨
            ref ∈ r.operation.targets.elems.map RecoveryTarget.created := fun ref => by
        rw [mem_canonicalRefs, mem_recoveryPublishedSet]
      refine ⟨r, stop, hold, hstop, hgroup, rfl, hrefs, fun target htarget hmem => ?_⟩
      have hhead : target.request ∈ r.head.targets := List.mem_map_of_mem htarget
      rcases (hrefs _).1 hmem with h | h
      · exact hclean.expected _ hhead h
      · exact hclean.created _ hhead h
    | abandoned => cases he
  | start | resolve | beginStop | resolveStop => cases hcommand

namespace Sample

/-- The target is to be stopped, and its agent has stopped it. -/
def stopped : Action :=
  action (.beginStop ⟨"r", "p", .of [⟨target, agent⟩]⟩)
    [found (group 2 []), found (group 2 []), .error (.other 0), found (group 2 []),
      .ok (.stopReceipt none ⟨"r", target, .stopped, .none, 1⟩)]

/-- The service that takes the place of the target. -/
def created : ServiceRef := ⟨"n", 8⟩

/-- The agent has created it. -/
def receipt : Answer :=
  .ok (.recoveryReceipt none ⟨"r", target, "b", created, .created, .none, 1⟩)

/-- A recovery of the target is begun, with a set as the current one of its group. -/
def recover (set : ServiceSet) : Action :=
  action (.beginRecovery ⟨"r", "p", set.name, set,
    .of [⟨target, agent, "b"⟩]⟩) [found set, found set, receipt]

/-- The recovery is confirmed, and published. -/
def confirm (set : ServiceSet) : Action :=
  action (.confirmRecovery "r" "p")
    [found set, found { set with version := ⟨1, set.version.revision + 1⟩, refs := .of [created] }]

/-- Another group. -/
def otherGroup : ServiceSet :=
  { name := "h", version := ⟨1, 5⟩, refs := .of [], tags := some ∅ }

end Sample

theorem recovery_publishes_compensation_sample :
    ∃ w w' e recovery, (system Sample.config).ReachableUnder (Compensates Sample.config) w ∧
      step Sample.config w (Sample.confirm (Sample.group 2 [])) = some w' ∧ e ∈ w'.calls ∧
      e.Publishes "g" ⟨1, 2⟩ [Sample.created] ∧
      w.state.recoveries.lookup (Text.ofString "r") = some recovery ∧
      Sample.target ∈ recovery.operation.targets.elems.map RecoveryTarget.removed ∧
      ∀ target ∈ recovery.operation.targets.elems, target.removed ∉ [Sample.created] := by
  obtain ⟨w, hw, hp⟩ := System.exists_reachableUnder_of_run (system Sample.config)
    (Compensates Sample.config)
    [Sample.drain, Sample.stopped, Sample.recover (Sample.group 2 [])] (s := {})
    (fun w => ((w.state.recoveries.lookup (Text.ofString "r")).any fun r =>
        r.operation.targets.elems.map RecoveryTarget.removed = [Sample.target]) &&
      (step Sample.config w (Sample.confirm (Sample.group 2 []))).any fun w' =>
        (w'.calls.drop w.calls.length).any fun e =>
          e.1 = .publishServiceSet "g" ⟨1, 2⟩ [Sample.created] (some ∅))
    rfl (by decide +kernel)
  rw [Bool.and_eq_true, Option.any_eq_true, Option.any_eq_true] at hp
  obtain ⟨⟨r, hr, htargets⟩, w', hw', hsent⟩ := hp
  obtain ⟨es, hcalls, hpublishes⟩ := recovery_publishes_compensation Sample.config hw hw'
  rw [hcalls, List.drop_left, List.any_eq_true] at hsent
  obtain ⟨e, he, hop⟩ := hsent
  have hpublish : e.Publishes "g" ⟨1, 2⟩ [Sample.created] :=
    ⟨_, of_decide_eq_true hop⟩
  obtain ⟨recovery, stop, hrecovery, -, -, -, -, habsent⟩ :=
    hpublishes "r" rfl e he _ _ _ hpublish
  rw [hr] at hrecovery
  cases hrecovery
  refine ⟨w, w', e, r, hw, hw', ?_, hpublish, hr, ?_, habsent⟩
  · rw [hcalls]
    exact List.mem_append_right _ he
  · rw [of_decide_eq_true htargets]
    exact List.mem_singleton_self _

/-- A recovery of a stop of the group `g` publishes the group `h`. -/
theorem recovery_of_another_group :
    ∃ w w' e stop, (system Sample.config).Reachable w ∧
      step Sample.config w (Sample.confirm Sample.otherGroup) = some w' ∧
      (Sample.confirm Sample.otherGroup).command.recovery = some "r" ∧
      e ∈ w'.calls.drop w.calls.length ∧
      e.Publishes "h" ⟨1, 5⟩ [Sample.created] ∧
      w.state.stops.lookup (Text.ofString "r") = some stop ∧
      stop.operation.group = "g" := by
  obtain ⟨w, hw, hp⟩ := System.exists_reachableUnder_of_run (system Sample.config)
    (fun _ _ => True) [Sample.drain, Sample.stopped, Sample.recover Sample.otherGroup] (s := {})
    (fun w => ((w.state.stops.lookup (Text.ofString "r")).any fun r =>
        r.operation.group = Text.ofString "g") &&
      (step Sample.config w (Sample.confirm Sample.otherGroup)).any fun w' =>
        (w'.calls.drop w.calls.length).any fun e =>
          e.1 = .publishServiceSet "h" ⟨1, 5⟩ [Sample.created] (some ∅))
    rfl (by decide +kernel)
  rw [Bool.and_eq_true, Option.any_eq_true, Option.any_eq_true] at hp
  obtain ⟨⟨stop, hstop, hgroup⟩, w', hw', hsent⟩ := hp
  obtain ⟨e, he, hop⟩ := List.any_eq_true.1 hsent
  exact ⟨w, w', e, stop, hw, hw', rfl, he, ⟨_, of_decide_eq_true hop⟩, hstop,
    of_decide_eq_true hgroup⟩

end GameServiceRuntime.Control
