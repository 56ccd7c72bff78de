import GameServiceRuntime.Control.Changes

/-!
# The loops over targets

Every loop of the coordinator goes through the targets of an operation once, calls somebody for each
and changes that target only. What a loop leaves is therefore a relation between the targets before
and after it, one by one, and the calls of the loop.

## Main results

* `guardTargets_spec`, `countVisitors_spec` — a target is marked guarded after its guard's answer,
  and all are clear only if the list of every one was read without a strong visitor
* `readStopReceipts_spec`, `beginStops_spec` — a target follows its receipts, and a task is sent
  right after a read of the Directory that agrees with what was published
* `recoverTargets_spec` — a recovery target follows its receipts
-/

namespace GameServiceRuntime.Control

section Forall

variable {α β : Type*} {R : α → α → Prop} {xs ys : List α}

theorem map_eq_of_forall₂ (h : List.Forall₂ R xs ys) {f : α → β} (hf : ∀ x y, R x y → f y = f x) :
    ys.map f = xs.map f := by
  induction h with
  | nil => rfl
  | cons hxy _ ih => rw [List.map_cons, List.map_cons, hf _ _ hxy, ih]

theorem exists_of_forall₂ (h : List.Forall₂ R xs ys) {y : α} (hy : y ∈ ys) : ∃ x ∈ xs, R x y := by
  induction h with
  | nil => cases hy
  | cons hxy _ ih =>
    rcases List.mem_cons.1 hy with rfl | hy
    · exact ⟨_, List.mem_cons_self, hxy⟩
    · obtain ⟨x, hx, hr⟩ := ih hy
      exact ⟨x, List.mem_cons_of_mem _ hx, hr⟩

end Forall

/-! ### Who is called -/

/-- The calls of a drain. -/
def Op.OfDrain : Op → Prop
  | .getServiceSet _ | .publishServiceSet .. | .beginGuard _ | .guardStatus _ | .listVisitors _ =>
      True
  | _ => False

/-- The calls of a publish. -/
def Op.OfPublish : Op → Prop
  | .publishServiceSet .. => True
  | _ => False

theorem publish_only (name : Text) (expected : Version) (refs : List ServiceRef) (tags : Tags) :
    (publish name expected refs tags).Only Op.OfPublish := by
  unfold publish
  split
  · exact .pure _
  · split
    · exact .pure _
    · exact .ask_bind trivial fun _ => .pure _

section Only

variable {ok : Op → Prop}

theorem guardTarget_only (hok : ∀ ref, ok (.beginGuard ref) ∧ ok (.guardStatus ref))
    (t : DrainTarget) : (guardTargets.guardTarget t).Only ok := by
  unfold guardTargets.guardTarget
  split
  · exact .pure _
  split
  · exact .pure _
  refine .ask_bind (hok t.ref).1 fun answer => ?_
  split
  · exact .pure _
  refine .ask_bind (hok t.ref).2 fun answer' => ?_
  split
  · exact .pure _
  · exact .pure _

theorem guardTargets_only (hok : ∀ ref, ok (.beginGuard ref) ∧ ok (.guardStatus ref))
    (ts : List DrainTarget) : (guardTargets ts).Only ok := by
  induction ts with
  | nil => exact .pure _
  | cons t ts ih => exact (guardTarget_only hok t).bind fun _ => ih.bind fun _ => .pure _

theorem countTarget_only (hok : ∀ ref, ok (.listVisitors ref)) (t : DrainTarget) :
    (countVisitors.countTarget t).Only ok := by
  refine Calls.Only.bind ?_ fun out => ?_
  · unfold listVisitors
    split
    · exact .pure _
    · exact .ask_bind (hok t.ref) fun _ => .pure _
  · cases out
    · exact .pure _
    · exact .pure _

theorem countVisitors_only (hok : ∀ ref, ok (.listVisitors ref)) (ts : List DrainTarget) :
    (countVisitors ts).Only ok := by
  induction ts with
  | nil => exact .pure _
  | cons t ts ih => exact (countTarget_only hok t).bind fun _ => ih.bind fun _ => .pure _

end Only

theorem Op.OfDrain.of_reads {e : Event} {group : Text} {set : ServiceSet} (h : e.Reads group set) :
    e.1.OfDrain := by
  rw [h.1]
  trivial

variable {es : List Event} {clock : Clock}

theorem Turn.only {r r' : DrainRecord} {more : Bool} (h : Turn clock r es r' more) :
    ∀ e ∈ es, e.1.OfDrain := by
  have hpublish : ∀ es out, r.publish.Returns es out → ∀ e ∈ es, e.1.OfDrain := by
    intro es out hreturns e he
    have honly := publish_only _ _ _ _ es out hreturns e he
    cases hop : e.1 <;> simp_all [Op.OfPublish, Op.OfDrain]
  cases h with
  | stay hes =>
    rcases hes with rfl | ⟨answer, rfl⟩
    · simp
    · simp [Op.OfDrain]
  | mismatched _ hread | confirmed _ hread | superseded _ hread =>
    simpa using Op.OfDrain.of_reads hread
  | unpublished _ hread _ h | published _ hread _ h =>
    exact List.forall_mem_cons.2 ⟨.of_reads hread, hpublish _ _ h⟩
  | unguarded _ hread _ h | guarded _ hread _ h =>
    exact List.forall_mem_cons.2 ⟨.of_reads hread,
      guardTargets_only (fun _ => ⟨trivial, trivial⟩) _ _ _ h⟩
  | visited _ hread _ h | clear _ hread _ h =>
    exact List.forall_mem_cons.2 ⟨.of_reads hread,
      countVisitors_only (fun _ => trivial) _ _ _ h⟩

theorem Advances.only {r r' : DrainRecord} (h : Advances clock r es r') :
    ∀ e ∈ es, e.1.OfDrain := by
  induction h with
  | last h => exact (advanceOnce_turn h).only
  | next h _ ih => exact List.forall_mem_append.2 ⟨(advanceOnce_turn h).only, ih⟩

/-! ### Guards and visitors -/

/-- What the loop of `guard` does to a target. -/
def GuardStep (es : List Event) (t t' : DrainTarget) : Prop :=
  t' = t ∨ t' = { t with guarded := true } ∧ ∃ e ∈ es, e.Guards t.ref

variable {es' : List Event} {t t' : DrainTarget}

theorem GuardStep.mono (hes : ∀ e ∈ es, e ∈ es')
    (h : GuardStep es t t') : GuardStep es' t t' :=
  h.imp_right fun ⟨ht, e, he, hguards⟩ => ⟨ht, e, hes e he, hguards⟩

theorem guardTarget_spec (t : DrainTarget) : (guardTargets.guardTarget t).Post [] fun es out =>
    GuardStep es t out.1 ∧ (out.2 = true → out.1.guarded = true) := by
  refine .ite (fun hguarded => .pure ⟨.inl rfl, fun _ => hguarded⟩) fun _ => ?_
  refine .ite (fun _ => .pure ⟨.inl rfl, nofun⟩) fun _ => .ask_bind fun answer => ?_
  refine .ite (fun hdraining => .pure ⟨.inr ⟨rfl, _, List.mem_cons_self, ?_⟩, fun _ => rfl⟩)
    fun _ => .ask_bind fun answer' => ?_
  · exact ⟨.inl rfl, hdraining⟩
  refine .ite (fun hdraining => .pure ⟨.inr ⟨rfl, _, List.mem_cons_of_mem _ List.mem_cons_self, ?_⟩,
    fun _ => rfl⟩) fun _ => .pure ⟨.inl rfl, nofun⟩
  exact ⟨.inr rfl, hdraining⟩

/-- **A loop over targets**: what is known of one target after its turn is known of all. -/
theorem forall₂_of_loop (Step : List Event → DrainTarget → DrainTarget → Prop)
    (Good : List Event → DrainTarget → Prop) {one : DrainTarget → Run (DrainTarget × Bool)}
    {loop : List DrainTarget → Run (List DrainTarget × Bool)} (hnil : loop [] = pure ([], true))
    (hcons : ∀ t ts, loop (t :: ts) = do
      let (t, good) ← one t
      let (ts, all) ← loop ts
      pure (t :: ts, good && all))
    (hstep : ∀ {es es' t t'}, (∀ e ∈ es, e ∈ es') → Step es t t' → Step es' t t')
    (hgood : ∀ {es es' t}, (∀ e ∈ es, e ∈ es') → Good es t → Good es' t)
    (hone : ∀ t, (one t).Post [] fun es out => Step es t out.1 ∧ (out.2 = true → Good es out.1))
    (ts : List DrainTarget) : (loop ts).Post [] fun es out =>
      List.Forall₂ (Step es) ts out.1 ∧ (out.2 = true → ∀ t ∈ out.1, Good es t) := by
  induction ts with
  | nil =>
    rw [hnil]
    exact .pure ⟨.nil, by simp⟩
  | cons t ts ih =>
    rw [hcons]
    refine .bind fun es₁ out₁ h₁ => .bind fun es₂ out₂ h₂ => .pure ⟨.cons ?_ ?_, fun hall => ?_⟩
    · exact hstep (fun e he => List.mem_append_left _ he) (hone t es₁ out₁ h₁).1
    · exact (ih es₂ out₂ h₂).1.imp fun _ _ => hstep fun e he => List.mem_append_right _ he
    rw [Bool.and_eq_true] at hall
    refine List.forall_mem_cons.2 ⟨?_, fun u hu => ?_⟩
    · exact hgood (fun e he => List.mem_append_left _ he) ((hone t es₁ out₁ h₁).2 hall.1)
    · exact hgood (fun e he => List.mem_append_right _ he) ((ih es₂ out₂ h₂).2 hall.2 u hu)

/-- **The loop of `guard`.** -/
theorem guardTargets_spec {ts ts' : List DrainTarget} {all : Bool}
    (h : (guardTargets ts).Returns es (ts', all)) :
    List.Forall₂ (GuardStep es) ts ts' ∧ (all = true → ∀ t ∈ ts', t.guarded = true) :=
  forall₂_of_loop GuardStep (fun _ t => t.guarded = true) rfl (fun _ _ => rfl)
    GuardStep.mono (fun _ h => h) guardTarget_spec ts es (ts', all) h

/-- The strong visitors of a list. -/
def strongVisitors (visitors : List VisitorRef) : ℕ := visitors.countP fun visitor => !visitor.weak

/-- What the loop of `waitForVisitors` does to a target. -/
def CountStep (es : List Event) (t t' : DrainTarget) : Prop :=
  t' = t ∨ ∃ e ∈ es, ∃ visitors, e.Lists t.ref visitors ∧
    t' = { t with strongVisitorCount := strongVisitors visitors }

theorem CountStep.mono (hes : ∀ e ∈ es, e ∈ es')
    (h : CountStep es t t') : CountStep es' t t' :=
  h.imp_right fun ⟨e, he, visitors, hlists⟩ => ⟨e, hes e he, visitors, hlists⟩

/-- The visitors of the target were read, and none was strong. -/
def Cleared (es : List Event) (ref : ServiceRef) : Prop :=
  ∃ e ∈ es, ∃ visitors, e.Lists ref visitors ∧ ∀ visitor ∈ visitors, visitor.weak = true

theorem Cleared.mono {ref : ServiceRef} (hes : ∀ e ∈ es, e ∈ es')
    (h : Cleared es ref) : Cleared es' ref := by
  obtain ⟨e, he, visitors, hlists⟩ := h
  exact ⟨e, hes e he, visitors, hlists⟩

theorem countTarget_spec (t : DrainTarget) : (countVisitors.countTarget t).Post [] fun es out =>
    CountStep es t out.1 ∧ (out.2 = true → Cleared es out.1.ref) := by
  refine .bind
    (.ite (fun _ => .pure (.pure ⟨.inl rfl, nofun⟩)) fun _ => .ask_bind fun answer => .pure ?_)
  cases hvisitors : visitorsFromResponse answer with
  | error err => exact .pure ⟨.inl rfl, nofun⟩
  | ok visitors =>
    have hlists : Event.Lists (.listVisitors t.ref, answer) t.ref visitors := ⟨rfl, hvisitors⟩
    refine .pure ⟨.inr ⟨_, List.mem_cons_self, visitors, hlists, rfl⟩, fun hclear => ?_⟩
    refine ⟨_, List.mem_cons_self, visitors, hlists, fun visitor hmem => ?_⟩
    have hnone := List.countP_eq_zero.1 (of_decide_eq_true hclear) visitor hmem
    simpa using hnone

/-- **The loop of `waitForVisitors`.** -/
theorem countVisitors_spec {ts ts' : List DrainTarget} {all : Bool}
    (h : (countVisitors ts).Returns es (ts', all)) :
    List.Forall₂ (CountStep es) ts ts' ∧ (all = true → ∀ t ∈ ts', Cleared es t.ref) :=
  forall₂_of_loop CountStep (fun es t => Cleared es t.ref) rfl (fun _ _ => rfl)
    CountStep.mono Cleared.mono countTarget_spec ts es (ts', all) h

/-! ### Stop tasks -/

/-- What a receipt does to a stop target. -/
def ReceiptStep (t t' : StopTarget) : Prop :=
  t' = t ∨ ∃ receipt, validNodeStopReceipt receipt = true ∧
    t' = { t with state := receipt.state, failure := receipt.failure }

theorem ReceiptStep.target_eq {t t' : StopTarget} (h : ReceiptStep t t') :
    t'.target = t.target := by
  rcases h with rfl | ⟨receipt, -, rfl⟩
  · rfl
  · rfl

theorem applyNodeStopReceipt_step (t : StopTarget) (answer : Answer) (requestID : Text)
    (target : ServiceRef) : ReceiptStep t
      (applyNodeStopReceipt t (nodeStopReceiptFromResponse answer requestID target)).1 := by
  unfold nodeStopReceiptFromResponse
  split
  · exact .inl rfl
  · exact .inl rfl
  · split
    · exact .inl rfl
    next hvalid =>
      refine .inr ⟨_, ?_, rfl⟩
      simp only [Bool.or_eq_true, not_or, Bool.not_eq_true', Bool.not_eq_false] at hvalid
      exact hvalid.1.1
  · exact .inl rfl

/-- The calls in which a task is sent to an agent. -/
def Event.Sends (e : Event) (task : NodeStopTask) : Prop := e.1 = .beginNodeStop task

/-- Every task was sent right after a read of the Directory that agrees with what was published. -/
def Confirmed (es : List Event) : Prop :=
  ∀ before e after task, es = before ++ e :: after → e.Sends task →
    ∃ before' read set, before = before' ++ [read] ∧ read.Reads task.published.name set ∧
      sameDrainServiceSet set task.published = true

theorem Confirmed.of_silent (h : ∀ e ∈ es, ∀ task, ¬e.Sends task) :
    Confirmed es := by
  rintro before e after task rfl hsends
  exact absurd hsends (h e (by simp) task)

theorem Confirmed.append {es₁ es₂ : List Event} (h₁ : Confirmed es₁) (h₂ : Confirmed es₂) :
    Confirmed (es₁ ++ es₂) := by
  intro before e after task heq hsends
  rcases List.append_eq_append_iff.1 heq with ⟨mid, rfl, hmid⟩ | ⟨mid, rfl, hmid⟩
  · obtain ⟨before', read, set, rfl, hread⟩ := h₂ mid e after task hmid hsends
    exact ⟨es₁ ++ before', read, set, (List.append_assoc _ _ _).symm, hread⟩
  · cases mid with
    | nil =>
      obtain ⟨before', read, set, hnil, -⟩ := h₂ [] e after task hmid.symm hsends
      simp at hnil
    | cons e' mid =>
      obtain ⟨rfl, -⟩ := List.cons.inj hmid
      exact h₁ before e mid task rfl hsends

/-- A read that agrees, and the task after it. -/
theorem Confirmed.pair {read e : Event} {task : NodeStopTask} {set : ServiceSet}
    (hsends : e.Sends task) (hread : read.Reads task.published.name set)
    (hsame : sameDrainServiceSet set task.published = true) : Confirmed [read, e] := by
  intro before e' after task' heq hsends'
  match before, heq with
  | [], heq =>
    obtain ⟨rfl, -⟩ := List.cons.inj heq
    rw [Event.Sends, hread.1] at hsends'
    cases hsends'
  | [read'], heq =>
    obtain ⟨rfl, rfl, -⟩ : read = read' ∧ e = e' ∧ [] = after := by simpa using heq
    rw [Event.Sends, hsends] at hsends'
    cases hsends'
    exact ⟨[], read, set, rfl, hread, hsame⟩
  | a :: b :: before, heq => simp at heq

theorem not_sends_of_glance {group : Text} (h : Glance group es) :
    ∀ e ∈ es, ∀ task, ¬e.Sends task := by
  rcases h with rfl | ⟨answer, rfl⟩
  · simp
  · simp [Event.Sends]

variable {requestID : Text}

/-- **The first loop of `advanceStop`.** -/
theorem readStopReceipts_spec (ts : List StopTarget) :
    (readStopReceipts requestID ts).Post [] fun (es : List Event) out =>
      List.Forall₂ ReceiptStep ts out.1 ∧ ∀ e ∈ es, ∀ task, ¬e.Sends task := by
  induction ts with
  | nil => exact .pure ⟨.nil, by simp⟩
  | cons t ts ih =>
    refine .ask_bind fun answer => .bind fun es out htail => .pure ?_
    obtain ⟨hsteps, hsilent⟩ := ih es out htail
    refine ⟨.cons (applyNodeStopReceipt_step t answer requestID t.target) hsteps, ?_⟩
    refine List.forall_mem_cons.2 ⟨?_, hsilent⟩
    simp [Event.Sends]

/-- **The second loop of `advanceStop`.** -/
theorem beginStops_spec {operation : StopOperation} (ts : List StopTarget) :
    (beginStops operation ts).Post [] fun (es : List Event) b =>
      List.Forall₂ ReceiptStep ts b.targets ∧ Confirmed es ∧
        (∀ e ∈ es, ∀ task, e.Sends task → ∃ t ∈ ts, task = stopTask operation t) ∧
        (b.phase = none ∨ b.phase = some .waiting ∨ b.phase = some .superseded) := by
  induction ts with
  | nil => exact .pure ⟨.nil, .of_silent (by simp), by simp, .inl rfl⟩
  | cons t ts ih =>
    have hsame : List.Forall₂ ReceiptStep (t :: ts) (t :: ts) :=
      List.forall₂_same.2 fun x _ => .inl rfl
    refine .ite (fun _ => .bind fun es b htail => .pure ?_) fun _ => ?_
    · obtain ⟨hsteps, hconfirmed, htasks, hphase⟩ := ih es b htail
      refine ⟨.cons (.inl rfl) hsteps, hconfirmed, fun e he task hs => ?_, hphase⟩
      obtain ⟨u, hu, htask⟩ := htasks e he task hs
      exact ⟨u, List.mem_cons_of_mem _ hu, htask⟩
    refine post_matchesStopDirectory (fun es err hes => .pure ?_) fun read set hread => ?_
    · have hsilent := not_sends_of_glance hes
      exact ⟨hsame, .of_silent hsilent, fun e he task hs => absurd hs (hsilent e he task),
        .inr (.inl rfl)⟩
    have hsilent := not_sends_of_glance hread.glance
    cases hagrees : sameDrainServiceSet set operation.published with
    | false =>
      exact .pure ⟨hsame, .of_silent hsilent, fun e he task hs => absurd hs (hsilent e he task),
        .inr (.inr rfl)⟩
    | true =>
      refine .ask_bind fun answer => .bind fun es b htail => .pure ?_
      obtain ⟨hsteps, hconfirmed, htasks, hphase⟩ := ih es b htail
      refine ⟨.cons (applyNodeStopReceipt_step t answer operation.requestID t.target) hsteps,
        .append ?_ hconfirmed, fun e he task hs => ?_, hphase⟩
      · have htask : (stopTask operation t).published = operation.published := by
          simp [stopTask]
        rw [← htask] at hread hagrees
        exact .pair rfl hread hagrees
      · rcases List.mem_cons.1 he with rfl | he
        · exact absurd hs (hsilent e List.mem_cons_self task)
        rcases List.mem_cons.1 he with rfl | he
        · cases hs
          exact ⟨t, List.mem_cons_self, rfl⟩
        · obtain ⟨u, hu, htask⟩ := htasks e he task hs
          exact ⟨u, List.mem_cons_of_mem _ hu, htask⟩

/-! ### Recovery targets -/

/-- A receipt of the agent of a recovery target, as the coordinator accepted it. -/
def Event.Receipts (e : Event) (requestID : Text) (t : RecoveryTarget) (receipt : RecoveryReceipt) :
    Prop :=
  (e.1 = .beginRecoveryCreate (recoveryTask requestID t) ∨
    e.1 = .getRecoveryReceipt t.agent requestID t.removed) ∧
  recoveryReceiptFromResponse e.2 requestID t = .ok receipt

/-- What the loop of `advanceRecovery` does to a target. -/
def RecoverStep (requestID : Text) (es : List Event) (t t' : RecoveryTarget) : Prop :=
  t' = t ∨ ∃ e ∈ es, ∃ receipt, e.Receipts requestID t receipt ∧
    t' = { t with created := receipt.created, state := receipt.state, failure := receipt.failure }

theorem RecoverStep.mono (hes : ∀ e ∈ es, e ∈ es')
    {t t' : RecoveryTarget} (h : RecoverStep requestID es t t') : RecoverStep requestID es' t t' :=
  h.imp_right fun ⟨e, he, receipt, hreceipt⟩ => ⟨e, hes e he, receipt, hreceipt⟩

theorem applyNodeRecoveryReceipt_step {t : RecoveryTarget} {e : Event}
    (he : e ∈ es) (hcall : e.1 = .beginRecoveryCreate (recoveryTask requestID t) ∨
      e.1 = .getRecoveryReceipt t.agent requestID t.removed) :
    RecoverStep requestID es t
      (applyNodeRecoveryReceipt t (recoveryReceiptFromResponse e.2 requestID t)) := by
  cases hreceipt : recoveryReceiptFromResponse e.2 requestID t with
  | error err => exact .inl rfl
  | ok receipt => exact .inr ⟨e, he, receipt, ⟨hcall, hreceipt⟩, rfl⟩

/-- The calls of the loop go to agents. -/
def Event.ToAgent (e : Event) : Prop :=
  (∃ task, e.1 = .beginRecoveryCreate task) ∨
    ∃ agent requestID removed, e.1 = .getRecoveryReceipt agent requestID removed

/-- **The loop of `advanceRecovery`.** -/
theorem recoverTargets_spec (ts : List RecoveryTarget) :
    (recoverTargets requestID ts).Post [] fun (es : List Event) ts' =>
      List.Forall₂ (RecoverStep requestID es) ts ts' ∧ ∀ e ∈ es, e.ToAgent := by
  induction ts with
  | nil => exact .pure ⟨.nil, by simp⟩
  | cons t ts ih =>
    refine .ite (fun _ => .bind fun es ts' htail => .pure ?_) fun _ =>
      .ask_bind fun answer => .bind fun es ts' htail => .pure ?_
    · exact ⟨.cons (.inl rfl) (ih es ts' htail).1, (ih es ts' htail).2⟩
    obtain ⟨hsteps, hcalls⟩ := ih es ts' htail
    have hmono (e₁ : Event) : List.Forall₂ (RecoverStep requestID (e₁ :: es)) ts ts' :=
      hsteps.imp fun _ _ hs => hs.mono fun e he => List.mem_cons_of_mem _ he
    by_cases hpending : t.state = .pending
    · rw [if_pos hpending]
      exact ⟨.cons (applyNodeRecoveryReceipt_step List.mem_cons_self (.inl rfl)) (hmono _),
        List.forall_mem_cons.2 ⟨.inl ⟨_, rfl⟩, hcalls⟩⟩
    · rw [if_neg hpending]
      exact ⟨.cons (applyNodeRecoveryReceipt_step List.mem_cons_self (.inr rfl)) (hmono _),
        List.forall_mem_cons.2 ⟨.inr ⟨_, _, _, rfl⟩, hcalls⟩⟩

/-- A turn of a recovery looks at the Directory and calls agents. -/
theorem RecoveryTurn.only {r r' : RecoveryRecord} (h : RecoveryTurn clock r es r') :
    ∀ e ∈ es, (∃ group, e.1 = .getServiceSet group) ∨ e.ToAgent := by
  have hglance : ∀ {group : Text} {es : List Event}, Glance group es →
      ∀ e ∈ es, (∃ group, e.1 = .getServiceSet group) ∨ e.ToAgent := by
    rintro group es (rfl | ⟨answer, rfl⟩)
    · simp
    · simp
  cases h with
  | stay => simp
  | looked _ hout => exact hglance (getDirectory_glance hout)
  | unread _ hes => exact hglance hes
  | changed _ hread => simpa using .inl ⟨_, hread.1⟩
  | went _ hread _ hrecover =>
    refine List.forall_mem_cons.2 ⟨.inl ⟨_, hread.1⟩, fun e he => ?_⟩
    exact .inr ((recoverTargets_spec _ _ _ hrecover).2 e he)

end GameServiceRuntime.Control
