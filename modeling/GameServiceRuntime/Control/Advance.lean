import GameServiceRuntime.Control.Lifetimes

/-!
# The loop of a drain

`advance` goes around for as long as a turn says so, and what a turn says depends on the answers of
the Directory, the guards and the visitor registry. A turn that goes on ends in a later phase,
whoever answers, so there are few of them; and every phase makes one kind of call, so that the calls
of the whole loop are counted phase by phase.

The targets of a record change when a publish is confirmed, and not any more after that. The calls
to guards and the lists of visitors are therefore counted against the targets the loop ends with.
-/

namespace GameServiceRuntime.Control

/-! ### Kinds of calls -/

/-- A call to the guard of a target. -/
def Op.isGuard (ref : ServiceRef) : Op → Bool
  | .beginGuard target | .guardStatus target => target = ref
  | _ => false

/-- A list of the visitors of a target. -/
def Op.isList (ref : ServiceRef) : Op → Bool
  | .listVisitors target => target = ref
  | _ => false

/-- The references of the targets. -/
def DrainRecord.refs (r : DrainRecord) : List ServiceRef := r.operation.targets.elems.map (·.ref)

theorem guardTarget_atMost (t : DrainTarget) (ref : ServiceRef) :
    (guardTargets.guardTarget t).AtMost (Op.isGuard ref) (2 * if t.ref == ref then 1 else 0) := by
  have hone : (Op.isGuard ref (.beginGuard t.ref)).toNat = if t.ref == ref then 1 else 0 := by
    by_cases h : t.ref = ref <;> simp [Op.isGuard, h]
  rw [← hone, Nat.two_mul]
  refine .ite (.pure _) (.ite (.pure _) (.ask_bind fun answer => .ite (.pure _) ?_))
  exact .ask_bind (n := 0) fun answer' => .ite (.pure _) (.pure _)

theorem guardTargets_atMost (ts : List DrainTarget) (ref : ServiceRef) :
    (guardTargets ts).AtMost (Op.isGuard ref) (2 * (ts.map (·.ref)).count ref) := by
  induction ts with
  | nil => exact .pure _
  | cons t ts ih =>
    have hall := (guardTarget_atMost t ref).bind fun out => ih.bind fun out' =>
      .pure (n := 0) (out.1 :: out'.1, out.2 && out'.2)
    refine Calls.AtMost.mono hall (le_of_eq ?_)
    rw [List.map_cons, List.count_cons]
    omega

theorem countTarget_atMost (t : DrainTarget) (ref : ServiceRef) :
    (countVisitors.countTarget t).AtMost (Op.isList ref) (if t.ref == ref then 1 else 0) := by
  have hone : (Op.isList ref (.listVisitors t.ref)).toNat = if t.ref == ref then 1 else 0 := by
    by_cases h : t.ref = ref <;> simp [Op.isList, h]
  have hlist : (listVisitors t.ref).AtMost (Op.isList ref) (if t.ref == ref then 1 else 0) := by
    rw [← hone]
    exact .ite (.pure _) (.ask_bind (n := 0) fun answer => .pure _)
  refine hlist.bind (n := 0) fun out => ?_
  cases out
  · exact .pure _
  · exact .pure _

theorem countVisitors_atMost (ts : List DrainTarget) (ref : ServiceRef) :
    (countVisitors ts).AtMost (Op.isList ref) ((ts.map (·.ref)).count ref) := by
  induction ts with
  | nil => exact .pure _
  | cons t ts ih =>
    have hall := (countTarget_atMost t ref).bind fun out => ih.bind fun out' =>
      .pure (n := 0) (out.1 :: out'.1, out.2 && out'.2)
    refine Calls.AtMost.mono hall (le_of_eq ?_)
    rw [List.map_cons, List.count_cons]
    omega

/-! ### Turns -/

section Turns

variable {clock : Clock}

@[simp] theorem DrainRecord.refs_touch (r : DrainRecord) : (r.touch clock).refs = r.refs := by
  unfold touch
  split <;> rfl

@[simp] theorem DrainRecord.refs_setPhase (r : DrainRecord) (phase : DrainPhase) :
    (r.setPhase clock phase).refs = r.refs := by
  rw [setPhase, refs_touch]
  rfl

/-- A loop over the targets leaves their references. -/
theorem DrainRecord.refs_withTargets {r : DrainRecord} {targets : List DrainTarget}
    {Step : DrainTarget → DrainTarget → Prop} (hstep : ∀ t t', Step t t' → t'.ref = t.ref)
    (h : List.Forall₂ Step r.operation.targets.elems targets) :
    (r.withTargets targets).refs = r.refs := map_eq_of_forall₂ h hstep

/-- The order of the phases, with those a drain can fail to after all others. -/
def DrainPhase.place : DrainPhase → ℕ
  | .preparing => 0
  | .publishUnknown => 1
  | .guarding => 2
  | .waitingVisitors => 3
  | .readyToStop => 4
  | .conflict | .superseded => 5

/-- The phase stays or moves forward. -/
def DrainPhase.Forward (phase phase' : DrainPhase) : Prop :=
  phase' = phase ∨ phase.place < phase'.place

/-- How often a guard can still be called from a phase on. -/
def DrainPhase.guards : DrainPhase → ℕ
  | .preparing | .publishUnknown | .guarding => 2
  | _ => 0

/-- How often visitors can still be listed from a phase on. -/
def DrainPhase.lists : DrainPhase → ℕ
  | .preparing | .publishUnknown | .guarding | .waitingVisitors => 1
  | _ => 0

/-- The exchanges call a guard and list visitors so often, for every target that is counted. -/
structure Bounded (guards lists : ℕ) (refs : List ServiceRef) (es : List Event) : Prop where
  guard : ∀ ref, es.countP (fun e => e.1.isGuard ref) ≤ guards * refs.count ref
  list : ∀ ref, es.countP (fun e => e.1.isList ref) ≤ lists * refs.count ref

variable {r r' : DrainRecord} {es es' : List Event} {refs : List ServiceRef} {m n m' n' : ℕ}
  {ts : List DrainTarget} {rs : List DrainRecord}

theorem Bounded.append (h : Bounded m n refs es) (h' : Bounded m' n' refs es') :
    Bounded (m + m') (n + n') refs (es ++ es') where
  guard ref := by
    rw [List.countP_append, Nat.add_mul]
    exact Nat.add_le_add (h.guard ref) (h'.guard ref)
  list ref := by
    rw [List.countP_append, Nat.add_mul]
    exact Nat.add_le_add (h.list ref) (h'.list ref)

theorem Bounded.mono (h : Bounded m n refs es) (hm : m ≤ m') (hn : n ≤ n') :
    Bounded m' n' refs es where
  guard ref := (h.guard ref).trans (Nat.mul_le_mul_right _ hm)
  list ref := (h.list ref).trans (Nat.mul_le_mul_right _ hn)

/-- Other calls do not count. -/
theorem bounded_of_forall (h : ∀ e ∈ es, ∀ ref, e.1.isGuard ref = false ∧ e.1.isList ref = false) :
    Bounded 0 0 refs es where
  guard ref := by
    rw [Nat.zero_mul, Nat.le_zero, List.countP_eq_zero]
    exact fun e he => by simp [(h e he ref).1]
  list ref := by
    rw [Nat.zero_mul, Nat.le_zero, List.countP_eq_zero]
    exact fun e he => by simp [(h e he ref).2]

theorem Event.Reads.bounded {e : Event} {group : Text} {set : ServiceSet} (h : e.Reads group set) :
    Bounded 0 0 refs [e] := by
  refine bounded_of_forall fun e' he ref => ?_
  obtain rfl := List.mem_singleton.1 he
  rw [h.1]
  exact ⟨rfl, rfl⟩

theorem Glance.bounded {group : Text} (h : Glance group es) : Bounded 0 0 refs es := by
  obtain rfl | ⟨answer, rfl⟩ := h
  · exact bounded_of_forall fun e he => absurd he List.not_mem_nil
  · refine bounded_of_forall fun e he ref => ?_
    obtain rfl := List.mem_singleton.1 he
    exact ⟨rfl, rfl⟩

theorem publish_bounded {out : Except Err ServiceSet} (h : r.publish.Returns es out) :
    Bounded 0 0 refs es := by
  refine bounded_of_forall fun e he ref => ?_
  have hpublish := publish_only _ _ _ _ es out h e he
  cases hop : e.1 <;> simp_all [Op.OfPublish, Op.isGuard, Op.isList]

/-- **The loop of `guard`** calls guards only. -/
theorem guardTargets_bounded {out : List DrainTarget × Bool}
    (h : (guardTargets ts).Returns es out) : Bounded 2 0 (ts.map (·.ref)) es where
  guard ref := guardTargets_atMost ts ref es out h
  list ref := by
    have hzero : (guardTargets ts).AtMost (Op.isList ref) 0 :=
      (guardTargets_only (fun _ => ⟨rfl, rfl⟩) ts).atMost_zero (fun _ h => h)
    rw [Nat.zero_mul]
    exact hzero es out h

/-- **The loop of `waitForVisitors`** lists visitors only. -/
theorem countVisitors_bounded {out : List DrainTarget × Bool}
    (h : (countVisitors ts).Returns es out) : Bounded 0 1 (ts.map (·.ref)) es where
  guard ref := by
    have hzero : (countVisitors ts).AtMost (Op.isGuard ref) 0 :=
      (countVisitors_only (fun _ => rfl) ts).atMost_zero (fun _ h => h)
    rw [Nat.zero_mul]
    exact hzero es out h
  list ref := by
    rw [Nat.one_mul]
    exact countVisitors_atMost ts ref es out h

theorem refs_guardTargets {all : Bool}
    (h : (guardTargets r.operation.targets.elems).Returns es (ts, all)) :
    (r.withTargets ts).refs = r.refs := by
  refine DrainRecord.refs_withTargets (fun t t' hstep => ?_) (guardTargets_spec h).1
  obtain rfl | ⟨rfl, -⟩ := hstep <;> rfl

theorem refs_countVisitors {all : Bool}
    (h : (countVisitors r.operation.targets.elems).Returns es (ts, all)) :
    (r.withTargets ts).refs = r.refs := by
  refine DrainRecord.refs_withTargets (fun t t' hstep => ?_) (countVisitors_spec h).1
  obtain rfl | ⟨e, -, visitors, -, rfl⟩ := hstep <;> rfl

/-- **A last turn** calls the guards, or lists the visitors, of the targets it leaves. -/
theorem Turn.bounded (h : Turn clock r es r' false) :
    Bounded r.operation.phase.guards r.operation.phase.lists r'.refs es := by
  cases h with
  | stay hes => exact hes.bounded.mono (Nat.zero_le _) (Nat.zero_le _)
  | mismatched _ hread | superseded _ hread =>
    exact hread.bounded.mono (Nat.zero_le _) (Nat.zero_le _)
  | unpublished _ hread _ hpublish =>
    exact (hread.bounded.append (publish_bounded hpublish)).mono (Nat.zero_le _) (Nat.zero_le _)
  | unguarded hphase hread _ hguard =>
    rw [hphase, DrainRecord.refs_touch, refs_guardTargets hguard]
    exact (hread.bounded.append (guardTargets_bounded hguard)).mono (by decide) (by decide)
  | visited hphase hread _ hcount =>
    rw [hphase, DrainRecord.refs_touch, refs_countVisitors hcount]
    exact (hread.bounded.append (countVisitors_bounded hcount)).mono (by decide) (by decide)
  | clear hphase hread _ hcount =>
    rw [hphase, DrainRecord.refs_setPhase, refs_countVisitors hcount]
    exact (hread.bounded.append (countVisitors_bounded hcount)).mono (by decide) (by decide)

/-- The references stay from the confirmed publish on. -/
theorem Turn.refs_eq {more : Bool} (h : Turn clock r es r' more)
    (hphase : r.operation.phase = .guarding ∨ r.operation.phase = .waitingVisitors) :
    r'.refs = r.refs := by
  cases h with
  | stay => rfl
  | mismatched h | unpublished h | published h | confirmed h => simp [h] at hphase
  | superseded => exact r.refs_setPhase _
  | unguarded _ _ _ h => rw [DrainRecord.refs_touch, refs_guardTargets h]
  | guarded _ _ _ h => rw [DrainRecord.refs_setPhase, refs_guardTargets h]
  | visited _ _ _ h => rw [DrainRecord.refs_touch, refs_countVisitors h]
  | clear _ _ _ h => rw [DrainRecord.refs_setPhase, refs_countVisitors h]

/-- **The calls of the loop**, counted against the targets it ends with. The publishes come first,
the guards next and the visitors last, so each kind is counted in one turn. -/
theorem Advances.bounded (h : Advances clock r es r') :
    Bounded r.operation.phase.guards r.operation.phase.lists r'.refs es ∧
      (r.operation.phase = .guarding ∨ r.operation.phase = .waitingVisitors →
        r'.refs = r.refs) := by
  induction h with
  | last h => exact ⟨(advanceOnce_turn h).bounded, (advanceOnce_turn h).refs_eq⟩
  | @next r r₁ r' es₁ es₂ h _ ih =>
    obtain ⟨hrest, hrefs⟩ := ih
    have hturn := advanceOnce_turn h
    cases hturn with
    | published hphase hread _ hpublish =>
      rw [confirmPublish, DrainRecord.phase_setPhase] at hrest
      rw [hphase]
      have hfirst := (hread.bounded.append (publish_bounded hpublish)).append hrest
      exact ⟨hfirst.mono (by decide) (by decide), by simp⟩
    | confirmed hphase hread =>
      rw [confirmPublish, DrainRecord.phase_setPhase] at hrest
      rw [hphase]
      exact ⟨(hread.bounded.append hrest).mono (by decide) (by decide), by simp⟩
    | guarded hphase hread hsame hguard =>
      have heq : r'.refs = r.refs := by
        rw [hrefs (.inr (DrainRecord.phase_setPhase ..)), DrainRecord.refs_setPhase,
          refs_guardTargets hguard]
      rw [DrainRecord.phase_setPhase, heq] at hrest
      rw [hphase, heq]
      have hfirst := hread.bounded.append (guardTargets_bounded hguard)
      exact ⟨(hfirst.append hrest).mono (by decide) (by decide), fun _ => rfl⟩

theorem Turn.forward {more : Bool} (h : Turn clock r es r' more) :
    r.operation.phase.Forward r'.operation.phase := by
  cases h with
  | stay => exact .inl rfl
  | mismatched h => simp [h, DrainPhase.Forward, DrainPhase.place]
  | unpublished h =>
    rw [h, DrainRecord.phase_setPhase]
    split <;> simp [DrainPhase.Forward, DrainPhase.place]
  | published h | confirmed h =>
    rw [h, confirmPublish, DrainRecord.phase_setPhase]
    simp [DrainPhase.Forward, DrainPhase.place]
  | superseded h => obtain h | h | h := h <;> simp [h, DrainPhase.Forward, DrainPhase.place]
  | unguarded | visited => exact .inl (DrainRecord.phase_touch _)
  | guarded h | clear h => simp [h, DrainPhase.Forward, DrainPhase.place]

variable (clock) in
/-- The loop of `advance` with the records between its turns. -/
inductive Turns : DrainRecord → List Event → List DrainRecord → DrainRecord → Prop
  | last {r r' : DrainRecord} {es : List Event} (h : (advanceOnce clock r).Returns es (r', false)) :
      Turns r es [] r'
  | next {r r₁ r' : DrainRecord} {es₁ es₂ : List Event} {rs : List DrainRecord}
      (h : (advanceOnce clock r).Returns es₁ (r₁, true)) (ht : Turns r₁ es₂ rs r') :
      Turns r (es₁ ++ es₂) (r₁ :: rs) r'

theorem Turns.advances (h : Turns clock r es rs r') : Advances clock r es r' := by
  induction h with
  | last h => exact .last h
  | next h _ ih => exact .next h ih

theorem Advances.turns (h : Advances clock r es r') : ∃ rs, Turns clock r es rs r' := by
  induction h with
  | last h => exact ⟨[], .last h⟩
  | next h _ ih =>
    obtain ⟨rs, ht⟩ := ih
    exact ⟨_, .next h ht⟩

theorem Turns.length_le (h : Turns clock r es rs r') : rs.length ≤ r.operation.phase.turns := by
  induction h with
  | last => exact Nat.zero_le _
  | next h _ ih =>
    have hlt := (advanceOnce_turn h).turns_lt
    rw [List.length_cons]
    omega

theorem Turns.forward (h : Turns clock r es rs r') :
    List.IsChain (fun r r' : DrainRecord => r.operation.phase.Forward r'.operation.phase)
      (r :: rs ++ [r']) := by
  induction h with
  | last h => exact .cons_cons (advanceOnce_turn h).forward (.singleton _)
  | next h _ ih => exact .cons_cons (advanceOnce_turn h).forward ih

/-- **The loop of a drain ends.** Whoever answers the calls of `advance`, it returns, and what it
returns is what its loop comes to, without a bound on the turns. Every run of the loop takes at most
four turns, publishes at most once, calls the guard of each target at most twice and lists the
visitors of each at most once, and every turn leaves the phase where it is or moves it forward. -/
theorem drain_loop_ends (clock : Clock) (r : DrainRecord) :
    (∀ answer : List Event → Op → Answer, ∃ es r', (advance clock 4 r).Returns es r' ∧
        Calls.Follows answer es) ∧
      (∀ es r', (advance clock 4 r).Returns es r' ↔ ∃ rs, Turns clock r es rs r') ∧
      ∀ es rs r', Turns clock r es rs r' →
        rs.length + 1 ≤ 4 ∧ es.countP Event.publishes ≤ 1 ∧
          (∀ ref, es.countP (fun e => e.1.isGuard ref) ≤ 2 * r'.refs.count ref) ∧
          (∀ ref, es.countP (fun e => e.1.isList ref) ≤ r'.refs.count ref) ∧
          List.IsChain (fun r r' : DrainRecord => r.operation.phase.Forward r'.operation.phase)
            (r :: rs ++ [r']) := by
  refine ⟨fun answer => Calls.exists_returns _ answer, fun es r' => ?_, fun es rs r' h => ?_⟩
  · rw [advance_iff]
    exact ⟨Advances.turns, fun ⟨rs, h⟩ => h.advances⟩
  · have hturns := h.length_le
    have hpublish := h.advances.publishes
    have hcalls : Bounded 2 1 r'.refs es :=
      h.advances.bounded.1.mono (by cases r.operation.phase <;> decide)
        (by cases r.operation.phase <;> decide)
    have htimes : r.operation.phase.turns ≤ 3 := by cases r.operation.phase <;> decide
    have honce : r.operation.phase.publishes ≤ 1 := by cases r.operation.phase <;> decide
    refine ⟨by omega, by omega, hcalls.guard, fun ref => ?_, h.forward⟩
    rw [← Nat.one_mul (r'.refs.count ref)]
    exact hcalls.list ref

end Turns

end GameServiceRuntime.Control
