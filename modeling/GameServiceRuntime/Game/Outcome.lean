import GameServiceRuntime.Game.Finish

/-!
# The outcome of a settlement

A Battle that has accepted a request counts the results of the Wallet one by one. A result counts if
it is committed or rejected, in the currency of its settlement, and the first one that counts
decides; all later ones for the same settlement are ignored, whatever they say.

The phase is then a function of what was accepted and of the results since. It looks at the results
of each settlement by themselves, so the order between settlements plays no part.
-/

namespace GameServiceRuntime.Game

variable {σ π : Type}

/-! ### What a step does after a request was accepted -/

/-- The result that a command hands the Battle in the Wallet's name. -/
def Action.result (wallet : ServiceRef) : Action π → Option SettlementResult
  | .command source _ ⟨id, .result r⟩ _ =>
    if source = wallet ∧ id = applySettlementResultCommand then some r else none
  | _ => none

/-- The results that a run hands the Battle in the Wallet's name, in their order. -/
def walletResults (wallet : ServiceRef) (actions : List (Action π)) : List SettlementResult :=
  actions.filterMap (Action.result wallet)

/-- The result counts for a settlement. -/
def SettlementResult.decides (r : SettlementResult) (id currency : Text) : Bool :=
  r.requestID = id && (r.state = .committed || r.state = .rejected) && r.currency = currency

/-- Nothing happens to phase, settlements and accepted request. -/
structure Kept (w w' : World π) : Prop where
  accepted : w'.accepted = w.accepted
  settlements : w'.battle.settlements = w.battle.settlements
  phase : w'.battle.phase = w.battle.phase

/-- What is recorded for a request that was sent. -/
def pendingResult (request : SettlementRequest) : SettlementResult :=
  ⟨request.requestID, .pending, request.currency, .nil, []⟩

/-- The Battle accepts a request and records its settlements. -/
structure Accepting (cfg : Config σ π) (f : FinishBattle) (w w' : World π) : Prop where
  accepted : w'.accepted = w.accepted ++ [f]
  phase : w.battle.phase = .running
  build : ∃ requests, buildRequests cfg.self [] f.settlements.elems = some requests ∧
    (∀ request ∈ requests,
      w'.battle.settlements.lookup request.requestID = some (pendingResult request)) ∧
    (∀ id, (∀ request ∈ requests, request.requestID ≠ id) →
      w'.battle.settlements.lookup id = w.battle.settlements.lookup id) ∧
    w'.battle.phase = if requests.isEmpty then .finished else .settling

/-- What an operation does to the settlements; `result` is what the Wallet hands the Battle in
it. -/
inductive Judged (cfg : Config σ π) (result : Option SettlementResult) (w w' : World π) : Prop
  | kept (h : Kept w w') (hignored : ∀ r ∈ result, ∀ current,
      w.battle.settlements.lookup r.requestID = some current → current.state = .pending →
        r.decides r.requestID current.currency = false)
  | start (hresult : result = none) (haccepted : w'.accepted = w.accepted)
      (hsettlements : w'.battle.settlements = w.battle.settlements)
      (hphase : w.battle.phase = .created) (hphase' : w'.battle.phase = .running)
  | accept (hresult : result = none) (f : FinishBattle) (h : Accepting cfg f w w')
  | taken (r current : SettlementResult) (hresult : result = some r)
      (hcurrent : w.battle.settlements.lookup r.requestID = some current)
      (hpending : current.state = .pending)
      (hdecides : r.decides r.requestID current.currency = true)
      (haccepted : w'.accepted = w.accepted)
      (hsettlements : w'.battle.settlements =
        w.battle.settlements.insert r.requestID (cloneSettlementResult r))
      (hphase : w'.battle.phase = if r.state = .rejected then .failed
        else if w'.battle.settlements.entries.all fun e => e.2.state = .committed then .finished
        else w.battle.phase)

section Operations

variable {cfg : Config σ π} {env : Env} {w w' w'' : World π} {result : Option SettlementResult}

theorem Kept.refl : Kept w w := ⟨rfl, rfl, rfl⟩

theorem Kept.trans (h : Kept w w') (h' : Kept w' w'') : Kept w w'' :=
  ⟨h'.accepted.trans h.accepted, h'.settlements.trans h.settlements, h'.phase.trans h.phase⟩

theorem Kept.after (h' : Kept w' w'') (h : Kept w w') : Kept w w'' := h.trans h'

theorem Kept.judged (h : Kept w w') : Judged cfg none w w' := .kept h fun _ h => nomatch h

theorem kept_reply (v : Value π) : Kept w (reply env w v).1 :=
  ⟨reply_accepted .., by rw [reply_battle], by rw [reply_battle]⟩

theorem TimelineOnly.kept (h : TimelineOnly w w') : Kept w w' := by
  obtain ⟨⟨n, items, hb⟩, ha⟩ := h
  exact ⟨ha, by rw [hb], by rw [hb]⟩

theorem kept_log {e : Event π} (h : ∀ f, e ≠ .accepted f) : Kept w (w.log e) := by
  refine ⟨?_, rfl, rfl⟩
  cases e with
  | accepted f => exact absurd rfl (h f)
  | _ => simp [accepted_log]

/-- Something that changes nothing, after something else. -/
theorem Judged.kept_after (h : Judged cfg result w w') (hk : Kept w' w'') :
    Judged cfg result w w'' := by
  cases h with
  | kept h hignored => exact .kept (h.trans hk) hignored
  | start hr ha hs hp hp' =>
    exact .start hr (hk.accepted.trans ha) (hk.settlements.trans hs) hp (hk.phase.trans hp')
  | accept hr f h =>
    refine .accept hr f ⟨hk.accepted.trans h.accepted, h.phase, ?_⟩
    rw [hk.settlements, hk.phase]
    exact h.build
  | taken r current hr hc hpending hd ha hs hp =>
    refine .taken r current hr hc hpending hd (hk.accepted.trans ha) (hk.settlements.trans hs) ?_
    rw [hk.settlements, hk.phase]
    exact hp

/-- What a settlement is sent as. -/
def SettlementIntent.toRequest (self : ServiceRef) (intent : SettlementIntent) :
    SettlementRequest :=
  ⟨intent.requestID, self, intent.currency, intent.entries.copy⟩

theorem buildRequests_eq {self : ServiceRef} {seen : List Text} {intents : List SettlementIntent}
    {requests : List SettlementRequest} (h : buildRequests self seen intents = some requests) :
    requests = intents.map (SettlementIntent.toRequest self) ∧
      (intents.map SettlementIntent.requestID).Nodup ∧
      ∀ intent ∈ intents, intent.requestID ∉ seen := by
  induction intents generalizing seen requests with
  | nil =>
    cases h
    exact ⟨rfl, .nil, fun _ h => nomatch h⟩
  | cons intent intents ih =>
    rw [buildRequests] at h
    split at h
    · cases h
    split at h
    · cases h
    rename_i hseen
    obtain ⟨rest, hrest, rfl⟩ := Option.map_eq_some_iff.mp h
    obtain ⟨rfl, hnodup, hnotin⟩ := ih hrest
    refine ⟨rfl, List.nodup_cons.mpr ⟨?_, hnodup⟩, List.forall_mem_cons.mpr ⟨?_, ?_⟩⟩
    · rintro hmem
      obtain ⟨other, hother, heq⟩ := List.mem_map.mp hmem
      exact hnotin other hother (heq ▸ List.mem_cons_self)
    · simpa using hseen
    · exact fun other hother hmem => hnotin other hother (List.mem_cons_of_mem _ hmem)

/-- One turn of the second loop of `finishBattle`. -/
def submitOne (cfg : Config σ π) (env : Env) (w : World π) (n : ℕ) (request : SettlementRequest) :
    World π :=
  let sent := (w.update fun b =>
    { b with settlements := b.settlements.insert request.requestID (pendingResult request) }).log
      (.send cfg.wallet commitSettlementCommand (.request (cloneSettlementRequest request))
        (env.sendErr n))
  if (env.sendErr n).isSome then sent.log (.metric "battle_settlement_send_failed_total") else sent

theorem submit_cons (n : ℕ) (request : SettlementRequest) (requests : List SettlementRequest) :
    submit cfg env w n (request :: requests) =
      submit cfg env (submitOne cfg env w n request) (n + 1) requests := rfl

theorem submitOne_battle (n : ℕ) (request : SettlementRequest) :
    (submitOne cfg env w n request).battle =
      { w.battle with
        settlements := w.battle.settlements.insert request.requestID (pendingResult request) } := by
  rw [submitOne]
  split <;> rfl

theorem submitOne_accepted (n : ℕ) (request : SettlementRequest) :
    (submitOne cfg env w n request).accepted = w.accepted := by
  rw [submitOne]
  split <;> simp [accepted_log]

theorem submit_lookup {n : ℕ} {requests : List SettlementRequest}
    (hnodup : (requests.map SettlementRequest.requestID).Nodup) :
    (submit cfg env w n requests).battle.phase = w.battle.phase ∧
    (submit cfg env w n requests).accepted = w.accepted ∧
    (∀ request ∈ requests,
      (submit cfg env w n requests).battle.settlements.lookup request.requestID =
      some (pendingResult request)) ∧
    ∀ id, (∀ request ∈ requests, request.requestID ≠ id) →
      (submit cfg env w n requests).battle.settlements.lookup id =
        w.battle.settlements.lookup id := by
  induction requests generalizing w n with
  | nil => exact ⟨rfl, rfl, (fun _ h => nomatch h), fun _ _ => rfl⟩
  | cons request requests ih =>
    obtain ⟨hnew, hrest⟩ := List.nodup_cons.mp hnodup
    obtain ⟨h1, h2, h4, h5⟩ := ih (w := submitOne cfg env w n request) (n := n + 1) hrest
    rw [submit_cons]
    refine ⟨h1.trans (by rw [submitOne_battle]), h2.trans (submitOne_accepted ..), ?_, ?_⟩
    · refine List.forall_mem_cons.mpr ⟨?_, h4⟩
      rw [h5, submitOne_battle, AList.lookup_insert]
      exact fun other hother heq => hnew (List.mem_map.mpr ⟨other, hother, heq⟩)
    · intro id hid
      obtain ⟨hne, hid'⟩ := List.forall_mem_cons.mp hid
      rw [h5 id hid', submitOne_battle, AList.lookup_insert_ne (Ne.symm hne)]

theorem Judged.of_call {call : Call} (h : Judged cfg result { w with call } w') :
    Judged cfg result w w' := by
  cases h with
  | kept h hignored => exact .kept ⟨h.accepted, h.settlements, h.phase⟩ hignored
  | start hr ha hs hp hp' => exact .start hr ha hs hp hp'
  | accept hr f h => exact .accept hr f ⟨h.accepted, h.phase, h.build⟩
  | taken r current hr hc hpending hd ha hs hp => exact .taken r current hr hc hpending hd ha hs hp

theorem judged_finishBattle (f : FinishBattle) :
    Judged cfg none w (finishBattle cfg env w f).1 := by
  rw [finishBattle]
  split
  · exact Kept.refl.judged
  split
  · split
    · split
      · exact Kept.refl.judged
      · exact (kept_reply _).judged
    · exact Kept.refl.judged
  next hrunning =>
  split
  · exact Kept.refl.judged
  next requests hbuild =>
  split
  · exact Kept.refl.judged
  refine Judged.kept_after ?_ (kept_reply _)
  obtain ⟨hrequests, hnodup, -⟩ := buildRequests_eq hbuild
  have hnodup' : (requests.map SettlementRequest.requestID).Nodup := by
    rw [hrequests, List.map_map]
    exact hnodup
  obtain ⟨h1, h2, h3, h4⟩ := @submit_lookup σ π cfg env
    ((w.update fun b => { b with finish := cloneFinishBattle f, phase := .settling }).log
      (.accepted f))
    0 requests hnodup'
  refine .accept rfl f ⟨?_, not_not.mp hrunning, requests, hbuild, ?_⟩
  · split
    · exact h2.trans (by simp [accepted_log])
    · exact h2.trans (by simp [accepted_log])
  · split
    · exact ⟨h3, h4, rfl⟩
    · exact ⟨h3, h4, h1⟩

/-- `applySettlement`, for a result in the Wallet's name. -/
theorem judged_applySettlement (hsource : w.call.source = cfg.wallet) (r : SettlementResult) :
    Judged cfg (some r) w (applySettlement cfg env w r).1 := by
  rw [applySettlement, if_neg (not_not.mpr hsource)]
  split
  · next hnone =>
    refine .kept .refl ?_
    rintro _ ⟨⟩ current hcurrent
    exact nomatch hnone.symm.trans hcurrent
  next current hcurrent =>
  split
  · next hdone =>
    refine .kept (kept_reply _) ?_
    rintro _ ⟨⟩ c hc hpending
    obtain rfl := Option.some.inj (hcurrent.symm.trans hc)
    exact absurd hpending hdone
  next hpending =>
  split
  · next hinvalid =>
    refine .kept .refl ?_
    rintro _ ⟨⟩ c hc -
    obtain rfl := Option.some.inj (hcurrent.symm.trans hc)
    simp only [SettlementResult.decides]
    simp only [Bool.or_eq_true, Bool.and_eq_true, decide_eq_true_eq] at hinvalid
    rcases hinvalid with ⟨hcommitted, hrejected⟩ | hcurrency
    · simp [hcommitted, hrejected]
    · simp [hcurrency]
  next hvalid =>
  refine Judged.kept_after (.taken r current rfl hcurrent (not_not.mp hpending) ?_ ?_ ?_ ?_)
    (kept_reply _)
  · simp only [Bool.or_eq_true, Bool.and_eq_true, decide_eq_true_eq, not_or, not_and, not_not,
      ne_eq] at hvalid
    simp only [SettlementResult.decides, Bool.and_eq_true, Bool.or_eq_true, decide_eq_true_eq]
    refine ⟨⟨trivial, ?_⟩, hvalid.2⟩
    by_cases hcommitted : r.state = .committed
    · exact .inl hcommitted
    · exact .inr (hvalid.1 hcommitted)
  · split
    · rfl
    · split <;> rfl
  · split
    · rfl
    · split <;> rfl
  · split
    · rfl
    · split
      · next hall => exact (if_pos hall).symm
      · rfl

theorem kept_broadcastLoop {command : UInt32} {payload : Value π} (n : ℕ) (r : ℕ × ℕ)
    (ps : List Participant) : Kept w (broadcastLoop env command payload w n r ps).1 := by
  induction ps generalizing w n r with
  | nil => exact .refl
  | cons p ps ih =>
    rw [broadcastLoop]
    split
    · exact ih ..
    · exact (kept_log (by simp)).trans (ih ..)

theorem judged_perform (o : Op π) : Judged cfg none w (perform cfg env w o).1 := by
  cases o with
  | reply v => exact (kept_reply v).judged
  | finish f => exact judged_finishBattle f
  | broadcast command payload => exact (kept_broadcastLoop ..).judged
  | send target command payload =>
    dsimp only [perform]
    split
    · exact Kept.refl.judged
    · exact (kept_log (by simp)).judged
  | now | timeline => exact Kept.refl.judged
  | after delay command payload =>
    dsimp only [perform, after]
    split
    · exact Kept.refl.judged
    · exact (schedule_timelineOnly ..).kept.judged
  | «at» due command payload =>
    dsimp only [perform, scheduleAt]
    split
    · exact Kept.refl.judged
    · exact (schedule_timelineOnly ..).kept.judged
  | replace id delay command payload => exact (replace_timelineOnly ..).kept.judged
  | cancel id => exact (cancel_timelineOnly ..).kept.judged

theorem judged_runOp {ρ : Type} (usable : Bool) (o : Op π) (k : o.Answer → Prog π ρ) :
    Judged cfg none w (runOp cfg env w usable o k).1 := by
  rw [runOp]
  split
  · exact judged_perform o
  · exact Kept.refl.judged

theorem kept_fire (l : σ) (f : TimelineFire) : Kept w (fire cfg w l f).1 := by
  have hignored : Kept w (w.log (.metric "battle_timeline_ignored_total")) :=
    kept_log (by simp)
  rw [fire]
  split
  · exact hignored
  split
  · exact hignored
  split
  · exact hignored
  split
  · exact ⟨rfl, rfl, rfl⟩
  · exact (kept_log (by simp)).after ⟨rfl, rfl, rfl⟩

theorem judged_start (l : σ) (payload : Value π) : Judged cfg none w (start cfg w l payload).1 := by
  unfold start
  split
  · split
    · exact Kept.refl.judged
    · next h => exact .start rfl rfl rfl (not_not.mp h) rfl
  · split
    · exact Kept.refl.judged
    · next h => exact .start rfl rfl rfl (not_not.mp h) rfl
  · exact Kept.refl.judged

theorem kept_setParticipantConnected (request : ParticipantConnection) :
    Kept w (setParticipantConnected cfg env w request).1 := by
  rw [setParticipantConnected]
  split
  · exact .refl
  · exact (kept_reply _).after ⟨rfl, rfl, rfl⟩

theorem judged_handle (cfg : Config σ π) (env : Env) (w : World π) (l : σ) (c : Command π)
    (session : Bool) :
    Judged cfg ((Action.command w.call.source session c env).result cfg.wallet) w
      (handle cfg env w l c).1 := by
  obtain ⟨id, payload⟩ := c
  by_cases hid : id = applySettlementResultCommand
  · subst hid
    cases payload with
    | result r =>
      by_cases hsource : w.call.source = cfg.wallet
      · rw [Action.result, if_pos ⟨hsource, rfl⟩]
        exact judged_applySettlement hsource r
      · rw [Action.result, if_neg fun h => hsource h.1]
        show Judged cfg none w (applySettlement cfg env w r).1
        rw [applySettlement, if_pos hsource]
        exact Kept.refl.judged
    | _ => exact Kept.refl.judged
  · have hnone :
      (Action.command w.call.source session ⟨id, payload⟩ env).result cfg.wallet = none := by
      cases payload <;> simp [Action.result, hid]
    rw [hnone, handle]
    split
    · exact judged_start l payload
    split
    · split <;> exact Kept.refl.judged
    split
    · split
      · exact (kept_setParticipantConnected ..).judged
      · exact Kept.refl.judged
    split
    · split
      · exact judged_finishBattle _
      · exact Kept.refl.judged
    split
    · split
      · exact (kept_fire ..).judged
      · exact Kept.refl.judged
    split <;> exact Kept.refl.judged

/-- **One step.** -/
theorem step_judged {s s' : State σ π} {a : Action π} (h : step cfg s a = some s') :
    Judged cfg (a.result cfg.wallet) s.world s'.world := by
  cases stepped_of_step h with
  | @ended source session c env w err _ hhandle =>
    have hj :=
      judged_handle cfg env { s.world with call := ⟨source, session, false⟩ } s.logic c session
    rw [hhandle] at hj
    exact hj.of_call.kept_after (kept_log (by simp))
  | @entered source session c env w active _ hhandle =>
    have hj :=
      judged_handle cfg env { s.world with call := ⟨source, session, false⟩ } s.logic c session
    rw [hhandle] at hj
    exact hj.of_call
  | returned | snapshotFailed => exact (kept_log (by simp)).judged
  | panicked => exact Kept.refl.judged
  | snapshotReplied => exact ((kept_reply _).trans (kept_log (by simp))).judged
  | handling | snapshotting => exact judged_runOp ..

end Operations

/-! ### The phase as a function of the results -/

/-- What the first result that counts for a settlement says. -/
def verdict (intent : SettlementIntent) (results : List SettlementResult) :
    Option SettlementState :=
  (results.find? (·.decides intent.requestID intent.currency)).map (·.state)

/-- The Battle has counted the results. -/
structure Decided (f : FinishBattle) (results : List SettlementResult) (b : Battle π) : Prop where
  recorded : ∀ intent ∈ f.settlements.elems, ∃ current,
    b.settlements.lookup intent.requestID = some current ∧ current.currency = intent.currency ∧
      current.state = (verdict intent results).getD .pending
  others : ∀ id, (∀ intent ∈ f.settlements.elems, intent.requestID ≠ id) →
    b.settlements.lookup id = none
  failed : b.phase = .failed ↔
    ∃ intent ∈ f.settlements.elems, verdict intent results = some .rejected
  finished : b.phase = .finished ↔
    ∀ intent ∈ f.settlements.elems, verdict intent results = some .committed
  closed : b.phase.isOpen = false

section Verdict

variable {intent : SettlementIntent} {results later : List SettlementResult} {r : SettlementResult}

theorem verdict_append :
    verdict intent (results ++ later) = (verdict intent results).or (verdict intent later) := by
  rw [verdict, List.find?_append, Option.map_or, verdict, verdict]

theorem verdict_singleton : verdict intent [r] =
    if r.decides intent.requestID intent.currency then some r.state else none := by
  rw [verdict, List.find?_singleton]
  split <;> rfl

theorem verdict_cases (h : verdict intent results ≠ none) :
    verdict intent results = some .committed ∨ verdict intent results = some .rejected := by
  rw [verdict] at h ⊢
  cases hfind : results.find? (·.decides intent.requestID intent.currency) with
  | none => exact absurd (by rw [hfind]; rfl) h
  | some r =>
    have hdecides := List.find?_some hfind
    simp only [SettlementResult.decides, Bool.and_eq_true, Bool.or_eq_true,
      decide_eq_true_eq] at hdecides
    rcases hdecides.1.2 with hstate | hstate
    · exact .inl (by rw [Option.map_some, hstate])
    · exact .inr (by rw [Option.map_some, hstate])

/-- Only the results under the identifier of the settlement matter. -/
theorem verdict_filter :
    verdict intent (results.filter (·.requestID = intent.requestID)) = verdict intent results := by
  rw [verdict, List.find?_filter, verdict]
  congr 2
  funext r
  by_cases hid : r.requestID = intent.requestID
  · simp [hid]
  · simp [hid, SettlementResult.decides]

end Verdict

section Decided

variable {cfg : Config σ π} {f : FinishBattle} {results : List SettlementResult} {w w' : World π}

/-- What is pending has no verdict yet. -/
theorem Decided.verdict_eq_none (h : Decided f results w.battle) {intent : SettlementIntent}
    (hintent : intent ∈ f.settlements.elems) {current : SettlementResult}
    (hcurrent : w.battle.settlements.lookup intent.requestID = some current)
    (hpending : current.state = .pending) :
    verdict intent results = none ∧ current.currency = intent.currency := by
  obtain ⟨c, hc, hcurrency, hstate⟩ := h.recorded intent hintent
  obtain rfl := Option.some.inj (hcurrent.symm.trans hc)
  refine ⟨?_, hcurrency⟩
  by_contra hne
  rw [hpending] at hstate
  rcases verdict_cases hne with hv | hv
  · rw [hv] at hstate
    exact nomatch hstate
  · rw [hv] at hstate
    exact nomatch hstate

/-- Nothing has been counted when the request is accepted. -/
theorem Accepting.decided (h : Accepting cfg f w w') (hempty : w.battle.settlements = ∅) :
    Decided f [] w'.battle := by
  obtain ⟨requests, hbuild, hpending, hothers, hphase⟩ := h.build
  obtain ⟨rfl, -, -⟩ := buildRequests_eq hbuild
  have hnone : ∀ intent, verdict intent [] = none := fun intent => rfl
  have hphase' : w'.battle.phase = if f.settlements.elems = [] then .finished else .settling := by
    rw [hphase]
    simp
  refine ⟨fun intent hintent => ?_, fun id hid => ?_, ?_, ?_, ?_⟩
  · exact ⟨_, hpending _ (List.mem_map_of_mem hintent), rfl, rfl⟩
  · rw [hothers id, hempty]
    · rfl
    · intro request hrequest
      obtain ⟨intent, hintent, rfl⟩ := List.mem_map.mp hrequest
      exact hid intent hintent
  · simp only [hnone, hphase']
    split <;> simp
  · simp only [hnone, hphase']
    split
    · next hnil => simp [hnil]
    · next hne =>
      obtain ⟨intent, hintent⟩ := List.exists_mem_of_ne_nil _ hne
      simp only [reduceCtorEq, false_iff]
      exact fun hall => hall intent hintent
  · rw [hphase']
    split <;> rfl

/-- A step without a result changes nothing. -/
theorem Decided.kept (h : Decided f results w.battle) (hk : Kept w w') :
    Decided f results w'.battle := by
  refine ⟨?_, ?_, ?_, ?_, ?_⟩
  · rw [hk.settlements]
    exact h.recorded
  · rw [hk.settlements]
    exact h.others
  · rw [hk.phase]
    exact h.failed
  · rw [hk.phase]
    exact h.finished
  · rw [hk.phase]
    exact h.closed

/-- A result that is ignored counts for no settlement that has no verdict. -/
theorem Decided.ignored (h : Decided f results w.battle) {r : SettlementResult}
    (hignored : ∀ current, w.battle.settlements.lookup r.requestID = some current →
      current.state = .pending → r.decides r.requestID current.currency = false) :
    Decided f (results ++ [r]) w.battle := by
  have hsame : ∀ intent ∈ f.settlements.elems,
      verdict intent (results ++ [r]) = verdict intent results := by
    intro intent hintent
    rw [verdict_append, verdict_singleton]
    cases hv : verdict intent results with
    | some state => rfl
    | none =>
      obtain ⟨current, hcurrent, hcurrency, hstate⟩ := h.recorded intent hintent
      rw [hv] at hstate
      rw [Option.none_or, if_neg]
      intro hdecides
      have hid : r.requestID = intent.requestID := by
        simp only [SettlementResult.decides, Bool.and_eq_true, decide_eq_true_eq] at hdecides
        exact hdecides.1.1
      have hfalse := hignored current (hid ▸ hcurrent) hstate
      rw [hid, hcurrency, hdecides] at hfalse
      exact Bool.noConfusion hfalse
  refine ⟨fun intent hintent => ?_, h.others, ?_, ?_, h.closed⟩
  · rw [hsame intent hintent]
    exact h.recorded intent hintent
  · rw [h.failed]
    exact exists_congr fun intent => and_congr_right fun hintent => by rw [hsame intent hintent]
  · rw [h.finished]
    exact forall₂_congr fun intent hintent => by rw [hsame intent hintent]

/-- What the loop of `applySettlement` over the settlements finds. -/
theorem all_committed_iff {b : Battle π}
    (hrecorded : ∀ intent ∈ f.settlements.elems, ∃ c,
      b.settlements.lookup intent.requestID = some c ∧ c.currency = intent.currency ∧
        c.state = (verdict intent results).getD .pending)
    (hothers : ∀ id, (∀ intent ∈ f.settlements.elems, intent.requestID ≠ id) →
      b.settlements.lookup id = none) :
    (b.settlements.entries.all fun e => e.2.state = .committed) = true ↔
      ∀ intent ∈ f.settlements.elems, verdict intent results = some .committed := by
  rw [List.all_eq_true]
  constructor
  · intro hentries intent hintent
    obtain ⟨c, hc, -, hstate⟩ := hrecorded intent hintent
    have hcommitted := of_decide_eq_true (hentries ⟨_, c⟩ (AList.mem_lookup_iff.mp hc))
    rw [hstate] at hcommitted
    cases hv : verdict intent results with
    | none =>
      rw [hv] at hcommitted
      exact nomatch hcommitted
    | some state =>
      rw [hv] at hcommitted
      exact congrArg some hcommitted
  · rintro hverdicts ⟨id, c⟩ hmem
    have hc := AList.mem_lookup_iff.mpr hmem
    obtain ⟨intent, hintent, rfl⟩ : ∃ intent ∈ f.settlements.elems, intent.requestID = id := by
      by_contra hno
      rw [hothers id fun intent hintent heq => hno ⟨intent, hintent, heq⟩] at hc
      exact nomatch hc
    obtain ⟨c', hc', -, hstate⟩ := hrecorded intent hintent
    obtain rfl := Option.some.inj (hc'.symm.trans hc)
    rw [hverdicts intent hintent] at hstate
    exact decide_eq_true hstate

/-- The result is the first one that counts for the settlements under its identifier, of which
`target` is one. -/
structure Settles (f : FinishBattle) (results : List SettlementResult) (r : SettlementResult)
    (target : SettlementIntent) : Prop where
  mem : target ∈ f.settlements.elems
  requestID : target.requestID = r.requestID
  first : ∀ intent ∈ f.settlements.elems, intent.requestID = r.requestID →
    verdict intent results = none ∧ verdict intent (results ++ [r]) = some r.state ∧
      r.currency = intent.currency

/-- A result for a pending settlement settles it. -/
theorem Decided.settles (h : Decided f results w.battle) {r current : SettlementResult}
    (hcurrent : w.battle.settlements.lookup r.requestID = some current)
    (hpending : current.state = .pending)
    (hdecides : r.decides r.requestID current.currency = true) :
    ∃ target, Settles f results r target := by
  obtain ⟨target, htarget, hid⟩ : ∃ intent ∈ f.settlements.elems,
    intent.requestID = r.requestID := by
    by_contra hno
    have hnone := h.others r.requestID fun intent hintent heq => hno ⟨intent, hintent, heq⟩
    exact nomatch hnone.symm.trans hcurrent
  refine ⟨target, htarget, hid, fun intent hintent heq => ?_⟩
  obtain ⟨hnone, hcurrency⟩ := h.verdict_eq_none hintent (heq ▸ hcurrent) hpending
  rw [← heq, hcurrency] at hdecides
  refine ⟨hnone, ?_, ?_⟩
  · rw [verdict_append, verdict_singleton, hnone, if_pos hdecides, Option.none_or]
  · simp only [SettlementResult.decides, Bool.and_eq_true, decide_eq_true_eq] at hdecides
    exact hdecides.2

theorem verdict_append_of_ne {intent : SettlementIntent} {r : SettlementResult}
    (hne : intent.requestID ≠ r.requestID) :
    verdict intent (results ++ [r]) = verdict intent results := by
  rw [verdict_append, verdict_singleton, if_neg, Option.or_none]
  simp [SettlementResult.decides, Ne.symm hne]

section Settles

variable {r : SettlementResult} {target : SettlementIntent} {done : Bool}

/-- A rejected result fails the Battle, and any other leaves a failure as it is. -/
theorem Settles.failed_iff (hs : Settles f results r target) (h : Decided f results w.battle)
    (hdone : done = true → ∀ intent ∈ f.settlements.elems,
      verdict intent (results ++ [r]) = some .committed) :
    (if r.state = .rejected then .failed else if done then .finished else w.battle.phase) =
        BattlePhase.failed ↔
      ∃ intent ∈ f.settlements.elems, verdict intent (results ++ [r]) = some .rejected := by
  split
  · next hrejected =>
    exact iff_of_true rfl
      ⟨target, hs.mem, by rw [(hs.first target hs.mem hs.requestID).2.1, hrejected]⟩
  · next hcommitted =>
    have hbefore :
      (∃ intent ∈ f.settlements.elems, verdict intent (results ++ [r]) = some .rejected) ↔
        w.battle.phase = .failed := by
      rw [h.failed]
      refine exists_congr fun intent => and_congr_right fun hintent => ?_
      by_cases heq : intent.requestID = r.requestID
      · obtain ⟨hnone, hv, -⟩ := hs.first intent hintent heq
        simp [hnone, hv, hcommitted]
      · rw [verdict_append_of_ne heq]
    rw [hbefore]
    split
    · next hall =>
      -- everything is committed, so nothing was rejected before
      refine iff_of_false (by simp) fun hfailed => ?_
      obtain ⟨intent, hintent, hv⟩ := hbefore.mpr hfailed
      exact nomatch (hdone hall intent hintent).symm.trans hv
    · rfl

/-- The Battle is finished when the loop over the settlements says so, and was not before. -/
theorem Settles.finished_iff (hs : Settles f results r target) (h : Decided f results w.battle)
    (hdone : done = true ↔ ∀ intent ∈ f.settlements.elems,
      verdict intent (results ++ [r]) = some .committed) :
    (if r.state = .rejected then .failed else if done then .finished else w.battle.phase) =
        BattlePhase.finished ↔
      ∀ intent ∈ f.settlements.elems, verdict intent (results ++ [r]) = some .committed := by
  obtain ⟨hnone, hv, -⟩ := hs.first target hs.mem hs.requestID
  split
  · next hrejected =>
    refine iff_of_false (by simp) fun hverdicts => ?_
    have hcommitted := hverdicts target hs.mem
    rw [hv, hrejected] at hcommitted
    exact nomatch hcommitted
  · split
    · next hall => exact iff_of_true rfl (hdone.mp hall)
    · next hnot =>
      refine iff_of_false (fun hbefore => ?_) fun hverdicts => hnot (hdone.mpr hverdicts)
      exact nomatch hnone.symm.trans (h.finished.mp hbefore target hs.mem)

end Settles

/-- The first result that counts for a settlement is its verdict. -/
theorem Decided.taken (h : Decided f results w.battle) {r current : SettlementResult}
    (hcurrent : w.battle.settlements.lookup r.requestID = some current)
    (hpending : current.state = .pending)
    (hdecides : r.decides r.requestID current.currency = true)
    (hsettlements : w'.battle.settlements =
      w.battle.settlements.insert r.requestID (cloneSettlementResult r))
    (hphase : w'.battle.phase = if r.state = .rejected then .failed
      else if w'.battle.settlements.entries.all fun e => e.2.state = .committed then .finished
      else w.battle.phase) : Decided f (results ++ [r]) w'.battle := by
  obtain ⟨target, hs⟩ := h.settles hcurrent hpending hdecides
  have hlookup : ∀ id, w'.battle.settlements.lookup id =
      if id = r.requestID then some (cloneSettlementResult r)
      else w.battle.settlements.lookup id := by
    intro id
    rw [hsettlements]
    exact Table.lookup_insert_ite ..
  have hrecorded : ∀ intent ∈ f.settlements.elems, ∃ c,
      w'.battle.settlements.lookup intent.requestID = some c ∧ c.currency = intent.currency ∧
        c.state = (verdict intent (results ++ [r])).getD .pending := by
    intro intent hintent
    rw [hlookup]
    split
    · next heq =>
      obtain ⟨-, hv, hcurrency⟩ := hs.first intent hintent heq
      exact ⟨_, rfl, hcurrency, by rw [hv]; rfl⟩
    · next hne =>
      rw [verdict_append_of_ne hne]
      exact h.recorded intent hintent
  have hothers : ∀ id, (∀ intent ∈ f.settlements.elems, intent.requestID ≠ id) →
      w'.battle.settlements.lookup id = none := by
    intro id hother
    rw [hlookup, if_neg fun heq => hother target hs.mem (hs.requestID.trans heq.symm)]
    exact h.others id hother
  have hall := all_committed_iff hrecorded hothers
  refine ⟨hrecorded, hothers, ?_, ?_, ?_⟩
  · rw [hphase]
    exact hs.failed_iff h hall.mp
  · rw [hphase]
    exact hs.finished_iff h hall
  · rw [hphase]
    split
    · rfl
    · split
      · rfl
      · exact h.closed

/-- **One step** of a Battle that has accepted a request. -/
theorem Decided.step (h : Decided f results w.battle) {result : Option SettlementResult}
    (hj : Judged cfg result w w') : Decided f (results ++ result.toList) w'.battle := by
  cases hj with
  | kept hk hignored =>
    cases result with
    | none => simpa using h.kept hk
    | some r => exact (h.ignored (hignored r rfl)).kept hk
  | start hr ha hs hp hp' =>
    have hclosed := h.closed
    rw [hp] at hclosed
    exact nomatch hclosed
  | accept hr f' haccepts =>
    have hclosed := h.closed
    rw [haccepts.phase] at hclosed
    exact nomatch hclosed
  | taken r current hr hc hpending hd ha hs hp =>
    subst hr
    exact h.taken hc hpending hd hs hp

/-- **A run** of a Battle that has accepted a request. -/
theorem Decided.steps {s t : State σ π} {as : List (Action π)}
    (h : Decided f results s.world.battle) (hs : (system cfg).Steps s as t) :
    Decided f (results ++ walletResults cfg.wallet as) t.world.battle := by
  induction as generalizing s results with
  | nil =>
    obtain rfl := hs
    simpa [walletResults] using h
  | cons a as ih =>
    obtain ⟨u, hu, hrest⟩ := hs
    have hu' := ih (h.step (step_judged hu)) hrest
    rw [List.append_assoc] at hu'
    have hcons : walletResults cfg.wallet (a :: as) =
        (a.result cfg.wallet).toList ++ walletResults cfg.wallet as := by
      rw [walletResults, List.filterMap_cons]
      cases a.result cfg.wallet <;> rfl
    rwa [hcons]

end Decided

/-! ### The law -/

variable {cfg : Config σ π} {f : FinishBattle}

/-- A Battle that has accepted nothing has no settlements. -/
theorem settlements_of_isOpen {s : State σ π} (h : (system cfg).Reachable s) :
    s.world.battle.phase.isOpen = true → s.world.battle.settlements = ∅ := by
  refine h.invariant
    (I := fun s => s.world.battle.phase.isOpen = true → s.world.battle.settlements = ∅) ?_ ?_
  · rintro s ⟨l, call, rfl⟩ -
    rfl
  · intro s a s' hs _ hstep hopen
    cases step_judged hstep with
    | kept hk => rw [hk.settlements, hs (hk.phase ▸ hopen)]
    | start _ _ hsettlements hphase => rw [hsettlements, hs (by rw [hphase]; rfl)]
    | accept _ f haccepts =>
      obtain ⟨requests, -, -, -, hphase⟩ := haccepts.build
      rw [hphase] at hopen
      split at hopen <;> exact nomatch hopen
    | taken r current _ hcurrent _ _ _ _ hphase =>
      have hopen' : s.world.battle.phase.isOpen = true := by
        rw [hphase] at hopen
        split at hopen
        · exact nomatch hopen
        · split at hopen
          · exact nomatch hopen
          · exact hopen
      rw [hs hopen'] at hcurrent
      exact nomatch hcurrent

theorem decided_of_accepted {s s' : State σ π} {a : Action π} (hs : (system cfg).Reachable s)
    (hstep : step cfg s a = some s')
    (hf : s'.world.accepted = s.world.accepted ++ [f]) : Decided f [] s'.world.battle := by
  have hchanged : s'.world.accepted ≠ s.world.accepted := by
    intro heq
    rw [heq] at hf
    simpa using congrArg List.length hf
  cases step_judged hstep with
  | kept hk => exact absurd hk.accepted hchanged
  | start _ haccepted => exact absurd haccepted hchanged
  | taken _ _ _ _ _ _ haccepted => exact absurd haccepted hchanged
  | accept _ f' haccepts =>
    obtain rfl : f' = f := by simpa using haccepts.accepted.symm.trans hf
    exact haccepts.decided (settlements_of_isOpen hs (by rw [haccepts.phase]; rfl))

theorem Decided.final {results later : List SettlementResult} {b b' : Battle π}
    (h : Decided f results b) (h' : Decided f (results ++ later) b')
    (hfinal : b.phase = .finished ∨ b.phase = .failed) : b'.phase = b.phase := by
  rcases hfinal with hfinished | hfailed
  · rw [hfinished, h'.finished]
    intro intent hintent
    rw [verdict_append, h.finished.mp hfinished intent hintent, Option.some_or]
  · obtain ⟨intent, hintent, hv⟩ := h.failed.mp hfailed
    rw [hfailed, h'.failed]
    exact ⟨intent, hintent, by rw [verdict_append, hv, Option.some_or]⟩

theorem Decided.settling_iff {results : List SettlementResult} {b : Battle π}
    (h : Decided f results b) : b.phase = .settling ↔
      (¬ ∃ intent ∈ f.settlements.elems, verdict intent results = some .rejected) ∧
        ¬ ∀ intent ∈ f.settlements.elems, verdict intent results = some .committed := by
  rw [← h.failed, ← h.finished]
  have hclosed := h.closed
  cases hphase : b.phase with
  | created | running =>
    rw [hphase] at hclosed
    exact nomatch hclosed
  | settling | finished | failed => simp

/-- The results of each settlement decide, in whatever order those of different ones come. -/
theorem Decided.phase_eq {results results' : List SettlementResult} {b b' : Battle π}
    (h : Decided f results b) (h' : Decided f results' b')
    (hsame : ∀ id, results.filter (·.requestID = id) = results'.filter (·.requestID = id)) :
    b'.phase = b.phase := by
  have hverdict : ∀ intent, verdict intent results' = verdict intent results := fun intent => by
    rw [← verdict_filter, ← hsame, verdict_filter]
  have hfailed := h'.failed
  have hfinished := h'.finished
  have hsettling := h'.settling_iff
  simp only [hverdict, ← h.failed, ← h.finished] at hfailed hfinished hsettling
  have hclosed := h.closed
  cases hphase : b.phase with
  | created | running =>
    rw [hphase] at hclosed
    exact nomatch hclosed
  | settling => exact hsettling.mpr (by simp [hphase])
  | finished => exact hfinished.mpr hphase
  | failed => exact hfailed.mpr hphase

/-- **The outcome of a settlement.** After a request is accepted, and whatever else happens, the
phase is what the first result that counts says for each settlement; it does not depend on the order
between settlements, and a Battle that has finished or failed stays so. -/
theorem settlement_outcome {s₀ s₁ s : State σ π} {a : Action π} {as : List (Action π)}
    {f : FinishBattle} (hs₀ : (system cfg).Reachable s₀) (ha : step cfg s₀ a = some s₁)
    (hf : s₁.world.accepted = s₀.world.accepted ++ [f]) (has : (system cfg).Steps s₁ as s) :
    let results := walletResults cfg.wallet as
    (s.world.battle.phase = .failed ↔
      ∃ intent ∈ f.settlements.elems, verdict intent results = some .rejected) ∧
    (s.world.battle.phase = .finished ↔
      ∀ intent ∈ f.settlements.elems, verdict intent results = some .committed) ∧
    (s.world.battle.phase = .settling ↔
      (¬ ∃ intent ∈ f.settlements.elems, verdict intent results = some .rejected) ∧
        ¬ ∀ intent ∈ f.settlements.elems, verdict intent results = some .committed) ∧
    (∀ as' s', (system cfg).Steps s₁ as' s' →
      (∀ id, results.filter (·.requestID = id) =
        (walletResults cfg.wallet as').filter (·.requestID = id)) →
      s'.world.battle.phase = s.world.battle.phase) ∧
    ∀ as' s', (system cfg).Steps s as' s' →
      (s.world.battle.phase = .finished ∨ s.world.battle.phase = .failed) →
      s'.world.battle.phase = s.world.battle.phase := by
  have h := (decided_of_accepted hs₀ ha hf).steps has
  refine ⟨h.failed, h.finished, h.settling_iff, fun as' s' has' hsame => ?_,
    fun as' s' has' hfinal => h.final (h.steps has') hfinal⟩
  exact h.phase_eq ((decided_of_accepted hs₀ ha hf).steps has') hsame

/-- A request with two settlements. -/
def twoSettlements : FinishBattle where
  requestID := "f"
  settlements := .of (["s", "t"].map fun id =>
    ⟨Text.ofString id, "gold", .of [⟨"p1", 5⟩]⟩)

/-- The Wallet reports a settlement. -/
def report (id : String) (state : SettlementState) : Action Unit :=
  .command quietConfig.wallet false ⟨applySettlementResultCommand,
    .result ⟨Text.ofString id, state, "gold", .nil, []⟩⟩ {}

/-- One settlement is committed and then rejected, and the other one is rejected, after the first
one or before it. -/
def committedFirst : List (Action Unit) :=
  [report "s" .committed, report "s" .rejected, report "t" .rejected]

@[inherit_doc committedFirst]
def rejectedFirst : List (Action Unit) :=
  [report "t" .rejected, report "s" .committed, report "s" .rejected]

theorem settlement_outcome_twoSettlements :
    ∃ s₀ s₁ s s' a, (system quietConfig).Reachable s₀ ∧ step quietConfig s₀ a = some s₁ ∧
      s₁.world.accepted = s₀.world.accepted ++ [twoSettlements] ∧
      (system quietConfig).Steps s₁ committedFirst s ∧
      (system quietConfig).Steps s₁ rejectedFirst s' ∧
      s.world.battle.phase = .failed ∧ s'.world.battle.phase = s.world.battle.phase := by
  let finish : Action Unit :=
    .command ⟨[], 0⟩ false ⟨finishBattleCommand, .finish twoSettlements⟩ {}
  obtain ⟨s₀, hs₀, hp⟩ := (system quietConfig).exists_reachableUnder_of_run (fun _ _ => True)
    ((finishTrace twoSettlements).take 2) (s := newState quietConfig)
    (fun s₀ => (step quietConfig s₀ finish).any fun s₁ : State Unit Unit =>
      decide (s₁.world.accepted = s₀.world.accepted ++ [twoSettlements]) &&
        (((system quietConfig).runUnder (fun _ _ => True) s₁ committedFirst).isSome &&
          ((system quietConfig).runUnder (fun _ _ => True) s₁ rejectedFirst).isSome))
    ⟨(), _, rfl⟩ (by decide +kernel)
  obtain ⟨s₁, hs₁, hp⟩ := (Option.any_eq_true _ _).mp hp
  simp only [Bool.and_eq_true, decide_eq_true_eq, Option.isSome_iff_exists] at hp
  obtain ⟨hf, ⟨s, hs⟩, s', hs'⟩ := hp
  obtain ⟨hfailed, -, -, hsame, -⟩ :=
    settlement_outcome hs₀ hs₁ hf (System.steps_of_run hs)
  refine ⟨s₀, s₁, s, s', finish, hs₀, hs₁, hf, System.steps_of_run hs, System.steps_of_run hs',
    hfailed.mpr (by decide +kernel), hsame _ _ (System.steps_of_run hs') fun id => ?_⟩
  by_cases hid : "s" = id
  · subst hid
    decide +kernel
  · simp [walletResults, committedFirst, rejectedFirst, report, Action.result, hid,
      List.filter_cons]

end GameServiceRuntime.Game
