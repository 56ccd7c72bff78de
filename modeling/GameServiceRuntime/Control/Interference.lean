import GameServiceRuntime.Control.Draining

/-!
# Callers without authority

A command of the coordinator is refused unless it comes from the gateway, for a principal that is
allowed and, where there is an operation already, for the principal that owns it. The handlers check
this at different places and in different orders, some of them after they have looked an operation
up.

Two runs are compared: one with commands that have no authority inserted anywhere, and one without
them. What makes the comparison go through is that a handler reads the tables of operations and
nothing else of the state (`handle_view`), and that a command without authority returns at once and
leaves the tables as they are (`handle_of_intrudes`). The audit log is written by some refusals, so
it is only kept by commands that do not come from the gateway.
-/

namespace GameServiceRuntime.Control

/-! ### Authority -/

/-- The principal a command is for. -/
def Command.principal : Command → Option Text
  | .start request => some request.principal
  | .beginStop request => some request.principal
  | .beginRecovery request => some request.principal
  | .resolve _ principal | .get _ principal | .listAudit principal | .resolveStop _ principal
  | .getStop _ principal | .confirmRecovery _ principal | .resolveRecovery _ principal
  | .getRecovery _ principal | .abandonRecovery _ principal => some principal
  | .malformedDrain | .malformedAudit | .malformedStop | .malformedRecovery => none

namespace Tables

variable (t : Tables) (requestID principal : Text)

/-- There is a drain of another principal under the RequestID. -/
def OthersDrain : Prop :=
  ∃ r, t.operations.lookup requestID = some r ∧ r.operation.principal ≠ principal

/-- See `OthersDrain`. -/
def OthersStop : Prop :=
  ∃ r, t.stops.lookup requestID = some r ∧ r.operation.principal ≠ principal

/-- See `OthersDrain`. -/
def OthersRecovery : Prop :=
  ∃ r, t.recoveries.lookup requestID = some r ∧ r.operation.principal ≠ principal

end Tables

/-- The command is about an operation that there is, and is not for its owner. -/
def Command.Foreign (t : Tables) : Command → Prop
  | .start request => t.OthersDrain request.requestID request.principal
  | .resolve requestID principal | .get requestID principal => t.OthersDrain requestID principal
  | .beginStop request => t.OthersDrain request.requestID request.principal ∨
      t.OthersStop request.requestID request.principal
  | .resolveStop requestID principal | .getStop requestID principal =>
    t.OthersStop requestID principal
  | .beginRecovery request => t.OthersStop request.requestID request.principal ∨
      t.OthersRecovery request.requestID request.principal
  | .confirmRecovery requestID principal | .resolveRecovery requestID principal
  | .getRecovery requestID principal | .abandonRecovery requestID principal =>
    t.OthersRecovery requestID principal
  | _ => False

/-- The command has no authority. -/
def Intrudes (cfg : Config) (t : Tables) (source : ServiceRef) (c : Command) : Prop :=
  source ≠ cfg.gateway ∨ (∃ principal, c.principal = some principal ∧
    principal ∉ cfg.allowedPrincipals) ∨ c.Foreign t

section Requests

/-! Normalization keeps who asks, and for what. -/

theorem normalizeStartDrainRequest_head {request normalized : StartDrainRequest}
    (h : normalizeStartDrainRequest request = .ok normalized) :
    normalized.requestID = request.requestID ∧ normalized.principal = request.principal := by
  unfold normalizeStartDrainRequest at h
  split_ifs at h
  cases h
  exact ⟨rfl, rfl⟩

theorem normalizeBeginStopRequest_head {request normalized : BeginStopRequest}
    (h : normalizeBeginStopRequest request = .ok normalized) :
    normalized.requestID = request.requestID ∧ normalized.principal = request.principal := by
  simp only [normalizeBeginStopRequest] at h
  split_ifs at h
  cases h
  exact ⟨rfl, rfl⟩

theorem normalizeBeginRecoveryRequest_head {request normalized : BeginRecoveryRequest}
    (h : normalizeBeginRecoveryRequest request = .ok normalized) :
    normalized.requestID = request.requestID ∧ normalized.principal = request.principal := by
  simp only [normalizeBeginRecoveryRequest] at h
  split_ifs at h
  cases h
  exact ⟨rfl, rfl⟩

end Requests

section Intruders

variable {clock : Clock} {cfg : Config} {s : State} {source : ServiceRef}

/-- The handler returns at once, and leaves the tables. -/
def Refuses (s : State) (h : Handled) : Prop :=
  ∃ s' reply, h = pure (s', reply) ∧ s'.tables = s.tables

theorem Refuses.pure {s' : State} {reply : Reply} (h : s'.tables = s.tables) :
    Refuses s (pure (s', reply)) := ⟨s', reply, rfl, h⟩

variable {requestID principal : Text} {action : String}

theorem refuses_authorize {deny : Err → Reply} {go : State → Handled}
    (hgo : source = cfg.gateway → principal ∈ cfg.allowedPrincipals → Refuses s (go s)) :
    Refuses s (match authorize clock cfg s source requestID principal action with
      | (s, some err) => pure (s, deny err)
      | (s, none) => go s) := by
  unfold authorize
  split_ifs with hsource _ _ hallowed
  · exact .pure rfl
  · exact .pure rfl
  · exact .pure rfl
  · exact hgo (not_not.1 hsource) hallowed
  · exact .pure rfl

theorem refuses_authorizedRecovery {deny : Err → Reply} {go : State → RecoveryRecord → Handled}
    (hother : source = cfg.gateway → principal ∈ cfg.allowedPrincipals →
      s.tables.OthersRecovery requestID principal) :
    Refuses s (match authorizedRecovery clock cfg s source requestID principal action with
      | (s, .error err) => pure (s, deny err)
      | (s, .ok r) => go s r) := by
  unfold authorizedRecovery authorize
  split_ifs with hsource _ _ hallowed
  · exact .pure rfl
  · exact .pure rfl
  · exact .pure rfl
  · obtain ⟨r, hr, hne⟩ := hother (not_not.1 hsource) hallowed
    rw [State.recoveries_tables] at hr
    simp only [hr, hne, ne_eq, not_false_eq_true, if_true]
    exact .pure rfl
  · exact .pure rfl

/-- Authority that is missing, once the gateway and the principal are in order. -/
theorem Intrudes.foreign {c : Command} (h : Intrudes cfg s.tables source c)
    (hsource : source = cfg.gateway) (hprincipal : c.principal = some principal)
    (hallowed : principal ∈ cfg.allowedPrincipals) : c.Foreign s.tables := by
  rcases h with h | ⟨p, hp, hnot⟩ | h
  · exact absurd hsource h
  · rw [hprincipal] at hp
    cases hp
    exact absurd hallowed hnot
  · exact h

theorem Refuses.ite {c : Prop} [Decidable c] {p q : Handled} (hp : c → Refuses s p)
    (hq : ¬c → Refuses s q) : Refuses s (if c then p else q) := by
  split
  · exact hp ‹c›
  · exact hq ‹¬c›

theorem handleStart_of_intrudes {request : StartDrainRequest}
    (h : Intrudes cfg s.tables source (.start request)) :
    Refuses s (handleStart clock cfg s source request) := by
  refine .ite (fun _ => .pure rfl) fun hsource => ?_
  cases hnormal : normalizeStartDrainRequest request with
  | error err => exact .pure rfl
  | ok normalized =>
    obtain ⟨hid, hprincipal⟩ := normalizeStartDrainRequest_head hnormal
    refine .ite (fun _ => .pure rfl) fun hallowed => ?_
    rw [not_not, hprincipal] at hallowed
    obtain ⟨r, hr, -⟩ := h.foreign (not_not.1 hsource) rfl hallowed
    rw [State.operations_tables, ← hid] at hr
    rw [hr]
    exact .ite (fun _ => .pure rfl) fun _ => .pure rfl

theorem handleBeginStop_of_intrudes {request : BeginStopRequest}
    (h : Intrudes cfg s.tables source (.beginStop request)) :
    Refuses s (handleBeginStop clock cfg s source request) := by
  refine .ite (fun _ => .pure rfl) fun hsource => ?_
  cases hnormal : normalizeBeginStopRequest request with
  | error err => exact .pure rfl
  | ok normalized =>
    obtain ⟨hid, hprincipal⟩ := normalizeBeginStopRequest_head hnormal
    refine .ite (fun _ => .pure rfl) fun hallowed => ?_
    rw [not_not, hprincipal] at hallowed
    split
    · exact .ite (fun _ => .pure rfl) fun _ => .pure rfl
    next hnone =>
      rcases h.foreign (not_not.1 hsource) rfl hallowed with ⟨r, hr, hne⟩ | ⟨r, hr, -⟩
      · rw [State.operations_tables, ← hid] at hr
        rw [hr, hprincipal]
        exact .ite (fun _ => .pure rfl) fun _ => .ite (fun _ => .pure rfl) fun howner =>
          absurd (not_not.1 howner) hne
      · rw [State.stops_tables, ← hid, hnone] at hr
        cases hr

theorem handleBeginRecovery_of_intrudes {request : BeginRecoveryRequest}
    (h : Intrudes cfg s.tables source (.beginRecovery request)) :
    Refuses s (handleBeginRecovery clock cfg s source request) := by
  refine .ite (fun _ => .pure rfl) fun hsource => ?_
  cases hnormal : normalizeBeginRecoveryRequest request with
  | error err => exact .pure rfl
  | ok normalized =>
    obtain ⟨hid, hprincipal⟩ := normalizeBeginRecoveryRequest_head hnormal
    refine .ite (fun _ => .pure rfl) fun hallowed => ?_
    rw [not_not, hprincipal] at hallowed
    split
    · exact .ite (fun _ => .pure rfl) fun _ => .pure rfl
    next hnone =>
      rcases h.foreign (not_not.1 hsource) rfl hallowed with ⟨r, hr, hne⟩ | ⟨r, hr, -⟩
      · rw [State.stops_tables, ← hid] at hr
        rw [hr, hprincipal]
        exact .ite (fun _ => .pure rfl) fun howner => absurd (not_not.1 howner) hne
      · rw [State.recoveries_tables, ← hid, hnone] at hr
        cases hr

/-- **A command without authority** makes no call and leaves the tables, and the whole state if it
does not come from the gateway. -/
theorem handle_of_intrudes {c : Command} (h : Intrudes cfg s.tables source c) :
    Refuses s (handle clock cfg s source c) := by
  cases c with
  | start request => exact handleStart_of_intrudes h
  | resolve requestID principal | get requestID principal =>
    refine refuses_authorize fun hsource hallowed => ?_
    obtain ⟨r, hr, hne⟩ := h.foreign hsource rfl hallowed
    rw [State.operations_tables] at hr
    rw [hr]
    exact .ite (fun _ => .pure rfl) fun howner => absurd (not_not.1 howner) hne
  | listAudit principal =>
    simp only [handle, handleListAudit]
    split_ifs <;> exact .pure rfl
  | beginStop request => exact handleBeginStop_of_intrudes h
  | resolveStop requestID principal | getStop requestID principal =>
    refine refuses_authorize fun hsource hallowed => ?_
    obtain ⟨r, hr, hne⟩ := h.foreign hsource rfl hallowed
    rw [State.stops_tables] at hr
    rw [hr]
    exact .ite (fun _ => .pure rfl) fun howner => absurd (not_not.1 howner) hne
  | beginRecovery request => exact handleBeginRecovery_of_intrudes h
  | confirmRecovery requestID principal | resolveRecovery requestID principal
  | getRecovery requestID principal | abandonRecovery requestID principal =>
    exact refuses_authorizedRecovery fun hsource hallowed => h.foreign hsource rfl hallowed
  | malformedDrain | malformedAudit | malformedStop | malformedRecovery => exact .pure rfl

theorem handle_of_source_ne (c : Command) (h : source ≠ cfg.gateway) :
    ∃ reply, handle clock cfg s source c = pure (s, reply) := by
  cases c <;> simp only [handle, handleStart, handleListAudit, handleBeginStop, handleBeginRecovery,
    handleResolve, handleGet, handleResolveStop, handleGetStop, handleConfirmRecovery,
    handleResolveRecovery, handleGetRecovery, handleAbandonRecovery, authorizedRecovery,
      authorize, h,
    ne_eq, not_false_eq_true, if_true] <;> exact ⟨_, rfl⟩

end Intruders

/-! ### What a command reads -/

/-- A reply without the entries of the audit log. -/
def Reply.visible : Reply → Reply
  | .audits (.ok _) => .audits (.ok [])
  | reply => reply

/-- What is compared of a state and a reply. -/
def view (out : State × Reply) : Tables × Reply := (out.1.tables, out.2.visible)

/-- The two programs make the same calls, and return the same as far as it is compared. -/
def SameView (p q : Handled) : Prop := view <$> p = view <$> q

section View

variable {clock : Clock} {cfg : Config} {s s' : State} {source : ServiceRef}
  {requestID principal : Text} {action : String}

theorem SameView.pure {out out' : State × Reply} (h : view out = view out') :
    SameView (pure out) (pure out') := congrArg Calls.ret h

theorem SameView.ite {c : Prop} [Decidable c] {p q p' q' : Handled} (hp : SameView p p')
    (hq : SameView q q') : SameView (if c then p else q) (if c then p' else q') := by
  split
  · exact hp
  · exact hq

theorem SameView.bind {α : Type} {p : Run α} {f g : α → Handled} (h : ∀ a, SameView (f a) (g a)) :
    SameView (p >>= f) (p >>= g) := by
  rw [SameView, Calls.map_bind, Calls.map_bind]
  exact congrArg (p >>= ·) (funext h)

theorem sameView_authorize {deny : Err → Reply} {go : State → Handled}
    (h : s'.tables = s.tables) (hgo : SameView (go s') (go s)) :
    SameView
      (match authorize clock cfg s' source requestID principal action with
        | (s, some err) => pure (s, deny err)
        | (s, none) => go s)
      (match authorize clock cfg s source requestID principal action with
        | (s, some err) => pure (s, deny err)
        | (s, none) => go s) := by
  have hpure : ∀ err, view (s', deny err) = view (s, deny err) := fun err => by rw [view, view, h]
  unfold authorize
  split_ifs
  · exact .pure (hpure _)
  · exact .pure (hpure _)
  · exact .pure (hpure _)
  · exact hgo
  · exact .pure (hpure _)

theorem sameView_authorizedRecovery {deny : Err → Reply} {go : State → RecoveryRecord → Handled}
    (h : s'.tables = s.tables) (hgo : ∀ r, SameView (go s' r) (go s r)) :
    SameView
      (match authorizedRecovery clock cfg s' source requestID principal action with
        | (s, .error err) => pure (s, deny err)
        | (s, .ok r) => go s r)
      (match authorizedRecovery clock cfg s source requestID principal action with
        | (s, .error err) => pure (s, deny err)
        | (s, .ok r) => go s r) := by
  have hpure : ∀ err, view (s', deny err) = view (s, deny err) := fun err => by rw [view, view, h]
  have hlookup : s'.recoveries = s.recoveries := congrArg Tables.recoveries h
  unfold authorizedRecovery authorize
  split_ifs
  · exact .pure (hpure _)
  · exact .pure (hpure _)
  · exact .pure (hpure _)
  · dsimp only
    rw [hlookup]
    cases s.recoveries.lookup requestID with
    | none => exact .pure (hpure _)
    | some r =>
      dsimp only
      split_ifs
      · exact .pure (hpure _)
      · exact hgo r
  · exact .pure (hpure _)

/-- **What a command does depends on the tables**, and on nothing else of the state. -/
theorem handle_view (c : Command) (h : s'.tables = s.tables) :
    SameView (handle clock cfg s' source c) (handle clock cfg s source c) := by
  obtain ⟨operations, stops, recoveries, audits, sequence⟩ := s
  obtain ⟨operations', stops', recoveries', audits', sequence'⟩ := s'
  obtain ⟨rfl, rfl, rfl⟩ := Tables.mk.inj h
  cases c with
  | start request =>
    refine .ite (.pure rfl) ?_
    split
    · exact .pure rfl
    refine .ite (.pure rfl) ?_
    dsimp only
    split
    · exact .ite (.pure rfl) (.pure rfl)
    · exact .bind fun _ => .pure rfl
  | resolve requestID principal =>
    refine sameView_authorize rfl ?_
    dsimp only
    split
    · exact .pure rfl
    · exact .ite (.pure rfl) (.bind fun _ => .pure rfl)
  | get requestID principal | getStop requestID principal =>
    refine sameView_authorize rfl ?_
    dsimp only
    split
    · exact .pure rfl
    · exact .ite (.pure rfl) (.pure rfl)
  | listAudit principal => exact .ite (.pure rfl) (.ite (.pure rfl) (.ite (.pure rfl) (.pure rfl)))
  | beginStop request =>
    refine .ite (.pure rfl) ?_
    split
    · exact .pure rfl
    refine .ite (.pure rfl) ?_
    dsimp only
    split
    · exact .ite (.pure rfl) (.pure rfl)
    split
    · exact .pure rfl
    refine .ite (.pure rfl) (.ite (.pure rfl) (.ite (.pure rfl) (.bind fun found => ?_)))
    split
    · exact .pure rfl
    · exact .pure rfl
    · exact .bind fun _ => .pure rfl
  | resolveStop requestID principal =>
    refine sameView_authorize rfl ?_
    dsimp only
    split
    · exact .pure rfl
    · exact .ite (.pure rfl) (.ite (.pure rfl) (.bind fun _ => .pure rfl))
  | beginRecovery request =>
    refine .ite (.pure rfl) ?_
    split
    · exact .pure rfl
    refine .ite (.pure rfl) ?_
    dsimp only
    split
    · exact .ite (.pure rfl) (.pure rfl)
    split
    · exact .pure rfl
    refine .ite (.pure rfl) (.ite (.pure rfl) (.ite (.pure rfl) (.bind fun found => ?_)))
    split
    · exact .pure rfl
    · exact .ite (.pure rfl) (.bind fun _ => .pure rfl)
  | confirmRecovery requestID principal =>
    refine sameView_authorizedRecovery rfl fun r => .ite (.pure rfl) (.bind fun found => ?_)
    refine .ite (.pure rfl) (.bind fun published => ?_)
    split <;> exact .pure rfl
  | resolveRecovery requestID principal =>
    exact sameView_authorizedRecovery rfl fun r => .ite (.pure rfl) (.bind fun _ => .pure rfl)
  | getRecovery requestID principal => exact sameView_authorizedRecovery rfl fun r => .pure rfl
  | abandonRecovery requestID principal =>
    exact sameView_authorizedRecovery rfl fun r => .ite (.pure rfl) (.pure rfl)
  | malformedDrain | malformedAudit | malformedStop | malformedRecovery => exact .pure rfl

end View

/-! ### Two runs -/

section Runs

variable (cfg : Config)

/-- What commands leave: the state, the calls, and the replies to those that were not inserted. -/
structure Observed where
  state : State
  calls : List Event := []
  replies : List Reply := []

/-- Commands handled one after another, each with whether it would be there without the
insertions. -/
def observe : State → List (Bool × Action) → Option Observed
  | s, [] => some ⟨s, [], []⟩
  | s, (kept, a) :: as =>
    (outcome cfg s a).bind fun out =>
      (observe out.1.1 as).map fun o =>
        ⟨o.state, out.2 ++ o.calls, if kept then out.1.2 :: o.replies else o.replies⟩

/-- Every inserted command has no authority in the state in which it arrives. -/
def AllIntrude : State → List (Bool × Action) → Prop
  | _, [] => True
  | s, (kept, a) :: as =>
    (kept = false → Intrudes cfg s.tables a.source a.command) ∧
      ∀ out es, outcome cfg s a = some (out, es) → AllIntrude out.1 as

variable {cfg} {s s' : State}

theorem outcome_view {a : Action} {out : State × Reply} {es : List Event}
    (h : s'.tables = s.tables) (hout : outcome cfg s a = some (out, es)) :
    ∃ out', outcome cfg s' a = some (out', es) ∧ view out' = view out := by
  have hrun := congrArg (fun p => Calls.run p a.answers)
    (@handle_view a.clock cfg s s' a.source a.command h)
  simp only [Calls.run_map] at hrun
  rw [show (handle a.clock cfg s a.source a.command).run a.answers = _ from hout] at hrun
  obtain ⟨⟨out', es'⟩, hout', heq⟩ := Option.map_eq_some_iff.1 hrun
  obtain ⟨hview, rfl⟩ := Prod.mk.inj heq
  exact ⟨out', hout', hview⟩

/-- A command without authority makes no call. -/
theorem outcome_of_refuses {a : Action} {out : State × Reply} {es : List Event}
    (h : Refuses s (handle a.clock cfg s a.source a.command))
    (hout : outcome cfg s a = some (out, es)) : es = [] ∧ out.1.tables = s.tables := by
  obtain ⟨s₁, reply, hpure, htables⟩ := h
  have hreturns := (Calls.returns_of_run hout).1
  rw [hpure] at hreturns
  obtain ⟨rfl, rfl⟩ := Calls.returns_pure.1 hreturns
  exact ⟨rfl, htables⟩

theorem observe_filter {as : List (Bool × Action)} {o : Observed} (hs : s'.tables = s.tables)
    (h : observe cfg s as = some o) (hintrude : AllIntrude cfg s as) :
    ∃ o', observe cfg s' (as.filter Prod.fst) = some o' ∧ o'.state.tables = o.state.tables ∧
      o'.calls = o.calls ∧ o'.replies.map Reply.visible = o.replies.map Reply.visible ∧
      (s' = s → (∀ p ∈ as, p.1 = false → p.2.source ≠ cfg.gateway) → o' = o) := by
  induction as generalizing s s' o with
  | nil =>
    cases h
    exact ⟨⟨s', [], []⟩, rfl, hs, rfl, rfl, fun heq _ => by rw [heq]⟩
  | cons p as ih =>
    obtain ⟨kept, a⟩ := p
    obtain ⟨⟨out, es⟩, hout, hrest⟩ := Option.bind_eq_some_iff.1 h
    obtain ⟨o₁, ho₁, rfl⟩ := Option.map_eq_some_iff.1 hrest
    have htail := hintrude.2 out es hout
    cases kept with
    | true =>
      obtain ⟨out', hout', hview⟩ := outcome_view hs hout
      obtain ⟨o', ho', htables, hcalls, hreplies, heq⟩ := ih (congrArg Prod.fst hview) ho₁ htail
      refine ⟨⟨o'.state, es ++ o'.calls, out'.2 :: o'.replies⟩, ?_, htables, by rw [hcalls], ?_, ?_⟩
      · rw [List.filter_cons_of_pos rfl, observe, hout', Option.bind_some, ho']
        rfl
      · rw [List.map_cons, hreplies]
        exact congrArg (· :: _) (congrArg Prod.snd hview)
      · rintro rfl hsource
        rw [hout] at hout'
        cases hout'
        rw [heq rfl fun p hp => hsource p (List.mem_cons_of_mem _ hp)]
        rfl
    | false =>
      have hintrudes := hintrude.1 rfl
      obtain ⟨rfl, hsame⟩ := outcome_of_refuses (handle_of_intrudes hintrudes) hout
      obtain ⟨o', ho', htables, hcalls, hreplies, heq⟩ := ih (hs.trans hsame.symm) ho₁ htail
      refine ⟨o',
        by rwa [List.filter_cons_of_neg Bool.false_ne_true], htables, hcalls, hreplies, ?_⟩
      rintro rfl hsource
      obtain ⟨reply, hpure⟩ := @handle_of_source_ne a.clock cfg s' a.source a.command
        (hsource _ List.mem_cons_self rfl)
      have hreturns := (Calls.returns_of_run hout).1
      rw [hpure] at hreturns
      obtain ⟨-, rfl⟩ := Calls.returns_pure.1 hreturns
      exact heq rfl fun p hp => hsource p (List.mem_cons_of_mem _ hp)

/-- **Unauthorized callers do not interfere.** Without the inserted commands, none of which has
authority, the coordinator keeps the same records, makes the same calls and gives the same replies
but for what an audit listing lists; and everything is the same if none of them comes from the
gateway. -/
theorem no_interference {as : List (Bool × Action)} {o : Observed}
    (h : observe cfg s as = some o) (hintrude : AllIntrude cfg s as) :
    ∃ o', observe cfg s (as.filter Prod.fst) = some o' ∧ o'.state.tables = o.state.tables ∧
      o'.calls = o.calls ∧ o'.replies.map Reply.visible = o.replies.map Reply.visible ∧
      ((∀ p ∈ as, p.1 = false → p.2.source ≠ cfg.gateway) → o' = o) := by
  obtain ⟨o', hrun, htables, hcalls, hreplies, heq⟩ := observe_filter rfl h hintrude
  exact ⟨o', hrun, htables, hcalls, hreplies, heq rfl⟩

end Runs

/-- A principal that is not allowed asks for the drain of another. -/
theorem no_interference_sample :
    let denied := Sample.action (.resolve "r" "q") []
    ∃ o o', observe Sample.config {} [(true, Sample.drain), (false, denied)] = some o ∧
      observe Sample.config {} [(true, Sample.drain)] = some o' ∧
      o'.state.tables = o.state.tables ∧ o'.calls = o.calls := by
  intro denied
  have hrun : (observe Sample.config {} [(true, Sample.drain), (false, denied)]).isSome = true := by
    decide +kernel
  obtain ⟨o, ho⟩ := Option.isSome_iff_exists.1 hrun
  obtain ⟨o', ho', htables, hcalls, -⟩ := no_interference ho
    ⟨nofun, fun _ _ _ => ⟨fun _ => .inr (.inl ⟨_, rfl, by decide⟩), fun _ _ _ => trivial⟩⟩
  exact ⟨o, o', ho, ho', htables, hcalls⟩

end GameServiceRuntime.Control
