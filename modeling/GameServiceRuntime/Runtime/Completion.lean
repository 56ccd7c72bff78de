import GameServiceRuntime.Lib.Exclusive
import GameServiceRuntime.Runtime.Pending

/-!
# Completion of Calls

A Call has one place at a time: the table, the hands of one completer, or its own channel. That is
an `Exclusive` token per Call, and it is why a channel with one slot never blocks a completer. An
envelope is a token of the same kind, first with the goroutine that received it and then with the
Call it completes.
-/

namespace GameServiceRuntime.Runtime.Pending

variable {ν : Type}

/-! ### One place for every Call -/

/-- Where a Call can be. -/
inductive Place
  | table
  | hands (g : ℕ)
  | channel

/-- The Call is in the place. -/
def State.place (s : State ν) (c : ℕ) : Place → Prop
  | .table => s.table.lookup (s.calls c).session = some c
  | .hands g => ∃ w ∈ (s.procs g).hands, w.call = c
  | .channel => (s.calls c).written ≠ []

/-- **The invariant.** A Call is in one place at a time, and whoever has a result for it knows its
name. -/
structure Inv (cfg : Config ν) (s : State ν) : Prop where
  table : s.TableOk
  place : ∀ c, Exclusive (s.place c) (c < s.numCalls)
  nodup : ∀ g, ((s.procs g).hands.map Write.call).Nodup
  once : ∀ c, (s.calls c).written.length ≤ 1
  slot : ∀ c, (s.calls c).written = [] → (s.calls c).slot = none
  hands : ∀ g, ∀ w ∈ (s.procs g).hands, w.origin.Names cfg (s.calls w.call) w.outcome
  written : ∀ c, ∀ w ∈ (s.calls c).written, w.2.Names cfg (s.calls c) w.1

section Invariant

variable {cfg : Config ν} {s s' : State ν}

/-- Steps that change nothing of the Calls but an emptied slot, nothing in somebody's hands, and add
nothing to the table. -/
theorem Inv.shrink (hI : Inv cfg s)
    (hcalls : ∀ c, s'.calls c = s.calls c ∨ s'.calls c = { s.calls c with slot := none })
    (hnum : s'.numCalls = s.numCalls) (hhands : ∀ g, (s'.procs g).hands = (s.procs g).hands)
    (htable : ∀ session c, s'.table.lookup session = some c → s.table.lookup session = some c) :
    Inv cfg s' := by
  have hsame : ∀ c, (s'.calls c).session = (s.calls c).session ∧
      (s'.calls c).written = (s.calls c).written := fun c => by
    rcases hcalls c with h | h <;> rw [h] <;> exact ⟨rfl, rfl⟩
  have hnames : ∀ (o : Origin) v c, o.Names cfg (s.calls c) v → o.Names cfg (s'.calls c) v := by
    intro o v c ho
    rcases hcalls c with h | h
    · rwa [h]
    · rw [h]
      cases o <;> exact ho
  refine ⟨fun t c h => ?_, fun c => (hI.place c).keep (fun x hx => ?_) (hnum ▸ id), fun g => ?_,
    fun c => ?_, fun c h => ?_, fun g w hw => ?_, fun c w hw => ?_⟩
  · rw [hnum, (hsame c).1]
    exact hI.table t c (htable t c h)
  · cases x with
    | table =>
      rw [State.place, (hsame c).1] at hx
      exact htable _ _ hx
    | hands g =>
      rw [State.place, hhands] at hx
      exact hx
    | channel =>
      rw [State.place, (hsame c).2] at hx
      exact hx
  · rw [hhands]
    exact hI.nodup g
  · rw [(hsame c).2]
    exact hI.once c
  · rw [(hsame c).2] at h
    rcases hcalls c with hc | hc
    · rw [hc]
      exact hI.slot c h
    · rw [hc]
  · rw [hhands] at hw
    exact hnames _ _ _ (hI.hands g w hw)
  · rw [(hsame c).2] at hw
    exact hnames _ _ _ (hI.written c w hw)

theorem Inv.not_place_of_le (hI : Inv cfg s) {c : ℕ} (hc : s.numCalls ≤ c) (x : Place) :
    ¬ s.place c x := fun hx => by
  have := (hI.place c).flag_of x hx
  omega

theorem Inv.insert {source target : ServiceRef} {command : UInt32} {session : UInt64}
    (hI : Inv cfg s) (hzero : session ≠ 0)
    (htable : s'.table = s.table.insert session s.numCalls)
    (hcalls : s'.calls = Function.update s.calls s.numCalls
      { source := source, target := target, command := command, session := session })
    (hnum : s'.numCalls = s.numCalls + 1)
    (hhands : ∀ g, (s'.procs g).hands = (s.procs g).hands) : Inv cfg s' := by
  have hnew : s'.calls s.numCalls =
      { source := source, target := target, command := command, session := session } := by
    rw [hcalls, Function.update_self]
  have hold : ∀ c, c ≠ s.numCalls → s'.calls c = s.calls c := fun c hc => by
    rw [hcalls, Function.update_of_ne hc]
  have hlook : ∀ t, s'.table.lookup t =
      if t = session then some s.numCalls else s.table.lookup t := by
    intro t
    rw [htable]
    split
    · next ht => rw [ht, AList.lookup_insert]
    · next ht => rw [AList.lookup_insert_ne ht]
  refine ⟨fun t c h => ?_, fun c => ?_, fun g => ?_, fun c => ?_, fun c h => ?_, fun g w hw => ?_,
    fun c w hw => ?_⟩
  · rw [hlook] at h
    rw [hnum]
    split at h
    · next ht =>
      cases h
      rw [hnew]
      exact ⟨Nat.lt_succ_self _, ht.symm, ht ▸ hzero⟩
    · obtain ⟨hlt, hsession⟩ := hI.table t c h
      rw [hold c (Nat.ne_of_lt hlt)]
      exact ⟨Nat.lt_succ_of_lt hlt, hsession⟩
  · by_cases hc : c = s.numCalls
    · subst hc
      refine (hI.place s.numCalls).acquire (Nat.lt_irrefl _) .table (fun x hx => ?_) (by omega)
      cases x with
      | table => exact .inr rfl
      | hands g =>
        rw [State.place, hhands] at hx
        exact .inl hx
      | channel =>
        rw [State.place, hnew] at hx
        exact absurd rfl hx
    · refine (hI.place c).keep (fun x hx => ?_) (by omega)
      cases x with
      | table =>
        rw [State.place, hold c hc, hlook] at hx
        split at hx
        · cases hx
          exact absurd rfl hc
        · exact hx
      | hands g =>
        rw [State.place, hhands] at hx
        exact hx
      | channel =>
        rw [State.place, hold c hc] at hx
        exact hx
  · rw [hhands]
    exact hI.nodup g
  · by_cases hc : c = s.numCalls
    · rw [hc, hnew]
      exact Nat.zero_le _
    · rw [hold c hc]
      exact hI.once c
  · by_cases hc : c = s.numCalls
    · rw [hc, hnew]
    · rw [hold c hc] at h ⊢
      exact hI.slot c h
  · rw [hhands] at hw
    -- a Call in somebody's hands is an old one
    rw [hold w.call fun hc => hI.not_place_of_le (Nat.le_of_eq hc.symm) (.hands g) ⟨w, hw, rfl⟩]
    exact hI.hands g w hw
  · by_cases hc : c = s.numCalls
    · rw [hc, hnew] at hw
      cases hw
    · rw [hold c hc] at hw ⊢
      exact hI.written c w hw

variable {order : List UInt64}

/-- The Calls taken out of the table are in it, each under its own session. -/
theorem mem_recorded (hT : s.TableOk) {c : ℕ} (h : c ∈ s.recorded order) :
    (s.calls c).session ∈ order ∧ s.place c .table := by
  obtain ⟨session, hmem, hlook⟩ := List.mem_filterMap.mp h
  have hsession := (hT session c hlook).2.1
  rw [State.place, hsession]
  exact ⟨hmem, hlook⟩

theorem nodup_recorded (hT : s.TableOk) (h : order.Nodup) :
    (s.recorded order).Nodup := by
  refine h.filterMap fun t t' c ht ht' => ?_
  rw [← (hT t c ht).2.1, (hT t' c ht').2.1]

theorem Inv.take {g : ℕ} {ws : List (Write ν)} (hI : Inv cfg s)
    (h : Taken cfg s s' g order ws)
    (hnames : ∀ w ∈ ws, w.origin.Names cfg (s.calls w.call) w.outcome) : Inv cfg s' := by
  obtain ⟨hempty, hnodup, hws, htable, hprocs, hcalls, hnum⟩ := h
  have hg : (s'.procs g).hands = ws := by rw [hprocs, Function.update_self, Proc.hands_holding]
  have hother : ∀ g', g' ≠ g → s'.procs g' = s.procs g' := fun g' hne => by
    rw [hprocs, Function.update_of_ne hne]
  have hlook : ∀ t c, s'.table.lookup t = some c → t ∉ order ∧ s.table.lookup t = some c := by
    intro t c ht
    rw [htable, lookup_eraseAll] at ht
    split at ht
    · cases ht
    · next hmem => exact ⟨hmem, ht⟩
  refine ⟨fun t c h => ?_, fun c => ?_, fun g' => ?_, ?_, ?_, fun g' w hw => ?_, ?_⟩
  · rw [hcalls, hnum]
    exact hI.table t c (hlook t c h).2
  · rw [hnum]
    by_cases hc : c ∈ s.recorded order
    · -- the Call goes from the table into the hands of the completer
      obtain ⟨hin, htable'⟩ := mem_recorded hI.table hc
      refine (hI.place c).transfer (b := .hands g) htable' (fun x hx => ?_) id
      cases x with
      | table =>
        rw [State.place, hcalls] at hx
        exact absurd hin (hlook _ _ hx).1
      | hands g' =>
        by_cases hg' : g' = g
        · exact .inr (congrArg Place.hands hg')
        · rw [State.place, hother g' hg'] at hx
          exact .inl ⟨hx, by rintro ⟨⟩⟩
      | channel =>
        rw [State.place, hcalls] at hx
        exact .inl ⟨hx, by rintro ⟨⟩⟩
    · refine (hI.place c).keep (fun x hx => ?_) id
      cases x with
      | table =>
        rw [State.place, hcalls] at hx
        exact (hlook _ _ hx).2
      | hands g' =>
        by_cases hg' : g' = g
        · obtain ⟨w, hw, rfl⟩ := hx
          rw [hg', hg] at hw
          exact absurd (hws ▸ List.mem_map_of_mem hw) hc
        · rw [State.place, hother g' hg'] at hx
          exact hx
      | channel =>
        rw [State.place, hcalls] at hx
        exact hx
  · by_cases hg' : g' = g
    · rw [hg', hg, hws]
      exact nodup_recorded hI.table hnodup
    · rw [hother g' hg']
      exact hI.nodup g'
  · rw [hcalls]
    exact hI.once
  · rw [hcalls]
    exact hI.slot
  · rw [hcalls]
    by_cases hg' : g' = g
    · rw [hg', hg] at hw
      exact hnames w hw
    · rw [hother g' hg'] at hw
      exact hI.hands g' w hw
  · rw [hcalls]
    exact hI.written

/-- A Call in somebody's hands has no result yet. -/
theorem Inv.written_eq_nil (hI : Inv cfg s) {g : ℕ} {w : Write ν} (hw : w ∈ (s.procs g).hands) :
    (s.calls w.call).written = [] := by
  by_contra hne
  cases (hI.place w.call).unique (.hands g) .channel ⟨w, hw, rfl⟩ hne

/-- The Call after its result was written. -/
def Call.put (c : Call ν) (outcome : Outcome ν) (origin : Origin) : Call ν :=
  { c with slot := some outcome, written := c.written ++ [(outcome, origin)] }

/-- The name of a Call does not depend on its channel. -/
theorem Call.names_put (c : Call ν) (outcome v : Outcome ν) (origin o : Origin) :
    o.Names cfg (c.put outcome origin) v ↔ o.Names cfg c v := by
  cases o <;> exact Iff.rfl

theorem Inv.write {g : ℕ} {w : Write ν} {ws : List (Write ν)} (hI : Inv cfg s)
    (hhands : (s.procs g).hands = w :: ws) :
    Inv cfg ({ s with
      calls := Function.update s.calls w.call ((s.calls w.call).put w.outcome w.origin) }.setProc g
        (.holding ws)) := by
  have hw : w ∈ (s.procs g).hands := by simp [hhands]
  have hnil := hI.written_eq_nil hw
  have hnot : ∀ w' ∈ ws, w'.call ≠ w.call := by
    have hnodup := hI.nodup g
    rw [hhands, List.map_cons, List.nodup_cons] at hnodup
    exact fun w' hw' hc => hnodup.1 (hc ▸ List.mem_map_of_mem hw')
  set s' := ({ s with
    calls := Function.update s.calls w.call ((s.calls w.call).put w.outcome w.origin) } :
      State ν).setProc g (.holding ws) with hs'
  have hself : s'.calls w.call = (s.calls w.call).put w.outcome w.origin := by
    simp [hs', State.setProc]
  have hcall : ∀ c, c ≠ w.call → s'.calls c = s.calls c := fun c hc => by
    simp [hs', State.setProc, hc]
  have hg : (s'.procs g).hands = ws := by simp [hs', State.setProc]
  have hother : ∀ g', g' ≠ g → s'.procs g' = s.procs g' := fun g' hne => by
    simp [hs', State.setProc, hne]
  have hsession : ∀ c, (s'.calls c).session = (s.calls c).session := fun c => by
    by_cases hc : c = w.call
    · rw [hc, hself]
      rfl
    · rw [hcall c hc]
  have hnames : ∀ (o : Origin) v c, o.Names cfg (s.calls c) v → o.Names cfg (s'.calls c) v := by
    intro o v c ho
    by_cases hc : c = w.call
    · rw [hc, hself]
      exact (Call.names_put ..).mpr (hc ▸ ho)
    · rwa [hcall c hc]
  refine ⟨fun t c h => ?_, fun c => ?_, fun g' => ?_, fun c => ?_, fun c h => ?_,
    fun g' w' hw' => ?_, fun c x hx => ?_⟩
  · rw [hsession]
    exact hI.table t c h
  · by_cases hc : c = w.call
    · subst hc
      refine (hI.place _).transfer (a := .hands g) (b := .channel) ⟨w, hw, rfl⟩ (fun x hx => ?_) id
      cases x with
      | table =>
        rw [State.place, hsession] at hx
        exact .inl ⟨hx, by rintro ⟨⟩⟩
      | hands g' =>
        by_cases hg' : g' = g
        · obtain ⟨w', hw', hsame⟩ := hx
          rw [hg', hg] at hw'
          exact absurd hsame (hnot w' hw')
        · rw [State.place, hother g' hg'] at hx
          exact .inl ⟨hx, fun h => hg' (Place.hands.inj h)⟩
      | channel => exact .inr rfl
    · refine (hI.place c).keep (fun x hx => ?_) id
      cases x with
      | table =>
        rw [State.place, hsession] at hx
        exact hx
      | hands g' =>
        by_cases hg' : g' = g
        · obtain ⟨w', hw', hsame⟩ := hx
          rw [hg', hg] at hw'
          exact ⟨w', hg' ▸ hhands ▸ List.mem_cons_of_mem w hw', hsame⟩
        · rw [State.place, hother g' hg'] at hx
          exact hx
      | channel =>
        rw [State.place, hcall c hc] at hx
        exact hx
  · by_cases hg' : g' = g
    · have hnodup := hI.nodup g
      rw [hhands, List.map_cons] at hnodup
      rw [hg', hg]
      exact hnodup.of_cons
    · rw [hother g' hg']
      exact hI.nodup g'
  · by_cases hc : c = w.call
    · rw [hc, hself, Call.put, hnil]
      exact Nat.le_refl 1
    · rw [hcall c hc]
      exact hI.once c
  · by_cases hc : c = w.call
    · rw [hc, hself, Call.put, hnil] at h
      cases h
    · rw [hcall c hc] at h ⊢
      exact hI.slot c h
  · by_cases hg' : g' = g
    · rw [hg', hg] at hw'
      exact hnames _ _ _ (hI.hands g w' (hhands ▸ List.mem_cons_of_mem w hw'))
    · rw [hother g' hg'] at hw'
      exact hnames _ _ _ (hI.hands g' w' hw')
  · by_cases hc : c = w.call
    · rw [hc, hself, Call.put, hnil, List.nil_append, List.mem_singleton] at hx
      rw [hx, hc]
      exact hnames _ _ _ (hI.hands g w hw)
    · rw [hcall c hc] at hx
      exact hnames _ _ _ (hI.written c x hx)

theorem Inv.step (hI : Inv cfg s) {a : Action ν} (h : step cfg s a = some s') : Inv cfg s' := by
  cases step_moved hI.table h with
  | none htable hcalls hnum hhands =>
    exact hI.shrink (fun c => .inl (congrFun hcalls c)) hnum hhands fun t c ht => htable ▸ ht
  | insert hzero _ htable hcalls hnum hhands => exact hI.insert hzero htable hcalls hnum hhands
  | @remove session htable hcalls hnum hhands =>
    refine hI.shrink (fun c => .inl (congrFun hcalls c)) hnum hhands fun t c ht => ?_
    rw [htable] at ht
    by_cases hts : t = session
    · rw [hts, AList.lookup_erase] at ht
      cases ht
    · rwa [AList.lookup_erase_ne hts] at ht
  | take h hnames => exact hI.take h hnames
  | write hhands hslot hs' => exact hs' ▸ hI.write hhands
  | @wait c hs' =>
    subst hs'
    refine hI.shrink (fun d => ?_) rfl (fun _ => rfl) fun _ _ h => h
    by_cases hd : d = c
    · subst hd
      exact .inr (Function.update_self ..)
    · exact .inl (Function.update_of_ne hd ..)

theorem inv_reachable (h : (system cfg).Reachable s) : Inv cfg s := by
  refine h.invariant (I := Inv cfg) ?_ fun s a s' hI _ hs => hI.step hs
  rintro s rfl
  refine ⟨by simp [State.TableOk], fun c => ⟨fun x hx => ?_, fun x _ hx => ?_⟩, ?_, ?_, ?_, ?_, ?_⟩
  · cases x <;> simp [State.place, Proc.hands] at hx
  · cases x <;> simp [State.place, Proc.hands] at hx
  all_goals simp [Proc.hands]

end Invariant

/-! ### One Call for every Reply -/

/-- The number of the envelope a result was read from. -/
def Origin.index : Origin → Option ℕ
  | .envelope k _ _ => some k
  | _ => none

/-- Who can have an envelope: the goroutine that received it, then the Call it completes. -/
inductive Bearer
  | goroutine (g : ℕ)
  | call (c : ℕ)

/-- The envelope is with the bearer. -/
def State.bears (s : State ν) (k : ℕ) : Bearer → Prop
  | .goroutine g => ∃ r, s.procs g = .receiving r ∧ r.k = k
  | .call c => (∃ g, ∃ w ∈ (s.procs g).hands, w.call = c ∧ w.origin.index = some k) ∨
      ∃ w ∈ (s.calls c).written, w.2.index = some k

section Replies

variable {cfg : Config ν} {s s' : State ν} {g k : ℕ} {x : Bearer}

theorem Proc.holding_ne_receiving (ws : List (Write ν)) (r : Received) :
    Proc.holding ws ≠ .receiving r := by
  cases ws <;> simp [Proc.holding]

/-- **A goroutine moves**, and what is written it had in its hands. Then an envelope is where it
was, and not with this goroutine, or the goroutine has it now or has a result from it in its
hands. -/
theorem bears_update {p : Proc ν} (h : s'.bears k x)
    (hprocs : s'.procs = Function.update s.procs g p)
    (hwritten : ∀ c, ∀ w ∈ (s'.calls c).written, w ∈ (s.calls c).written ∨
      ∃ w' ∈ (s.procs g).hands, w'.call = c ∧ w'.origin = w.2) :
    s.bears k x ∧ x ≠ .goroutine g ∨ (∃ r, p = .receiving r ∧ r.k = k ∧ x = .goroutine g) ∨
      ∃ w ∈ p.hands, w.origin.index = some k ∧ x = .call w.call := by
  have hself : s'.procs g = p := by rw [hprocs, Function.update_self]
  have hother : ∀ g', g' ≠ g → s'.procs g' = s.procs g' := fun g' hg => by
    rw [hprocs, Function.update_of_ne hg]
  cases x with
  | goroutine g' =>
    obtain ⟨r, hr, hk⟩ := h
    by_cases hg : g' = g
    · rw [hg, hself] at hr
      exact .inr (.inl ⟨r, hr, hk, by rw [hg]⟩)
    · rw [hother g' hg] at hr
      exact .inl ⟨⟨r, hr, hk⟩, by simpa using hg⟩
  | call c =>
    rcases h with ⟨g', w, hw, hc, hk⟩ | ⟨w, hw, hk⟩
    · by_cases hg : g' = g
      · rw [hg, hself] at hw
        exact .inr (.inr ⟨w, hw, hk, by rw [hc]⟩)
      · rw [hother g' hg] at hw
        exact .inl ⟨.inl ⟨g', w, hw, hc, hk⟩, by simp⟩
    · rcases hwritten c w hw with hw | ⟨w', hw', hc, horigin⟩
      · exact .inl ⟨.inr ⟨w, hw, hk⟩, by simp⟩
      · exact .inl ⟨.inl ⟨g, w', hw', hc, horigin ▸ hk⟩, by simp⟩

/-- The goroutine neither receives an envelope nor has anything in its hands. -/
theorem bears_update_of_hands_eq_nil {p : Proc ν} (h : s'.bears k x)
    (hprocs : s'.procs = Function.update s.procs g p) (hp : ∀ r, p ≠ .receiving r)
    (hnil : p.hands = []) (hwritten : ∀ c, ∀ w ∈ (s'.calls c).written, w ∈ (s.calls c).written) :
    s.bears k x ∧ x ≠ .goroutine g := by
  rcases bears_update h hprocs (fun c w hw => .inl (hwritten c w hw)) with
    h | ⟨r, hr, -⟩ | ⟨w, hw, -⟩
  · exact h
  · exact absurd hr (hp r)
  · rw [hnil] at hw
    cases hw

/-- The goroutine has these writes to make now. -/
theorem bears_update_holding {ws : List (Write ν)} (h : s'.bears k x)
    (hprocs : s'.procs = Function.update s.procs g (.holding ws))
    (hwritten : ∀ c, ∀ w ∈ (s'.calls c).written, w ∈ (s.calls c).written ∨
      ∃ w' ∈ (s.procs g).hands, w'.call = c ∧ w'.origin = w.2) :
    s.bears k x ∧ x ≠ .goroutine g ∨ ∃ w ∈ ws, w.origin.index = some k ∧ x = .call w.call := by
  rcases bears_update h hprocs hwritten with h | ⟨r, hr, -⟩ | ⟨w, hw, h⟩
  · exact .inl h
  · exact absurd hr (Proc.holding_ne_receiving ws r)
  · rw [Proc.hands_holding] at hw
    exact .inr ⟨w, hw, h⟩

/-- What `takeFor` does with the envelopes: the Call it takes gets the one the result is from. -/
theorem takeFor_bears (s : State ν) (g : ℕ) (source target : ServiceRef) (command : UInt32)
    (session : UInt64) (outcome : Outcome ν) (origin : Origin) :
    (s.takeFor g source target command session outcome origin).received = s.received ∧
      ∃ c, ∀ k x, (s.takeFor g source target command session outcome origin).bears k x →
        s.bears k x ∧ x ≠ .goroutine g ∨ origin.index = some k ∧ x = .call c := by
  rw [State.takeFor]
  split
  · refine ⟨rfl, 0, fun k x h => .inl ?_⟩
    exact bears_update_of_hands_eq_nil h rfl (by simp) rfl fun _ _ hw => hw
  · next c _ =>
    refine ⟨rfl, c, fun k x h => ?_⟩
    refine (bears_update_holding h rfl fun _ _ hw => .inl hw).imp_right ?_
    rintro ⟨w, hw, hk, hx⟩
    rw [List.mem_singleton] at hw
    subst hw
    exact ⟨hk, hx⟩

theorem failFor_bears {g : ℕ} {p : Call ν → Bool} {err : CallErr} {order : List UInt64}
    (h : s.failFor g p err order = some s') :
    s'.received = s.received ∧ ∀ k x, s'.bears k x → s.bears k x := by
  rw [State.failFor] at h
  split at h
  · cases h
    refine ⟨rfl, fun k x hx => ?_⟩
    rcases bears_update_holding (s := s) hx rfl fun _ _ hw => .inl hw with hx | ⟨w, hw, hk, -⟩
    · exact hx.1
    · -- a failure is from no envelope
      obtain ⟨c, -, rfl⟩ := List.mem_map.mp hw
      cases hk
  · cases h

/-- **One bearer for every envelope**, kept by every step. -/
theorem bears_step {a : Action ν} (hB : ∀ k, Exclusive (s.bears k) (k < s.received))
    (h : step cfg s a = some s') : ∀ k, Exclusive (s'.bears k) (k < s'.received) := by
  have hkeep : s'.received = s.received → (∀ k x, s'.bears k x → s.bears k x) →
      ∀ k, Exclusive (s'.bears k) (k < s'.received) :=
    fun hreceived hsub k => (hB k).keep (hsub k) fun hk => hreceived ▸ hk
  have hsame : s'.received = s.received → s'.procs = s.procs →
      (∀ c, (s'.calls c).written = (s.calls c).written) →
      ∀ k, Exclusive (s'.bears k) (k < s'.received) := fun hreceived hprocs hwritten =>
    hkeep hreceived fun k x hx => by
      cases x <;> simpa only [State.bears, hprocs, hwritten] using hx
  cases a with
  | create g source target command =>
    simp only [step] at h
    split at h <;> cases h
    exact hkeep rfl fun k x hx =>
      (bears_update_of_hands_eq_nil hx rfl (by simp) rfl fun _ _ hw => hw).1
  | draw g =>
    simp only [step] at h
    split at h
    case h_2 => cases h
    simp only [Option.some.injEq] at h
    split at h <;> subst h
    · exact hsame rfl rfl fun _ => rfl
    · exact hkeep rfl fun k x hx =>
        (bears_update_of_hands_eq_nil hx rfl (by simp) rfl fun _ _ hw => hw).1
  | insert g =>
    simp only [step] at h
    split at h
    case h_2 => cases h
    split at h <;> cases h
    · exact hkeep rfl fun k x hx =>
        (bears_update_of_hands_eq_nil hx rfl (by simp) rfl fun _ _ hw => hw).1
    · refine hkeep rfl fun k x hx =>
        (bears_update_of_hands_eq_nil (s := s) hx rfl (by simp) rfl fun c w hw => ?_).1
      by_cases hc : c = s.numCalls
      · simp [State.setProc, hc] at hw
      · simpa [State.setProc, hc] using hw
  | remove g session =>
    simp only [step] at h
    split at h <;> cases h
    exact hsame rfl rfl fun _ => rfl
  | reply g responder caller command session outcome =>
    simp only [step] at h
    split at h
    case h_2 => cases h
    split at h
    · cases h
    · split at h <;> cases h
      · exact hB
      · obtain ⟨hreceived, c, hc⟩ := takeFor_bears s g caller responder command session outcome
          (.reply responder caller command session)
        refine hkeep hreceived fun k x hx => (hc k x hx).elim And.left fun hx => ?_
        cases hx.1
  | receive g peer wire =>
    simp only [step] at h
    split at h
    case h_2 => cases h
    have hmore : ∀ k, Exclusive (State.bears { s with received := s.received + 1 } k)
        (k < s.received + 1) := fun k =>
      (hB k).keep (fun x hx => by cases x <;> exact hx) fun hk => Nat.lt_succ_of_lt hk
    split at h
    · cases h
      exact hmore
    · split at h <;> cases h
      · -- the new envelope is with the goroutine that received it
        intro k
        by_cases hk : k = s.received
        · refine (hB k).acquire (by omega) (.goroutine g) (fun x hx => ?_)
            (by simp [State.setProc, hk])
          rcases bears_update (s := s) hx rfl fun _ _ hw =>
            .inl hw with hx | ⟨r, -, -, hx⟩ | ⟨w, hw, -⟩
          · exact .inl hx.1
          · exact .inr hx
          · cases hw
        · refine (hB k).keep (fun x hx => ?_) fun h => Nat.lt_succ_of_lt h
          rcases bears_update (s := s) hx rfl fun _ _ hw =>
            .inl hw with hx | ⟨r, hr, hrk, -⟩ | ⟨w, hw, -⟩
          · exact hx.1
          · cases hr
            exact absurd hrk.symm hk
          · cases hw
      · exact hmore
  | receiveReply g =>
    simp only [step] at h
    split at h <;> cases h
    next r hg =>
    obtain ⟨hreceived, c, hc⟩ := takeFor_bears s g r.wire.target r.wire.source r.wire.command
      r.wire.session (replyOutcome cfg r.wire) (.envelope r.k r.peer r.wire)
    intro k
    by_cases hk : r.k = k
    · refine (hB k).transfer (a := .goroutine g) (b := .call c) ⟨r, hg, hk⟩ (fun x hx => ?_)
        fun h => hreceived ▸ h
      exact (hc k x hx).imp_right And.right
    · refine (hB k).keep (fun x hx => ?_) fun h => hreceived ▸ h
      refine (hc k x hx).elim And.left fun hx => absurd ?_ hk
      simpa [Origin.index] using hx.1
  | failNode g | failService g | failAll g =>
    simp only [step] at h
    split at h
    case h_2 => cases h
    exact hkeep (failFor_bears h).1 (failFor_bears h).2
  | write g =>
    simp only [step] at h
    split at h
    case h_2 => cases h
    next w ws hg =>
    split at h <;> cases h
    have hhands : (s.procs g).hands = w :: ws := by rw [hg]; rfl
    refine hkeep rfl fun k x hx => ?_
    have hmoved := bears_update_holding (s := s) hx rfl fun c w' hw => by
      by_cases hc : c = w.call
      · simp only [State.setProc, hc, Function.update_self, List.mem_append,
          List.mem_singleton] at hw
        rcases hw with hw | rfl
        · exact .inl (hc ▸ hw)
        · exact .inr ⟨w, by simp [hhands], hc.symm, rfl⟩
      · simp only [State.setProc, Function.update_of_ne hc] at hw
        exact .inl hw
    rcases hmoved with hx | ⟨w', hw, hk, rfl⟩
    · exact hx.1
    · exact Or.inl ⟨g, w', by simp [hhands, hw], rfl, hk⟩
  | wait c =>
    simp only [step] at h
    split at h <;> cases h
    refine hsame rfl rfl fun d => ?_
    by_cases hd : d = c
    · subst hd
      simp
    · simp [hd]
  | close =>
    cases h
    exact hsame rfl rfl fun _ => rfl

theorem bears_reachable (h : (system cfg).Reachable s) (k : ℕ) :
    Exclusive (s.bears k) (k < s.received) := by
  refine h.invariant (I := fun s => ∀ k, Exclusive (s.bears k) (k < s.received)) ?_
    (fun s a s' hB _ hs => bears_step hB hs) k
  rintro s rfl k
  refine ⟨fun x hx => ?_, fun x _ hx => ?_⟩
  · cases x <;> simp [State.bears, Proc.hands] at hx
  · cases x <;> simp [State.bears, Proc.hands] at hx

end Replies


/-! ### Main results -/

section Results

variable {cfg : Config ν} {s s' : State ν}

/-- The Call is pending. -/
def State.IsPending (s : State ν) (c : ℕ) : Prop := s.table.lookup (s.calls c).session = some c

/-- What a Call is recorded with. -/
def Call.name (c : Call ν) : ServiceRef × ServiceRef × UInt32 × UInt64 :=
  (c.source, c.target, c.command, c.session)

/-- The caller, responder, command and session of the reply that `a` is about to look up. -/
def Action.answers (s : State ν) : Action ν → Option (ServiceRef × ServiceRef × UInt32 × UInt64)
  | .reply _ responder caller command session _ => some (caller, responder, command, session)
  | .receiveReply g =>
    match s.procs g with
    | .receiving r => some (r.wire.target, r.wire.source, r.wire.command, r.wire.session)
    | _ => none
  | _ => none

/-- The peer whose envelope `a` works on: it is received, looked up or written to a channel. -/
def Action.peer (s : State ν) : Action ν → Option Text
  | .receive _ peer _ => some peer
  | .receiveReply g =>
    match s.procs g with
    | .receiving r => some r.peer
    | _ => none
  | .write g =>
    match (s.procs g).hands with
    | ⟨_, _, .envelope _ peer _⟩ :: _ => some peer
    | _ => none
  | _ => none

variable {c : ℕ} {a : Action ν}

theorem takeFor_untouched {g : ℕ} {source target : ServiceRef} {command : UInt32}
    {session : UInt64} {outcome : Outcome ν} {origin : Origin} (hc : s.IsPending c)
    (hname : (s.calls c).name ≠ (source, target, command, session)) :
    (s.takeFor g source target command session outcome origin).IsPending c ∧
      (s.takeFor g source target command session outcome origin).calls = s.calls := by
  rw [State.takeFor]
  split
  · exact ⟨hc, rfl⟩
  · next d hd =>
    refine ⟨?_, rfl⟩
    obtain ⟨hlook, hsource, htarget, hcommand⟩ := take_eq_some hd
    have hne : (s.calls c).session ≠ session := by
      rintro rfl
      obtain rfl : c = d := Option.some.inj (hc.symm.trans hlook)
      exact hname (by rw [Call.name, hsource, htarget, hcommand])
    show (s.table.erase session).lookup (s.calls c).session = some c
    rw [AList.lookup_erase_ne hne]
    exact hc

/-- **A reply touches only the Call it names.** -/
theorem answers_untouched {name : ServiceRef × ServiceRef × UInt32 × UInt64}
    (ha : a.answers s = some name) (h : step cfg s a = some s') (hc : s.IsPending c)
    (hname : (s.calls c).name ≠ name) : s'.IsPending c ∧ s'.calls c = s.calls c := by
  cases a with
  | reply g responder caller command session outcome =>
    cases ha
    simp only [step] at h
    split at h
    case h_2 => cases h
    split at h
    · cases h
    · split at h <;> cases h
      · exact ⟨hc, rfl⟩
      · obtain ⟨hpending, hcalls⟩ := takeFor_untouched hc hname
        exact ⟨hpending, by rw [hcalls]⟩
  | receiveReply g =>
    simp only [step] at h
    split at h <;> cases h
    next r hg =>
    simp only [Action.answers, hg, Option.some.injEq] at ha
    obtain ⟨hpending, hcalls⟩ := takeFor_untouched hc (ha ▸ hname)
    exact ⟨hpending, by rw [hcalls]⟩
  | _ => cases ha

/-- **A write touches only the Call it is for**, and that Call is not pending. -/
theorem write_untouched (hI : Inv cfg s) {g : ℕ} (h : step cfg s (.write g) = some s')
    (hc : s.IsPending c) : s'.IsPending c ∧ s'.calls c = s.calls c := by
  simp only [step] at h
  split at h
  case h_2 => cases h
  next w ws hg =>
  split at h <;> cases h
  have hne : c ≠ w.call := by
    rintro rfl
    have hw : w ∈ (s.procs g).hands := by simp [hg, Proc.hands]
    cases (hI.place w.call).unique .table (.hands g) hc ⟨w, hw, rfl⟩
  have hcalls : Function.update s.calls w.call { s.calls w.call with
      slot := some w.outcome
      written := (s.calls w.call).written ++ [(w.outcome, w.origin)] } c = s.calls c :=
    Function.update_of_ne hne ..
  refine ⟨?_, hcalls⟩
  rw [State.IsPending, State.setProc]
  simp only
  rw [hcalls]
  exact hc

theorem name_step (hI : Inv cfg s) (h : step cfg s a = some s') (hc : c < s.numCalls) :
    (s'.calls c).name = (s.calls c).name := by
  cases step_moved hI.table h with
  | none _ hcalls => rw [hcalls]
  | remove _ hcalls => rw [hcalls]
  | take h => rw [h.same.1]
  | insert _ _ _ hcalls => rw [hcalls, Function.update_of_ne (by omega)]
  | @write g w ws _ _ hs' =>
    subst hs'
    by_cases hw : c = w.call
    · subst hw
      simp [State.setProc, Call.name]
    · simp [State.setProc, hw]
  | @wait d hs' =>
    subst hs'
    by_cases hd : c = d
    · subst hd
      simp [Call.name]
    · simp [hd]

/-- **Envelopes of another peer touch no Call.** -/
theorem peer_untouched (hI : Inv cfg s) {peer : Text} (ha : a.peer s = some peer)
    (hpeer : peer ≠ (s.calls c).target.node)
    (h : step cfg s a = some s') : (s.IsPending c → s'.IsPending c) ∧ s'.calls c = s.calls c := by
  cases a with
  | receive g _ wire =>
    simp only [step] at h
    split at h
    case h_2 => cases h
    split at h
    · cases h
      exact ⟨id, rfl⟩
    · split at h <;> cases h <;> exact ⟨id, rfl⟩
  | receiveReply g =>
    simp only [step] at h
    split at h <;> cases h
    next r hg =>
    simp only [Action.peer, hg, Option.some.injEq] at ha
    have hname :
      (s.calls c).name ≠ (r.wire.target, r.wire.source, r.wire.command, r.wire.session) := by
      intro hname
      simp only [Call.name, Prod.mk.injEq] at hname
      rw [hname.2.1, r.source] at hpeer
      exact hpeer ha.symm
    refine ⟨fun hc => (takeFor_untouched hc hname).1, ?_⟩
    rw [State.takeFor]
    split <;> rfl
  | write g =>
    refine ⟨fun hc => (write_untouched hI h hc).1, ?_⟩
    simp only [step] at h
    split at h
    case h_2 => cases h
    next w ws hg =>
    split at h <;> cases h
    have hhands : (s.procs g).hands = w :: ws := by rw [hg]; rfl
    obtain ⟨d, outcome, origin⟩ := w
    -- the Call the write is for was made to the peer
    have hne : c ≠ d := by
      rintro rfl
      have hnames := hI.hands g _ (hhands ▸ List.mem_cons_self)
      cases origin with
      | envelope k p wire =>
        simp only [Action.peer, hhands, Option.some.injEq] at ha
        exact hpeer (ha ▸ hnames.2.2.2.2.2.1)
      | reply | failure => simp [Action.peer, hhands] at ha
    simp [State.setProc, hne]
  | _ => cases ha

/-- What the origin of a result says it answers. -/
def Origin.answers : Origin → Option (ServiceRef × ServiceRef × UInt32 × UInt64)
  | .reply responder caller command session => some (caller, responder, command, session)
  | .envelope _ _ wire => some (wire.target, wire.source, wire.command, wire.session)
  | .failure => none

theorem Origin.Names.answers {c : Call ν} {outcome : Outcome ν} {o : Origin}
    {name : ServiceRef × ServiceRef × UInt32 × UInt64} (h : o.Names cfg c outcome)
    (ho : o.answers = some name) : name = c.name := by
  cases o with
  | reply =>
    cases ho
    rw [Call.name, h.1, h.2.1, h.2.2.1, h.2.2.2.1]
  | envelope =>
    cases ho
    rw [Call.name, h.2.1, h.2.2.1, h.2.2.2.1, h.2.2.2.2.1]
  | failure => cases ho

/-- What single completion of the Calls means in a state. -/
structure SingleCompletion (cfg : Config ν) (s : State ν) : Prop where
  /-- at most one result was ever written to the channel of a Call -/
  once : ∀ c, (s.calls c).written.length ≤ 1
  /-- a completer can make its next write -/
  unblocked : ∀ g, (s.procs g).hands ≠ [] → (step cfg s (.write g)).isSome = true
  session_ne_zero : ∀ c, s.IsPending c → (s.calls c).session ≠ 0
  session_injective : ∀ c c', s.IsPending c → s.IsPending c' →
    (s.calls c).session = (s.calls c').session → c = c'
  /-- a Call completed by a reply was recorded with all that the reply names -/
  answered : ∀ c, ∀ w ∈ (s.calls c).written, ∀ name, w.2.answers = some name →
    name = (s.calls c).name
  /-- what it is recorded with is from its creation -/
  recorded : ∀ a s', step cfg s a = some s' → ∀ c < s.numCalls, (s'.calls c).name = (s.calls c).name
  /-- a reply leaves the other pending Calls alone when it is looked up -/
  lookup_untouched : ∀ a name s' c, a.answers s = some name → step cfg s a = some s' →
    s.IsPending c → (s.calls c).name ≠ name → s'.IsPending c ∧ s'.calls c = s.calls c
  /-- and when it is written -/
  write_untouched : ∀ g s' c, step cfg s (.write g) = some s' → s.IsPending c →
    s'.IsPending c ∧ s'.calls c = s.calls c

/-- **Single completion of Calls**, in every state of every interleaving. -/
theorem single_completion (h : (system cfg).Reachable s) : SingleCompletion cfg s := by
  have hI := inv_reachable h
  refine ⟨hI.once, fun g hg => ?_, fun c hc => (hI.table _ c hc).2.2,
    fun c c' hc hc' hsession => ?_,
    fun c w hw name => (hI.written c w hw).answers, fun a s' hs c => name_step hI hs,
    fun a name s' c => answers_untouched, fun g s' c => write_untouched hI⟩
  · obtain ⟨w, ws, hhands⟩ := List.exists_cons_of_ne_nil hg
    have hslot := hI.slot _ (hI.written_eq_nil (hhands ▸ List.mem_cons_self))
    have hproc : s.procs g = .writing (w :: ws) := by
      cases hp : s.procs g with
      | writing ws' => rw [hp] at hhands; exact congrArg _ hhands
      | idle | drawing | inserting | receiving => rw [hp] at hhands; cases hhands
    simp [step, hproc, hslot]
  · rw [State.IsPending, hsession] at hc
    exact Option.some.inj (hc.symm.trans hc')

/-- Node `"a"`, where a payload stands for itself. -/
def nodeA : Config (List UInt8) := ⟨"a", fun _ bytes => some bytes, fun _ => []⟩

/-- A Call from `"a"` to Service 7 of `"b"` and the Reply that `"b"` sends. -/
def remoteReply : WireEnvelope :=
  { source := ⟨"b", 7⟩, target := ⟨"a", 1⟩, command := 3, session := 1,
    response := true, payload := .nil, callPath := .nil, errorCode := [], errorMessage := [] }

/-- A run in which the Call is completed by its Reply while a second one is pending. -/
def completedRun : List (Action (List UInt8)) :=
  [.create 0 remoteReply.target remoteReply.source 3, .draw 0, .insert 0,
    .create 1 remoteReply.target remoteReply.source 3, .draw 1, .insert 1,
    .receive 2 "b" remoteReply, .receiveReply 2, .write 2]

theorem single_completion_completedRun : ∃ s, (system nodeA).Reachable s ∧
    (decide ((s.calls 0).written.length = 1) && decide (s.table.lookup 2 = some 1)) = true ∧
    SingleCompletion nodeA s := by
  obtain ⟨s, hs, hp⟩ := System.exists_reachableUnder_of_run (system nodeA) (fun _ _ => True)
    completedRun
    (fun s => decide ((s.calls 0).written.length = 1) && decide (s.table.lookup 2 = some 1))
    rfl (by decide)
  exact ⟨s, hs, hp, single_completion hs⟩

/-- What authenticity of replies means in a state. -/
structure ReplyAuthenticity (cfg : Config ν) (s : State ν) : Prop where
  /-- a Call to another node gets its value from a Reply of that node that names it -/
  value : ∀ c v o, (.value v, o) ∈ (s.calls c).written → (s.calls c).target.node ≠ cfg.node →
    ∃ k wire, o = .envelope k (s.calls c).target.node wire ∧ wire.response = true ∧
      wire.source = (s.calls c).target ∧ wire.target = (s.calls c).source ∧
      wire.command = (s.calls c).command ∧ wire.session = (s.calls c).session
  /-- no envelope of another node ever completes it, with a value or with an error -/
  completed : ∀ c outcome k peer wire, (outcome, .envelope k peer wire) ∈ (s.calls c).written →
    peer = (s.calls c).target.node
  /-- envelopes of another node do not change it -/
  untouched : ∀ a peer s' c, a.peer s = some peer → peer ≠ (s.calls c).target.node →
    step cfg s a = some s' → (s.IsPending c → s'.IsPending c) ∧ s'.calls c = s.calls c
  /-- an envelope completes at most one Call -/
  once : ∀ k c c', ∀ w ∈ (s.calls c).written, ∀ w' ∈ (s.calls c').written, w.2.index = some k →
    w'.2.index = some k → c = c'

/-- **Reply authenticity**, whatever the peers send. -/
theorem reply_authenticity (h : (system cfg).Reachable s) : ReplyAuthenticity cfg s := by
  have hI := inv_reachable h
  refine ⟨fun c v o hw hnode => ?_, fun c outcome k peer wire hw => ?_,
    fun a peer s' c => peer_untouched hI, fun k c c' w hw w' hw' hk hk' => ?_⟩
  · have hnames := hI.written c _ hw
    cases o with
    | reply responder caller command session =>
      obtain ⟨-, htarget, -, -, hlocal⟩ := hnames
      exact absurd (htarget ▸ hlocal) hnode
    | envelope k peer wire =>
      obtain ⟨hresponse, hsource, htarget, hcommand, hsession, rfl, -⟩ := hnames
      exact ⟨k, wire, rfl, hresponse, htarget.symm, hsource.symm, hcommand.symm, hsession.symm⟩
    | failure =>
      obtain ⟨err, herr⟩ := hnames
      cases herr
  · exact (hI.written c _ hw).2.2.2.2.2.1
  · cases (bears_reachable h k).unique (.call c) (.call c') (.inr ⟨w, hw, hk⟩) (.inr ⟨w', hw', hk'⟩)
    rfl

theorem reply_authenticity_completedRun : ∃ s, (system nodeA).Reachable s ∧
    decide ((s.calls 0).written.length = 1) = true ∧ ReplyAuthenticity nodeA s := by
  obtain ⟨s, hs, hp⟩ := System.exists_reachableUnder_of_run (system nodeA) (fun _ _ => True)
    completedRun (fun s => decide ((s.calls 0).written.length = 1)) rfl (by decide)
  exact ⟨s, hs, hp, reply_authenticity hs⟩

end Results

end GameServiceRuntime.Runtime.Pending
