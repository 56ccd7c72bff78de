import GameServiceRuntime.Lib.Transition
import GameServiceRuntime.Runtime.Ref

/-!
# Snapshots

`MemoryStore` keeps the newest snapshot of every key, and `Manager` asks a Service for its state and
saves it. A snapshot is accepted if it is newer than the one that is kept, or if it is of the same
revision and has the same state; then the one that was kept is returned, with its own source and
time.

Whatever else an operation does, it is in the store's critical section once, so an operation is one
step and the steps of any number of goroutines interleave. What `Capture` does before is up to the
Service it asks, which may answer anything, and what it does afterwards concerns its result only.
Payloads are copied wherever they are handed over.

A context is given by the error that a look at it finds; there may be two looks in one operation.
-/

namespace GameServiceRuntime.Snapshots

structure Key where
  space : Text
  id : Text
  deriving DecidableEq

structure State where
  schema : Text
  version : UInt32
  revision : UInt64
  payload : Slice UInt8
  deriving DecidableEq

/-- `Snapshot`; the zero time is zero. -/
structure Snapshot where
  key : Key
  source : ServiceRef
  capturedAt : ℤ
  state : State
  deriving DecidableEq

/-- The errors of the package, and those of a context or a call. -/
inductive Err
  | invalidContext
  | invalidKey
  | invalidTarget
  | invalidState
  | payloadTooLarge
  | staleSnapshot
  | snapshotConflict
  | snapshotNotFound
  | invalidResponse
  | other (n : ℕ)
  deriving DecidableEq

/-! ### Validation -/

/-- `validateKey` -/
def validKey (key : Key) : Bool := key.space.valid 128 && key.id.valid 256

/-- `validateTarget` -/
def validTarget (target : ServiceRef) : Bool := target.node ≠ [] && target.id ≠ 0

/-- `validateState`; no limit is zero. -/
def validateState (state : State) (maxPayloadBytes : ℕ) : Option Err :=
  if !state.schema.valid 128 || state.version = 0 || state.revision = 0 || state.payload.isNil then
    some .invalidState
  else if 0 < maxPayloadBytes && maxPayloadBytes < state.payload.len then some .payloadTooLarge
  else none

def validateSnapshot (snapshot : Snapshot) (maxPayloadBytes : ℕ) : Option Err :=
  if !validKey snapshot.key then some .invalidKey
  else if !validTarget snapshot.source then some .invalidTarget
  else
    match validateState snapshot.state maxPayloadBytes with
    | some err => some err
    | none => if snapshot.capturedAt = 0 then some .invalidState else none

def cloneState (state : State) : State := { state with payload := state.payload.remake }

def cloneSnapshot (snapshot : Snapshot) : Snapshot :=
  { snapshot with state := cloneState snapshot.state }

def equalState (left right : State) : Bool :=
  left.schema = right.schema && left.version = right.version && left.revision = right.revision &&
    left.payload.elems = right.payload.elems

@[simp] theorem cloneSnapshot_eq (x : Snapshot) : cloneSnapshot x = x := by
  simp [cloneSnapshot, cloneState]

/-! ### The store -/

/-- `MemoryStore` -/
abbrev Store := Key → Option Snapshot

def Store.save (s : Store) (ctx : Option Err) (candidate : Snapshot) :
    Store × Except Err Snapshot :=
  match ctx with
  | some err => (s, .error err)
  | none =>
    match validateSnapshot candidate 0 with
    | some err => (s, .error err)
    | none =>
      let candidate := cloneSnapshot candidate
      match s candidate.key with
      | none => (Function.update s candidate.key (some candidate), .ok (cloneSnapshot candidate))
      | some current =>
        if current.state.revision < candidate.state.revision then
          (Function.update s candidate.key (some candidate), .ok (cloneSnapshot candidate))
        else if candidate.state.revision < current.state.revision then (s, .error .staleSnapshot)
        else if equalState candidate.state current.state then (s, .ok (cloneSnapshot current))
        else (s, .error .snapshotConflict)

def Store.load (s : Store) (ctx : Option Err) (key : Key) : Except Err Snapshot :=
  match ctx with
  | some err => .error err
  | none =>
    if !validKey key then .error .invalidKey
    else
      match s key with
      | none => .error .snapshotNotFound
      | some snapshot => .ok (cloneSnapshot snapshot)

/-! ### The manager -/

/-- A Manager's `maxPayloadBytes`; `NewManager` replaces zero by a default. -/
structure Manager where
  maxPayloadBytes : ℕ
  pos : 0 < maxPayloadBytes

/-- What `Capture` is called with and what it gets: the looks at the context, the answer of the
Service, which may not be a response at all, and the time. -/
structure Capture where
  ctx : Option Err
  target : ServiceRef
  key : Key
  reply : Except Err (Option (Key × State))
  now : ℤ
  saveCtx : Option Err

/-- The last checks of `Capture`. -/
def Manager.canonical (m : Manager) (result : Snapshot) (canonical : Snapshot) :
    Except Err Snapshot :=
  if canonical.key ≠ result.key || !equalState canonical.state result.state then
    .error .invalidResponse
  else
    match validateSnapshot canonical m.maxPayloadBytes with
    | some _ => .error .invalidResponse
    | none => .ok (cloneSnapshot canonical)

def Manager.capture (m : Manager) (s : Store) (c : Capture) : Store × Except Err Snapshot :=
  match c.ctx with
  | some err => (s, .error err)
  | none =>
    if !validTarget c.target then (s, .error .invalidTarget)
    else if !validKey c.key then (s, .error .invalidKey)
    else
      match c.reply with
      | .error err => (s, .error err)
      | .ok none => (s, .error .invalidResponse)
      | .ok (some (key, state)) =>
        if !validKey key || key ≠ c.key then (s, .error .invalidResponse)
        else
          match validateState state m.maxPayloadBytes with
          | some err => (s, .error err)
          | none =>
            let result : Snapshot := ⟨c.key, c.target, c.now, cloneState state⟩
            match validateSnapshot result m.maxPayloadBytes with
            | some err => (s, .error err)
            | none =>
              match s.save c.saveCtx (cloneSnapshot result) with
              | (s, .error err) => (s, .error err)
              | (s, .ok canonical) => (s, m.canonical result canonical)

/-- `Load` of a Manager. -/
def Manager.load (m : Manager) (s : Store) (ctx storeCtx : Option Err) (key : Key) :
    Except Err Snapshot :=
  match ctx with
  | some err => .error err
  | none =>
    if !validKey key then .error .invalidKey
    else
      match s.load storeCtx key with
      | .error err => .error err
      | .ok result =>
        if result.key ≠ key then .error .invalidResponse
        else
          match validateSnapshot result m.maxPayloadBytes with
          | some err => .error err
          | none => .ok (cloneSnapshot result)

/-! ### Runs -/

/-- The operations. -/
inductive Action
  | save (ctx : Option Err) (candidate : Snapshot)
  | load (ctx : Option Err) (key : Key)
  | capture (m : Manager) (c : Capture)
  | managerLoad (m : Manager) (ctx storeCtx : Option Err) (key : Key)

/-- What an operation does and returns. -/
def perform (s : Store) : Action → Store × Except Err Snapshot
  | .save ctx candidate => s.save ctx candidate
  | .load ctx key => (s, s.load ctx key)
  | .capture m c => m.capture s c
  | .managerLoad m ctx storeCtx key => (s, m.load s ctx storeCtx key)

/-- The store. -/
def system : System Store Action where
  init s := s = fun _ => none
  step s a := some (perform s a).1

/-- The snapshot that an operation saves, if it gets that far. -/
def Action.candidate : Action → Option Snapshot
  | .save _ candidate => some candidate
  | .capture _ c =>
    match c.reply with
    | .ok (some (_, state)) => some ⟨c.key, c.target, c.now, state⟩
    | _ => none
  | _ => none

/-- The operation loads a key. -/
def Action.Loads (key : Key) : Action → Prop
  | .load _ k | .managerLoad _ _ _ k => k = key
  | _ => False

/-- The first snapshot is older than the second, or it is the second. -/
def Snapshot.before (x y : Snapshot) : Prop := x.state.revision < y.state.revision ∨ x = y

/-- What an accepted snapshot does: the one that is returned is kept, has the state of the accepted
one, and is not older than the one before. -/
structure Accepted (s : Store) (candidate : Snapshot) (s' : Store) (x : Snapshot) : Prop where
  store : s' = Function.update s candidate.key (some x)
  key : x.key = candidate.key
  equal : equalState candidate.state x.state = true
  before : ∀ y, s candidate.key = some y → y.before x
  /-- it is the accepted one or it was kept before -/
  origin : x = candidate ∧ validateSnapshot candidate 0 = none ∨ s candidate.key = some x

section

variable {s s' : Store} {x y z : Snapshot} {m : Manager} {key : Key} {a : Action}

theorem Snapshot.before_trans (h : x.before y) (h' : y.before z) : x.before z := by
  rcases h with h | rfl
  · rcases h' with h' | rfl
    · exact .inl (UInt64.lt_trans h h')
    · exact .inl h
  · exact h'

theorem equalState_iff {a b : State} : equalState a b = true ↔
    a.schema = b.schema ∧ a.version = b.version ∧ a.revision = b.revision ∧
      a.payload.elems = b.payload.elems := by
  simp [equalState, and_assoc]

/-- Every kept snapshot is under its key and is valid. -/
def Sound (s : Store) : Prop := ∀ key x, s key = some x → x.key = key ∧ validateSnapshot x 0 = none

/-- **A save is accepted or changes nothing.** -/
theorem Accepted.of_save (hs : Sound s) (ctx : Option Err) (candidate : Snapshot) :
    (∃ err, s.save ctx candidate = (s, .error err)) ∨
      ∃ s' x, s.save ctx candidate = (s', .ok x) ∧ Accepted s candidate s' x := by
  have hself : equalState candidate.state candidate.state = true := by simp [equalState]
  simp only [Store.save, cloneSnapshot_eq]
  split
  · exact .inl ⟨_, rfl⟩
  · split
    · exact .inl ⟨_, rfl⟩
    · next hv =>
      split
      · next hnone =>
        refine .inr ⟨_, _, rfl, rfl, rfl, hself, fun y hy => ?_, .inl ⟨rfl, hv⟩⟩
        rw [hnone] at hy
        cases hy
      · next current hcur =>
        split
        · next hlt =>
          refine .inr ⟨_, _, rfl, rfl, rfl, hself, fun y hy => ?_, .inl ⟨rfl, hv⟩⟩
          rw [hcur] at hy
          cases hy
          exact .inl hlt
        · split
          · exact .inl ⟨_, rfl⟩
          · split
            · next heq =>
              refine .inr ⟨_, _, rfl, ?_, (hs _ _ hcur).1, heq, fun y hy => ?_, .inr hcur⟩
              · rw [← hcur, Function.update_eq_self]
              · rw [hcur] at hy
                cases hy
                exact .inr rfl
            · exact .inl ⟨_, rfl⟩

theorem Accepted.sound (h : Accepted s z s' x) (hs : Sound s) : Sound s' := by
  intro key y hy
  rw [h.store, Function.update_apply] at hy
  split at hy
  · next hkey =>
    cases hy
    rcases h.origin with ⟨rfl, hv⟩ | hk
    · exact ⟨hkey.symm, hv⟩
    · exact hkey ▸ hs _ _ hk
  · exact hs key y hy

/-- What a limit adds to the validation of a snapshot. -/
theorem validateSnapshot_limit {n : ℕ} (hn : 0 < n) : validateSnapshot x n = none ↔
    validateSnapshot x 0 = none ∧ x.state.payload.len ≤ n := by
  simp only [validateSnapshot, validateState]
  grind

/-- `Capture` fails without saving, or it is a save of the answer it got: its last checks pass. -/
theorem capture_cases (hs : Sound s) (c : Capture) :
    (∃ err, m.capture s c = (s, .error err)) ∨
      ∃ candidate, (Action.capture m c).candidate = some candidate ∧
        m.capture s c = s.save c.saveCtx candidate := by
  simp only [Manager.capture, cloneSnapshot_eq]
  split
  · exact .inl ⟨_, rfl⟩
  · repeat' split
    all_goals try exact .inl ⟨_, rfl⟩
    · next key state hreply _ _ _ _ _ _ s' err hsave =>
      simp only [cloneState, Slice.remake_eq] at hsave
      exact .inr ⟨⟨c.key, c.target, c.now, state⟩, by simp [Action.candidate, hreply], hsave.symm⟩
    · next key state hreply _ _ _ _ hvalid _ s' x hsave =>
      simp only [cloneState, Slice.remake_eq] at hsave hvalid
      refine .inr ⟨⟨c.key, c.target, c.now, state⟩, by simp [Action.candidate, hreply], ?_⟩
      rw [hsave]
      rcases Accepted.of_save hs c.saveCtx ⟨c.key, c.target, c.now, state⟩ with
        ⟨err, h⟩ | ⟨s'', y, h, ha⟩
      · cases h.symm.trans hsave
      · cases h.symm.trans hsave
        have hv := (ha.sound hs c.key x (by rw [ha.store, Function.update_self])).2
        have hlen := ((validateSnapshot_limit m.pos).mp hvalid).2
        have heq := equalState_iff.mp ha.equal
        have hlim :=
          (validateSnapshot_limit m.pos).mpr ⟨hv, by rw [Slice.len, ← heq.2.2.2]; exact hlen⟩
        have hsym : equalState x.state state = true :=
          equalState_iff.mpr ⟨heq.1.symm, heq.2.1.symm, heq.2.2.1.symm, heq.2.2.2.symm⟩
        simp [Manager.canonical, ha.key, cloneState, hsym, hlim]

/-- What the store returns for a key is what it has under it. -/
theorem load_ok (hs : Sound s) {ctx : Option Err} (h : s.load ctx key = .ok y) :
    y.key = key ∧ s y.key = some y := by
  simp only [Store.load, cloneSnapshot_eq] at h
  repeat' split at h
  all_goals cases h
  next hkey =>
    have hy := (hs _ _ hkey).1
    exact ⟨hy, by rw [hy, hkey]⟩

/-- What a Manager loads is what the store returns. -/
theorem managerLoad_ok {ctx storeCtx : Option Err} (h : m.load s ctx storeCtx key = .ok y) :
    s.load storeCtx key = .ok y := by
  simp only [Manager.load, cloneSnapshot_eq] at h
  repeat' split at h
  all_goals cases h
  next hload _ _ => exact hload

/-- A load of a key returns a snapshot of that key. -/
theorem key_of_loads (hs : Sound s) (ha : a.Loads key) (h : (perform s a).2 = .ok y) :
    y.key = key := by
  cases a with
  | load ctx k => exact (load_ok hs h).1.trans ha
  | managerLoad m ctx storeCtx k => exact (load_ok hs (managerLoad_ok h)).1.trans ha
  | save => exact ha.elim
  | capture => exact ha.elim

/-- What any operation does: nothing to the store, or it saves a snapshot that is accepted. What it
returns is what the store has then. -/
theorem perform_cases (hs : Sound s) (a : Action) :
    (perform s a).1 = s ∧ (∀ y, (perform s a).2 = .ok y → a.candidate = none ∧ s y.key = some y) ∨
      ∃ candidate x, a.candidate = some candidate ∧ (perform s a).2 = .ok x ∧
        Accepted s candidate (perform s a).1 x := by
  have hsave : ∀ {ctx candidate}, perform s a = s.save ctx candidate →
    a.candidate = some candidate →
      (perform s a).1 = s ∧ (∀ y, (perform s a).2 = .ok y → a.candidate = none ∧ s y.key = some y) ∨
        ∃ candidate x, a.candidate = some candidate ∧ (perform s a).2 = .ok x ∧
          Accepted s candidate (perform s a).1 x := by
    intro ctx candidate hp hc
    rw [hp]
    rcases Accepted.of_save hs ctx candidate with ⟨err, h⟩ | ⟨s', x, h, ha⟩
    · rw [h]
      exact .inl ⟨rfl, nofun⟩
    · rw [h]
      exact .inr ⟨candidate, x, hc, rfl, ha⟩
  cases a with
  | save ctx candidate => exact hsave rfl rfl
  | load ctx key => exact .inl ⟨rfl, fun y hy => ⟨rfl, (load_ok hs hy).2⟩⟩
  | managerLoad m ctx storeCtx key =>
    exact .inl ⟨rfl, fun y hy => ⟨rfl, (load_ok hs (managerLoad_ok hy)).2⟩⟩
  | capture m c =>
    rcases capture_cases (m := m) hs c with ⟨err, h⟩ | ⟨candidate, hc, h⟩
    · exact .inl ⟨by rw [perform, h], by rw [perform, h]; nofun⟩
    · exact hsave h hc

theorem perform_sound (hs : Sound s) (a : Action) : Sound (perform s a).1 := by
  rcases perform_cases hs a with ⟨h, -⟩ | ⟨candidate, x, -, -, h⟩
  · rwa [h]
  · exact h.sound hs

theorem Accepted.later (h : Accepted s z s' x) (hy : s y.key = some y) :
    ∃ w, s' y.key = some w ∧ y.before w := by
  by_cases hkey : y.key = z.key
  · refine ⟨x, by rw [h.store, hkey, Function.update_self], ?_⟩
    exact h.before y (hkey ▸ hy)
  · exact ⟨y, by rw [h.store, Function.update_of_ne hkey, hy], .inr rfl⟩

/-- What is returned is kept then. -/
theorem kept_of_ok (hs : Sound s) (h : (perform s a).2 = .ok x) :
    (perform s a).1 x.key = some x := by
  rcases perform_cases hs a with ⟨he, hr⟩ | ⟨candidate, y, -, hy, ha⟩
  · rw [he]
    exact (hr x h).2
  · rw [h] at hy
    cases hy
    rw [ha.store, ha.key, Function.update_self]

/-- What an operation returns is not older than what was kept before. -/
theorem before_of_ok (hs : Sound s) (h : (perform s a).2 = .ok x) (hy : s x.key = some y) :
    y.before x := by
  rcases perform_cases hs a with ⟨-, hr⟩ | ⟨candidate, z, -, hz, ha⟩
  · rw [(hr x h).2] at hy
    cases hy
    exact .inr rfl
  · rw [h] at hz
    cases hz
    exact ha.before y (ha.key ▸ hy)

/-- **What is kept is replaced by something newer only**, over any number of operations. -/
theorem steps_before {as : List Action} {t : Store} (hs : Sound s) (h : system.Steps s as t)
    (hy : s y.key = some y) : Sound t ∧ ∃ w, t y.key = some w ∧ y.before w := by
  induction as generalizing s y with
  | nil =>
    cases h
    exact ⟨hs, y, hy, .inr rfl⟩
  | cons a as ih =>
    obtain ⟨u, hu, htail⟩ := h
    cases hu
    have hsound := perform_sound hs a
    obtain ⟨w, hw, hyw⟩ : ∃ w, (perform s a).1 y.key = some w ∧ y.before w := by
      rcases perform_cases hs a with ⟨h, -⟩ | ⟨candidate, x, -, -, h⟩
      · exact ⟨y, by rw [h, hy], .inr rfl⟩
      · exact h.later hy
    obtain hkey := (hsound _ _ hw).1
    obtain ⟨ht, v, hv, hwv⟩ := ih hsound htail (hkey ▸ hw)
    exact ⟨ht, v, hkey ▸ hv, Snapshot.before_trans hyw hwv⟩

/-- What an operation returns is not older than what an earlier one has returned. -/
theorem before_of_later {as : List Action} {t : Store} {a a' : Action} (hs : Sound s)
    (hx : (perform s a).2 = .ok x) (hrun : system.Steps (perform s a).1 as t)
    (hy : (perform t a').2 = .ok y) (hkey : a'.Loads x.key ∨ x.key = y.key) : x.before y := by
  obtain ⟨ht, w, hw, hxw⟩ := steps_before (perform_sound hs a) hrun (kept_of_ok hs hx)
  have hkey : x.key = y.key := hkey.elim (fun hload => (key_of_loads ht hload hy).symm) id
  exact Snapshot.before_trans hxw (before_of_ok ht hy (hkey ▸ hw))

/-- A Manager loads what is kept and within its limit. -/
theorem load_of_kept (hs : Sound s) (hx : s key = some x)
    (hlen : x.state.payload.len ≤ m.maxPayloadBytes) : m.load s none none key = .ok x := by
  obtain ⟨rfl, hv⟩ := hs key x hx
  have hkey : validKey x.key = true := by
    by_contra hc
    simp [validateSnapshot, Bool.eq_false_iff.mpr hc] at hv
  have hvm := (validateSnapshot_limit m.pos).mpr ⟨hv, hlen⟩
  simp [Manager.load, Store.load, hkey, hx, hvm]

end

/-- The snapshots that are saved keep to a Manager's limit. -/
def Manager.Respected (m : Manager) (_ : Store) (a : Action) : Prop :=
  ∀ candidate, a.candidate = some candidate → candidate.state.payload.len ≤ m.maxPayloadBytes

/-- An operation saves a snapshot and it is accepted. -/
def Saves (s : Store) (a : Action) (candidate : Snapshot) : Prop :=
  a.candidate = some candidate ∧ ∃ x, (perform s a).2 = .ok x

variable {s : Store}

/-- A snapshot that is accepted is returned, with its key and state. -/
theorem Saves.returned {a : Action} {c : Snapshot} (h : Saves s a c) (hs : Sound s) :
    ∃ x, (perform s a).2 = .ok x ∧ x.key = c.key ∧ equalState c.state x.state = true := by
  obtain ⟨hc, x, hx⟩ := h
  rcases perform_cases hs a with ⟨-, hr⟩ | ⟨candidate, y, hc', hy, ha⟩
  · rw [(hr x hx).1] at hc
    cases hc
  · rw [hc] at hc'
    cases hc'
    exact ⟨y, hy, ha.key, ha.equal⟩

/-- **One revision has one state.** -/
theorem Saves.equalState {s t : Store} {a a' : Action} {c c' : Snapshot} {as : List Action}
    (hs : Sound s) (h : Saves s a c) (hrun : system.Steps (perform s a).1 as t) (h' : Saves t a' c')
    (hkey : c.key = c'.key) (hrev : c.state.revision = c'.state.revision) :
    Snapshots.equalState c.state c'.state = true := by
  obtain ⟨x, hx, hxkey, hcx⟩ := h.returned hs
  obtain ⟨ht, -⟩ := steps_before (perform_sound hs a) hrun (kept_of_ok hs hx)
  obtain ⟨x', hx', hxkey', hcx'⟩ := h'.returned ht
  obtain ⟨hschema, hversion, hrevision, hpayload⟩ := equalState_iff.mp hcx
  obtain ⟨hschema', hversion', hrevision', hpayload'⟩ := equalState_iff.mp hcx'
  rcases before_of_later hs hx hrun hx' (.inr (by rw [hxkey, hxkey', hkey])) with hlt | rfl
  · rw [← hrevision, ← hrevision', hrev] at hlt
    exact absurd hlt (UInt64.lt_irrefl _)
  · exact equalState_iff.mpr ⟨hschema.trans hschema'.symm, hversion.trans hversion'.symm, hrev,
      hpayload.trans hpayload'.symm⟩

/-- The second snapshot is newer, or it is of the same revision and has the same state. -/
def NotOlder (x y : Snapshot) : Prop :=
  x.state.revision < y.state.revision ∨
    x.state.revision = y.state.revision ∧ equalState x.state y.state = true

theorem Snapshot.before.notOlder {x y : Snapshot} (h : x.before y) : NotOlder x y := by
  rcases h with h | rfl
  · exact .inl h
  · exact .inr ⟨rfl, by simp [equalState]⟩

theorem sound_reachable {ok : Store → Action → Prop} (h : system.ReachableUnder ok s) :
    Sound s := by
  refine h.invariant (I := Sound) ?_ fun s a s' hI _ hs => ?_
  · rintro s rfl
    nofun
  · cases hs
    exact perform_sound hI a

/-- Under a limit that is respected, what is kept is within it. -/
theorem limit_reachable {m : Manager} (h : system.ReachableUnder m.Respected s) :
    ∀ key x, s key = some x → x.state.payload.len ≤ m.maxPayloadBytes := by
  refine h.invariant_of (I := fun s => ∀ key x, s key = some x →
    x.state.payload.len ≤ m.maxPayloadBytes) (J := Sound) (fun s hs => sound_reachable hs) ?_ ?_
  · rintro s rfl
    nofun
  · intro s a s' hI hs _ hok hstep key x hx
    cases hstep
    rcases perform_cases hs a with ⟨h, -⟩ | ⟨candidate, y, hc, -, ha⟩
    · exact hI key x (h ▸ hx)
    · rw [ha.store, Function.update_apply] at hx
      split at hx
      · cases hx
        rcases ha.origin with ⟨rfl, -⟩ | hk
        · exact hok _ hc
        · exact hI _ _ hk
      · exact hI key x hx

/-- **Snapshots never go back.** From any state that is reached, over any number of operations: the
snapshot kept under a key is replaced by a newer one only; saves that were accepted for one revision
of a key have the same state; an operation that fails changes nothing; and what a load of a key, or
any other operation, returns for the key is not older than what an earlier one has returned for it.
A Manager whose limit all savers keep to loads every key that is kept, unless it finds its context
expired. -/
theorem snapshots_never_go_back {s : Store} (h : system.Reachable s) :
    (∀ as t key x, system.Steps s as t → s key = some x → ∃ y, t key = some y ∧ NotOlder x y) ∧
    (∀ a c as t a' c', Saves s a c → system.Steps (perform s a).1 as t → Saves t a' c' →
      c.key = c'.key → c.state.revision = c'.state.revision → equalState c.state c'.state = true) ∧
    (∀ a err, (perform s a).2 = .error err → (perform s a).1 = s) ∧
    (∀ a x as t a' y, (perform s a).2 = .ok x → system.Steps (perform s a).1 as t →
      (perform t a').2 = .ok y → a'.Loads x.key ∨ x.key = y.key → NotOlder x y) ∧
    ∀ m : Manager, system.ReachableUnder m.Respected s → ∀ key x, s key = some x →
      m.load s none none key = .ok x := by
  have hs := sound_reachable h
  refine ⟨fun as t key x hrun hx => ?_, fun a c as t a' c' hc hrun => hc.equalState hs hrun,
    fun a err herr => ?_, fun a x as t a' y hx hrun hy hkey =>
      (before_of_later hs hx hrun hy hkey).notOlder,
    fun m hm key x hx => load_of_kept hs hx (limit_reachable hm key x hx)⟩
  · obtain rfl := (hs key x hx).1
    obtain ⟨-, y, hy, hxy⟩ := steps_before hs hrun hx
    exact ⟨y, hy, hxy.notOlder⟩
  · rcases perform_cases hs a with ⟨h, -⟩ | ⟨-, x, -, hx, -⟩
    · exact h
    · rw [herr] at hx
      cases hx

/-- A snapshot of a revision. -/
def sample (revision : UInt64) : Snapshot :=
  ⟨⟨[110], [105]⟩, ⟨[110], 1⟩, 1, ⟨[115], 1, revision, .of [7]⟩⟩

theorem snapshots_never_go_back_sample :
    system.Reachable (perform (fun _ => none) (.save none (sample 2))).1 ∧
    (perform (fun _ => none) (.save none (sample 2))).1 (sample 2).key = some (sample 2) ∧
    ∀ as t, system.Steps (perform (fun _ => none) (.save none (sample 2))).1 as t →
      ∃ y, t (sample 2).key = some y ∧ NotOlder (sample 2) y := by
  have hr : system.Reachable (perform (fun _ => none) (.save none (sample 2))).1 :=
    .step (.init rfl) trivial rfl
  have hx :
    (perform (fun _ => none) (.save none (sample 2))).1 (sample 2).key = some (sample 2) := by
    decide +kernel
  exact ⟨hr, hx, fun as t ht => (snapshots_never_go_back hr).1 as t _ _ ht hx⟩

end GameServiceRuntime.Snapshots
