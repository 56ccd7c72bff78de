import GameServiceRuntime.Lib.Table
import GameServiceRuntime.Lib.Transition
import GameServiceRuntime.Runtime.Ref

/-!
# The local registry

`localRegistry` has three maps: the instances by reference, the references by name, and the
tombstones of the instances that were removed. `CreateService` draws a reference and adds an
instance in two steps, so creations overtake each other; whoever wins the swap in `finalize` removes
the instance later. Every operation holds the mutex, and is one step.

Time is what the clock shows when an operation reads it, any number. In which order `cleanupLocked`
comes across the tombstones is up to the environment as well.
-/

namespace GameServiceRuntime.Runtime.Registry

/-- `localRegistry`. Of an instance only the name is used. -/
structure Maps where
  services : Table ServiceRef Text := ∅
  names : Table Text ServiceRef := ∅
  tombstones : Table ServiceRef ℤ := ∅

/-- The node, `tombstoneTTL` and `tombstoneLimit`. -/
structure Config where
  node : Text
  tombstoneTTL : ℤ
  tombstoneLimit : ℕ

/-- The second loop of `cleanupLocked`, which comes across these tombstones. -/
def evict (limit : ℕ) : List ServiceRef → Table ServiceRef ℤ → Option (Table ServiceRef ℤ)
  | [], t => if t.len ≤ limit then some t else none
  | ref :: refs, t => if limit < t.len ∧ ref ∈ t then evict limit refs (t.erase ref) else none

/-- `cleanupLocked` on the tombstones. -/
def cleanupLocked (cfg : Config) (now : ℤ) (refs : List ServiceRef) (t : Table ServiceRef ℤ) :
    Option (Table ServiceRef ℤ) :=
  evict cfg.tombstoneLimit refs (t.filter fun _ expires => now < expires)

/-- What a lookup returns. -/
inductive Lookup
  | found (name : Text)
  | serviceClosed
  | serviceNotFound
  deriving DecidableEq

section Operations

variable (cfg : Config)

/-- `add`; whether the name was free. -/
def add (m : Maps) (ref : ServiceRef) (name : Text) (now : ℤ) (refs : List ServiceRef) :
    Option (Maps × Bool) := do
  let m := { m with tombstones := ← cleanupLocked cfg now refs m.tombstones }
  if name ≠ [] then
    if name ∈ m.names then return (m, false)
    else
      return ({ m with names := m.names.insert name ref, services := m.services.insert ref name },
        true)
  else return ({ m with services := m.services.insert ref name }, true)

def get (m : Maps) (ref : ServiceRef) (now : ℤ) (refs : List ServiceRef) :
    Option (Maps × Lookup) := do
  let m := { m with tombstones := ← cleanupLocked cfg now refs m.tombstones }
  match m.services.lookup ref with
  | some name => return (m, .found name)
  | none => return (m, if ref ∈ m.tombstones then .serviceClosed else .serviceNotFound)

def resolve (m : Maps) (name : Text) : Option ServiceRef := m.names.lookup name

/-- `remove`; the clock is read twice. -/
def remove (m : Maps) (ref : ServiceRef) (now later : ℤ) (refs : List ServiceRef) :
    Option Maps := do
  let names := match m.services.lookup ref with
    | some name => if name ≠ [] then m.names.erase name else m.names
    | none => m.names
  let tombstones ←
    cleanupLocked cfg later refs (m.tombstones.insert ref (now + cfg.tombstoneTTL))
  return { services := m.services.erase ref, names := names, tombstones := tombstones }

end Operations

/-- How far a creation has come. -/
inductive Stage
  /-- the reference is drawn -/
  | drawn
  /-- `add` was successful -/
  | registered
  /-- the name was taken -/
  | refused
  /-- `finalize` has won the swap -/
  | finalizing
  | removed
  deriving DecidableEq

/-- A call of `CreateService` and its instance. -/
structure Creation where
  ref : ServiceRef := .zero
  name : Text := []
  stage : Stage := .drawn
  deriving DecidableEq

/-- The instance is in the registry. -/
def Creation.Held (c : Creation) : Prop := c.stage = .registered ∨ c.stage = .finalizing

/-- The registry, and every creation in the order in which the references were drawn. -/
structure State where
  nextID : UInt64 := 0
  maps : Maps := {}
  creations : ℕ → Creation := fun _ => {}
  count : ℕ := 0

/-- Change a creation. -/
def State.setStage (s : State) (c : ℕ) (stage : Stage) : State :=
  { s with creations := Function.update s.creations c { s.creations c with stage := stage } }

/-- `r.nextID.Add(1)` for a new creation. -/
def State.draw (cfg : Config) (s : State) (name : Text) : State :=
  let id := s.nextID + 1
  { s with
    nextID := id
    creations := Function.update s.creations s.count ⟨⟨cfg.node, id⟩, name, .drawn⟩
    count := s.count + 1 }

/-- What can happen. -/
inductive Action
  /-- `CreateService` draws a reference. -/
  | create (name : Text)
  /-- It adds the instance. -/
  | add (c : ℕ) (now : ℤ) (refs : List ServiceRef)
  /-- Somebody looks a reference up. -/
  | get (ref : ServiceRef) (now : ℤ) (refs : List ServiceRef)
  /-- Somebody looks a name up. -/
  | resolve (name : Text)
  /-- `finalize` wins the swap. -/
  | finalize (c : ℕ)
  /-- It removes the instance. -/
  | remove (c : ℕ) (now later : ℤ) (refs : List ServiceRef)

/-- The effect of an action, if it is enabled. -/
def step (cfg : Config) (s : State) : Action → Option State
  | .create name => some (s.draw cfg name)
  | .add c now refs =>
    if c < s.count ∧ (s.creations c).stage = .drawn then
      (add cfg s.maps (s.creations c).ref (s.creations c).name now refs).map fun r =>
        { s.setStage c (if r.2 then .registered else .refused) with maps := r.1 }
    else none
  | .get ref now refs => (get cfg s.maps ref now refs).map fun r => { s with maps := r.1 }
  | .resolve _ => some s
  | .finalize c =>
    if c < s.count ∧ (s.creations c).stage = .registered then
      some (s.setStage c .finalizing)
    else none
  | .remove c now later refs =>
    if c < s.count ∧ (s.creations c).stage = .finalizing then
      (remove cfg s.maps (s.creations c).ref now later refs).map fun m =>
        { s.setStage c .removed with maps := m }
    else none

/-- A Runtime that has created nothing. -/
def system (cfg : Config) : System State Action where
  init s := s = {}
  step := step cfg

/-- Fewer than `2 ^ 64` creations. -/
def Fewer (s : State) : Action → Prop
  | .create _ => s.count + 1 < 2 ^ 64
  | _ => True

instance : ∀ s a, Decidable (Fewer s a)
  | s, .create _ => inferInstanceAs (Decidable (s.count + 1 < 2 ^ 64))
  | _, .add .. | _, .get .. | _, .resolve .. | _, .finalize .. | _, .remove .. => .isTrue trivial

/-! ### What the operations do -/

section Operations

variable {cfg : Config} {m m' : Maps}

variable {refs : List ServiceRef} {now : ℤ}

theorem evict_spec {limit : ℕ} {t t' : Table ServiceRef ℤ}
    (h : evict limit refs t = some t') : t'.len ≤ limit ∧ ∀ ref ∈ t', ref ∈ t := by
  induction refs generalizing t with
  | nil =>
    rw [evict, Option.ite_none_right_eq_some] at h
    obtain ⟨hlen, ht⟩ := h
    cases ht
    exact ⟨hlen, fun _ => id⟩
  | cons ref refs ih =>
    rw [evict, Option.ite_none_right_eq_some] at h
    obtain ⟨hlen, hmem⟩ := ih h.2
    exact ⟨hlen, fun r hr => (AList.mem_erase.1 (hmem r hr)).2⟩

/-- `cleanupLocked` keeps the limit and adds no tombstone. -/
theorem cleanupLocked_spec {t t' : Table ServiceRef ℤ}
    (h : cleanupLocked cfg now refs t = some t') :
    t'.len ≤ cfg.tombstoneLimit ∧ ∀ ref ∈ t', ref ∈ t := by
  obtain ⟨hlen, hmem⟩ := evict_spec h
  refine ⟨hlen, fun ref hr => ?_⟩
  have hfiltered := AList.lookup_isSome.2 (hmem ref hr)
  rw [Table.lookup_filter, Option.isSome_iff_exists] at hfiltered
  obtain ⟨expires, hexpires⟩ := hfiltered
  rw [← AList.lookup_isSome, (Option.filter_eq_some_iff.1 hexpires).1]
  rfl

variable {ref : ServiceRef}

/-- `add` adds the instance and its name, or nothing at all. -/
theorem add_spec {name : Text} {ok : Bool} (h : add cfg m ref name now refs = some (m', ok)) :
    cleanupLocked cfg now refs m.tombstones = some m'.tombstones ∧
      (ok = false ∧ m'.services = m.services ∧ m'.names = m.names ∨
        ok = true ∧ m'.services = m.services.insert ref name ∧
          (name = [] ∧ m'.names = m.names ∨
            name ≠ [] ∧ name ∉ m.names ∧ m'.names = m.names.insert name ref)) := by
  simp only [add, Option.bind_eq_bind, Option.bind_eq_some_iff] at h
  obtain ⟨t, ht, h⟩ := h
  by_cases hname : name = []
  · rw [if_neg (not_not.2 hname)] at h
    cases h
    exact ⟨ht, .inr ⟨rfl, rfl, .inl ⟨hname, rfl⟩⟩⟩
  · rw [if_pos hname] at h
    by_cases hmem : name ∈ m.names
    · rw [if_pos hmem] at h
      cases h
      exact ⟨ht, .inl ⟨rfl, rfl, rfl⟩⟩
    · rw [if_neg hmem] at h
      cases h
      exact ⟨ht, .inr ⟨rfl, rfl, .inr ⟨hname, hmem, rfl⟩⟩⟩

/-- `get` changes nothing but tombstones, and says that a Service is closed only of one of those. -/
theorem get_spec {result : Lookup} (h : get cfg m ref now refs = some (m', result)) :
    cleanupLocked cfg now refs m.tombstones = some m'.tombstones ∧ m'.services = m.services ∧
      m'.names = m.names ∧ (result = .serviceClosed → ref ∈ m'.tombstones) := by
  simp only [get, Option.bind_eq_bind, Option.bind_eq_some_iff] at h
  obtain ⟨t, ht, h⟩ := h
  cases hservice : m.services.lookup ref with
  | some name =>
    simp only [hservice] at h
    cases h
    exact ⟨ht, rfl, rfl, nofun⟩
  | none =>
    simp only [hservice] at h
    cases h
    refine ⟨ht, rfl, rfl, fun hclosed => ?_⟩
    by_contra hmem
    rw [if_neg hmem] at hclosed
    cases hclosed

/-- `remove` of an instance with a name. -/
theorem remove_spec {now later : ℤ} {name : Text}
    (h : remove cfg m ref now later refs = some m') (hservice : m.services.lookup ref = some name) :
    cleanupLocked cfg later refs (m.tombstones.insert ref (now + cfg.tombstoneTTL)) =
        some m'.tombstones ∧ m'.services = m.services.erase ref ∧
      m'.names = if name ≠ [] then m.names.erase name else m.names := by
  simp only [remove, hservice, Option.bind_eq_bind, Option.bind_eq_some_iff] at h
  obtain ⟨t, ht, h⟩ := h
  cases h
  exact ⟨ht, rfl, rfl⟩

end Operations

/-! ### Runs -/

/-- The registry has the creation's instance under this reference and name. -/
def State.Holds (s : State) (ref : ServiceRef) (name : Text) : Prop :=
  ∃ c < s.count, (s.creations c).ref = ref ∧ (s.creations c).name = name ∧ (s.creations c).Held

/-- The instance with this reference was registered and has been removed. -/
def State.Removed (s : State) (ref : ServiceRef) : Prop :=
  ∃ c < s.count, (s.creations c).ref = ref ∧ (s.creations c).stage = .removed

/-- What holds between the operations. -/
structure Inv (cfg : Config) (s : State) : Prop where
  next : s.nextID.toNat = s.count
  refs : ∀ c < s.count, (s.creations c).ref = ⟨cfg.node, UInt64.ofNat (c + 1)⟩
  services : ∀ ref name, s.maps.services.lookup ref = some name ↔ s.Holds ref name
  names : ∀ name ref, s.maps.names.lookup name = some ref ↔
    name ≠ [] ∧ s.maps.services.lookup ref = some name
  tombstones : ∀ ref ∈ s.maps.tombstones, s.Removed ref
  limit : s.maps.tombstones.len ≤ cfg.tombstoneLimit

section Runs

variable {cfg : Config} {s s' : State} {c : ℕ}

theorem setStage_creations (s : State) (c d : ℕ) (stage : Stage) :
    (s.setStage c stage).creations d =
      if d = c then { s.creations c with stage := stage } else s.creations d :=
  Function.update_apply ..

@[simp] theorem setStage_ref (s : State) (c d : ℕ) (stage : Stage) :
    ((s.setStage c stage).creations d).ref = (s.creations d).ref := by
  rw [setStage_creations]
  split_ifs with h
  · rw [h]
  · rfl

@[simp] theorem setStage_name (s : State) (c d : ℕ) (stage : Stage) :
    ((s.setStage c stage).creations d).name = (s.creations d).name := by
  rw [setStage_creations]
  split_ifs with h
  · rw [h]
  · rfl

theorem setStage_stage (s : State) (c d : ℕ) (stage : Stage) :
    ((s.setStage c stage).creations d).stage = if d = c then stage else (s.creations d).stage := by
  rw [setStage_creations]
  split_ifs <;> rfl

theorem Inv.ref_injective (h : Inv cfg s) {d : ℕ} (hc : c < s.count) (hd : d < s.count)
    (href : (s.creations c).ref = (s.creations d).ref) : c = d := by
  have hlt : s.count < 2 ^ 64 := h.next ▸ s.nextID.toNat_lt
  rw [h.refs c hc, h.refs d hd, ServiceRef.mk.injEq] at href
  have hnat := congrArg UInt64.toNat href.2
  rw [UInt64.toNat_ofNat', UInt64.toNat_ofNat'] at hnat
  omega

variable {stage : Stage} {ref : ServiceRef}

/-- What a stage that does not add or remove an instance leaves as it is. -/
theorem holds_setStage_of_iff {name : Text}
    (hstage : (stage = .registered ∨ stage = .finalizing) ↔ (s.creations c).Held) :
    (s.setStage c stage).Holds ref name ↔ s.Holds ref name := by
  refine exists_congr fun d => and_congr_right fun _ => ?_
  rw [setStage_ref, setStage_name, Creation.Held, setStage_stage]
  split_ifs with h
  · rw [h, hstage]
  · rfl

/-- An instance that comes in, or one that goes out. -/
theorem Inv.holds_setStage (h : Inv cfg s) (hc : c < s.count) (ref : ServiceRef)
    (name : Text) :
    (s.setStage c stage).Holds ref name ↔
      if ref = (s.creations c).ref then
        name = (s.creations c).name ∧ (stage = .registered ∨ stage = .finalizing)
      else s.Holds ref name := by
  constructor
  · rintro ⟨d, hd, rfl, rfl, hheld⟩
    rw [setStage_ref, setStage_name]
    rw [Creation.Held, setStage_stage] at hheld
    by_cases hdc : d = c
    · subst hdc
      rw [if_pos rfl] at hheld ⊢
      exact ⟨rfl, hheld⟩
    · rw [if_neg hdc] at hheld
      rw [if_neg fun href => hdc (h.ref_injective hd hc href)]
      exact ⟨d, hd, rfl, rfl, hheld⟩
  · split_ifs with href
    · rintro ⟨rfl, hstage⟩
      refine ⟨c, hc, by rw [setStage_ref, href], setStage_name .., ?_⟩
      rwa [Creation.Held, setStage_stage, if_pos rfl]
    · rintro ⟨d, hd, rfl, rfl, hheld⟩
      refine ⟨d, hd, setStage_ref .., setStage_name .., ?_⟩
      rwa [Creation.Held, setStage_stage, if_neg fun hdc => href (by rw [hdc])]

theorem removed_setStage (hstage : (s.creations c).stage ≠ .removed)
    (h : s.Removed ref) : (s.setStage c stage).Removed ref := by
  obtain ⟨d, hd, href, hremoved⟩ := h
  refine ⟨d, hd, by rw [setStage_ref, href], ?_⟩
  rwa [setStage_stage, if_neg]
  rintro rfl
  exact hstage hremoved

variable {refs : List ServiceRef} {m : Maps}

theorem Inv.cleanup (h : Inv cfg s) {now : ℤ}
    (hclean : cleanupLocked cfg now refs s.maps.tombstones = some m.tombstones)
    (hservices : m.services = s.maps.services) (hnames : m.names = s.maps.names) :
    Inv cfg { s with maps := m } := by
  obtain ⟨hlen, hmem⟩ := cleanupLocked_spec hclean
  refine ⟨h.next, h.refs, ?_, ?_, fun ref hr => h.tombstones ref (hmem ref hr), hlen⟩
  · rw [hservices]
    exact h.services
  · rw [hservices, hnames]
    exact h.names

theorem draw_creations_of_lt {d : ℕ} (hd : d < s.count) (name : Text) :
    (s.draw cfg name).creations d = s.creations d :=
  Function.update_of_ne hd.ne ..

theorem draw_creations_count (cfg : Config) (s : State) (name : Text) :
    (s.draw cfg name).creations s.count = ⟨⟨cfg.node, s.nextID + 1⟩, name, .drawn⟩ :=
  Function.update_self ..

theorem Inv.draw (h : Inv cfg s) (name : Text) (hfewer : s.count + 1 < 2 ^ 64) :
    Inv cfg (s.draw cfg name) := by
  have hnext : (s.nextID + 1).toNat = s.count + 1 := by
    rw [UInt64.toNat_add, h.next]
    exact Nat.mod_eq_of_lt hfewer
  refine ⟨hnext, fun d hd => ?_, fun ref n => ?_, h.names, fun ref hr => ?_, h.limit⟩
  · rcases Nat.lt_succ_iff_lt_or_eq.1 hd with hd | rfl
    · rw [draw_creations_of_lt hd]
      exact h.refs d hd
    · rw [draw_creations_count, ← hnext, UInt64.ofNat_toNat]
  · refine (h.services ref n).trans ⟨?_, ?_⟩
    · rintro ⟨d, hd, hheld⟩
      refine ⟨d, Nat.lt_succ_of_lt hd, ?_⟩
      rwa [draw_creations_of_lt hd]
    · rintro ⟨d, hd, hheld⟩
      rcases Nat.lt_succ_iff_lt_or_eq.1 hd with hd | rfl
      · rw [draw_creations_of_lt hd] at hheld
        exact ⟨d, hd, hheld⟩
      · rw [draw_creations_count] at hheld
        rcases hheld.2.2 with hstage | hstage <;> cases hstage
  · obtain ⟨d, hd, hremoved⟩ := h.tombstones ref hr
    refine ⟨d, Nat.lt_succ_of_lt hd, ?_⟩
    rwa [draw_creations_of_lt hd]

/-- A step that changes no map but the tombstones. -/
theorem Inv.setStage (h : Inv cfg s)
    (hremoved : (s.creations c).stage ≠ .removed)
    (hstage : (stage = .registered ∨ stage = .finalizing) ↔ (s.creations c).Held) :
    Inv cfg (s.setStage c stage) := by
  refine ⟨h.next, fun d hd => ?_, fun ref name => ?_, h.names, fun ref hr => ?_, h.limit⟩
  · rw [setStage_ref]
    exact h.refs d hd
  · rw [holds_setStage_of_iff hstage]
    exact h.services ref name
  · exact removed_setStage hremoved (h.tombstones ref hr)

theorem Inv.add (h : Inv cfg s) {now : ℤ} {ok : Bool} (hc : c < s.count)
    (hstage : (s.creations c).stage = .drawn)
    (hadd : add cfg s.maps (s.creations c).ref (s.creations c).name now refs = some (m, ok)) :
    Inv cfg { s.setStage c (if ok then .registered else .refused) with maps := m } := by
  have hremoved : (s.creations c).stage ≠ .removed := by
    rw [hstage]
    nofun
  obtain ⟨hclean, ⟨rfl, hservices, hnames⟩ | ⟨rfl, hservices, hnames⟩⟩ := add_spec hadd
  · refine (h.setStage hremoved ?_).cleanup hclean hservices hnames
    rw [Creation.Held, hstage]
    decide
  · obtain ⟨hlen, hmem⟩ := cleanupLocked_spec hclean
    -- the instance was not there before
    have hfresh : ∀ name, s.maps.services.lookup (s.creations c).ref ≠ some name := by
      intro name hsome
      obtain ⟨d, hd, href, -, hheld⟩ := (h.services _ _).1 hsome
      rw [h.ref_injective hd hc href, Creation.Held, hstage] at hheld
      rcases hheld with hheld | hheld <;> cases hheld
    refine ⟨h.next, fun d hd => ?_, fun ref name => ?_, fun name ref => ?_,
      fun ref hr => removed_setStage hremoved (h.tombstones ref (hmem ref hr)), hlen⟩
    · show ((s.setStage c _).creations d).ref = _
      rw [setStage_ref]
      exact h.refs d hd
    · show m.services.lookup ref = some name ↔ (s.setStage c .registered).Holds ref name
      rw [h.holds_setStage hc, hservices, Table.lookup_insert_ite]
      by_cases href : ref = (s.creations c).ref
      · rw [if_pos href, if_pos href, Option.some_inj, eq_comm, and_iff_left (.inl rfl)]
      · rw [if_neg href, if_neg href]
        exact h.services ref name
    · show m.names.lookup name = some ref ↔ name ≠ [] ∧ m.services.lookup ref = some name
      rw [hservices, Table.lookup_insert_ite]
      have hold := h.names name ref
      rcases hnames with ⟨hempty, hnames⟩ | ⟨hname, hfree, hnames⟩
      · rw [hnames, hold]
        split_ifs with href
        · rw [href, hempty, Option.some_inj]
          exact ⟨fun hboth => absurd hboth.2 (hfresh name),
            fun hboth => absurd hboth.2.symm hboth.1⟩
        · rfl
      · rw [hnames, Table.lookup_insert_ite]
        split_ifs with heq href href
        · rw [heq, href]
          exact ⟨fun _ => ⟨hname, rfl⟩, fun _ => rfl⟩
        · rw [heq, Option.some_inj]
          refine ⟨fun h' => absurd h'.symm href, fun hboth => absurd ?_ hfree⟩
          rw [← heq, ← AList.lookup_isSome, hold.2 (heq ▸ hboth)]
          rfl
        · rw [hold, href, Option.some_inj]
          exact ⟨fun hboth => absurd hboth.2 (hfresh name), fun hboth => absurd hboth.2.symm heq⟩
        · exact hold

theorem Inv.remove (h : Inv cfg s) {now later : ℤ} (hc : c < s.count)
    (hstage : (s.creations c).stage = .finalizing)
    (hremove : remove cfg s.maps (s.creations c).ref now later refs = some m) :
    Inv cfg { s.setStage c .removed with maps := m } := by
  have hservice : s.maps.services.lookup (s.creations c).ref = some (s.creations c).name :=
    (h.services _ _).2 ⟨c, hc, rfl, rfl, .inr hstage⟩
  obtain ⟨hclean, hservices, hnames⟩ := remove_spec hremove hservice
  obtain ⟨hlen, hmem⟩ := cleanupLocked_spec hclean
  refine ⟨h.next, fun d hd => ?_, fun ref name => ?_, fun name ref => ?_, fun ref hr => ?_, hlen⟩
  · show ((s.setStage c _).creations d).ref = _
    rw [setStage_ref]
    exact h.refs d hd
  · show m.services.lookup ref = some name ↔ (s.setStage c _).Holds ref name
    rw [h.holds_setStage hc, hservices, Table.lookup_erase_ite]
    split_ifs
    · simp only [or_self, and_false]
    · exact h.services ref name
  · show m.names.lookup name = some ref ↔ name ≠ [] ∧ m.services.lookup ref = some name
    rw [hservices, Table.lookup_erase_ite]
    -- only the instance that goes has its name
    have hname : name ≠ (s.creations c).name ∨ (s.creations c).name = [] →
        m.names.lookup name = s.maps.names.lookup name := by
      intro hor
      rw [hnames]
      split_ifs with hne
      · rw [Table.lookup_erase_ite, if_neg (hor.resolve_right hne)]
      · rfl
    split_ifs with href
    · simp only [and_false, iff_false]
      intro hsome
      by_cases heq : name = (s.creations c).name ∧ (s.creations c).name ≠ []
      · rw [hnames, if_pos heq.2, Table.lookup_erase_ite, if_pos heq.1] at hsome
        cases hsome
      · rw [hname (by tauto), h.names, href, hservice, Option.some_inj] at hsome
        exact heq ⟨hsome.2.symm, hsome.2 ▸ hsome.1⟩
    · by_cases heq : name = (s.creations c).name ∧ (s.creations c).name ≠ []
      · rw [hnames, if_pos heq.2, Table.lookup_erase_ite, if_pos heq.1]
        simp only [reduceCtorEq, false_iff, not_and]
        intro hne hlookup
        have hown := (h.names name (s.creations c).ref).2 ⟨hne, heq.1 ▸ hservice⟩
        have hother := (h.names name ref).2 ⟨hne, hlookup⟩
        exact href (Option.some_inj.1 (hother.symm.trans hown))
      · rw [hname (by tauto)]
        exact h.names name ref
  · have hor := AList.mem_insert _ |>.1 (hmem ref hr)
    rcases hor with rfl | hold
    · exact ⟨c, hc, setStage_ref .., by rw [setStage_stage, if_pos rfl]⟩
    · refine removed_setStage ?_ (h.tombstones ref hold)
      rw [hstage]
      nofun

theorem reachable_inv (h : (system cfg).ReachableUnder Fewer s) : Inv cfg s := by
  refine h.invariant ?_ ?_
  · rintro _ rfl
    refine ⟨rfl, nofun, fun ref name => ⟨nofun, ?_⟩, fun name ref => ⟨nofun, fun h => ?_⟩, nofun,
      Nat.zero_le _⟩
    · rintro ⟨d, hd, -⟩
      exact absurd hd (Nat.not_lt_zero d)
    · cases h.2
  · intro s a s' hinv hfewer hstep
    cases a with
    | create name =>
      cases hstep
      exact hinv.draw name hfewer
    | add c now refs =>
      obtain ⟨⟨hc, hstage⟩, hstep⟩ := Option.ite_none_right_eq_some.1 hstep
      obtain ⟨⟨m, ok⟩, hadd, rfl⟩ := Option.map_eq_some_iff.1 hstep
      exact hinv.add hc hstage hadd
    | get ref now refs =>
      obtain ⟨⟨m, result⟩, hget, rfl⟩ := Option.map_eq_some_iff.1 hstep
      obtain ⟨hclean, hservices, hnames, -⟩ := get_spec hget
      exact hinv.cleanup hclean hservices hnames
    | resolve name =>
      cases hstep
      exact hinv
    | finalize c =>
      obtain ⟨⟨hc, hstage⟩, hstep⟩ := Option.ite_none_right_eq_some.1 hstep
      cases hstep
      refine hinv.setStage ?_ ?_
      · rw [hstage]
        nofun
      · rw [Creation.Held, hstage]
        decide
    | remove c now later refs =>
      obtain ⟨⟨hc, hstage⟩, hstep⟩ := Option.ite_none_right_eq_some.1 hstep
      obtain ⟨m, hremove, rfl⟩ := Option.map_eq_some_iff.1 hstep
      exact hinv.remove hc hstage hremove

/-- The names that a step unbinds are those of the instance it removes. -/
theorem Inv.unbinds (h : Inv cfg s) {now later : ℤ} {name : Text}
    (hstep : step cfg s (.remove c now later refs) = some s')
    (hname : s.maps.names.lookup name = some ref) (href : ref ≠ (s.creations c).ref) :
    s'.maps.names.lookup name = some ref := by
  obtain ⟨⟨hc, hstage⟩, hstep⟩ := Option.ite_none_right_eq_some.1 hstep
  obtain ⟨m, hremove, rfl⟩ := Option.map_eq_some_iff.1 hstep
  have hinv := h.remove hc hstage hremove
  obtain ⟨hne, hservice⟩ := (h.names name ref).1 hname
  refine (hinv.names name ref).2 ⟨hne, (hinv.services ref name).2 ?_⟩
  show (s.setStage c .removed).Holds ref name
  rw [h.holds_setStage hc, if_neg href]
  exact (h.services ref name).1 hservice

/-- **The registry is consistent.** Names are bound to the instances that have them, references are
unique, the tombstones keep their limit, and only what was registered and removed is said to be
closed. -/
theorem registry_consistent (h : (system cfg).ReachableUnder Fewer s) :
    (∀ name ref, resolve s.maps name = some ref ↔ name ≠ [] ∧ s.Holds ref name) ∧
      (∀ name ref ref', name ≠ [] → s.Holds ref name → s.Holds ref' name → ref = ref') ∧
      (∀ c now later refs s', step cfg s (.remove c now later refs) = some s' →
        ∀ name ref, resolve s.maps name = some ref → ref ≠ (s.creations c).ref →
          resolve s'.maps name = some ref) ∧
      (∀ c < s.count, ∀ d < s.count, (s.creations c).ref = (s.creations d).ref → c = d) ∧
      s.maps.tombstones.len ≤ cfg.tombstoneLimit ∧
      ∀ ref now refs m, get cfg s.maps ref now refs = some (m, .serviceClosed) → s.Removed ref := by
  have hinv := reachable_inv h
  have hnames : ∀ name ref, resolve s.maps name = some ref ↔ name ≠ [] ∧ s.Holds ref name := by
    intro name ref
    rw [resolve, hinv.names, hinv.services]
  refine ⟨hnames, ?_, ?_, ?_, hinv.limit, ?_⟩
  · intro name ref ref' hne hholds hholds'
    have hbound := (hnames name ref).2 ⟨hne, hholds⟩
    have hbound' := (hnames name ref').2 ⟨hne, hholds'⟩
    exact Option.some_inj.1 (hbound.symm.trans hbound')
  · exact fun c now later refs s' hstep name ref hname href => hinv.unbinds hstep hname href
  · exact fun c hc d hd href => hinv.ref_injective hc hd href
  · intro ref now refs m hget
    obtain ⟨hclean, -, -, hclosed⟩ := get_spec hget
    exact hinv.tombstones ref ((cleanupLocked_spec hclean).2 ref (hclosed rfl))

/-- Two instances, of which one is removed. -/
theorem registry_consistent_sample :
    ∃ s, (system ⟨"local", 60, 1⟩).ReachableUnder Fewer s ∧
      resolve s.maps "battle" = some ⟨"local", 1⟩ ∧
      s.Holds ⟨"local", 1⟩ "battle" ∧
      s.Removed ⟨"local", 2⟩ := by
  obtain ⟨s, hs, hp⟩ :=
    System.exists_reachableUnder_of_run (system ⟨"local", 60, 1⟩) Fewer
    [.create "battle", .create "match", .add 1 0 [], .add 0 0 [],
      .finalize 1, .remove 1 3 3 []]
    (fun s => resolve s.maps "battle" = some ⟨"local", 1⟩ ∧
      (get ⟨"local", 60, 1⟩ s.maps ⟨"local", 2⟩ 5 []).map Prod.snd =
        some .serviceClosed) (s := {}) rfl (by decide +kernel)
  obtain ⟨hname, hlookup⟩ := of_decide_eq_true hp
  obtain ⟨⟨m, _⟩, hget, rfl⟩ := Option.map_eq_some_iff.1 hlookup
  obtain ⟨hnames, -, -, -, -, hclosed⟩ := registry_consistent hs
  exact ⟨s, hs, hname, ((hnames _ _).1 hname).2, hclosed _ _ _ m hget⟩

end Runs

end GameServiceRuntime.Runtime.Registry
