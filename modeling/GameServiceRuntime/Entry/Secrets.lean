import GameServiceRuntime.Entry.Types

/-!
# Buffers of secrets

`InMemorySessionRegistry` with the buffers that hold its secrets. `StoreSecret` copies a secret into
a new buffer; the buffer goes from the pending secret to the session without being copied, and
wherever an entry is removed its buffer is overwritten with zeros. `DiscardSecret` and `Revoke` do
that after they have released the mutex, so there is a moment when a buffer has been removed and
still holds the secret.

A buffer is a number here and its contents are looked up. What was copied into it is kept beside the
contents (`original`); no operation reads that. Nothing is assumed of the clock. A reference that is
drawn at random is assumed not to be that of a pending secret: if it were, the buffer of that secret
would be lost without being overwritten.
-/

namespace GameServiceRuntime.Entry.Secrets

/-- `secretMaterial` with the buffer of its secret. -/
structure Material where
  identity : AuthIdentity
  secret : ℕ
  expires : Time

/-- `sessionRecord` with the buffer of its secret. -/
structure Record where
  ticket : LoginTicket
  identity : AuthIdentity
  secret : ℕ
  lastSeq : UInt64 := 0
  connection : Text := []

/-- `InMemorySessionRegistry` and its buffers. -/
structure State where
  pending : Table Text Material := ∅
  sessions : Table SessionKey Record := ∅
  /-- The number of buffers made so far. -/
  copied : ℕ := 0
  heap : ℕ → Bytes := fun _ => []
  /-- What was copied into each buffer. -/
  original : ℕ → Bytes := fun _ => []
  /-- The buffers that were removed by operations that have still to overwrite them. -/
  zeroing : List ℕ := []

/-- `zero`, for some buffers. -/
def zero (heap : ℕ → Bytes) (buffers : List ℕ) : ℕ → Bytes := fun b =>
  if b ∈ buffers then List.replicate (heap b).length 0 else heap b

namespace State

variable (cfg : Config) (s : State)

/-- `pruneExpiredLocked` -/
def pruneExpired (now : Time) : State :=
  { s with
    pending := s.pending.filter fun _ material => now < material.expires
    sessions := s.sessions.filter fun _ record => now < record.ticket.expiresAt
    heap := zero s.heap
      ((s.pending.values.filter fun material => material.expires ≤ now).map Material.secret ++
        (s.sessions.values.filter fun record => record.ticket.expiresAt ≤ now).map Record.secret) }

def storeSecret (identity : AuthIdentity) (secret : Bytes) (expiresAt checked now : Time)
    (ref : Option Text) : State :=
  if !validIdentity identity || secret.length < 32 || expiresAt = 0 || expiresAt ≤ checked then s
  else
    let s := s.pruneExpired now
    if cfg.capacity ≤ s.pending.len + s.sessions.len then s
    else
      match ref with
      | none => s
      | some ref =>
        { s with
          pending := s.pending.insert ref ⟨identity, s.copied, expiresAt⟩
          copied := s.copied + 1
          heap := Function.update s.heap s.copied secret
          original := Function.update s.original s.copied secret }

/-- `DiscardSecret` up to where it overwrites the secret. -/
def discardSecret (ref : Text) : State :=
  match s.pending.lookup ref with
  | none => s
  | some material =>
    { s with pending := s.pending.erase ref, zeroing := material.secret :: s.zeroing }

/-- A session is dropped with its secret. -/
def dropSession (key : SessionKey) (record : Record) : State :=
  { s with sessions := s.sessions.erase key, heap := zero s.heap [record.secret] }

/-- The session of the previous ticket is dropped if it is still the one that ticket was issued
for. -/
def dropPrevious (previous : Option LoginTicket) : State :=
  match previous with
  | none => s
  | some previous =>
    match s.sessions.lookup previous.key with
    | none => s
    | some old =>
      if old.ticket.generation = previous.generation && old.ticket.subID = previous.subID then
        s.dropSession previous.key old
      else s

/-- The session that a new one overwrites is dropped. -/
def dropKey (key : SessionKey) : State :=
  match s.sessions.lookup key with
  | none => s
  | some old => s.dropSession key old

/-- `Replace`; `Issue` is the same without a previous ticket. -/
def replace (ticket : LoginTicket) (identity : AuthIdentity) (previous : Option LoginTicket)
    (now : Time) : State :=
  if !validTicket ticket || !validIdentity identity || ticket.server ≠ identity.server then s
  else if previous.any fun previous => !validTicket previous then s
  else
    match s.pending.lookup ticket.secretRef with
    | none => s
    | some material =>
      if material.identity ≠ identity || material.expires ≠ ticket.expiresAt then s
      else if ticket.expiresAt ≤ now then s
      else
        let s := (s.dropPrevious previous).dropKey ticket.key
        { s with
          pending := s.pending.erase ticket.secretRef
          sessions := s.sessions.insert ticket.key
            { ticket := ticket, identity := identity, secret := material.secret } }

def verifyAndBind (proof : GatewayProof) (connectionID : Text) (now : Time) : State :=
  if !validProofFields proof || !validText connectionID then s
  else
    match s.sessions.lookup proof.key with
    | none => s
    | some record =>
      if record.ticket.expiresAt ≤ now then s.dropSession proof.key record
      else if record.ticket.subID ≠ proof.subID || record.ticket.generation ≠ proof.generation ||
          !verifyGatewayProof cfg (s.heap record.secret) proof then s
      else if proof.sequence ≤ record.lastSeq then s
      else
        { s with
          sessions := s.sessions.insert proof.key
            { record with lastSeq := proof.sequence, connection := connectionID } }

def unbind (connectionID : Text) (generation : UInt64) : State :=
  if !validText connectionID || generation = 0 then s
  else
    { s with
      sessions := s.sessions.filterMap fun _ record =>
        some
          (if record.ticket.generation = generation ∧ record.connection = connectionID then
            { record with connection := [] }
          else record) }

/-- `Revoke` up to where it overwrites the secret. -/
def revoke (uid server : Text) (generation : UInt64) : State :=
  if !validText uid || !validText server || generation = 0 then s
  else
    match s.sessions.lookup ⟨uid, server⟩ with
    | none => s
    | some record =>
      if record.ticket.generation = generation then
        { s with
          sessions := s.sessions.erase ⟨uid, server⟩
          zeroing := record.secret :: s.zeroing }
      else s

end State

/-- The operations, with their readings of the clock. `zero` is the last part of a `DiscardSecret`
or `Revoke`. -/
inductive Action
  | storeSecret (identity : AuthIdentity) (secret : Bytes) (expiresAt checked now : Time)
      (ref : Option Text)
  | discardSecret (ref : Text)
  | current (identity : AuthIdentity) (now : Time)
  | replace (ticket : LoginTicket) (identity : AuthIdentity) (previous : Option LoginTicket)
      (now : Time)
  | verifyAndBind (proof : GatewayProof) (connectionID : Text) (now : Time)
  | isBound (identity : SessionIdentity) (connectionID : Text) (now : Time)
  | unbind (connectionID : Text) (generation : UInt64)
  | revoke (uid server : Text) (generation : UInt64)
  | connection (now : Time)
  | zero (b : ℕ)

/-- The effect of an operation. -/
def step (cfg : Config) (s : State) : Action → Option State
  | .storeSecret identity secret expiresAt checked now ref =>
    some (s.storeSecret cfg identity secret expiresAt checked now ref)
  | .discardSecret ref => some (s.discardSecret ref)
  | .current identity now => some (if validIdentity identity then s.pruneExpired now else s)
  | .replace ticket identity previous now => some (s.replace ticket identity previous now)
  | .verifyAndBind proof connectionID now => some (s.verifyAndBind cfg proof connectionID now)
  | .isBound identity connectionID now =>
    some (if wellFormed identity connectionID then s.pruneExpired now else s)
  | .unbind connectionID generation => some (s.unbind connectionID generation)
  | .revoke uid server generation => some (s.revoke uid server generation)
  | .connection now => some (s.pruneExpired now)
  | .zero b =>
    if b ∈ s.zeroing then
      some { s with heap := Secrets.zero s.heap [b], zeroing := s.zeroing.filter (· ≠ b) }
    else none

/-- The registry with its buffers. -/
def system (cfg : Config) : System State Action where
  init s := s = {}
  step := step cfg

/-- A reference that is drawn is not that of a pending secret. -/
def Fresh (s : State) : Action → Prop
  | .storeSecret _ _ _ _ _ (some ref) => s.pending.lookup ref = none
  | _ => True

instance (s : State) : ∀ a, Decidable (Fresh s a)
  | .storeSecret _ _ _ _ _ (some ref) => inferInstanceAs (Decidable (s.pending.lookup ref = none))
  | .storeSecret _ _ _ _ _ none | .discardSecret _ | .current _ _ | .replace _ _ _ _
  | .verifyAndBind _ _ _ | .isBound _ _ _ | .unbind _ _ | .revoke _ _ _ | .connection _
  | .zero _ => .isTrue trivial

/-! ### Owners -/

/-- The buffer of a pending secret or of a session. -/
def State.holds (s : State) : Text ⊕ SessionKey → Option ℕ
  | .inl ref => (s.pending.lookup ref).map Material.secret
  | .inr key => (s.sessions.lookup key).map Record.secret

/-- The number of pending secrets and sessions. -/
def State.size (s : State) : ℕ := s.pending.len + s.sessions.len

/-- Every buffer has one owner and still holds its secret, or it has none and has been overwritten
or is about to be. -/
structure Owned (cfg : Config) (s : State) : Prop where
  size : s.size ≤ cfg.capacity
  single : ∀ o o' b, s.holds o = some b → s.holds o' = some b → o = o'
  kept : ∀ o b, s.holds o = some b → b < s.copied ∧ b ∉ s.zeroing ∧ s.heap b = s.original b
  rest : ∀ b < s.copied, (∃ o, s.holds o = some b) ∨ b ∈ s.zeroing ∨ ∀ x ∈ s.heap b, x = 0
  bounded : ∀ b ∈ s.zeroing, b < s.copied

variable {cfg : Config} {s s' : State} {b : ℕ}

theorem zero_of_mem {heap : ℕ → Bytes} {bs : List ℕ} (h : b ∈ bs) :
    ∀ x ∈ zero heap bs b, x = 0 := by
  rw [zero, if_pos h]
  exact fun x hx => List.eq_of_mem_replicate hx

theorem zero_of_zero {heap : ℕ → Bytes} {bs : List ℕ} (h : ∀ x ∈ heap b, x = 0) :
    ∀ x ∈ zero heap bs b, x = 0 := by
  rw [zero]
  split
  · exact fun x hx => List.eq_of_mem_replicate hx
  · exact h

/-- **Owners are removed.** Their buffers, and no others, are overwritten or about to be. -/
theorem Owned.drop (h : Owned cfg s) (bs zs : List ℕ) (hsize : s'.size ≤ s.size)
    (hsub : ∀ o, s'.holds o = s.holds o ∨ s'.holds o = none)
    (hmem : ∀ b, b ∈ bs ++ zs ↔ ∃ o, s.holds o = some b ∧ s'.holds o = none)
    (hc : s'.copied = s.copied) (hh : s'.heap = zero s.heap bs) (ho : s'.original = s.original)
    (hz : s'.zeroing = zs ++ s.zeroing) : Owned cfg s' := by
  have hold : ∀ {o b}, s'.holds o = some b → s.holds o = some b := fun {o b} hb =>
    (hsub o).elim (fun he => he ▸ hb) fun he => absurd (he.symm.trans hb) nofun
  -- a buffer that is still owned is not among those removed
  have hkeep : ∀ {o b}, s'.holds o = some b → b ∉ bs ++ zs := by
    intro o b hb hc
    obtain ⟨o', ho', hn⟩ := (hmem b).mp hc
    rw [h.single o' o b ho' (hold hb), hb] at hn
    cases hn
  refine ⟨hsize.trans h.size, fun o o' b hb hb' => h.single o o' b (hold hb) (hold hb'),
    fun o b hb => ?_, fun b hb => ?_, fun b hb => ?_⟩
  · obtain ⟨hlt, hnz, hheap⟩ := h.kept o b (hold hb)
    have hnot := hkeep hb
    rw [List.mem_append, not_or] at hnot
    refine ⟨hc ▸ hlt, by simp [hz, hnot.2, hnz], ?_⟩
    rw [hh, ho, zero, if_neg hnot.1, hheap]
  · rw [hc] at hb
    rcases h.rest b hb with ⟨o, hob⟩ | hzero | hzero
    · rcases hsub o with he | he
      · exact .inl ⟨o, he.trans hob⟩
      · have hdrop := (hmem b).mpr ⟨o, hob, he⟩
        rcases List.mem_append.mp hdrop with hbs | hzs
        · exact .inr (.inr (hh ▸ zero_of_mem hbs))
        · exact .inr (.inl (by simp [hz, hzs]))
    · exact .inr (.inl (by simp [hz, hzero]))
    · exact .inr (.inr (hh ▸ zero_of_zero hzero))
  · rw [hz, List.mem_append] at hb
    rw [hc]
    rcases hb with hb | hb
    · obtain ⟨o, ho, -⟩ := (hmem b).mp (List.mem_append_right _ hb)
      exact (h.kept o b ho).1
    · exact h.bounded b hb

/-- **A buffer gets another owner**, which had none. -/
theorem Owned.move (h : Owned cfg s) (o₁ o₂ : Text ⊕ SessionKey) (hsize : s'.size ≤ s.size)
    (hfree : s.holds o₂ = none)
    (hholds : s'.holds = Function.update (Function.update s.holds o₁ none) o₂ (s.holds o₁))
    (hc : s'.copied = s.copied) (hh : s'.heap = s.heap) (ho : s'.original = s.original)
    (hz : s'.zeroing = s.zeroing) : Owned cfg s' := by
  have hfrom : ∀ o b, s'.holds o = some b →
      ∃ p, s.holds p = some b ∧ (o = o₂ ∧ p = o₁ ∨ o ≠ o₂ ∧ o ≠ o₁ ∧ p = o) := by
    intro o b hb
    rw [hholds] at hb
    grind [Function.update_apply]
  refine ⟨hsize.trans h.size, fun o o' b hb hb' => ?_, fun o b hb => ?_, fun b hb => ?_,
    by rw [hz, hc]; exact h.bounded⟩
  · obtain ⟨p, hp, hpo⟩ := hfrom o b hb
    obtain ⟨p', hp', hpo'⟩ := hfrom o' b hb'
    have := h.single p p' b hp hp'
    grind
  · obtain ⟨p, hp, -⟩ := hfrom o b hb
    rw [hc, hz, hh, ho]
    exact h.kept p b hp
  · rw [hc] at hb
    rw [hz, hh]
    refine (h.rest b hb).imp_left fun ⟨o, hob⟩ => ?_
    rw [hholds]
    by_cases h1 : o = o₁
    · exact ⟨o₂, by rw [Function.update_self, ← h1, hob]⟩
    · refine ⟨o, ?_⟩
      have h2 : o ≠ o₂ := fun hc => by rw [hc, hfree] at hob; cases hob
      rw [Function.update_of_ne h2, Function.update_of_ne h1, hob]

/-- **A secret is copied in** for an owner that had none. -/
theorem Owned.insert (h : Owned cfg s) (o₁ : Text ⊕ SessionKey) {secret : Bytes}
    (hsize : s'.size ≤ cfg.capacity) (hfree : s.holds o₁ = none)
    (hholds : s'.holds = Function.update s.holds o₁ (some s.copied))
    (hc : s'.copied = s.copied + 1) (hh : s'.heap = Function.update s.heap s.copied secret)
    (ho : s'.original = Function.update s.original s.copied secret) (hz : s'.zeroing = s.zeroing) :
    Owned cfg s' := by
  have hfrom : ∀ o b, s'.holds o = some b →
      o = o₁ ∧ b = s.copied ∨ o ≠ o₁ ∧ s.holds o = some b := by
    intro o b hb
    rw [hholds] at hb
    grind [Function.update_apply]
  have hold : ∀ o b, s.holds o = some b → b < s.copied := fun o b hb => (h.kept o b hb).1
  refine ⟨hsize, fun o o' b hb hb' => ?_, fun o b hb => ?_, fun b hb => ?_, fun b hb => ?_⟩
  · have := h.single o o' b
    have := hold o b
    have := hold o' b
    grind
  · rw [hc, hz, hh, ho]
    rcases hfrom o b hb with ⟨-, rfl⟩ | ⟨-, hb⟩
    · refine ⟨by omega, fun hc => absurd (h.bounded _ hc) (by omega), ?_⟩
      rw [Function.update_self, Function.update_self]
    · obtain ⟨hlt, hnz, hheap⟩ := h.kept o b hb
      rw [Function.update_of_ne hlt.ne, Function.update_of_ne hlt.ne]
      exact ⟨by omega, hnz, hheap⟩
  · rw [hc] at hb
    rw [hz, hh]
    by_cases hlast : b = s.copied
    · exact .inl ⟨o₁, by rw [hholds, Function.update_self, hlast]⟩
    · rw [Function.update_of_ne hlast]
      refine (h.rest b (by omega)).imp_left fun ⟨o, hob⟩ => ⟨o, ?_⟩
      have : o ≠ o₁ := fun hc => by rw [hc, hfree] at hob; cases hob
      rw [hholds, Function.update_of_ne this, hob]
  · rw [hz] at hb
    have := h.bounded b hb
    omega

/-! ### Operations -/

@[simp] theorem holds_inl (ref : Text) :
    s.holds (.inl ref) = (s.pending.lookup ref).map Material.secret := rfl

@[simp] theorem holds_inr (key : SessionKey) :
    s.holds (.inr key) = (s.sessions.lookup key).map Record.secret := rfl

theorem len_erase_le {κ ν : Type} [DecidableEq κ] (t : Table κ ν) (k : κ) :
    Table.len (t.erase k) ≤ t.len := by
  rw [Table.len_erase t k]
  omega

theorem Owned.dropOne (h : Owned cfg s) (o : Text ⊕ SessionKey) (bs zs : List ℕ)
    (hb : s.holds o = some b) (hbs : bs ++ zs = [b]) (hsize : s'.size ≤ s.size)
    (hholds : ∀ p, s'.holds p = if p = o then none else s.holds p)
    (hc : s'.copied = s.copied) (hh : s'.heap = zero s.heap bs) (ho : s'.original = s.original)
    (hz : s'.zeroing = zs ++ s.zeroing) : Owned cfg s' := by
  refine h.drop bs zs hsize (fun p => ?_) (fun c => ?_) hc hh ho hz
  · rw [hholds]
    split
    exacts [.inr rfl, .inl rfl]
  · rw [hbs, List.mem_singleton]
    grind

/-- A loop over the entries drops those that have expired, with their buffers. -/
theorem Owned.pruneExpired (h : Owned cfg s) (now : Time) : Owned cfg (s.pruneExpired now) := by
  have hfilter : ∀ {α : Type} (t : Option α) (f : α → ℕ) (e : α → Time),
      (t.filter fun x => now < e x).map f = t.map f ∨
      (t.filter fun x => now < e x).map f = none := by
    intro α t f e
    cases t with
    | none => exact .inl rfl
    | some x => by_cases hx : now < e x <;> simp [Option.filter_some, hx]
  refine h.drop _ [] ?_ (fun o => ?_) (fun b => ?_) rfl rfl rfl rfl
  · exact Nat.add_le_add (Table.len_filterMap_le ..) (Table.len_filterMap_le ..)
  · cases o with
    | inl ref => simpa [State.pruneExpired, Table.lookup_filter] using hfilter _ _ Material.expires
    | inr key =>
      simpa [State.pruneExpired, Table.lookup_filter] using
        hfilter _ _ fun record : Record => record.ticket.expiresAt
  · simp only [List.append_nil, List.mem_append, List.mem_map, List.mem_filter, Table.mem_values,
      decide_eq_true_eq, Sum.exists, holds_inl, holds_inr, State.pruneExpired, Table.lookup_filter,
      Option.map_eq_some_iff, Option.map_eq_none_iff, Option.filter_eq_none_iff]
    grind

theorem Owned.dropSession (h : Owned cfg s) {key : SessionKey} {record : Record}
    (hkey : s.sessions.lookup key = some record) : Owned cfg (s.dropSession key record) := by
  refine h.dropOne (.inr key) [record.secret] [] (by simp [hkey]) rfl
    (Nat.add_le_add_left (len_erase_le ..) _) (fun p => ?_) rfl rfl rfl rfl
  rcases p with r | k <;> grind [State.holds, State.dropSession, Table.lookup_erase_ite]

theorem Owned.storeSecret (h : Owned cfg s) {identity : AuthIdentity} {secret : Bytes}
    {expiresAt checked now : Time} {ref : Option Text}
    (hfresh : ∀ r, ref = some r → s.pending.lookup r = none) :
    Owned cfg (s.storeSecret cfg identity secret expiresAt checked now ref) := by
  have hp := h.pruneExpired now
  rw [State.storeSecret]
  split
  · exact h
  · dsimp only
    split
    · exact hp
    · next hlt =>
      cases ref with
      | none => exact hp
      | some r =>
        have hnone : AList.lookup r (s.pruneExpired now).pending = none := by
          simp [State.pruneExpired, Table.lookup_filter, hfresh r rfl]
        refine hp.insert (.inl r) ?_ (by simp [hnone]) (funext fun o => ?_) rfl rfl rfl rfl
        · have := len_erase_le (s.pruneExpired now).pending r
          simp only [State.size, Table.len_insert]
          omega
        · rcases o with r' | key <;>
            simp only [holds_inl, holds_inr, Function.update_apply, Table.lookup_insert_ite] <;>
              grind

theorem Owned.discardSecret (h : Owned cfg s) (ref : Text) : Owned cfg (s.discardSecret ref) := by
  rw [State.discardSecret]
  split
  · exact h
  · next material hm =>
    refine h.dropOne (.inl ref) [] [material.secret] (by simp [hm]) rfl
      (Nat.add_le_add_right (len_erase_le ..) _) (fun p => ?_) rfl rfl rfl rfl
    rcases p with r | k <;> grind [State.holds, Table.lookup_erase_ite]

theorem Owned.revoke (h : Owned cfg s) (uid server : Text) (generation : UInt64) :
    Owned cfg (s.revoke uid server generation) := by
  rw [State.revoke]
  repeat' split
  all_goals try exact h
  next record hr _ =>
  refine h.dropOne (.inr ⟨uid, server⟩) [] [record.secret] (by simp [hr]) rfl
    (Nat.add_le_add_left (len_erase_le ..) _) (fun p => ?_) rfl rfl rfl rfl
  rcases p with r | k <;> grind [State.holds, Table.lookup_erase_ite]

/-- Sessions are dropped one after the other: the pending secrets stay. -/
theorem Owned.dropKey (h : Owned cfg s) (key : SessionKey) : Owned cfg (s.dropKey key) ∧
    (s.dropKey key).pending = s.pending ∧ (s.dropKey key).sessions.len ≤ s.sessions.len ∧
    (s.dropKey key).sessions.lookup key = none := by
  rw [State.dropKey]
  split
  · next hnone => exact ⟨h, rfl, le_refl _, hnone⟩
  · next hold => exact ⟨h.dropSession hold, rfl, len_erase_le .., AList.lookup_erase ..⟩

theorem Owned.dropPrevious (h : Owned cfg s) (previous : Option LoginTicket) :
    Owned cfg (s.dropPrevious previous) ∧ (s.dropPrevious previous).pending = s.pending ∧
      (s.dropPrevious previous).sessions.len ≤ s.sessions.len := by
  rw [State.dropPrevious.eq_def]
  repeat' split
  all_goals try exact ⟨h, rfl, le_refl _⟩
  next hold _ => exact ⟨h.dropSession hold, rfl, len_erase_le ..⟩

/-- `Replace` drops two sessions at most and moves the secret. -/
theorem Owned.replace (h : Owned cfg s) (ticket : LoginTicket) (identity : AuthIdentity)
    (previous : Option LoginTicket) (now : Time) :
    Owned cfg (s.replace ticket identity previous now) := by
  rw [State.replace]
  repeat' split
  all_goals try exact h
  next material hm _ _ =>
  obtain ⟨hd, hpd, hld⟩ := h.dropPrevious previous
  obtain ⟨hk, hpk, hlk, hfree⟩ := hd.dropKey ticket.key
  refine hk.move (.inl ticket.secretRef) (.inr ticket.key) ?_ (by simp [hfree])
    (funext fun o => ?_) rfl rfl rfl rfl
  · have hlen := Table.len_erase s.pending ticket.secretRef
    rw [hm, Option.elim_some] at hlen
    have := len_erase_le ((s.dropPrevious previous).dropKey ticket.key).sessions ticket.key
    simp only [State.size, Table.len_insert, hpk, hpd]
    omega
  · rcases o with r | key <;>
      simp only [holds_inl, holds_inr, Function.update_apply, Table.lookup_insert_ite,
        Table.lookup_erase_ite, hpk, hpd] <;> grind

/-- Nothing is done to the buffers. -/
theorem Owned.sessions (h : Owned cfg s) {sessions : Table SessionKey Record}
    (hlen : sessions.len ≤ s.sessions.len)
    (hkeep : ∀ key, (sessions.lookup key).map Record.secret =
      (s.sessions.lookup key).map Record.secret) : Owned cfg { s with sessions := sessions } := by
  have hholds : { s with sessions := sessions : State }.holds = s.holds := by
    funext o
    rcases o with r | key
    exacts [rfl, hkeep key]
  obtain ⟨hsize, hs, hk, hr, hb⟩ := h
  exact ⟨(Nat.add_le_add_left hlen _).trans hsize,
    by rwa [hholds], by rwa [hholds], by rwa [hholds], hb⟩

theorem Owned.verifyAndBind (h : Owned cfg s) (proof : GatewayProof) (connectionID : Text)
    (now : Time) : Owned cfg (s.verifyAndBind cfg proof connectionID now) := by
  rw [State.verifyAndBind]
  repeat' split
  all_goals try exact h
  · next hr _ => exact h.dropSession hr
  · next record hr _ _ _ =>
    refine h.sessions ?_ fun key => by rw [Table.lookup_insert_ite]; grind
    have hlen := Table.len_erase s.sessions proof.key
    rw [hr, Option.elim_some] at hlen
    rw [Table.len_insert]
    omega

theorem Owned.unbind (h : Owned cfg s) (connectionID : Text) (generation : UInt64) :
    Owned cfg (s.unbind connectionID generation) := by
  rw [State.unbind]
  split
  · exact h
  · refine h.sessions (Table.len_filterMap_le ..) fun key => ?_
    rw [Table.lookup_filterMap]
    cases s.sessions.lookup key <;> grind

theorem Owned.zero (h : Owned cfg s) (hb : b ∈ s.zeroing) : Owned cfg
    { s with heap := Secrets.zero s.heap [b], zeroing := s.zeroing.filter (· ≠ b) } := by
  refine ⟨h.size, h.single, fun o c hc => ?_, fun c hc => ?_,
    fun c hc => h.bounded c (List.mem_of_mem_filter hc)⟩
  · obtain ⟨hlt, hnz, hheap⟩ := h.kept o c hc
    refine ⟨hlt, fun hm => hnz (List.mem_of_mem_filter hm), ?_⟩
    have hne : c ∉ [b] := fun hm => hnz (List.mem_singleton.mp hm ▸ hb)
    simp only [Secrets.zero, if_neg hne, hheap]
  · by_cases hcb : c = b
    · exact .inr (.inr (zero_of_mem (by simp [hcb])))
    · refine (h.rest c hc).imp_right (Or.imp (fun hz => ?_) zero_of_zero)
      simp [hz, hcb]

theorem owned_step {a : Action} (h : Owned cfg s) (hfresh : Fresh s a)
    (hs : step cfg s a = some s') : Owned cfg s' := by
  cases a <;> simp only [step, Option.some.injEq, Option.ite_none_right_eq_some] at hs
  case storeSecret => exact hs ▸ h.storeSecret fun r hr => by subst hr; exact hfresh
  case discardSecret => exact hs ▸ h.discardSecret _
  case replace => exact hs ▸ h.replace ..
  case verifyAndBind => exact hs ▸ h.verifyAndBind ..
  case unbind => exact hs ▸ h.unbind ..
  case revoke => exact hs ▸ h.revoke ..
  case connection => exact hs ▸ h.pruneExpired _
  case zero =>
    obtain ⟨hb, rfl⟩ := hs
    exact h.zero hb
  case current | isBound =>
    subst hs
    split
    exacts [h.pruneExpired _, h]

/-- **Buffers of secrets.** In every run there are at most as many pending secrets and sessions as
the registry may hold. A buffer that was copied in has exactly one owner, or it has none and has
been overwritten or is about to be by the operation that removed it. What is in the registry still
has the secret that was copied in. -/
theorem secrets_owned (cfg : Config) {s : State} (h : (system cfg).ReachableUnder Fresh s) :
    s.pending.len + s.sessions.len ≤ cfg.capacity ∧
      (∀ b < s.copied, (∃! o, s.holds o = some b) ∧ b ∉ s.zeroing ∨
        (∀ o, s.holds o ≠ some b) ∧ (b ∈ s.zeroing ∨ ∀ x ∈ s.heap b, x = 0)) ∧
      (∀ ref material, s.pending.lookup ref = some material →
        s.heap material.secret = s.original material.secret) ∧
      ∀ key record, s.sessions.lookup key = some record →
        s.heap record.secret = s.original record.secret := by
  have howned : Owned cfg s := by
    refine h.invariant (I := Owned cfg) ?_ fun s a s' hI hok hs => owned_step hI hok hs
    rintro s rfl
    refine ⟨Nat.zero_le _, ?_, ?_, nofun, nofun⟩ <;> rintro (o | o) <;> nofun
  refine ⟨howned.size, fun b hb => ?_, fun ref material hm => ?_, fun key record hr => ?_⟩
  · by_cases ho : ∃ o, s.holds o = some b
    · obtain ⟨o, ho⟩ := ho
      exact .inl ⟨⟨o, ho, fun o' ho' => howned.single o' o b ho' ho⟩, (howned.kept o b ho).2.1⟩
    · exact .inr ⟨not_exists.mp ho, (howned.rest b hb).resolve_left ho⟩
  · exact (howned.kept (.inl ref) _ (by simp [hm])).2.2
  · exact (howned.kept (.inr key) _ (by simp [hr])).2.2

/-- Two secrets are stored, one becomes a session that is revoked, and the other expires. -/
def revokedRun : List Action :=
  let identity : AuthIdentity := ⟨[97], [112], [103]⟩
  let ticket : LoginTicket := ⟨[117], [115], [103], [1], 1, 10⟩
  [.storeSecret identity (List.replicate 32 7) 10 1 1 (some [1]),
    .storeSecret identity (List.replicate 32 8) 5 1 1 (some [2]),
    .replace ticket identity none 2, .revoke [117] [103] 1, .connection 6]

theorem secrets_owned_revokedRun : ∃ s, (system ⟨2, fun _ _ => true⟩).ReachableUnder Fresh s ∧
    (s.copied = 2 ∧ s.zeroing = [0]) ∧ s.pending.len + s.sessions.len ≤ 2 := by
  obtain ⟨s, hs, hp⟩ := System.exists_reachableUnder_of_run (system ⟨2, fun _ _ => true⟩) Fresh
    revokedRun (s := {}) (fun s => s.copied = 2 ∧ s.zeroing = [0]) rfl (by decide +kernel)
  exact ⟨s, hs, of_decide_eq_true hp, (secrets_owned _ hs).1⟩

end GameServiceRuntime.Entry.Secrets
