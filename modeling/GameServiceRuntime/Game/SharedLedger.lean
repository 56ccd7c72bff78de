import GameServiceRuntime.Game.Wallet

/-!
# Wallets that share a ledger

Any number of Wallets, each with its own Runner, over one `MemoryLedgerStore`. A Wallet here is one
instance: what a restart brings up is another one, which starts with nothing, while the tasks and
results of the former may still be on their way. The Services that settle may be any, and choose
their request identifiers as they like.

`processLedgerTask` looks the identifier up before it commits, and `Lookup` asks for nothing but the
identifier. `Commit` compares the requests, but a record that `Lookup` finds is never compared: the
result of another request under the same identifier is then reported as the result of this one, and
the Wallet, which checks identifier and currency only, takes it.
-/

namespace GameServiceRuntime.Game

/-! ### What the ledger has -/

/-- The ledger has a record of this very request, and has applied its entries. -/
def Ledger.Has (ledger : Ledger) (q : SettlementRequest) : Prop :=
  (∃ record, ledger.records q.requestID = some record ∧ record.request.value = q.value) ∧
    ∃ applied ∈ ledger.log, applied.value = q.value

/-- Every record is of a request that was applied. -/
def Ledger.Sound (ledger : Ledger) : Prop :=
  ∀ id record, ledger.records id = some record →
    ∃ applied ∈ ledger.log, applied.value = record.request.value

/-- Records stay, and so does what was applied. -/
structure Ledger.Grows (ledger ledger' : Ledger) : Prop where
  records : ∀ id record, ledger.records id = some record → ledger'.records id = some record
  log : ledger.log ⊆ ledger'.log

section Ledger

variable {ledger ledger' : Ledger} {q q' : SettlementRequest} {record : LedgerRecord}

theorem Ledger.Grows.rfl : ledger.Grows ledger := ⟨fun _ _ h => h, fun _ h => h⟩

theorem Ledger.Has.grow (h : ledger.Has q) (hg : ledger.Grows ledger') : ledger'.Has q := by
  obtain ⟨⟨record, hrecord, hvalue⟩, applied, happlied, hvalue'⟩ := h
  exact ⟨⟨record, hg.records _ _ hrecord, hvalue⟩, applied, hg.log happlied, hvalue'⟩

theorem Ledger.Has.congr (h : ledger.Has q) (hq : q.value = q'.value) : ledger.Has q' := by
  rw [Ledger.Has, ← hq, ← requestID_eq_of_value hq]
  exact h

theorem Ledger.Sound.has (hs : ledger.Sound) (h : ledger.records q.requestID = some record)
    (hvalue : record.request.value = q.value) : ledger.Has q := by
  obtain ⟨applied, happlied, hvalue'⟩ := hs _ _ h
  exact ⟨⟨record, h, hvalue⟩, applied, happlied, hvalue'.trans hvalue⟩

theorem Ledger.grows_add (h : ledger.records q.requestID = none) : ledger.Grows (ledger.add q) := by
  refine ⟨fun id record hrecord => ?_, fun _ hx => List.mem_append_left _ hx⟩
  have hid : id ≠ q.requestID := fun hid => by simp [hid, h] at hrecord
  simpa [Ledger.add, Function.update_of_ne hid] using hrecord

theorem Ledger.Sound.add (hs : ledger.Sound) : (ledger.add q).Sound := by
  intro id record hrecord
  simp only [Ledger.add, Function.update_apply] at hrecord
  split at hrecord
  · cases hrecord
    exact ⟨q, by simp [Ledger.add], rfl⟩
  · obtain ⟨applied, happlied, hvalue⟩ := hs id record hrecord
    exact ⟨applied, List.mem_append_left _ happlied, hvalue⟩

/-- **What `Commit` guarantees**: what it reports as committed is the request it was given. -/
theorem Ledger.Sound.commit (hs : ledger.Sound) (usable : Bool) (q : SettlementRequest) :
    ledger.Grows (ledger.commit usable q).1 ∧ (ledger.commit usable q).1.Sound ∧
      ∀ result, (ledger.commit usable q).2 = .ok result → (ledger.commit usable q).1.Has q := by
  rw [Ledger.commit]
  split
  · exact ⟨.rfl, hs, nofun⟩
  split
  · exact ⟨.rfl, hs, nofun⟩
  split
  · next current hcurrent =>
    split
    · exact ⟨.rfl, hs, nofun⟩
    · next hsame =>
      have hvalue : current.request.value = q.value := (same_iff _ _).mp (by simpa using hsame)
      exact ⟨.rfl, hs, fun _ _ => hs.has hcurrent hvalue⟩
  · next hnone =>
    have hrecord : (ledger.add q).records q.requestID = some
        ⟨cloneSettlementRequest q, cloneSettlementResult (ledger.resultOf q)⟩ :=
      Function.update_self ..
    exact ⟨Ledger.grows_add hnone, hs.add, fun _ _ => hs.add.has hrecord rfl⟩

end Ledger

/-! ### The system -/

namespace SharedLedger

open WalletLedger (Task delivery nothing)

/-- The Wallets, the ledger they share, the tasks with the Wallet each is of, and the results in the
mailboxes. -/
structure State where
  wallets : ℕ → Wallet := fun _ => {}
  ledger : Ledger := {}
  tasks : ℕ → Option (ℕ × Task) := fun _ => none
  numTasks : ℕ := 0
  mailbox : ℕ → List Delivery := fun _ => []

/-- What can happen next. -/
inductive Action
  | commit (w : ℕ) (source : ServiceRef) (request : SettlementRequest) (submitOk : Bool)
  | recover (w : ℕ) (requestID : Text) (submitOk : Bool)
  /-- the two critical sections of `processLedgerTask` -/
  | lookup (i : ℕ) (usable : Bool)
  | store (i : ℕ) (usable : Bool)
  /-- the Runner is closed before the task is executed -/
  | abort (i : ℕ)
  /-- the result is sent, to a Wallet that is still there or not -/
  | deliver (i : ℕ) (there : Bool)
  | handle (w : ℕ) (sendOk : Bool)
  deriving DecidableEq

/-- A task changes, or is over. -/
def State.setTask (s : State) (i : ℕ) (t : Option (ℕ × Task)) : State :=
  { s with tasks := Function.update s.tasks i t }

def State.submit (s : State) (w : ℕ) : Option SettlementRequest → State
  | none => s
  | some request =>
    { s.setTask s.numTasks (some (w, .queued request)) with numTasks := s.numTasks + 1 }

/-- The effect of an action, if it is enabled. -/
def step (cfg : ℕ → WalletConfig) (s : State) : Action → Option State
  | .commit w source request submitOk =>
    let r := (s.wallets w).commit (cfg w) source request submitOk
    some ({ s with wallets := Function.update s.wallets w r.1 }.submit w r.2.1)
  | .recover w requestID submitOk =>
    some (s.submit w ((s.wallets w).recover (cfg w) requestID submitOk).1)
  | .lookup i usable =>
    match s.tasks i with
    | some (w, .queued request) =>
      match s.ledger.lookup usable request.requestID with
      | .error _ => some (s.setTask i (some (w, .done (nothing request))))
      | .ok (some result) => some (s.setTask i (some (w, .done (delivery request result))))
      | .ok none => some (s.setTask i (some (w, .absent request)))
    | _ => none
  | .store i usable =>
    match s.tasks i with
    | some (w, .absent request) =>
      match s.ledger.commit usable (cloneSettlementRequest request) with
      | (ledger, .error _) =>
        some ({ s with ledger := ledger }.setTask i (some (w, .done (nothing request))))
      | (ledger, .ok result) =>
        some ({ s with ledger := ledger }.setTask i (some (w, .done (delivery request result))))
    | _ => none
  | .abort i =>
    match s.tasks i with
    | some (w, .queued _) => some (s.setTask i (some (w, .done .failed)))
    | _ => none
  | .deliver i there =>
    match s.tasks i with
    | some (w, .done d) =>
      let sent := if there then Function.update s.mailbox w (s.mailbox w ++ [d]) else s.mailbox
      some ({ s with mailbox := sent }.setTask i none)
    | _ => none
  | .handle w sendOk =>
    match s.mailbox w with
    | [] => none
    | d :: rest =>
      some
        { s with
          wallets := Function.update s.wallets w ((s.wallets w).apply (cfg w) sendOk d).1
          mailbox := Function.update s.mailbox w rest }

/-- The Wallets and their ledger, in all interleavings. -/
def system (cfg : ℕ → WalletConfig) : System State Action where
  init s := s = {}
  step := step cfg

/-- A lookup with a usable context does not meet the record of another request under the
identifier. -/
def matching (s : State) : Action → Bool
  | .lookup i usable =>
    match s.tasks i with
    | some (_, .queued q) =>
      !usable || (s.ledger.records q.requestID).all fun record =>
        sameSettlementRequest record.request q
    | _ => true
  | _ => true

/-! ### What holds in every run -/

/-- A committed result for a request says that the ledger has the request. -/
def Backed (ledger : Ledger) : Delivery → Prop
  | .failed => True
  | .result q r terminal => terminal = true → r.state = .committed → ledger.Has q

/-- Every result on its way is backed, and so is every settlement a Wallet holds as committed. -/
structure Inv (s : State) : Prop where
  sound : s.ledger.Sound
  tasks : ∀ i w d, s.tasks i = some (w, .done d) → Backed s.ledger d
  mailbox : ∀ w, ∀ d ∈ s.mailbox w, Backed s.ledger d
  held : ∀ w id r, (s.wallets w).result? id = some r → r.state = .committed →
    ∃ q, (s.wallets w).request? id = some q ∧ s.ledger.Has q

section Inv

variable {cfg : ℕ → WalletConfig} {s s' : State} {i w : ℕ}

theorem Backed.grow {ledger ledger' : Ledger} {d : Delivery} (h : Backed ledger d)
    (hg : ledger.Grows ledger') : Backed ledger' d := by
  cases d with
  | failed => trivial
  | result q r terminal => exact fun ht hr => (h ht hr).grow hg

theorem backed_nothing (ledger : Ledger) (q : SettlementRequest) :
    Backed ledger (nothing q) := nofun

theorem Inv.grow (hI : Inv s) {ledger : Ledger} (hg : s.ledger.Grows ledger) (hs : ledger.Sound) :
    Inv { s with ledger := ledger } where
  sound := hs
  tasks i w d h := (hI.tasks i w d h).grow hg
  mailbox w d h := (hI.mailbox w d h).grow hg
  held w id r hr hc := (hI.held w id r hr hc).imp fun _ h => ⟨h.1, h.2.grow hg⟩

theorem Inv.setTask (hI : Inv s) {t : Option (ℕ × Task)}
    (ht : ∀ w d, t = some (w, .done d) → Backed s.ledger d) : Inv (s.setTask i t) :=
  { hI with
    tasks := fun j w d h => by
      simp only [State.setTask, Function.update_apply] at h
      split at h
      · exact ht w d h
      · exact hI.tasks j w d h }

theorem Inv.submit (hI : Inv s) (w : ℕ) (q : Option SettlementRequest) : Inv (s.submit w q) := by
  cases q with
  | none => exact hI
  | some q =>
    have hset : Inv (s.setTask s.numTasks (some (w, .queued q))) := hI.setTask nofun
    exact { hset with }

theorem Inv.setWallet (hI : Inv s) {wallet : Wallet}
    (hw : ∀ id r, wallet.result? id = some r → r.state = .committed →
      ∃ q, wallet.request? id = some q ∧ s.ledger.Has q) :
    Inv { s with wallets := Function.update s.wallets w wallet } :=
  { hI with
    held := fun v id r => by
      simp only [Function.update_apply]
      split
      · exact hw id r
      · exact hI.held v id r }

/-- A new settlement is not committed yet. -/
theorem Inv.commit (hI : Inv s) {source : ServiceRef} {request : SettlementRequest}
    {submitOk : Bool} (h : step cfg s (.commit w source request submitOk) = some s') : Inv s' := by
  cases h
  refine Inv.submit (hI.setWallet fun id r hr hc => ?_) w _
  obtain ⟨hsame, -⟩ | ⟨-, -, hrequest, ⟨r', hresult, -, hstate⟩, -⟩ :=
    @Wallet.commit_cases (cfg w) (s.wallets w) source request submitOk
  · rw [hsame] at hr ⊢
    exact hI.held w id r hr hc
  · rw [hresult] at hr
    rw [hrequest]
    split at hr
    · grind
    · next hid =>
      rw [if_neg hid]
      exact hI.held w id r hr hc

theorem Inv.lookup (hI : Inv s) {usable : Bool} (hok : matching s (.lookup i usable) = true)
    (h : step cfg s (.lookup i usable) = some s') : Inv s' := by
  simp only [step] at h
  split at h
  swap
  · cases h
  next w q htask =>
  split at h <;> cases h
  · exact hI.setTask fun _ _ h => by cases h; exact backed_nothing _ _
  · next result hfound =>
    refine hI.setTask fun _ _ h => ?_
    cases h
    intro _ _
    -- the one place where the requests are not compared
    cases hrecord : s.ledger.records q.requestID with
    | none => grind [Ledger.lookup]
    | some record =>
      have husable : usable = true := by
        cases usable with
        | false => simp [Ledger.lookup] at hfound
        | true => rfl
      simp only [matching, htask, hrecord, husable, Bool.not_true, Bool.false_or, Option.all_some,
        same_iff] at hok
      exact hI.sound.has hrecord hok
  · exact hI.setTask nofun

theorem Inv.store (hI : Inv s) {usable : Bool} (h : step cfg s (.store i usable) = some s') :
    Inv s' := by
  simp only [step] at h
  split at h
  swap
  · cases h
  next w q htask =>
  obtain ⟨hg, hs, hhas⟩ := hI.sound.commit usable (cloneSettlementRequest q)
  split at h <;> next heq =>
    rw [heq] at hg hs hhas
    cases h
    refine (hI.grow hg hs).setTask fun _ _ h => ?_
    cases h
    first
      | exact backed_nothing _ _
      | exact fun _ _ => hhas _ rfl

theorem Inv.deliver (hI : Inv s) {there : Bool} (h : step cfg s (.deliver i there) = some s') :
    Inv s' := by
  simp only [step] at h
  split at h
  swap
  · cases h
  next w d htask =>
  cases h
  have hsent : Inv { s with mailbox :=
      if there then Function.update s.mailbox w (s.mailbox w ++ [d]) else s.mailbox } :=
    { hI with
      mailbox := fun v x hx => by
        have := hI.mailbox
        have := hI.tasks i w d htask
        grind [Function.update_apply] }
  exact hsent.setTask nofun

/-- A Wallet commits what is backed: it has compared its request with the one of the result. -/
theorem Inv.handle (hI : Inv s) {sendOk : Bool} (h : step cfg s (.handle w sendOk) = some s') :
    Inv s' := by
  simp only [step] at h
  split at h
  · cases h
  next d rest hmailbox =>
  cases h
  have hd : Backed s.ledger d := hI.mailbox w d (by simp [hmailbox])
  have hrest : Inv { s with mailbox := Function.update s.mailbox w rest } :=
    { hI with
      mailbox := fun v x hx => by
        have := hI.mailbox
        grind [Function.update_apply] }
  refine hrest.setWallet (w := w) fun id r hr hc => ?_
  obtain hsame | ⟨q, result, stored, old, rfl, hstored, hvalue, -, -, -, -, hrequest, hresult, -⟩ :=
    @Wallet.apply_cases (cfg w) (s.wallets w) _ sendOk d rfl
  · rw [hsame] at hr ⊢
    exact hI.held w id r hr hc
  rw [hresult] at hr
  rw [hrequest]
  split at hr
  · next hid =>
    cases hr
    refine ⟨stored, ?_, (hd rfl hc).congr hvalue.symm⟩
    rw [hid, requestID_eq_of_value hvalue]
    exact hstored
  · exact hI.held w id r hr hc

theorem Inv.step {a : Action} (hI : Inv s) (hok : matching s a = true)
    (h : step cfg s a = some s') : Inv s' := by
  cases a with
  | commit w source request submitOk => exact hI.commit h
  | recover w requestID submitOk =>
    cases h
    exact hI.submit w _
  | lookup i usable => exact hI.lookup hok h
  | store i usable => exact hI.store h
  | abort i =>
    simp only [SharedLedger.step] at h
    split at h <;> cases h
    exact hI.setTask fun _ _ h => by cases h; trivial
  | deliver i there => exact hI.deliver h
  | handle w sendOk => exact hI.handle h

end Inv

/-- **A reported commit is a commit of this request.** In every run of any number of Wallets in
which no lookup meets the record of another request: whenever `processLedgerTask` has returned a
terminal committed result for a request, the ledger has a record of this request and has applied it,
and so it has for every settlement that a Wallet holds as committed. -/
theorem reported_commit_applied {cfg : ℕ → WalletConfig} {s : State}
    (h : (system cfg).ReachableUnder (fun s a => matching s a = true) s) :
    (∀ i w q r, s.tasks i = some (w, .done (.result q r true)) → r.state = .committed →
      s.ledger.Has q) ∧
    ∀ w id r, (s.wallets w).result? id = some r → r.state = .committed →
      ∃ q, (s.wallets w).request? id = some q ∧ s.ledger.Has q := by
  have hI : Inv s := by
    refine h.invariant (I := Inv) ?_ fun s a s' hI hok hstep => hI.step hok hstep
    rintro _ rfl
    exact ⟨nofun, nofun, nofun, nofun⟩
  exact ⟨fun i w q r hi => hI.tasks i w _ hi rfl, hI.held⟩

/-! ### One identifier for two requests -/

/-- A settlement of another Service for player `"q"`, under the identifier of `demoRequest`. -/
def otherRequest : SettlementRequest :=
  ⟨"1", ⟨"n", 3⟩, "gold", .of [⟨"q", 5⟩]⟩

/-- Two Wallets settle one request each, the second one when the first one is done. -/
def collidingRun (first second : SettlementRequest) : List Action :=
  List.flatten [
    [.commit 0 first.source first true, .lookup 0 true, .store 0 true, .deliver 0 true,
      .handle 0 true],
    [.commit 1 second.source second true, .lookup 1 true, .deliver 1 true, .handle 1 true]]

/-- **A commit of another request is reported.** The second Wallet holds its settlement as
committed, and the ledger has never seen it. -/
theorem commit_of_another_request : ∃ s, (system fun _ => WalletLedger.demoConfig).Reachable s ∧
    ((s.wallets 1).result? "1").map (·.state) = some .committed ∧
    (s.wallets 1).request? "1" = some otherRequest ∧
    ¬ s.ledger.Has otherRequest ∧
    s.ledger.balances "gold" "q" = 0 := by
  obtain ⟨s, hs, hp⟩ := (system fun _ => WalletLedger.demoConfig).exists_reachableUnder_of_run
    (fun _ _ => True) (collidingRun (WalletLedger.demoRequest "1" 1) otherRequest)
    (fun s =>
      decide (((s.wallets 1).result? "1").map (·.state) = some .committed) &&
      decide ((s.wallets 1).request? "1" = some otherRequest) &&
      decide (s.ledger.log.all fun q => q.value ≠ otherRequest.value) &&
      decide (s.ledger.balances "gold" "q" = 0)) rfl
        (by decide +kernel)
  simp only [Bool.and_eq_true, decide_eq_true_eq, List.all_eq_true, ne_eq] at hp
  obtain ⟨⟨⟨hresult, hrequest⟩, hlog⟩, hbalance⟩ := hp
  refine ⟨s, hs, hresult, hrequest, fun hhas => ?_, hbalance⟩
  obtain ⟨-, applied, happlied, hvalue⟩ := hhas
  exact hlog applied happlied hvalue

/-- The same run with a request that both Wallets were given. -/
theorem reported_commit_applied_repeated :
    ∃ s, (system fun _ => WalletLedger.demoConfig).Reachable s ∧
    ∃ q, (s.wallets 1).request? "1" = some q ∧ s.ledger.Has q := by
  obtain ⟨s, hs, hp⟩ := (system fun _ => WalletLedger.demoConfig).exists_reachableUnder_of_run
    (fun s a => matching s a = true) (collidingRun otherRequest otherRequest)
    (fun s => ((s.wallets 1).result? "1").any fun r => r.state = .committed) rfl
    (by decide +kernel)
  obtain ⟨r, hr, hstate⟩ : ∃ r, (s.wallets 1).result? "1" = some r ∧
      r.state = .committed := by
    simpa [Option.any_eq_true] using hp
  exact ⟨s, hs.reachable, (reported_commit_applied hs).2 1 _ r hr hstate⟩

end SharedLedger

end GameServiceRuntime.Game
