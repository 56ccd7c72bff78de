import GameServiceRuntime.Game.Wallet

/-!
# What a Wallet tells the source of a settlement

A Wallet by itself: any Service sends it `CommitSettlement`, recovery may ask for any identifier at
any time, and the Runner may bring any result, of any ledger, any number of times. A history is kept
beside it of the settlements whose submission was refused and of the Sends of
`ApplySettlementResult` with their outcomes.

A settlement ends in `apply`, which tells its source, or in `commit`, when the Runner refuses the
task. The latter replies to the command and sends nothing.
-/

namespace GameServiceRuntime.Game.WalletHistory

/-- The commands that change a Wallet or give its Runner a task. -/
inductive Action
  | commit (source : ServiceRef) (request : SettlementRequest) (submitOk : Bool)
  | recover (requestID : Text) (submitOk : Bool)
  | apply (d : Delivery) (sendOk : Bool)
  deriving DecidableEq

/-- The Wallet after a command. -/
def step (cfg : WalletConfig) (w : Wallet) : Action → Option Wallet
  | .commit source request submitOk => some (w.commit cfg source request submitOk).1
  | .recover _ _ => some w
  | .apply d sendOk => some (w.apply cfg sendOk d).1

/-- A Wallet in all orders of commands. -/
def wallet (cfg : WalletConfig) : System Wallet Action where
  init w := w = {}
  step := step cfg

/-- A Send of `ApplySettlementResult`. -/
structure Attempt where
  target : ServiceRef
  result : SettlementResult
  ok : Bool
  deriving DecidableEq

/-- The settlements whose submission was refused, and the Sends in their order. -/
structure History where
  refused : List Text := []
  attempts : List Attempt := []

/-- A new settlement is stored and the Runner does not take its task. -/
def refuses (cfg : WalletConfig) (w : Wallet) (source : ServiceRef) (request : SettlementRequest)
    (submitOk : Bool) : Bool :=
  let out := w.commit cfg source request submitOk
  (w.request? request.requestID).isNone && (out.1.request? request.requestID).isSome &&
    out.2.1.isNone

/-- What a command adds to the history. -/
def log (cfg : WalletConfig) (w : Wallet) (a : Action) (h : History) : History :=
  match a with
  | .commit source request submitOk =>
    if refuses cfg w source request submitOk then
      { h with refused := request.requestID :: h.refused }
    else h
  | .recover _ _ => h
  | .apply d sendOk =>
    let sent := (w.apply cfg sendOk d).1.notified.drop w.notified.length
    { h with attempts := h.attempts ++ sent.map fun n => ⟨n.1, n.2, sendOk⟩ }

/-- The Wallet with its history. -/
def system (cfg : WalletConfig) : System (Wallet × History) Action :=
  (wallet cfg).logged {} (log cfg)

/-- The Sends for a settlement. -/
def History.sent (h : History) (id : Text) : List Attempt :=
  h.attempts.filter fun a => a.result.requestID = id

/-- What the history says about a settlement: a pending one was neither refused nor notified, and
one that has ended was refused or has had one Send to its source. -/
def Told (h : History) (id : Text) (q : SettlementRequest) (r : SettlementResult) : Prop :=
  if r.state = .pending then id ∉ h.refused ∧ h.sent id = []
  else if id ∈ h.refused then h.sent id = []
  else ∃ ok, h.sent id = [⟨q.source, r, ok⟩]

/-- What holds in every run. -/
structure Inv (w : Wallet) (h : History) : Prop where
  request : ∀ id q, w.request? id = some q → q.requestID = id
  /-- a settlement has a result, and the history tells of it -/
  told : ∀ id q, w.request? id = some q → ∃ r, w.result? id = some r ∧ Told h id q r
  /-- there is no history of what was never asked for -/
  fresh : ∀ id, w.request? id = none → w.result? id = none ∧ id ∉ h.refused ∧ h.sent id = []
  notified : w.notified = h.attempts.map fun a => (a.target, a.result)
  failed : w.notifyFailed = h.attempts.countP fun a => !a.ok

section Inv

variable {cfg : WalletConfig} {w w' : Wallet} {h : History} {a : Action}

/-- A new settlement is pending or refused, and nobody is told. -/
theorem Inv.commit (hI : Inv w h) (source : ServiceRef) (request : SettlementRequest)
    (submitOk : Bool) : Inv (w.commit cfg source request submitOk).1
      (log cfg w (.commit source request submitOk) h) := by
  obtain ⟨hsame, -⟩ | ⟨hnew, -, hrequest, ⟨r, hresult, -, hstate⟩, ⟨hnotified, hfailed⟩, -⟩ :=
    @Wallet.commit_cases cfg w source request submitOk
  · have hno : refuses cfg w source request submitOk = false := by
      cases hw : w.request? request.requestID <;> simp [refuses, hsame, hw]
    simp only [log, hno, hsame]
    exact hI
  obtain ⟨-, hunrefused, hunsent⟩ := hI.fresh _ hnew
  have hrefuses : refuses cfg w source request submitOk =
      (w.commit cfg source request submitOk).2.1.isNone := by
    simp [refuses, hnew, hrequest]
  have hattempts : (log cfg w (.commit source request submitOk) h).attempts = h.attempts := by
    simp only [log]
    split <;> rfl
  have hrefused (id : Text) : id ∈ (log cfg w (.commit source request submitOk) h).refused ↔
      id ∈ h.refused ∨ id = request.requestID ∧ r.state = .rejected := by
    simp only [log, hrefuses, hstate]
    cases (w.commit cfg source request submitOk).2.1 <;> simp [or_comm]
  have hstates : r.state = .pending ∨ r.state = .rejected := by grind
  generalize log cfg w (.commit source request submitOk) h = h' at hattempts hrefused
  refine
    { request := fun id q hq => ?_
      told := fun id q hq => ?_
      fresh := fun id hid => ?_
      notified := by rw [hnotified, hattempts, hI.notified]
      failed := by rw [hfailed, hattempts, hI.failed] }
  all_goals simp only [hrequest, hresult, Told, History.sent, hattempts, hrefused] at *
  · grind [hI.request id q, cloneSettlementRequest]
  · by_cases hid : id = request.requestID
    · refine ⟨r, by simp [hid], ?_⟩
      grind [History.sent]
    · rw [if_neg hid] at hq ⊢
      obtain ⟨r', hr', htold⟩ := hI.told id q hq
      refine ⟨r', hr', ?_⟩
      simpa [Told, History.sent, hid] using htold
  · grind [hI.fresh id, History.sent]

/-- A settlement that ends here was pending, so its source was not told before. -/
theorem Inv.apply (hI : Inv w h) (d : Delivery) (sendOk : Bool) :
    Inv (w.apply cfg sendOk d).1 (log cfg w (.apply d sendOk) h) := by
  obtain hsame | ⟨applied, result, stored, old, rfl, hstored, hvalue, hstate, hid, hold, hpending,
      hrequest, hresult, hnotified, hfailed⟩ := @Wallet.apply_cases cfg w _ sendOk d rfl
  · simpa [log, hsame] using hI
  have hkey : applied.requestID = stored.requestID := (requestID_eq_of_value hvalue).symm
  rw [hkey] at hstored
  have hsent (id : Text) :
      (log cfg w (.apply (.result applied result true) sendOk) h).sent id =
        if id = stored.requestID then
          h.sent id ++ [⟨stored.source, cloneSettlementResult result, sendOk⟩]
        else h.sent id := by
    simp only [log, History.sent, hnotified, List.drop_left, List.map_cons, List.map_nil,
      List.filter_append, List.filter_singleton]
    grind [cloneSettlementResult]
  refine
    { request := fun id q hq => hI.request id q (hrequest id ▸ hq)
      told := fun id q hq => ?_
      fresh := fun id hnone => ?_
      notified := by simp [log, hnotified, hI.notified]
      failed := by
        simp only [log, hfailed, hnotified, hI.failed, List.drop_left, List.countP_append]
        cases sendOk <;> simp }
  all_goals simp only [hrequest, hresult, Told, hsent] at *
  · obtain ⟨r, hr, htold⟩ := hI.told id q hq
    by_cases hne : id = stored.requestID
    · grind [Told, cloneSettlementResult, log]
    · grind [Told, log]
  · grind [hI.fresh id, log]

theorem Inv.step (hI : Inv w h) (hstep : step cfg w a = some w') : Inv w' (log cfg w a h) := by
  cases a with
  | commit source request submitOk =>
    cases hstep
    exact hI.commit source request submitOk
  | recover requestID submitOk =>
    cases hstep
    exact hI
  | apply d sendOk =>
    cases hstep
    exact hI.apply d sendOk

end Inv

/-- **Every settlement that has ended is notified, unless its submission was refused.** In every
run: a settlement that is committed or rejected and was not refused has had exactly one Send, to the
source of its request and with its result; one that was refused has had none; and the failed Sends
are counted. -/
theorem terminal_notified {cfg : WalletConfig} {w : Wallet} {h : History}
    (hr : (system cfg).Reachable (w, h)) :
    (∀ id r, w.result? id = some r → r.state = .committed ∨ r.state = .rejected →
      ∃ q, w.request? id = some q ∧
        (id ∉ h.refused → ∃ ok, h.sent id = [⟨q.source, r, ok⟩]) ∧
        (id ∈ h.refused → h.sent id = [])) ∧
    w.notifyFailed = h.attempts.countP fun a => !a.ok := by
  obtain ⟨-, hI⟩ := System.logged_invariant (I := Inv) (J := fun _ => True) (fun _ _ => trivial)
    (by rintro _ rfl; exact ⟨nofun, nofun, fun _ _ => ⟨rfl, nofun, rfl⟩, rfl, rfl⟩)
    (fun _ _ _ _ hI _ _ hstep => hI.step hstep) hr
  refine ⟨fun id r hresult hstate => ?_, hI.failed⟩
  cases hq : w.request? id with
  | none => grind [hI.fresh id hq]
  | some q =>
    obtain ⟨r', hr', htold⟩ := hI.told id q hq
    cases hresult.symm.trans hr'
    grind [Told]

/-- The state of the settlement `"1"` and the Sends for it, after a run. -/
def outcome (p : Wallet × History) : SettlementState × List Attempt :=
  ((p.1.resultD "1").state, p.2.sent "1")

/-- A settlement of the Service `n/2`. -/
def request : SettlementRequest := WalletLedger.demoRequest "1" 1

/-- **A refused submission is not notified.** The settlement is rejected, and its source is sent
nothing. -/
theorem refused_not_notified : ∃ p, (system WalletLedger.demoConfig).Reachable p ∧
    outcome p = (.rejected, []) := by
  obtain ⟨p, hp, hout⟩ := (system WalletLedger.demoConfig).exists_reachableUnder_of_run
    (fun _ _ => True) (s := ({}, {})) [.commit request.source request false]
    (fun p => outcome p = (.rejected, [])) ⟨rfl, rfl⟩ (by decide +kernel)
  exact ⟨p, hp, by simpa using hout⟩

/-- A rejection by the ledger is told, though the Send fails. -/
theorem terminal_notified_rejected : ∃ p, (system WalletLedger.demoConfig).Reachable p ∧
    (∃ target r ok, p.2.sent "1" = [⟨target, r, ok⟩]) ∧
    p.1.notifyFailed = p.2.attempts.countP fun a => !a.ok := by
  obtain ⟨p, hp, hout⟩ := (system WalletLedger.demoConfig).exists_reachableUnder_of_run
    (fun _ _ => True) (s := ({}, {}))
    [.commit request.source request true,
      .apply (.result request ⟨"1", .rejected, "gold", .nil, []⟩ true) false]
    (fun p => (p.1.result? "1").any (fun r => r.state = .rejected) &&
      Text.ofString "1" ∉ p.2.refused) ⟨rfl, rfl⟩ (by decide +kernel)
  simp only [Bool.and_eq_true, Option.any_eq_true, decide_eq_true_eq] at hout
  obtain ⟨⟨r, hr, hstate⟩, hrefused⟩ := hout
  obtain ⟨q, -, hsent, -⟩ := (terminal_notified hp).1 _ r hr (.inr hstate)
  obtain ⟨ok, hok⟩ := hsent hrefused
  exact ⟨p, hp, ⟨_, _, _, hok⟩, (terminal_notified hp).2⟩

end GameServiceRuntime.Game.WalletHistory
