import GameServiceRuntime.Lib.Table
import GameServiceRuntime.Lib.Transition
import GameServiceRuntime.Game.Ledger

/-!
# The Wallet and its ledger Runner

`WalletService` of `wallet.go` with the tasks it gives to the ledger Runner and the results that
come back. A task is a worker's run of `processLedgerTask`: a lookup, then a commit if there was no
record, then the Send of the result to the Wallet. Each is a step of its own, so that the steps of
different tasks interleave in any way.

Whether the Runner accepts a task and whether a notification can be sent is up to the environment.
The Wallet keeps the balances of the result it applies, and results arrive in any order.
-/

namespace GameServiceRuntime.Game

/-- `WalletConfig` and where the Wallet runs. -/
structure WalletConfig where
  self : ServiceRef
  /-- the node of the Runtime, which is the source of what the Runner sends -/
  node : Text
  runnerNode : Text
  maxPending : ℕ

/-- `WalletService`, with the notifications it tried to send. -/
structure Wallet where
  requests : AList fun _ : Text => SettlementRequest := ∅
  results : AList fun _ : Text => SettlementResult := ∅
  balances : Balances := fun _ _ => 0
  notified : List (ServiceRef × SettlementResult) := []
  /-- `wallet_result_notify_failed_total` -/
  notifyFailed : ℕ := 0

/-- What a command of the Wallet ends with. -/
inductive WalletReply
  | result (r : SettlementResult)
  | error (err : Err)
  deriving DecidableEq

/-- `ledgerResult` in a `RunnerResult`; `failed` has an error instead. -/
inductive Delivery
  | failed
  | result (request : SettlementRequest) (result : SettlementResult) (terminal : Bool)
  deriving DecidableEq

namespace Wallet

/-- `s.requests[id]` -/
def request? (w : Wallet) (id : Text) : Option SettlementRequest := w.requests.lookup id

/-- `s.results[id]` -/
def result? (w : Wallet) (id : Text) : Option SettlementResult := w.results.lookup id

/-- `s.results[id]` of a map that may not have it -/
def resultD (w : Wallet) (id : Text) : SettlementResult :=
  (w.result? id).getD ⟨[], .invalid [], [], .nil, []⟩

def pendingCount (w : Wallet) : ℕ := (w.results.entries.filter fun e => e.2.state = .pending).length

/-- `commit`, and the task it gives to the Runner. -/
def commit (cfg : WalletConfig) (w : Wallet) (source : ServiceRef) (request : SettlementRequest)
    (submitOk : Bool) : Wallet × Option SettlementRequest × WalletReply :=
  if (validateSettlementRequest request).isSome || request.source ≠ source then
    (w, none, .error .invalidSettlement)
  else match w.request? request.requestID with
    | some current =>
      if !sameSettlementRequest current request then (w, none, .error .requestConflict)
      else (w, none, .result (cloneSettlementResult (w.resultD request.requestID)))
    | none =>
      if w.pendingCount ≥ cfg.maxPending then (w, none, .error .unavailable)
      else
        let pending : SettlementResult :=
          { requestID := request.requestID, state := .pending, currency := request.currency }
        let w := { w with
          requests := w.requests.insert request.requestID (cloneSettlementRequest request)
          results := w.results.insert request.requestID pending }
        -- the Runner checks the references and the request again
        if submitOk && validServiceRef cfg.self then
          (w, some (cloneSettlementRequest request), .result pending)
        else
          let rejected : SettlementResult :=
            { requestID := request.requestID, state := .rejected, currency := request.currency
              reason := "unavailable" }
          ({ w with results := w.results.insert request.requestID rejected }, none,
            .result (cloneSettlementResult rejected))

/-- `recover`, and the task it gives to the Runner. -/
def recover (cfg : WalletConfig) (w : Wallet) (requestID : Text) (submitOk : Bool) :
    Option SettlementRequest × WalletReply :=
  match w.request? requestID with
  | none => (none, .error .notFound)
  | some request =>
    if (w.resultD requestID).state ≠ .pending then
      (none, .result (cloneSettlementResult (w.resultD requestID)))
    else if submitOk && validServiceRef cfg.self then
      (some (cloneSettlementRequest request), .result (cloneSettlementResult (w.resultD requestID)))
    else (none, .error .unavailable)

/-- `commandApplyLedgerResult` and `apply`. -/
def apply (cfg : WalletConfig) (w : Wallet) (sendOk : Bool) (d : Delivery) :
    Wallet × Option WalletReply :=
  -- what the Runner sends comes from its node
  if cfg.runnerNode ≠ cfg.node then (w, some (.error .unauthorized))
  else match d with
    | .failed => (w, none)
    | .result applied result terminal =>
      match w.request? applied.requestID with
      | none => (w, some (.error .notFound))
      | some request =>
        if !sameSettlementRequest request applied then (w, some (.error .notFound))
        else if !terminal then
          (w, some (.result (cloneSettlementResult (w.resultD request.requestID))))
        else if result.state ≠ .committed ∧ result.state ≠ .rejected ∨
            result.requestID ≠ request.requestID ∨ result.currency ≠ request.currency then
          (w, some (.error .invalidSettlement))
        else if (w.resultD request.requestID).state ≠ .pending then
          (w, some (.result (cloneSettlementResult (w.resultD request.requestID))))
        else
          let result := cloneSettlementResult result
          ({ w with
            results := w.results.insert request.requestID result
            balances :=
              if result.state = .committed then setBalances w.balances result.balances.elems
              else w.balances
            notified := w.notified ++ [(request.source, cloneSettlementResult result)]
            notifyFailed := if sendOk then w.notifyFailed else w.notifyFailed + 1 },
            some (.result (cloneSettlementResult result)))

/-! ### What the commands do -/

variable {wcfg : WalletConfig} {w : Wallet}

/-- What `commit` can do: nothing, or store a request under a new identifier. -/
theorem commit_cases (source : ServiceRef) (request : SettlementRequest) (submitOk : Bool) :
    let out := w.commit wcfg source request submitOk
    (out.1 = w ∧ out.2.1 = none) ∨
      w.request? request.requestID = none ∧ request.source = source ∧
        (∀ t, out.1.request? t =
          if t = request.requestID then some (cloneSettlementRequest request) else w.request? t) ∧
        (∃ r : SettlementResult,
          (∀ t, out.1.result? t = if t = request.requestID then some r else w.result? t) ∧
          r.requestID = request.requestID ∧
          r.state = if out.2.1.isSome then .pending else .rejected) ∧
        (out.1.notified = w.notified ∧ out.1.notifyFailed = w.notifyFailed) ∧
        ∀ q ∈ out.2.1, q = cloneSettlementRequest request := by
  intro out
  simp only [out, commit]
  split
  · exact .inl ⟨rfl, rfl⟩
  rename_i hvalid
  simp only [Bool.or_eq_true, not_or, decide_eq_true_eq, ne_eq, not_not] at hvalid
  split
  · split
    · exact .inl ⟨rfl, rfl⟩
    · exact .inl ⟨rfl, rfl⟩
  rename_i hnew
  split
  · exact .inl ⟨rfl, rfl⟩
  right
  have hrequest : ∀ t, AList.lookup t
      (w.requests.insert request.requestID (cloneSettlementRequest request)) =
        if t = request.requestID then some (cloneSettlementRequest request) else w.request? t :=
    fun t => Table.lookup_insert_ite ..
  split
  · refine ⟨hnew, hvalid.2, hrequest, ⟨_, fun _ => Table.lookup_insert_ite .., rfl, rfl⟩,
      ⟨rfl, rfl⟩, ?_⟩
    rintro q ⟨⟩
    rfl
  · rw [AList.insert_insert]
    exact ⟨hnew, hvalid.2, hrequest, ⟨_, fun _ => Table.lookup_insert_ite .., rfl, rfl⟩,
      ⟨rfl, rfl⟩, nofun⟩

/-- What `apply` can do: nothing, or end a pending settlement and notify its source. -/
theorem apply_cases {w' : Wallet} {sendOk : Bool} {d : Delivery}
    (h : (w.apply wcfg sendOk d).1 = w') :
    w' = w ∨
      ∃ applied result stored old, d = .result applied result true ∧
        w.request? applied.requestID = some stored ∧ stored.value = applied.value ∧
        (result.state = .committed ∨ result.state = .rejected) ∧
        result.requestID = stored.requestID ∧
        w.result? stored.requestID = some old ∧ old.state = .pending ∧
        (∀ t, w'.request? t = w.request? t) ∧
        (∀ t, w'.result? t =
          if t = stored.requestID then some (cloneSettlementResult result) else w.result? t) ∧
        w'.notified = w.notified ++ [(stored.source, cloneSettlementResult result)] ∧
        w'.notifyFailed = (if sendOk then w.notifyFailed else w.notifyFailed + 1) := by
  revert h
  unfold apply
  split
  · exact fun h => .inl h.symm
  cases d with
  | failed => exact fun h => .inl h.symm
  | result applied result terminal =>
    simp only
    split
    · exact fun h => .inl h.symm
    rename_i stored hstored
    split
    · exact fun h => .inl h.symm
    rename_i hsame
    split
    · exact fun h => .inl h.symm
    rename_i hterminal
    split
    · exact fun h => .inl h.symm
    rename_i hvalid
    split
    · exact fun h => .inl h.symm
    rename_i hpending
    rintro rfl
    right
    simp only [not_or, not_and, ne_eq, not_not] at hvalid hpending
    obtain ⟨old, hold⟩ : ∃ old, w.result? stored.requestID = some old := by
      cases hresult : w.result? stored.requestID with
      | none =>
        rw [resultD, hresult] at hpending
        cases hpending
      | some old => exact ⟨old, rfl⟩
    have hstate : result.state = .committed ∨ result.state = .rejected := by
      by_cases h : result.state = .committed
      · exact .inl h
      · exact .inr (hvalid.1 h)
    have hvalue : stored.value = applied.value := (same_iff _ _).mp (by simpa using hsame)
    rw [resultD, hold] at hpending
    refine ⟨applied, result, stored, old, ?_, hstored, hvalue, hstate, hvalid.2.1, hold, hpending,
      fun _ => rfl, fun t => ?_, rfl, rfl⟩
    · rw [show terminal = true by simpa using hterminal]
    · exact Table.lookup_insert_ite ..

end Wallet

/-! ### Tasks -/

namespace WalletLedger

/-- Where a task of the Runner is. -/
inductive Task
  | queued (request : SettlementRequest)
  /-- `Lookup` found no record -/
  | absent (request : SettlementRequest)
  /-- the processor has returned, the result is not sent yet -/
  | done (d : Delivery)
  deriving DecidableEq

/-- `runnerResult` as it is sent. -/
def delivery (request : SettlementRequest) (result : SettlementResult) : Delivery :=
  .result (cloneSettlementRequest request) (cloneSettlementResult result)
    (result.state = .committed || result.state = .rejected)

/-- `runnerResult{}` as it is sent. -/
def nothing (request : SettlementRequest) : Delivery :=
  .result (cloneSettlementRequest request) ⟨[], .invalid [], [], .nil, []⟩ false

/-- A Wallet on the node of its Runner. -/
def demoConfig : WalletConfig := ⟨⟨"n", 1⟩, "n", "n", 10⟩

/-- A settlement for player `"p"`. -/
def demoRequest (id : Text) (delta : Int64) : SettlementRequest :=
  ⟨id, ⟨"n", 2⟩, "gold", .of [⟨"p", delta⟩]⟩

end WalletLedger

end GameServiceRuntime.Game
