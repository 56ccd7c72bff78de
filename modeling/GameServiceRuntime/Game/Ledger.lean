import GameServiceRuntime.Game.Types

/-!
# The memory ledger

`MemoryLedgerStore` of `memory_ledger.go`: the records under their request identifiers and a balance
for every currency and player. A lookup and a commit are one critical section each. Reading a
balance that was never written gives zero, so a map of maps of amounts is a function here.

Amounts are 64-bit numbers and wrap.
-/

namespace GameServiceRuntime.Game

/-- `map[Currency]map[PlayerID]Amount` -/
abbrev Balances := Text → Text → Int64

/-- `balances[currency][player] = amount` -/
def Balances.set (b : Balances) (currency player : Text) (amount : Int64) : Balances :=
  fun c p => if c = currency ∧ p = player then amount else b c p

structure LedgerRecord where
  request : SettlementRequest
  result : SettlementResult
  deriving DecidableEq

/-- `MemoryLedgerStore`, and the requests it committed in the order of their commits. -/
structure Ledger where
  records : Text → Option LedgerRecord := fun _ => none
  balances : Balances := fun _ _ => 0
  log : List SettlementRequest := []

def sameSettlementRequest (left right : SettlementRequest) : Bool :=
  left.requestID = right.requestID && left.source = right.source &&
    left.currency = right.currency && left.entries.elems = right.entries.elems

/-- The loop of `Commit`: every delta is added to its balance, and the result gets the balance after
it. -/
def addEntries (currency : Text) : Balances → List SettlementEntry → Balances × List Balance
  | b, [] => (b, [])
  | b, entry :: entries =>
    let amount := b currency entry.player + entry.delta
    let r := addEntries currency (b.set currency entry.player amount) entries
    (r.1, ⟨entry.player, currency, amount⟩ :: r.2)

/-- What `Commit` stores and returns for a request it has no record of. -/
def Ledger.resultOf (ledger : Ledger) (request : SettlementRequest) : SettlementResult where
  requestID := request.requestID
  state := .committed
  currency := request.currency
  balances := .of (addEntries request.currency ledger.balances request.entries.elems).2

/-- The ledger after that. -/
def Ledger.add (ledger : Ledger) (request : SettlementRequest) : Ledger where
  records := Function.update ledger.records request.requestID
    (some ⟨cloneSettlementRequest request, cloneSettlementResult (ledger.resultOf request)⟩)
  balances := (addEntries request.currency ledger.balances request.entries.elems).1
  log := ledger.log ++ [request]

/-- `Commit`, with a context that is usable or not. -/
def Ledger.commit (ledger : Ledger) (usable : Bool) (request : SettlementRequest) :
    Ledger × Except Err SettlementResult :=
  if !usable then (ledger, .error .contextExpired)
  else match validateSettlementRequest request with
    | some err => (ledger, .error err)
    | none =>
      match ledger.records request.requestID with
      | some current =>
        if !sameSettlementRequest current.request request then (ledger, .error .requestConflict)
        else (ledger, .ok (cloneSettlementResult current.result))
      | none => (ledger.add request, .ok (cloneSettlementResult (ledger.resultOf request)))

def Ledger.lookup (ledger : Ledger) (usable : Bool) (requestID : Text) :
    Except Err (Option SettlementResult) :=
  if !usable then .error .contextExpired
  else match validateRequestID requestID with
    | some err => .error err
    | none => .ok ((ledger.records requestID).map fun record => cloneSettlementResult record.result)

/-- The loop of `apply` over the balances of a result. -/
def setBalances : Balances → List Balance → Balances
  | b, [] => b
  | b, x :: xs => setBalances (b.set x.currency x.player x.amount) xs

variable {p : Text} {entries : List SettlementEntry}

theorem addEntries_untouched {currency c : Text} {b : Balances}
    (h : c ≠ currency ∨ ∀ entry ∈ entries, entry.player ≠ p) :
    (addEntries currency b entries).1 c p = b c p := by
  induction entries generalizing b with
  | nil => rfl
  | cons entry entries ih =>
    rw [addEntries, ih (h.imp_right fun h e he => h e (List.mem_cons_of_mem _ he)),
      Balances.set, if_neg]
    rintro ⟨rfl, rfl⟩
    exact h.elim (fun h => h rfl) fun h => h entry List.mem_cons_self rfl

/-! ### Requests as values -/

/-- What `sameSettlementRequest` compares. -/
def SettlementRequest.value (q : SettlementRequest) :
    Text × ServiceRef × Text × List SettlementEntry :=
  (q.requestID, q.source, q.currency, q.entries.elems)

theorem same_iff (left right : SettlementRequest) :
    sameSettlementRequest left right = true ↔ left.value = right.value := by
  simp [sameSettlementRequest, SettlementRequest.value, and_assoc]

variable {q q' : SettlementRequest}

theorem requestID_eq_of_value (h : q.value = q'.value) :
    q.requestID = q'.requestID := congrArg Prod.fst h

end GameServiceRuntime.Game
