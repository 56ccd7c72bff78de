import Mathlib.Algebra.BigOperators.Group.Finset.Basic
import GameServiceRuntime.Game.Ledger

/-!
# Balances as sums

`Commit` adds the deltas of a request to the balances as 64-bit numbers, and nothing checks that the
sum fits: `validateSettlementRequest` asks only that no delta is zero. So a balance is the sum of
the deltas of the requests committed, modulo `2 ^ 64`, and is that sum as long as it is a 64-bit
number.

A repeated request is answered from its record. What a result says about the balances is therefore
about the moment of the first commit, however much later the answer is given.
-/

namespace GameServiceRuntime.Game

/-! ### Sequences of calls -/

/-- A call of `Commit`: whether its context is usable, and the request. -/
abbrev CommitCall := Bool × SettlementRequest

/-- A request as `sameSettlementRequest` sees it. -/
abbrev RequestValue := Text × ServiceRef × Text × List SettlementEntry

/-- What the request adds to a balance, as an integer. -/
def RequestValue.delta (v : RequestValue) (currency player : Text) : ℤ :=
  if v.2.2.1 = currency then ((v.2.2.2.filter (·.player = player)).map (·.delta.toInt)).sum else 0

namespace Ledger

/-- The ledger after a call. -/
def next (ledger : Ledger) (call : CommitCall) : Ledger := (ledger.commit call.1 call.2).1

/-- What a call returns. -/
def answer (ledger : Ledger) (call : CommitCall) : Except Err SettlementResult :=
  (ledger.commit call.1 call.2).2

/-- The ledger after all calls. -/
def run (ledger : Ledger) (calls : List CommitCall) : Ledger := calls.foldl next ledger

/-- The request of a call that is accepted. -/
def accepted (ledger : Ledger) (call : CommitCall) : Finset RequestValue :=
  if (ledger.answer call).isOk then {call.2.value} else ∅

/-- The distinct requests that calls committed. -/
def committed : Ledger → List CommitCall → Finset RequestValue
  | _, [] => ∅
  | ledger, call :: calls => ledger.accepted call ∪ (ledger.next call).committed calls

/-- The balances of a request in the ledger, in the order of its entries. -/
def balancesOf (ledger : Ledger) (v : RequestValue) : List Balance :=
  v.2.2.2.map fun entry => ⟨entry.player, v.2.2.1, ledger.balances v.2.2.1 entry.player⟩

variable {ledger : Ledger} {calls : List CommitCall} {call : CommitCall}

@[simp] theorem run_concat : ledger.run (calls ++ [call]) = (ledger.run calls).next call := by
  simp [run]

theorem committed_concat : ledger.committed (calls ++ [call]) =
    ledger.committed calls ∪ (ledger.run calls).accepted call := by
  induction calls generalizing ledger with
  | nil => simp [committed, run]
  | cons c calls ih => simp [committed, run, ih, Finset.union_assoc]

/-- What a call can do: be refused, be answered from the record of the same request, or commit. -/
theorem next_cases (ledger : Ledger) (call : CommitCall) :
    (∃ err, ledger.answer call = .error err ∧ ledger.next call = ledger) ∨
    (∃ record, ledger.records call.2.requestID = some record ∧
      record.request.value = call.2.value ∧ ledger.next call = ledger ∧
      ledger.answer call = .ok (cloneSettlementResult record.result)) ∨
    ledger.records call.2.requestID = none ∧ validEntries none call.2.entries.elems = true ∧
      ledger.next call = ledger.add call.2 ∧
      ledger.answer call = .ok (cloneSettlementResult (ledger.resultOf call.2)) := by
  rw [answer, next, Ledger.commit]
  split
  · exact .inl ⟨_, rfl, rfl⟩
  · split
    · exact .inl ⟨_, rfl, rfl⟩
    · next hvalid =>
      split
      · next record hrecord =>
        split
        · exact .inl ⟨_, rfl, rfl⟩
        · next hsame =>
          exact .inr (.inl ⟨record, hrecord, (same_iff _ _).mp (by simpa using hsame), rfl, rfl⟩)
      · next hnone =>
        refine .inr (.inr ⟨hnone, ?_, rfl, rfl⟩)
        rw [validateSettlementRequest] at hvalid
        split_ifs at hvalid with _ hentries
        exact hentries

end Ledger

/-! ### One request -/

variable {entries : List SettlementEntry}

/-- The players of a valid request are above the one before. -/
theorem less_of_validEntries {previous : Text} (h : validEntries (some previous) entries = true) :
    ∀ entry ∈ entries, previous.less entry.player = true := by
  induction entries generalizing previous with
  | nil => simp
  | cons entry entries ih =>
    simp only [validEntries, Bool.and_eq_true, Option.all_some] at h
    obtain ⟨⟨_, hless⟩, hrest⟩ := h
    intro e he
    rcases List.mem_cons.mp he with rfl | he
    · exact hless
    · have hlater := ih hrest e he
      simp only [Text.less, decide_eq_true_eq] at hless hlater ⊢
      exact hless.trans hlater

theorem players_nodup_of_valid {previous : Option Text} (h : validEntries previous entries = true) :
    (entries.map (·.player)).Nodup := by
  induction entries generalizing previous with
  | nil => simp
  | cons entry entries ih =>
    have hrest : validEntries (some entry.player) entries = true := by
      simp only [validEntries, Bool.and_eq_true] at h
      exact h.2
    refine List.nodup_cons.mpr ⟨fun hmem => ?_, ih hrest⟩
    obtain ⟨e, he, heq⟩ := List.mem_map.mp hmem
    have hless := less_of_validEntries hrest e he
    rw [heq, Text.less_irrefl] at hless
    exact Bool.noConfusion hless

/-- The balances that the loop collects are those it leaves behind, as no player comes twice. -/
theorem addEntries_snd {currency : Text} {b : Balances} (h : (entries.map (·.player)).Nodup) :
    (addEntries currency b entries).2 = entries.map fun entry =>
      ⟨entry.player, currency, (addEntries currency b entries).1 currency entry.player⟩ := by
  induction entries generalizing b with
  | nil => rfl
  | cons entry entries ih =>
    obtain ⟨hnew, hrest⟩ := List.nodup_cons.mp h
    have hlater : ∀ e ∈ entries, e.player ≠ entry.player := fun e he heq =>
      hnew (List.mem_map.mpr ⟨e, he, heq⟩)
    rw [addEntries, List.map_cons, addEntries_untouched (.inr hlater), ← ih hrest]
    simp [Balances.set]

/-- The loop adds the deltas of the player, as 64-bit numbers. -/
theorem addEntries_fst {currency c p : Text} {b : Balances} :
    (addEntries currency b entries).1 c p = b c p + Int64.ofInt
      (if currency = c then ((entries.filter (·.player = p)).map (·.delta.toInt)).sum else 0) := by
  induction entries generalizing b with
  | nil => simp [addEntries]
  | cons entry entries ih =>
    rw [addEntries, ih]
    by_cases hc : currency = c
    · by_cases hp : entry.player = p
      · simp [Balances.set, hc, hp, Int64.ofInt_add, Int64.ofInt_toInt, Int64.add_assoc]
      · simp [Balances.set, hc, hp, Ne.symm hp]
    · simp [Balances.set, hc, Ne.symm hc]

theorem Ledger.balances_add (ledger : Ledger) (q : SettlementRequest) (c p : Text) :
    (ledger.add q).balances c p = ledger.balances c p +
    Int64.ofInt (RequestValue.delta q.value c p) :=
  addEntries_fst

/-! ### Whole runs -/

/-- The call after `before` is the one that committed the request first. -/
structure FirstCommit (before : List CommitCall) (call : CommitCall) (v : RequestValue) : Prop where
  value : call.2.value = v
  new : v ∉ Ledger.committed {} before
  isOk : ((Ledger.run {} before).answer call).isOk = true

/-- What holds of the ledger after any calls. -/
structure Summed (calls : List CommitCall) (ledger : Ledger) : Prop where
  committed : ∀ v ∈ Ledger.committed {} calls, ∃ record,
    ledger.records v.1 = some record ∧ record.request.value = v
  record : ∀ id record, ledger.records id = some record →
    record.request.requestID = id ∧ record.request.value ∈ Ledger.committed {} calls ∧
    ∃ before call, before ++ [call] <+: calls ∧ FirstCommit before call record.request.value ∧
      record.result.balances.elems =
        (Ledger.run {} (before ++ [call])).balancesOf record.request.value
  balances : ∀ c p, ledger.balances c p =
    Int64.ofInt (∑ v ∈ Ledger.committed {} calls, v.delta c p)

section Runs

variable {calls : List CommitCall} {call : CommitCall}

theorem Summed.nil : Summed [] {} :=
  ⟨by simp [Ledger.committed], fun _ _ h => (nomatch h), fun _ _ => by simp [Ledger.committed]⟩

/-- A request that was committed before has a record. -/
theorem Summed.fresh {ledger : Ledger} (h : Summed calls ledger)
    (hnone : ledger.records call.2.requestID = none) :
    call.2.value ∉ Ledger.committed {} calls := by
  intro hmem
  obtain ⟨record, hrecord, -⟩ := h.committed _ hmem
  rw [show call.2.value.1 = call.2.requestID from rfl, hnone] at hrecord
  exact nomatch hrecord

theorem Summed.repeated (h : Summed calls (Ledger.run {} calls))
    (hnext : (Ledger.run {} calls).next call = Ledger.run {} calls)
    (hsame : Ledger.committed {} (calls ++ [call]) = Ledger.committed {} calls) :
    Summed (calls ++ [call]) (Ledger.run {} (calls ++ [call])) := by
  rw [Ledger.run_concat, hnext]
  refine ⟨hsame ▸ h.committed, fun id record hrecord => ?_, hsame ▸ h.balances⟩
  obtain ⟨hid, hmem, before, first, hprefix, hfirst, hresult⟩ := h.record id record hrecord
  exact ⟨hid, hsame ▸ hmem, before, first, hprefix.trans (List.prefix_append ..), hfirst, hresult⟩

theorem Summed.commits (h : Summed calls (Ledger.run {} calls))
    (hnone : (Ledger.run {} calls).records call.2.requestID = none)
    (hentries : validEntries none call.2.entries.elems = true)
    (hnext : (Ledger.run {} calls).next call = (Ledger.run {} calls).add call.2)
    (hok : ((Ledger.run {} calls).answer call).isOk = true) :
    Summed (calls ++ [call]) (Ledger.run {} (calls ++ [call])) := by
  have hnew := h.fresh hnone
  have hcommitted : Ledger.committed {} (calls ++ [call]) =
      insert call.2.value (Ledger.committed {} calls) := by
    rw [Ledger.committed_concat, Ledger.accepted, if_pos hok, Finset.union_comm]
    rfl
  rw [Ledger.run_concat, hnext]
  refine ⟨fun v hv => ?_, fun id record hrecord => ?_, fun c p => ?_⟩
  · rw [hcommitted] at hv
    rcases Finset.mem_insert.mp hv with rfl | hv
    · exact ⟨_, Function.update_self .., rfl⟩
    · obtain ⟨record, hrecord, hvalue⟩ := h.committed v hv
      refine ⟨record, (Function.update_of_ne (fun hid => ?_) ..).trans hrecord, hvalue⟩
      rw [hid, hnone] at hrecord
      exact nomatch hrecord
  · simp only [Ledger.add, Function.update_apply] at hrecord
    split at hrecord
    · next hid =>
      cases hrecord
      refine ⟨hid.symm, hcommitted ▸ Finset.mem_insert_self .., calls, call, List.prefix_rfl,
        ⟨rfl, hnew, hok⟩, ?_⟩
      rw [Ledger.run_concat, hnext]
      exact addEntries_snd (players_nodup_of_valid hentries)
    · obtain ⟨hid, hmem, before, first, hprefix, hfirst, hresult⟩ := h.record id record hrecord
      exact ⟨hid, hcommitted ▸ Finset.mem_insert_of_mem hmem, before, first,
        hprefix.trans (List.prefix_append ..), hfirst, hresult⟩
  · rw [Ledger.balances_add, h.balances, hcommitted, Finset.sum_insert hnew, Int64.ofInt_add,
      Int64.add_comm]

theorem summed (calls : List CommitCall) : Summed calls (Ledger.run {} calls) := by
  induction calls using List.reverseRecOn with
  | nil => exact .nil
  | append_singleton calls call ih =>
    rcases Ledger.next_cases (Ledger.run {} calls) call with
      ⟨err, herr, hnext⟩ | ⟨record, hrecord, hvalue, hnext, hok⟩ | ⟨hnone, hentries, hnext, hok⟩
    · refine ih.repeated hnext ?_
      rw [Ledger.committed_concat, Ledger.accepted, herr]
      exact Finset.union_empty _
    · -- the request is among those committed, as its record is
      refine ih.repeated hnext ?_
      rw [Ledger.committed_concat, Ledger.accepted, hok]
      refine Finset.union_eq_left.mpr (Finset.singleton_subset_iff.mpr ?_)
      exact hvalue ▸ (ih.record _ record hrecord).2.1
    · exact ih.commits hnone hentries hnext (by rw [hok]; rfl)

/-- What an accepted call returns is about the first commit of its request. -/
theorem answer_of_first {result : SettlementResult}
    (h : (Ledger.run {} calls).answer call = .ok result) :
    ∃ before first, before ++ [first] <+: calls ++ [call] ∧ FirstCommit before first call.2.value ∧
      result.balances.elems = (Ledger.run {} (before ++ [first])).balancesOf call.2.value := by
  have hok : ((Ledger.run {} calls).answer call).isOk = true := by
    rw [h]
    rfl
  rcases Ledger.next_cases (Ledger.run {} calls) call with
    ⟨err, herr, -⟩ | ⟨record, hrecord, hvalue, -, hanswer⟩ | ⟨hnone, hentries, hnext, hanswer⟩
  · rw [herr] at h
    exact nomatch h
  · obtain ⟨-, -, before, first, hprefix, hfirst, hresult⟩ := (summed calls).record _ record hrecord
    obtain rfl := Except.ok.inj (hanswer.symm.trans h)
    rw [hvalue] at hfirst hresult
    exact ⟨before, first, hprefix.trans (List.prefix_append ..), hfirst, hresult⟩
  · obtain rfl := Except.ok.inj (hanswer.symm.trans h)
    refine ⟨calls, call, List.prefix_rfl, ⟨rfl, (summed calls).fresh hnone, hok⟩, ?_⟩
    rw [Ledger.run_concat, hnext]
    exact addEntries_snd (players_nodup_of_valid hentries)

end Runs

/-- **Balances are sums** of the deltas of the distinct requests committed, exactly as long as the
sum is a 64-bit number; and the balances of every result are those right after the first commit of
its request. -/
theorem balances_exact_iff (calls : List CommitCall) (currency player : Text) :
    (((Ledger.run {} calls).balances currency player).toInt =
        ∑ v ∈ Ledger.committed {} calls, v.delta currency player ↔
      -2 ^ 63 ≤ ∑ v ∈ Ledger.committed {} calls, v.delta currency player ∧
        ∑ v ∈ Ledger.committed {} calls, v.delta currency player < 2 ^ 63) ∧
    ∀ earlier call result, earlier ++ [call] <+: calls →
      (Ledger.run {} earlier).answer call = .ok result →
      ∃ before first, before ++ [first] <+: earlier ++ [call] ∧
        FirstCommit before first call.2.value ∧
        result.balances.elems = (Ledger.run {} (before ++ [first])).balancesOf call.2.value := by
  refine ⟨⟨fun h => ?_, fun h => ?_⟩, fun earlier call result _ hanswer => answer_of_first hanswer⟩
  · exact h ▸ ⟨Int64.le_toInt _, Int64.toInt_lt _⟩
  · rw [(summed calls).balances, Int64.toInt_ofInt_of_le h.1 h.2]

/-- A request that gives one player an amount. -/
def gain (id player : ℕ) (delta : Int64) : SettlementRequest where
  requestID := [.ofNat id]
  source := ⟨[110], 1⟩
  currency := [99]
  entries := .of [⟨[.ofNat player], delta⟩]

/-- The greatest amount and one more: both requests are accepted, and the balance is negative. -/
theorem balance_overflows :
    let first := (true, gain 65 112 Int64.maxValue)
    let second := (true, gain 66 112 1)
    ((Ledger.run {} []).answer first).isOk ∧ ((Ledger.run {} [first]).answer second).isOk ∧
      ((Ledger.run {} [first, second]).balances [99] [112]).toInt = -2 ^ 63 ∧
      ∑ v ∈ Ledger.committed {} [first, second], v.delta [99] [112] = 2 ^ 63 := by
  decide +kernel

end GameServiceRuntime.Game
