import GameServiceRuntime.Nhsk.Host

/-!
# The Factory

The Factory creates and stops Battles for the Hosts. It handles its Commands one at a time, but an
instance is created by a loop of its own, between two Commands: a request goes into a queue, the
loop takes it out, creates the instance and sends the result back to the Factory's mailbox. In the
meantime the generation of the connection may have been stopped. Whoever comes first, an instance of
a stopped generation is not registered: its result is handled after the stop, and it is handed to an
orphan stop.

An instance has one *fate*, and the loop has its part in it: if the mailbox refuses the result, the
loop stops the instance itself, and no orphan stop is made of it. See `refused_result_stopped`.

## Scope

The creation of an instance is a step of the loop that gives a ref or an error (`CreateService`
gives no ref with an error). What the stop loop answers may be anything. The evidence of a stop that
failed and what is sent to the Hosts about stops are left out, and so is the end of the Factory
itself.
-/

namespace GameServiceRuntime.Nhsk

/-- `createBattleInternal` -/
structure FactoryCreate extends CreateBattleInternal where
  host : ServiceRef
  deriving DecidableEq

/-- `NHSKBattleConfig`, as far as the Factory fills it in -/
structure NHSKBattleConfig where
  id : UInt32
  outputRef : ServiceRef
  isNewbie : Bool
  connectionGeneration : UInt64
  deriving DecidableEq

structure FactoryCreateTask where
  request : FactoryCreate
  config : NHSKBattleConfig
  deriving DecidableEq

/-- The BattleID of a task. -/
def FactoryCreateTask.battleID (t : FactoryCreateTask) : UInt32 := t.request.request.battleID

structure FactoryBattle where
  ref : ServiceRef
  generation : UInt64
  host : ServiceRef
  quarantined : Bool := false
  stopping : Bool := false

/-- `stopBattleInternal` -/
structure FactoryStop extends StopBattleInternal where
  host : ServiceRef := .zero
  orphan : Bool := false
  connectionGeneration : UInt64

/-- `applyFactoryCreateResult`. The number of the instance is history. -/
structure FactoryCreateResult where
  task : FactoryCreateTask
  ref : ServiceRef := .zero
  err : String := ""
  instanceNumber : ℕ := 0
  deriving DecidableEq

/-- The generation of the connection that asked for the instance. -/
def FactoryCreateResult.generation (r : FactoryCreateResult) : UInt64 :=
  r.task.request.request.connectionGeneration

/-- Where the create loop is. -/
inductive CreateLoop
  | idle
  | building (task : FactoryCreateTask)
  | sending (result : FactoryCreateResult)

/-- What has become of an instance. -/
inductive Fate
  /-- in the table of the Factory, and reported to its Host -/
  | registered
  /-- an orphan stop of it is in the stop queue -/
  | orphaned
  /-- the stop queue was full -/
  | dropped
  /-- the mailbox refused the result, and the loop has stopped it -/
  | stopped
  deriving DecidableEq

/-- `BattleFactoryService` with its queues and its create loop. The last five fields are history:
the stops of a generation and the requests that have been handled, what was reported to the Hosts,
and the number and the fates of the instances. -/
structure Factory where
  self : ServiceRef
  creating : Table UInt32 FactoryCreateTask := ∅
  battles : Table UInt32 FactoryBattle := ∅
  closedThrough : UInt64 := 0
  outputRef : ServiceRef := .zero
  outputGeneration : UInt64 := 0
  createQueue : List FactoryCreateTask := []
  stopQueue : List FactoryStop := []
  loop : CreateLoop := .idle
  /-- the results of the loop that the Factory has not handled -/
  mailbox : List FactoryCreateResult := []
  generationStops : List UInt64 := []
  requests : List FactoryCreate := []
  reports : List ApplyBattleCreated := []
  instances : ℕ := 0
  fates : List (FactoryCreateResult × Fate) := []

/-- What can happen: a Command with its source, or a step of one of the loops. -/
inductive FactoryAct
  | create (source : ServiceRef) (request : FactoryCreate)
  /-- the next result of the loop; the Send to the Host may fail -/
  | result (sendErr : Option String)
  | stop (source : ServiceRef) (request : FactoryStop)
  | bindOutput (source : ServiceRef) (generation : UInt64) (ref : ServiceRef) (reporter : Bool)
  | unbindOutput (source : ServiceRef) (generation : UInt64)
  /-- `range factory.battles` goes through the table in any order -/
  | stopGeneration (source : ServiceRef) (generation : UInt64) (order : List UInt32)
  | quarantined (source : ServiceRef) (battleID : UInt32) (ref : ServiceRef)
  /-- the answer of the stop loop; `defect`: with evidence that the Battle is to be quarantined -/
  | stopResult (source : ServiceRef) (request : FactoryStop) (err : String) (defect : Bool)
  /-- the create loop takes a task -/
  | take
  /-- the create loop has created an instance or failed -/
  | build (outcome : Except String ServiceRef)
  /-- the create loop sends its result -/
  | send (refused : Bool)
  /-- the stop loop takes a request -/
  | takeStop

namespace Factory

/-- The capacity of both queues. -/
def queueSize : ℕ := 10000

def isRootSource (f : Factory) (source : ServiceRef) : Bool :=
  source.node = f.self.node && source.id = 0

def generationClosed (f : Factory) (generation : UInt64) : Bool :=
  generation ≠ 0 && generation ≤ f.closedThrough

def reportCreateResult (f : Factory) (request : FactoryCreate) (ref : ServiceRef)
    (err : String) : Factory :=
  { f with reports := f.reports ++ [{
      operationID := request.operationID
      battleID := request.request.battleID
      ref := ref
      connectionGeneration := request.request.connectionGeneration
      err := err }] }

/-- The orphan stop of a result. -/
def orphanStop (result : FactoryCreateResult) : FactoryStop where
  operationID := 0
  battleID := result.task.battleID
  ref := result.ref
  orphan := true
  connectionGeneration := result.task.request.request.connectionGeneration

def enqueueOrphanStop (f : Factory) (result : FactoryCreateResult) : Factory :=
  if f.stopQueue.length < queueSize then
    { f with
      stopQueue := f.stopQueue ++ [orphanStop result]
      fates := f.fates ++ [(result, .orphaned)] }
  else { f with fates := f.fates ++ [(result, .dropped)] }

/-- The task of a request, with the output of its generation. -/
def taskOf (f : Factory) (request : FactoryCreate) : FactoryCreateTask :=
  let bound := f.outputGeneration = request.request.connectionGeneration
  ⟨request, request.request.battleID, if bound then f.outputRef else .zero,
    request.request.isNewbie, if bound then f.outputGeneration else 0⟩

/-- The part of `createBattleInternalCommand` that puts a task into the queue. -/
def accept (f : Factory) (task : FactoryCreateTask) : Factory :=
  let f := { f with creating := f.creating.insert task.battleID task }
  if f.createQueue.length < queueSize then { f with createQueue := f.createQueue ++ [task] }
  else
    let f := { f with creating := f.creating.erase task.battleID }
    f.reportCreateResult task.request .zero "gsr: mailbox full"

/-- `createBattleInternalCommand` -/
def create (f : Factory) (source : ServiceRef) (request : FactoryCreate) : Factory :=
  if source ≠ request.host then f
  else
    let f := { f with requests := f.requests ++ [request] }
    if f.generationClosed request.request.connectionGeneration then
      f.reportCreateResult request .zero "nhsk: connection generation closed"
    else if (f.creating.lookup request.request.battleID).isSome then
      f.reportCreateResult request .zero "nhsk: battle id in use"
    else if (f.battles.lookup request.request.battleID).isSome then
      f.reportCreateResult request .zero "nhsk: battle id in use"
    else f.accept (f.taskOf request)

/-- A result matches the pending creation of its BattleID. -/
def pending (f : Factory) (result : FactoryCreateResult) : Bool :=
  match f.creating.lookup result.task.battleID with
  | some task => task.request = result.task.request
  | none => false

/-- The part of `applyCreateResult` for an instance that is registered; if the Host cannot be told,
it is taken out again. -/
def register (f : Factory) (result : FactoryCreateResult) (sendErr : Option String) : Factory :=
  let request := result.task.request
  let battle : FactoryBattle :=
    ⟨result.ref, request.request.connectionGeneration, request.host, false, false⟩
  let f := { f with battles := f.battles.insert result.task.battleID battle }
  let f := f.reportCreateResult request result.ref ""
  match sendErr with
  | none => { f with fates := f.fates ++ [(result, .registered)] }
  | some _ => { f with battles := f.battles.erase result.task.battleID }.enqueueOrphanStop result

def applyCreateResult (f : Factory) (result : FactoryCreateResult)
    (sendErr : Option String) : Factory :=
  let request := result.task.request
  if f.pending result = false then
    if result.ref.id ≠ 0 then f.enqueueOrphanStop result else f
  else
    let f := { f with creating := f.creating.erase result.task.battleID }
    if result.err ≠ "" ∨ result.ref.id = 0 then
      f.reportCreateResult request .zero (if result.err = "" then
        "nhsk: Battle creation returned an empty ServiceRef" else result.err)
    else if f.generationClosed request.request.connectionGeneration then
      (f.enqueueOrphanStop result).reportCreateResult request .zero
        "nhsk: connection generation closed"
    else if (f.battles.lookup result.task.battleID).isSome then
      (f.enqueueOrphanStop result).reportCreateResult request .zero "nhsk: battle id in use"
    else f.register result sendErr

/-- `stopBattleInternalCommand` -/
def stop (f : Factory) (source : ServiceRef) (request : FactoryStop) : Factory :=
  match f.battles.lookup request.battleID with
  | none => f
  | some battle =>
    if battle.ref ≠ request.ref ∨ battle.host ≠ request.host ∨ source ≠ request.host ∨
      battle.stopping ∨
        request.releaseQuarantined ≠ battle.quarantined then f
    else if f.stopQueue.length < queueSize then
      { f with
        stopQueue := f.stopQueue ++ [{ request with connectionGeneration := battle.generation }]
        battles := f.battles.insert request.battleID { battle with stopping := true } }
    else f

/-- The loop of `stopGenerationCommand`, which ends when the stop queue is full. -/
def stopBattles (f : Factory) (generation : UInt64) : List UInt32 → Factory
  | [] => f
  | battleID :: order =>
    match f.battles.lookup battleID with
    | none => f.stopBattles generation order
    | some battle =>
      if battle.generation ≠ generation ∨ battle.quarantined ∨ battle.stopping then
        f.stopBattles generation order
      else if f.stopQueue.length < queueSize then
        stopBattles { f with
          stopQueue :=
            f.stopQueue ++ [⟨⟨0, battleID, battle.ref, false⟩, battle.host, false, generation⟩]
          battles := f.battles.insert battleID { battle with stopping := true } } generation order
      else f

/-- `stopGenerationCommand` -/
def stopGeneration (f : Factory) (source : ServiceRef) (generation : UInt64) (order : List UInt32) :
    Factory :=
  if f.isRootSource source = false ∨ generation = 0 then f
  else
    stopBattles { f with
      closedThrough := if f.closedThrough < generation then generation else f.closedThrough
      generationStops := f.generationStops ++ [generation] } generation order

/-- `reportBattleQuarantinedCommand` -/
def quarantine (f : Factory) (source : ServiceRef) (battleID : UInt32)
    (ref : ServiceRef) : Factory :=
  if source ≠ ref ∧ source ≠ f.self ∧ f.isRootSource source = false then f
  else
    match f.battles.lookup battleID with
    | none => f
    | some battle =>
      if battle.ref = ref then
        { f with battles := f.battles.insert battleID { battle with quarantined := true } }
      else f

/-- `applyFactoryStopResultCommand` -/
def applyStopResult (f : Factory) (source : ServiceRef) (request : FactoryStop) (err : String)
    (defect : Bool) : Factory :=
  if f.isRootSource source = false ∨ request.orphan then f
  else
    match f.battles.lookup request.battleID with
    | none => f
    | some battle =>
      if battle.ref ≠ request.ref then f
      else if err = "" then { f with battles := f.battles.erase request.battleID }
      else
        let quarantined := battle.quarantined || (!request.releaseQuarantined && defect)
        { f with battles :=
          f.battles.insert request.battleID { battle with stopping := false, quarantined } }

/-- The step of the create loop that creates an instance. -/
def build (f : Factory) (task : FactoryCreateTask) (outcome : Except String ServiceRef) : Factory :=
  match outcome with
  | .error err => { f with loop := .sending { task, err } }
  | .ok ref =>
    { f with loop := .sending { task, ref, instanceNumber := f.instances }, instances :=
      f.instances + 1 }

/-- The step of the create loop that sends a result, or stops the instance. -/
def send (f : Factory) (result : FactoryCreateResult) (refused : Bool) : Factory :=
  let f := { f with loop := .idle }
  if refused = false then { f with mailbox := f.mailbox ++ [result] }
  else if result.ref.id ≠ 0 then { f with fates := f.fates ++ [(result, .stopped)] }
  else f

/-- One step. -/
def step (f : Factory) : FactoryAct → Option Factory
  | .create source request => some (f.create source request)
  | .result sendErr =>
    match f.mailbox with
    | [] => none
    | result :: mailbox => some ({ f with mailbox }.applyCreateResult result sendErr)
  | .stop source request => some (f.stop source request)
  | .bindOutput source generation ref reporter =>
    if f.isRootSource source = false ∨ generation = 0 ∨ ref.id = 0 ∨ reporter = false then some f
    else some { f with outputRef := ref, outputGeneration := generation }
  | .unbindOutput source generation =>
    if f.isRootSource source = false ∨ generation ≠ f.outputGeneration then some f
    else some { f with outputRef := .zero, outputGeneration := 0 }
  | .stopGeneration source generation order =>
    if order.Perm f.battles.keys then some (f.stopGeneration source generation order) else none
  | .quarantined source battleID ref => some (f.quarantine source battleID ref)
  | .stopResult source request err defect => some (f.applyStopResult source request err defect)
  | .take =>
    match f.loop, f.createQueue with
    | .idle, task :: createQueue => some { f with createQueue, loop := .building task }
    | _, _ => none
  | .build outcome =>
    match f.loop with
    | .building task =>
      if outcome.toOption.any (·.id = 0) then none else some (f.build task outcome)
    | _ => none
  | .send refused =>
    match f.loop with
    | .sending result => some (f.send result refused)
    | _ => none
  | .takeStop =>
    match f.stopQueue with
    | [] => none
    | _ :: stopQueue => some { f with stopQueue }

end Factory

/-- The runs of a Factory. -/
def factories : System Factory FactoryAct where
  init f := ∃ self, f = { self }
  step := Factory.step

/-! ### Instances and their fates -/

namespace CreateLoop

def tasks : CreateLoop → List FactoryCreateTask
  | idle => []
  | building task => [task]
  | sending result => [result.task]

def results : CreateLoop → List FactoryCreateResult
  | sending result => [result]
  | _ => []

end CreateLoop

/-- The results that bring an instance. -/
def created (results : List FactoryCreateResult) : List FactoryCreateResult :=
  results.filter (·.ref.id ≠ 0)

theorem created_append (results results' : List FactoryCreateResult) :
    created (results ++ results') = created results ++ created results' := by
  rw [created, List.filter_append]
  rfl

theorem created_singleton_of_ne {r : FactoryCreateResult} (href : r.ref.id ≠ 0) :
    created [r] = [r] := by
  simp [created, href]

theorem created_singleton_of_eq {r : FactoryCreateResult} (href : r.ref.id = 0) :
    created [r] = [] := by
  simp [created, href]

namespace Factory

/-- The tasks that have been accepted and not answered, the oldest one first. -/
def inFlight (f : Factory) : List FactoryCreateTask :=
  f.mailbox.map (·.task) ++ f.loop.tasks ++ f.createQueue

/-- The results of the create loop that the Factory has not handled. -/
def results (f : Factory) : List FactoryCreateResult := f.mailbox ++ f.loop.results

/-- The instances that are on their way, and then those that have a fate. -/
def known (f : Factory) : List FactoryCreateResult := created f.results ++ f.fates.map Prod.fst

/-- What the invariant is about, apart from the fates. -/
def core (f : Factory) := (f.creating, f.createQueue, f.loop, f.mailbox, f.requests, f.instances)

/-- The invariant. -/
structure Sound (f : Factory) : Prop where
  single : (f.inFlight.map (·.battleID)).Nodup
  pending : ∀ t ∈ f.inFlight, f.creating.lookup t.battleID = some t
  asked : ∀ t ∈ f.inFlight, t.request ∈ f.requests
  results : ∀ r ∈ f.results, r.ref.id ≠ 0 → r.err = ""
  /-- Every instance is on its way or has one fate. -/
  known : (f.known.map (·.instanceNumber)).Perm (List.range f.instances)

variable {f f' : Factory} {task : FactoryCreateTask} {request : FactoryCreate}

theorem Sound.congr (hs : Sound f) (hcore : f'.core = f.core) (hfates : f'.fates = f.fates) :
    Sound f' := by
  simp only [core, Prod.mk.injEq] at hcore
  obtain ⟨hcreating, hqueue, hloop, hmailbox, hrequests, hinstances⟩ := hcore
  have hflight : f'.inFlight = f.inFlight := by rw [inFlight, inFlight, hmailbox, hloop, hqueue]
  have hresults : f'.results = f.results := by
    rw [Factory.results, Factory.results, hmailbox, hloop]
  have hknown : f'.known = f.known := by rw [Factory.known, Factory.known, hresults, hfates]
  exact ⟨hflight ▸ hs.single, hflight ▸ hcreating ▸ hs.pending, hflight ▸ hrequests ▸ hs.asked,
    hresults ▸ hs.results, by rw [hknown, hinstances]; exact hs.known⟩

theorem Sound.accept (hs : Sound f) (hasked : task.request ∈ f.requests)
    (hfree : f.creating.lookup task.battleID = none) : Sound (f.accept task) := by
  have hother : ∀ t ∈ f.inFlight, t.battleID ≠ task.battleID := by
    intro t ht hid
    have hpending := hs.pending t ht
    rw [hid] at hpending
    exact absurd (hfree.symm.trans hpending) nofun
  simp only [Factory.accept]
  split
  · have hflight : inFlight { f with
        creating := f.creating.insert task.battleID task
        createQueue := f.createQueue ++ [task] } = f.inFlight ++ [task] := by
      simp [inFlight]
    refine ⟨?_, ?_, ?_, hs.results, hs.known⟩
    · rw [hflight, List.map_append]
      refine hs.single.append (List.nodup_singleton _) ?_
      intro id hid hnew
      obtain ⟨t, ht, rfl⟩ := List.mem_map.mp hid
      exact hother t ht (List.mem_singleton.mp hnew)
    · intro t ht
      rw [hflight] at ht
      rcases List.mem_append.mp ht with ht | ht
      · exact (AList.lookup_insert_ne (hother t ht)).trans (hs.pending t ht)
      · rw [List.mem_singleton.mp ht]
        exact AList.lookup_insert ..
    · intro t ht
      rw [hflight] at ht
      rcases List.mem_append.mp ht with ht | ht
      · exact hs.asked t ht
      · rw [List.mem_singleton.mp ht]
        exact hasked
  · refine ⟨hs.single, fun t ht => ?_, hs.asked, hs.results, hs.known⟩
    have hlookup := hs.pending t ht
    rw [← hlookup]
    simp [reportCreateResult, hother t ht]

theorem Sound.create (hs : Sound f) {source : ServiceRef} : Sound (f.create source request) := by
  rw [Factory.create]
  split
  · exact hs
  -- The request is noted, whatever becomes of it.
  have hnoted : Sound { f with requests := f.requests ++ [request] } :=
    ⟨hs.single, hs.pending, fun t ht => List.mem_append_left _ (hs.asked t ht),
      hs.results, hs.known⟩
  dsimp only
  split_ifs with hclosed hcreating hbattle
  · exact hnoted.congr rfl rfl
  · exact hnoted.congr rfl rfl
  · exact hnoted.congr rfl rfl
  · refine hnoted.accept (List.mem_append_right _ (List.mem_singleton_self _)) ?_
    exact Option.not_isSome_iff_eq_none.mp hcreating

/-! ### What a step does -/

/-- Every Battle of `t'` is one of `t`, with its ref and its generation. -/
def Keeps (t t' : Table UInt32 FactoryBattle) : Prop :=
  ∀ id b, t'.lookup id = some b → ∃ old, t.lookup id = some old ∧ old.ref = b.ref ∧
    old.generation = b.generation

theorem Keeps.refl (t : Table UInt32 FactoryBattle) : Keeps t t := fun _ b hb => ⟨b, hb, rfl, rfl⟩

theorem Keeps.trans {t u v : Table UInt32 FactoryBattle} (h : Keeps t u) (h' : Keeps u v) :
    Keeps t v := by
  intro id b hb
  obtain ⟨mid, hmid, href, hgeneration⟩ := h' id b hb
  obtain ⟨old, hold, href', hgeneration'⟩ := h id mid hmid
  exact ⟨old, hold, href'.trans href, hgeneration'.trans hgeneration⟩

theorem Keeps.update {t : Table UInt32 FactoryBattle} {id : UInt32} {old b : FactoryBattle}
    (hold : t.lookup id = some old) (href : old.ref = b.ref)
    (hgeneration : old.generation = b.generation) : Keeps t (t.insert id b) := by
  intro id' b' hb'
  by_cases hid : id' = id
  · subst hid
    rw [AList.lookup_insert] at hb'
    exact Option.some.inj hb' ▸ ⟨old, hold, href, hgeneration⟩
  · rw [AList.lookup_insert_ne hid] at hb'
    exact ⟨b', hb', rfl, rfl⟩

theorem Keeps.erase (t : Table UInt32 FactoryBattle) (id : UInt32) : Keeps t (t.erase id) := by
  intro id' b hb
  by_cases hid : id' = id
  · subst hid
    rw [AList.lookup_erase] at hb
    exact absurd hb nofun
  · rw [AList.lookup_erase_ne hid] at hb
    exact ⟨b, hb, rfl, rfl⟩

/-- The stop is one of a Battle in the table. -/
def Stops (f : Factory) (s : FactoryStop) : Prop :=
  ∃ b, f.battles.lookup s.battleID = some b ∧ b.ref = s.ref

/-- What only a creation and the stop of a generation change. -/
def frame (f : Factory) := (f.requests, f.closedThrough, f.generationStops)

/-- Nothing is created, reported or settled. -/
structure Quiet (f f' : Factory) : Prop where
  frame : f'.frame = f.frame
  reports : f'.reports = f.reports
  fates : f'.fates = f.fates
  battles : Keeps f.battles f'.battles
  stops : ∀ s ∈ f'.stopQueue, s ∈ f.stopQueue ∨ f.Stops s

/-- Not even the create loop has done anything. -/
structure Still (f f' : Factory) : Prop extends Quiet f f' where
  core : f'.core = f.core

theorem Still.refl (f : Factory) : Still f f :=
  ⟨⟨rfl, rfl, rfl, Keeps.refl _, fun _ => .inl⟩, rfl⟩

theorem Still.trans {f'' : Factory} (h : Still f f') (h' : Still f' f'') : Still f f'' := by
  refine ⟨⟨h'.frame.trans h.frame, h'.reports.trans h.reports, h'.fates.trans h.fates,
    h.battles.trans h'.battles, fun s hs => ?_⟩, h'.core.trans h.core⟩
  rcases h'.stops s hs with hs | ⟨b, hb, href⟩
  · exact h.stops s hs
  · obtain ⟨old, hold, href', -⟩ := h.battles _ b hb
    exact .inr ⟨old, hold, href'.trans href⟩

/-- An entry of the table is changed, and no more. -/
theorem Still.update {id : UInt32} {old b : FactoryBattle} (hold : f.battles.lookup id = some old)
    (href : old.ref = b.ref) (hgeneration : old.generation = b.generation) :
    Still f { f with battles := f.battles.insert id b } :=
  ⟨⟨rfl, rfl, rfl, Keeps.update hold href hgeneration, fun _ => .inl⟩, rfl⟩

/-- A Battle in the table gets its stop. -/
theorem Still.stop {s : FactoryStop} {battle : FactoryBattle}
    (hbattle : f.battles.lookup s.battleID = some battle) (hs : battle.ref = s.ref) :
    Still f { f with
      stopQueue := f.stopQueue ++ [s]
      battles := f.battles.insert s.battleID { battle with stopping := true } } := by
  refine ⟨⟨rfl, rfl, rfl, Keeps.update hbattle rfl rfl, fun s' hs' => ?_⟩, rfl⟩
  refine (List.mem_append.mp hs').imp_right fun hnew => ?_
  rw [List.mem_singleton.mp hnew]
  exact ⟨battle, hbattle, hs⟩

theorem stop_still (f : Factory) (source : ServiceRef) (request : FactoryStop) :
    Still f (f.stop source request) := by
  rw [stop]
  split
  · exact .refl f
  next battle hbattle =>
  split
  · exact .refl f
  next hsame =>
  split
  · have href : battle.ref = request.ref := by
      by_contra hne
      exact hsame (.inl hne)
    exact Still.stop (s := { request with connectionGeneration := battle.generation }) hbattle href
  · exact .refl f

theorem stopBattles_still (f : Factory) (generation : UInt64) (order : List UInt32) :
    Still f (f.stopBattles generation order) := by
  induction order generalizing f with
  | nil => exact .refl f
  | cons battleID order ih =>
    rw [stopBattles]
    split
    · exact ih f
    next battle hbattle =>
    split
    · exact ih f
    split
    · have hstop :=
        Still.stop (s := ⟨⟨0, battleID, battle.ref, false⟩, battle.host, false, generation⟩)
        hbattle rfl
      exact hstop.trans (ih _)
    · exact .refl f

theorem quarantine_still (f : Factory) (source : ServiceRef) (battleID : UInt32)
    (ref : ServiceRef) : Still f (f.quarantine source battleID ref) := by
  rw [quarantine]
  split
  · exact .refl f
  split
  · exact .refl f
  next battle hbattle =>
  split
  · exact .update hbattle rfl rfl
  · exact .refl f

theorem applyStopResult_still (f : Factory) (source : ServiceRef) (request : FactoryStop)
    (err : String) (defect : Bool) : Still f (f.applyStopResult source request err defect) := by
  rw [applyStopResult]
  split
  · exact .refl f
  split
  · exact .refl f
  next battle hbattle =>
  split
  · exact .refl f
  split
  · exact ⟨⟨rfl, rfl, rfl, Keeps.erase _ _, fun _ => .inl⟩, rfl⟩
  · exact .update hbattle rfl rfl

/-- An instance gets its fate. -/
structure Settles (f : Factory) (a : FactoryAct) (f' : Factory) (r : FactoryCreateResult)
    (fate : Fate) : Prop where
  onItsWay : r ∈ created f.results
  fates : f'.fates = f.fates ++ [(r, fate)]
  stopQueue : f'.stopQueue = f.stopQueue ++ if fate = .orphaned then [orphanStop r] else []
  registered : fate = .registered → f.pending r = true ∧ f.generationClosed r.generation = false
  dropped : fate = .dropped → queueSize ≤ f.stopQueue.length
  stopped : fate = .stopped → a = .send true

/-- What a step does. -/
structure Effect (f : Factory) (a : FactoryAct) (f' : Factory) : Prop where
  requests : f.requests ⊆ f'.requests
  closed : f.closedThrough ≤ f'.closedThrough
  stops : ∀ g ∈ f'.generationStops, g ∈ f.generationStops ∨ g ≤ f'.closedThrough
  battles : ∀ id b, f'.battles.lookup id = some b → f.generationClosed b.generation = false ∨
    ∃ old, f.battles.lookup id = some old ∧ old.ref = b.ref ∧ old.generation = b.generation
  reports : ∃ new, f'.reports = f.reports ++ new ∧ ∀ x ∈ new,
    Host.answers (f'.requests.map (·.toCreateBattleInternal)) x = true ∧
      (x.ref.id = 0 ∨ f.generationClosed x.connectionGeneration = false)
  fates : (f'.fates = f.fates ∧ ∀ s ∈ f'.stopQueue, s ∈ f.stopQueue ∨ f.Stops s) ∨
    ∃ r fate, Settles f a f' r fate

variable {a : FactoryAct} {r : FactoryCreateResult}

theorem Quiet.effect (h : Quiet f f') : Effect f a f' := by
  have hframe := h.frame
  simp only [Factory.frame, Prod.mk.injEq] at hframe
  obtain ⟨hrequests, hclosed, hstops⟩ := hframe
  refine ⟨by rw [hrequests]; exact List.Subset.refl _,
    by rw [hclosed]; exact UInt64.le_refl _, ?_, ?_, ⟨[], ?_, nofun⟩, .inl ⟨h.fates, h.stops⟩⟩
  · intro g hg
    exact .inl (hstops ▸ hg)
  · intro id b hb
    exact .inr (h.battles id b hb)
  · rw [h.reports, List.append_nil]

theorem answers_report {requests : List FactoryCreate} (hrequest : request ∈ requests)
    (ref : ServiceRef) (err : String) :
    Host.answers (requests.map (·.toCreateBattleInternal))
      ⟨request.operationID, request.request.battleID, ref, request.request.connectionGeneration,
        err⟩ = true := by
  simp only [Host.answers, List.any_map, List.any_eq_true]
  exact ⟨request, hrequest, by simp⟩

theorem Effect.refuse (hrequests : f.requests ⊆ f'.requests) (hrequest : request ∈ f'.requests)
    (hclosed : f'.closedThrough = f.closedThrough)
    (hstops : f'.generationStops = f.generationStops) (hbattles : f'.battles = f.battles)
    {err : String} (hreports : f'.reports = (f.reportCreateResult request .zero err).reports)
    (hfates : f'.fates = f.fates ∧ f'.stopQueue = f.stopQueue ∨ ∃ r fate, Settles f a f' r fate) :
    Effect f a f' := by
  refine ⟨hrequests, by rw [hclosed]; exact UInt64.le_refl _, ?_, ?_, ⟨_, hreports, ?_⟩, ?_⟩
  · intro g hg
    exact .inl (hstops ▸ hg)
  · intro id b hb
    rw [hbattles] at hb
    exact .inr (Keeps.refl _ id b hb)
  · intro x hx
    rw [List.mem_singleton.mp hx]
    exact ⟨answers_report hrequest .zero err, .inl rfl⟩
  · refine hfates.imp_left fun ⟨hfates, hqueue⟩ => ⟨hfates, fun s hs => ?_⟩
    exact .inl (hqueue ▸ hs)

theorem create_effect (f : Factory) (source : ServiceRef) (request : FactoryCreate) :
    Effect f a (f.create source request) := by
  rw [create]
  split
  · exact (Still.refl f).toQuiet.effect
  have hsub : f.requests ⊆ f.requests ++ [request] := List.subset_append_left _ _
  have hmem : request ∈ f.requests ++ [request] :=
    List.mem_append_right _ (List.mem_singleton_self _)
  dsimp only
  split_ifs
  · exact .refuse hsub hmem rfl rfl rfl rfl (.inl ⟨rfl, rfl⟩)
  · exact .refuse hsub hmem rfl rfl rfl rfl (.inl ⟨rfl, rfl⟩)
  · exact .refuse hsub hmem rfl rfl rfl rfl (.inl ⟨rfl, rfl⟩)
  rw [accept]
  dsimp only
  split
  · exact ⟨hsub, UInt64.le_refl _, fun _ => .inl, fun id b hb => .inr (Keeps.refl _ id b hb),
      ⟨[], (List.append_nil _).symm, nofun⟩, .inl ⟨rfl, fun _ => .inl⟩⟩
  · exact .refuse hsub hmem rfl rfl rfl rfl (.inl ⟨rfl, rfl⟩)

theorem Effect.orphan (h : Effect f a f') (hr : r ∈ created f.results) (hfates : f'.fates = f.fates)
    (hqueue : f'.stopQueue = f.stopQueue) :
    Effect f a (f'.enqueueOrphanStop r) := by
  rw [enqueueOrphanStop, hqueue, hfates]
  split
  · exact ⟨h.requests, h.closed, h.stops, h.battles, h.reports,
      .inr ⟨r, .orphaned, hr, rfl, rfl, nofun, nofun, nofun⟩⟩
  next hfull =>
  exact ⟨h.requests, h.closed, h.stops, h.battles, h.reports, .inr ⟨r, .dropped, hr, rfl,
    (List.append_nil _).symm, nofun, fun _ => Nat.le_of_not_lt hfull, nofun⟩⟩

theorem enqueueOrphanStop_report (f : Factory) (r : FactoryCreateResult) (request : FactoryCreate)
    (ref : ServiceRef) (err : String) : (f.enqueueOrphanStop r).reportCreateResult request ref err =
      (f.reportCreateResult request ref err).enqueueOrphanStop r := by
  by_cases hroom : f.stopQueue.length < queueSize
  · simp [enqueueOrphanStop, reportCreateResult, hroom]
  · simp [enqueueOrphanStop, reportCreateResult, hroom]

section Result

variable {r : FactoryCreateResult} {mailbox : List FactoryCreateResult}
  {creating : Table UInt32 FactoryCreateTask}

theorem orphan_effect (hr : r ∈ created f.results) (hrequest : r.task.request ∈ f.requests)
    (err : String) :
    Effect f a
      (({ f with mailbox, creating }.enqueueOrphanStop r).reportCreateResult r.task.request .zero
        err) := by
  rw [enqueueOrphanStop_report]
  refine Effect.orphan ?_ hr rfl rfl
  exact .refuse (List.Subset.refl _) hrequest rfl rfl rfl rfl (.inl ⟨rfl, rfl⟩)

/-- Only an instance of a generation that is open is registered. -/
theorem register_effect (hr : r ∈ created f.results) (hrequest : r.task.request ∈ f.requests)
    (hpending : f.pending r = true) (hopen : f.generationClosed r.generation = false)
    (sendErr : Option String) : Effect f a ({ f with mailbox, creating }.register r sendErr) := by
  have hreport :
    ∀ x ∈ [ApplyBattleCreated.mk r.task.request.operationID r.task.request.request.battleID r.ref
      r.generation ""], Host.answers (f.requests.map (·.toCreateBattleInternal)) x = true ∧
        (x.ref.id = 0 ∨ f.generationClosed x.connectionGeneration = false) := by
    intro x hx
    rw [List.mem_singleton.mp hx]
    exact ⟨answers_report hrequest r.ref "", .inr hopen⟩
  cases sendErr with
  | none =>
    refine ⟨List.Subset.refl _, UInt64.le_refl _, fun _ => .inl, ?_, ⟨_, rfl, hreport⟩, ?_⟩
    · intro id b hb
      by_cases hid : id = r.task.battleID
      · subst hid
        have hb' := Option.some.inj ((AList.lookup_insert _).symm.trans hb)
        rw [← hb']
        exact .inl hopen
      · exact .inr ⟨b, (AList.lookup_insert_ne hid).symm.trans hb, rfl, rfl⟩
    · exact .inr ⟨r, .registered, hr, rfl, (List.append_nil _).symm,
        fun _ => ⟨hpending, hopen⟩, nofun, nofun⟩
  | some err =>
    refine Effect.orphan ⟨List.Subset.refl _, UInt64.le_refl _,
      fun _ => .inl, ?_, ⟨_, rfl, hreport⟩, .inl ⟨rfl, fun _ => .inl⟩⟩ hr rfl rfl
    intro id b hb
    -- The Battle has been taken out again.
    by_cases hid : id = r.task.battleID
    · subst hid
      exact absurd ((AList.lookup_erase _ _).symm.trans hb) nofun
    · have hother := (AList.lookup_erase_ne hid).symm.trans hb
      exact .inr ⟨b, (AList.lookup_insert_ne hid).symm.trans hother, rfl, rfl⟩

end Result

/-- The result of a task in flight matches the pending creation. -/
theorem Sound.pending_result (hs : Sound f) (hr : r ∈ f.mailbox) : f.pending r = true := by
  have hlookup := hs.pending r.task
    (List.mem_append_left _ (List.mem_append_left _ (List.mem_map_of_mem hr)))
  simp [Factory.pending, hlookup]

theorem Sound.asked_result (hs : Sound f) (hr : r ∈ f.mailbox) : r.task.request ∈ f.requests :=
  hs.asked r.task (List.mem_append_left _ (List.mem_append_left _ (List.mem_map_of_mem hr)))

theorem Sound.result_effect (hs : Sound f) {mailbox : List FactoryCreateResult}
    (hmailbox : f.mailbox = r :: mailbox) (sendErr : Option String) :
    Effect f a ({ f with mailbox }.applyCreateResult r sendErr) := by
  have hmem : r ∈ f.mailbox := by
    rw [hmailbox]
    exact List.mem_cons_self
  have hpending := hs.pending_result hmem
  have hrequest := hs.asked_result hmem
  have hmatches : ¬Factory.pending { f with mailbox } r = false := Bool.not_eq_false _ ▸ hpending
  rw [applyCreateResult]
  simp only [if_neg hmatches]
  by_cases hfailed : r.err ≠ "" ∨ r.ref.id = 0
  · rw [if_pos hfailed]
    exact .refuse (List.Subset.refl _) hrequest rfl rfl rfl rfl (.inl ⟨rfl, rfl⟩)
  rw [if_neg hfailed]
  have hcreated : r ∈ created f.results := by
    refine List.mem_filter.mpr ⟨List.mem_append_left _ hmem, ?_⟩
    exact decide_eq_true fun href => hfailed (.inr href)
  split_ifs with hclosed hbattle
  · exact orphan_effect hcreated hrequest _
  · exact orphan_effect hcreated hrequest _
  · exact register_effect hcreated hrequest hpending (Bool.eq_false_iff.mpr hclosed) sendErr

theorem stopGeneration_effect (f : Factory) (source : ServiceRef) (generation : UInt64)
    (order : List UInt32) : Effect f a (f.stopGeneration source generation order) := by
  rw [stopGeneration]
  split
  · exact (Still.refl f).toQuiet.effect
  have hquiet := (stopBattles_still { f with
    closedThrough := if f.closedThrough < generation then generation else f.closedThrough
    generationStops := f.generationStops ++ [generation] } generation order).toQuiet
  have hframe := hquiet.frame
  simp only [frame, Prod.mk.injEq] at hframe
  obtain ⟨hrequests, hclosed, hstops⟩ := hframe
  refine ⟨by rw [hrequests]; exact List.Subset.refl _, ?_, ?_,
    fun id b hb => .inr (hquiet.battles id b hb),
    ⟨[], by rw [hquiet.reports, List.append_nil], nofun⟩, .inl ⟨hquiet.fates, hquiet.stops⟩⟩
  · rw [hclosed]
    split
    next hlt => exact UInt64.le_of_lt hlt
    · exact UInt64.le_refl _
  · intro g hg
    rw [hstops] at hg
    refine (List.mem_append.mp hg).imp_right fun hnew => ?_
    rw [List.mem_singleton.mp hnew, hclosed]
    split
    · exact UInt64.le_refl _
    next hge => exact UInt64.not_lt.mp hge

/-! ### Runs -/

theorem enqueueOrphanStop_core (f : Factory) (r : FactoryCreateResult) :
    (f.enqueueOrphanStop r).core = f.core ∧
      (f.enqueueOrphanStop r).fates.map Prod.fst = f.fates.map Prod.fst ++ [r] := by
  rw [enqueueOrphanStop]
  split
  · exact ⟨rfl, List.map_append⟩
  · exact ⟨rfl, List.map_append⟩

theorem register_core (f : Factory) (r : FactoryCreateResult) (sendErr : Option String) :
    (f.register r sendErr).core = f.core ∧
      (f.register r sendErr).fates.map Prod.fst = f.fates.map Prod.fst ++ [r] := by
  cases sendErr with
  | none => exact ⟨rfl, List.map_append⟩
  | some err => exact enqueueOrphanStop_core _ r

/-- The creation is not pending any more, and its instance has a fate. -/
theorem applyCreateResult_core (hpending : f.pending r = true) (herr : r.ref.id ≠ 0 → r.err = "")
    (sendErr : Option String) :
    (f.applyCreateResult r sendErr).core =
      { f with creating := f.creating.erase r.task.battleID }.core ∧
      (f.applyCreateResult r sendErr).fates.map Prod.fst = f.fates.map Prod.fst ++ created [r] := by
  simp only [applyCreateResult, hpending, Bool.true_eq_false, if_false]
  by_cases hfailed : r.err ≠ "" ∨ r.ref.id = 0
  · have hnone : r.ref.id = 0 := by
      by_contra href
      exact hfailed.elim (fun hne => hne (herr href)) href
    rw [if_pos hfailed, created_singleton_of_eq hnone, List.append_nil]
    exact ⟨rfl, rfl⟩
  have href : r.ref.id ≠ 0 := fun href => hfailed (.inr href)
  rw [if_neg hfailed, created_singleton_of_ne href]
  split_ifs
  · exact enqueueOrphanStop_core { f with creating := f.creating.erase r.task.battleID } r
  · exact enqueueOrphanStop_core { f with creating := f.creating.erase r.task.battleID } r
  · exact register_core { f with creating := f.creating.erase r.task.battleID } r sendErr

theorem Sound.result (hs : Sound f) {mailbox : List FactoryCreateResult}
    (hmailbox : f.mailbox = r :: mailbox) (sendErr : Option String) :
    Sound ({ f with mailbox }.applyCreateResult r sendErr) := by
  have hmem : r ∈ f.mailbox := by
    rw [hmailbox]
    exact List.mem_cons_self
  have hmatches : Factory.pending { f with mailbox } r = true := hs.pending_result hmem
  obtain ⟨hcore, hfates⟩ := applyCreateResult_core hmatches
    (hs.results r (List.mem_append_left _ hmem)) sendErr
  generalize Factory.applyCreateResult { f with mailbox } r sendErr = f' at hcore hfates
  simp only [core, Prod.mk.injEq] at hcore
  obtain ⟨hcreating, hqueue, hloop, hmail, hrequests, hinstances⟩ := hcore
  have hflight : f.inFlight = r.task :: f'.inFlight := by
    rw [inFlight, hmailbox, inFlight, hmail, hloop, hqueue]
    rfl
  have hresults : f.results = [r] ++ f'.results := by
    rw [Factory.results, hmailbox, Factory.results, hmail, hloop]
    rfl
  have hin : ∀ t ∈ f'.inFlight, t ∈ f.inFlight := by
    intro t ht
    rw [hflight]
    exact List.mem_cons_of_mem _ ht
  have hsingle := hs.single
  rw [hflight, List.map_cons, List.nodup_cons] at hsingle
  refine ⟨hsingle.2, ?_, ?_, ?_, ?_⟩
  · intro t ht
    have hne : t.battleID ≠ r.task.battleID := fun hid => hsingle.1 (hid ▸ List.mem_map_of_mem ht)
    rw [hcreating, AList.lookup_erase_ne hne]
    exact hs.pending t (hin t ht)
  · intro t ht
    rw [hrequests]
    exact hs.asked t (hin t ht)
  · intro r' hr'
    refine hs.results r' ?_
    rw [hresults]
    exact List.mem_cons_of_mem _ hr'
  · -- The instance moves from the front to the back.
    have hknown : f'.known.Perm f.known := by
      rw [Factory.known, Factory.known, hfates, hresults, created_append, ← List.append_assoc,
        List.append_assoc (created [r])]
      exact List.perm_append_comm
    rw [hinstances]
    exact (hknown.map _).trans hs.known

theorem Sound.take (hs : Sound f) {createQueue : List FactoryCreateTask} (hloop : f.loop = .idle)
    (hqueue : f.createQueue = task :: createQueue) :
    Sound { f with createQueue, loop := .building task } := by
  have hflight : inFlight { f with createQueue, loop := .building task } = f.inFlight := by
    simp [inFlight, hloop, hqueue, CreateLoop.tasks]
  have hresults : Factory.results { f with createQueue, loop := .building task } = f.results := by
    simp [Factory.results, hloop, CreateLoop.results]
  have hknown : Factory.known { f with createQueue, loop := .building task } = f.known := by
    rw [Factory.known, hresults]
    rfl
  exact ⟨hflight ▸ hs.single, hflight ▸ hs.pending, hflight ▸ hs.asked, hresults ▸ hs.results,
    by rw [hknown]; exact hs.known⟩

theorem Sound.build (hs : Sound f) (hloop : f.loop = .building task)
    {outcome : Except String ServiceRef} (hok : ¬outcome.toOption.any (·.id = 0) = true) :
    Sound (f.build task outcome) := by
  have hold : f.results = f.mailbox := by
    rw [Factory.results, hloop]
    exact List.append_nil _
  have hflight : (f.build task outcome).inFlight = f.inFlight := by
    cases outcome <;> simp [Factory.build, inFlight, hloop, CreateLoop.tasks]
  cases outcome with
  | error err =>
    have hnew : (f.build task (.error err)).results = f.results ++ [⟨task, .zero, err, 0⟩] := by
      rw [hold]
      rfl
    refine ⟨hflight ▸ hs.single, hflight ▸ hs.pending, hflight ▸ hs.asked, ?_, ?_⟩
    · intro r hr href
      rw [hnew] at hr
      rcases List.mem_append.mp hr with hr | hr
      · exact hs.results r hr href
      · rw [List.mem_singleton.mp hr] at href
        exact absurd rfl href
    · have hknown : (f.build task (.error err)).known = f.known := by
        rw [Factory.known, hnew, created_append, created_singleton_of_eq rfl, List.append_nil]
        rfl
      rw [hknown]
      exact hs.known
  | ok ref =>
    have href : ref.id ≠ 0 := by simpa [Except.toOption] using hok
    have hnew : (f.build task (.ok ref)).results =
        f.results ++ [⟨task, ref, "", f.instances⟩] := by
      rw [hold]
      rfl
    refine ⟨hflight ▸ hs.single, hflight ▸ hs.pending, hflight ▸ hs.asked, ?_, ?_⟩
    · intro r hr hid
      rw [hnew] at hr
      rcases List.mem_append.mp hr with hr | hr
      · exact hs.results r hr hid
      · rw [List.mem_singleton.mp hr]
    · have hknown : (f.build task (.ok ref)).known.Perm
          (f.known ++ [⟨task, ref, "", f.instances⟩]) := by
        rw [Factory.known, hnew, created_append, created_singleton_of_ne href, Factory.known,
          List.append_assoc, List.append_assoc]
        exact List.Perm.append_left _ List.perm_append_comm
      have hnumbers := hknown.map (·.instanceNumber)
      rw [List.map_append] at hnumbers
      have hrange : List.range (f.build task (.ok ref)).instances = List.range f.instances ++
        [f.instances] :=
        List.range_succ
      rw [hrange]
      exact hnumbers.trans (hs.known.append_right _)

theorem Sound.send (hs : Sound f) (hloop : f.loop = .sending r) (refused : Bool) :
    Sound (f.send r refused) := by
  have hflight : f.inFlight = f.mailbox.map (·.task) ++ ([r.task] ++ f.createQueue) := by
    rw [inFlight, hloop, List.append_assoc]
    rfl
  have hresults : f.results = f.mailbox ++ [r] := by
    rw [Factory.results, hloop]
    rfl
  cases refused with
  | false =>
    have hflight' : (f.send r false).inFlight = f.inFlight := by
      rw [hflight]
      simp [Factory.send, inFlight, CreateLoop.tasks]
    have hresults' : (f.send r false).results = f.results := by
      rw [hresults]
      simp [Factory.send, Factory.results, CreateLoop.results]
    have hknown : (f.send r false).known = f.known := by
      rw [Factory.known, hresults']
      rfl
    exact ⟨hflight' ▸ hs.single, hflight' ▸ hs.pending, hflight' ▸ hs.asked, hresults' ▸ hs.results,
      by rw [hknown]; exact hs.known⟩
  | true =>
    -- The task is in flight no more, and its creation stays pending for good.
    have hsend : (f.send r true).core = { f with loop := .idle }.core ∧
        (f.send r true).fates.map Prod.fst = f.fates.map Prod.fst ++ created [r] := by
      rw [Factory.send]
      by_cases href : r.ref.id = 0
      · simp [href, created_singleton_of_eq href]
      · simp [href, created_singleton_of_ne href, Factory.core]
    obtain ⟨hcore, hfates⟩ := hsend
    generalize f.send r true = f' at hcore hfates
    simp only [core, Prod.mk.injEq] at hcore
    obtain ⟨hcreating, hqueue, hidle, hmail, hrequests, hinstances⟩ := hcore
    have hsub : f'.inFlight.Sublist f.inFlight := by
      rw [hflight, inFlight, hmail, hidle, hqueue, CreateLoop.tasks, List.append_nil]
      exact (List.sublist_append_right _ _).append_left _
    have hresults' : f'.results = f.mailbox := by
      rw [Factory.results, hmail, hidle]
      exact List.append_nil _
    refine ⟨hs.single.sublist (hsub.map _), ?_, ?_, ?_, ?_⟩
    · intro t ht
      rw [hcreating]
      exact hs.pending t (hsub.subset ht)
    · intro t ht
      rw [hrequests]
      exact hs.asked t (hsub.subset ht)
    · intro r' hr'
      refine hs.results r' ?_
      rw [hresults, ← hresults']
      exact List.mem_append_left _ hr'
    · have hknown : f'.known.Perm f.known := by
        rw [Factory.known, Factory.known, hfates, hresults, hresults', created_append,
          List.append_assoc]
        exact List.Perm.append_left _ List.perm_append_comm
      rw [hinstances]
      exact (hknown.map _).trans hs.known

theorem send_effect (hloop : f.loop = .sending r) (refused : Bool) :
    Effect f (.send refused) (f.send r refused) := by
  rw [Factory.send]
  split_ifs with hsent href
  · exact Quiet.effect ⟨rfl, rfl, rfl, Keeps.refl _, fun _ => .inl⟩
  · have hr : r ∈ created f.results := by
      refine List.mem_filter.mpr ⟨?_, decide_eq_true href⟩
      rw [Factory.results, hloop]
      exact List.mem_append_right _ (List.mem_singleton_self _)
    refine ⟨List.Subset.refl _, UInt64.le_refl _, fun _ => .inl,
      fun id b hb => .inr (Keeps.refl _ id b hb),
      ⟨[], (List.append_nil _).symm, nofun⟩,
        .inr ⟨r, .stopped, hr, rfl, (List.append_nil _).symm, nofun, nofun, fun _ => ?_⟩⟩
    rw [Bool.eq_true_of_not_eq_false hsent]
  · exact Quiet.effect ⟨rfl, rfl, rfl, Keeps.refl _, fun _ => .inl⟩

theorem stopGeneration_core (f : Factory) (source : ServiceRef) (generation : UInt64)
    (order : List UInt32) : (f.stopGeneration source generation order).core = f.core ∧
      (f.stopGeneration source generation order).fates = f.fates := by
  rw [stopGeneration]
  split
  · exact ⟨rfl, rfl⟩
  · have hstill := stopBattles_still { f with
      closedThrough := if f.closedThrough < generation then generation else f.closedThrough
      generationStops := f.generationStops ++ [generation] } generation order
    exact ⟨hstill.core, hstill.fates⟩

theorem Sound.step (hs : Sound f) (hstep : f.step a = some f') : Sound f' ∧ Effect f a f' := by
  have still : ∀ f', Still f f' → Sound f' ∧ Effect f a f' := fun f' h =>
    ⟨hs.congr h.core h.fates, h.toQuiet.effect⟩
  cases a with
  | create source request =>
    cases hstep
    exact ⟨hs.create, create_effect f source request⟩
  | result sendErr =>
    simp only [Factory.step] at hstep
    split at hstep
    · exact absurd hstep nofun
    next r mailbox hmailbox =>
    cases hstep
    exact ⟨hs.result hmailbox sendErr, hs.result_effect hmailbox sendErr⟩
  | stop source request =>
    cases hstep
    exact still _ (stop_still f source request)
  | bindOutput source generation ref reporter =>
    simp only [Factory.step] at hstep
    split at hstep
    · cases hstep
      exact still _ (Still.refl f)
    · cases hstep
      exact still _ ⟨⟨rfl, rfl, rfl, Keeps.refl _, fun _ => .inl⟩, rfl⟩
  | unbindOutput source generation =>
    simp only [Factory.step] at hstep
    split at hstep
    · cases hstep
      exact still _ (Still.refl f)
    · cases hstep
      exact still _ ⟨⟨rfl, rfl, rfl, Keeps.refl _, fun _ => .inl⟩, rfl⟩
  | stopGeneration source generation order =>
    obtain ⟨hcore, hfates⟩ := stopGeneration_core f source generation order
    cases (Option.ite_none_right_eq_some.mp hstep).2
    exact ⟨hs.congr hcore hfates, stopGeneration_effect f source generation order⟩
  | quarantined source battleID ref =>
    cases hstep
    exact still _ (quarantine_still f source battleID ref)
  | stopResult source request err defect =>
    cases hstep
    exact still _ (applyStopResult_still f source request err defect)
  | take =>
    simp only [Factory.step] at hstep
    split at hstep
    next task createQueue hloop hqueue =>
      cases hstep
      exact ⟨hs.take hloop hqueue, Quiet.effect ⟨rfl, rfl, rfl, Keeps.refl _, fun _ => .inl⟩⟩
    · exact absurd hstep nofun
  | build outcome =>
    simp only [Factory.step] at hstep
    split at hstep
    next task hloop =>
      obtain ⟨hok, hstep⟩ := Option.ite_none_left_eq_some.mp hstep
      cases hstep
      refine ⟨hs.build hloop hok, Quiet.effect ?_⟩
      cases outcome <;> exact ⟨rfl, rfl, rfl, Keeps.refl _, fun _ => .inl⟩
    · exact absurd hstep nofun
  | send refused =>
    simp only [Factory.step] at hstep
    split at hstep
    next r hloop =>
      cases hstep
      exact ⟨hs.send hloop refused, send_effect hloop refused⟩
    · exact absurd hstep nofun
  | takeStop =>
    simp only [Factory.step] at hstep
    split at hstep
    · exact absurd hstep nofun
    next s stopQueue hqueue =>
    cases hstep
    refine still _ ⟨⟨rfl, rfl, rfl, Keeps.refl _, fun s' hs' => .inl ?_⟩, rfl⟩
    rw [hqueue]
    exact List.mem_cons_of_mem _ hs'

/-- The stops that have been handled are behind the fence. -/
def Closed (f : Factory) : Prop := ∀ g ∈ f.generationStops, g ≤ f.closedThrough

theorem Closed.step (hc : Closed f) (h : Effect f a f') : Closed f' := by
  intro g hg
  exact (h.stops g hg).elim (fun hold => UInt64.le_trans (hc g hold) h.closed) id

/-- What has been reported answers requests. -/
def Answers (f : Factory) : Prop :=
  ∀ x ∈ f.reports, Host.answers (f.requests.map (·.toCreateBattleInternal)) x = true

theorem Answers.step (ha : Answers f) (h : Effect f a f') : Answers f' := by
  obtain ⟨new, hnew, hanswers⟩ := h.reports
  intro x hx
  rw [hnew] at hx
  rcases List.mem_append.mp hx with hx | hx
  · obtain ⟨c, hc, htest⟩ := List.any_eq_true.mp (ha x hx)
    exact List.any_eq_true.mpr ⟨c, List.map_subset _ h.requests hc, htest⟩
  · exact (hanswers x hx).1

theorem reachable_sound (hf : factories.Reachable f) : Sound f ∧ Closed f ∧ Answers f := by
  refine hf.invariant (I := fun f => Sound f ∧ Closed f ∧ Answers f) ?_ ?_
  · rintro f ⟨self, rfl⟩
    exact ⟨⟨List.nodup_nil, nofun, nofun, nofun, List.Perm.refl _⟩, nofun, nofun⟩
  · rintro f a f' ⟨hs, hc, ha⟩ - hstep
    obtain ⟨hs', heffect⟩ := hs.step hstep
    exact ⟨hs', hc.step heffect, ha.step heffect⟩

/-- The generations from 1 to `g`. -/
def Covers (g generation : UInt64) : Prop := generation ≠ 0 ∧ generation ≤ g

/-- From `f` to `f'`, no Battle of a generation from 1 to `g` has come into the table, none has been
reported as created, and no instance of one has been registered. -/
structure Fenced (g : UInt64) (f f' : Factory) : Prop where
  battles : ∀ id b, f'.battles.lookup id = some b → Covers g b.generation →
    ∃ old, f.battles.lookup id = some old ∧ old.ref = b.ref ∧ old.generation = b.generation
  reports : ∃ new, f'.reports = f.reports ++ new ∧ ∀ x ∈ new, Covers g x.connectionGeneration →
    x.ref.id = 0
  fates : ∃ new, f'.fates = f.fates ++ new ∧ ∀ p ∈ new, Covers g p.1.generation → p.2 ≠ .registered

variable {g : UInt64}

theorem Fenced.refl (g : UInt64) (f : Factory) : Fenced g f f :=
  ⟨fun id b hb _ => Keeps.refl _ id b hb, ⟨[], (List.append_nil _).symm, nofun⟩,
    ⟨[], (List.append_nil _).symm, nofun⟩⟩

theorem Fenced.trans {f'' : Factory} (h : Fenced g f f') (h' : Fenced g f' f'') :
    Fenced g f f'' := by
  obtain ⟨reports, hreports, hzero⟩ := h.reports
  obtain ⟨reports', hreports', hzero'⟩ := h'.reports
  obtain ⟨fates, hfates, hnot⟩ := h.fates
  obtain ⟨fates', hfates', hnot'⟩ := h'.fates
  refine ⟨?_, ⟨reports ++ reports', ?_, ?_⟩, ⟨fates ++ fates', ?_, ?_⟩⟩
  · intro id b hb hcovers
    obtain ⟨mid, hmid, href, hgeneration⟩ := h'.battles id b hb hcovers
    obtain ⟨old, hold, href', hgeneration'⟩ := h.battles id mid hmid (hgeneration ▸ hcovers)
    exact ⟨old, hold, href'.trans href, hgeneration'.trans hgeneration⟩
  · rw [hreports', hreports, List.append_assoc]
  · intro x hx
    exact (List.mem_append.mp hx).elim (hzero x) (hzero' x)
  · rw [hfates', hfates, List.append_assoc]
  · intro p hp
    exact (List.mem_append.mp hp).elim (hnot p) (hnot' p)

theorem not_covers_of_open {generation : UInt64} (hg : g ≤ f.closedThrough)
    (hopen : f.generationClosed generation = false) : ¬Covers g generation := by
  rintro ⟨hne, hle⟩
  have hclosed : f.generationClosed generation = true := by
    simp [generationClosed, hne, UInt64.le_trans hle hg]
  exact absurd (hclosed.symm.trans hopen) nofun

theorem Effect.fenced (h : Effect f a f') (hg : g ≤ f.closedThrough) : Fenced g f f' := by
  obtain ⟨new, hnew, hreports⟩ := h.reports
  refine ⟨?_, ⟨new, hnew, ?_⟩, ?_⟩
  · intro id b hb hcovers
    exact (h.battles id b hb).resolve_left fun hopen => not_covers_of_open hg hopen hcovers
  · intro x hx hcovers
    exact (hreports x hx).2.resolve_right fun hopen => not_covers_of_open hg hopen hcovers
  · rcases h.fates with ⟨hfates, -⟩ | ⟨r, fate, hsettles⟩
    · exact ⟨[], hfates.trans (List.append_nil _).symm, nofun⟩
    · refine ⟨[(r, fate)], hsettles.fates, fun p hp hcovers hregistered => ?_⟩
      rw [List.mem_singleton.mp hp] at hcovers hregistered
      exact not_covers_of_open hg (hsettles.registered hregistered).2 hcovers

/-- The fence holds however the run goes on. -/
theorem Sound.fenced_steps {as : List FactoryAct} (hs : Sound f) (hg : g ≤ f.closedThrough)
    (hsteps : factories.Steps f as f') : Fenced g f f' := by
  induction as generalizing f with
  | nil =>
    obtain rfl : f = f' := hsteps
    exact .refl g f
  | cons a as ih =>
    obtain ⟨u, hu, hrest⟩ := hsteps
    obtain ⟨hs', heffect⟩ := hs.step hu
    exact (heffect.fenced hg).trans (ih hs' (UInt64.le_trans hg heffect.closed) hrest)

/-! ### Every instance is settled -/

/-- The next result is handled. -/
def handlesResult : FactoryAct → Bool
  | .result _ => true
  | _ => false

theorem mailbox_of_core (hcore : f'.core = f.core) : ∃ more, f'.mailbox = f.mailbox ++ more := by
  simp only [core, Prod.mk.injEq] at hcore
  exact ⟨[], by rw [hcore.2.2.2.1, List.append_nil]⟩

theorem create_mailbox (f : Factory) (source : ServiceRef) (request : FactoryCreate) :
    (f.create source request).mailbox = f.mailbox := by
  simp only [create, accept]
  split_ifs <;> rfl

theorem step_mailbox (hstep : f.step a = some f') (ha : handlesResult a = false) :
    ∃ more, f'.mailbox = f.mailbox ++ more := by
  cases a with
  | result sendErr => exact absurd ha nofun
  | create source request =>
    cases hstep
    exact ⟨[], by rw [create_mailbox, List.append_nil]⟩
  | stop source request =>
    cases hstep
    exact mailbox_of_core (stop_still f source request).core
  | bindOutput source generation ref reporter =>
    simp only [step] at hstep
    split at hstep <;> cases hstep <;> exact mailbox_of_core rfl
  | unbindOutput source generation =>
    simp only [step] at hstep
    split at hstep <;> cases hstep <;> exact mailbox_of_core rfl
  | stopGeneration source generation order =>
    cases (Option.ite_none_right_eq_some.mp hstep).2
    exact mailbox_of_core (stopGeneration_core f source generation order).1
  | quarantined source battleID ref =>
    cases hstep
    exact mailbox_of_core (quarantine_still f source battleID ref).core
  | stopResult source request err defect =>
    cases hstep
    exact mailbox_of_core (applyStopResult_still f source request err defect).core
  | take =>
    simp only [step] at hstep
    split at hstep
    · cases hstep
      exact ⟨[], (List.append_nil _).symm⟩
    · exact absurd hstep nofun
  | build outcome =>
    simp only [step] at hstep
    split at hstep
    · obtain ⟨-, hstep⟩ := Option.ite_none_left_eq_some.mp hstep
      cases hstep
      cases outcome <;> exact ⟨[], (List.append_nil _).symm⟩
    · exact absurd hstep nofun
  | send refused =>
    simp only [step] at hstep
    split at hstep
    next r _ =>
      cases hstep
      rw [send]
      split_ifs
      · exact ⟨[r], rfl⟩
      · exact ⟨[], (List.append_nil _).symm⟩
      · exact ⟨[], (List.append_nil _).symm⟩
    · exact absurd hstep nofun
  | takeStop =>
    simp only [step] at hstep
    split at hstep
    · exact absurd hstep nofun
    · cases hstep
      exact mailbox_of_core rfl

/-- The first result of the mailbox is handled, and its instance has a fate. -/
theorem Sound.step_result (hs : Sound f) (hstep : f.step a = some f')
    (ha : handlesResult a = true) :
    ∃ r, f.mailbox = r :: f'.mailbox ∧
    f'.fates.map Prod.fst = f.fates.map Prod.fst ++ created [r] := by
  cases a with
  | result sendErr =>
    simp only [Factory.step] at hstep
    split at hstep
    · exact absurd hstep nofun
    next r mailbox hmailbox =>
    have hmem : r ∈ f.mailbox := by
      rw [hmailbox]
      exact List.mem_cons_self
    have hmatches : Factory.pending { f with mailbox } r = true := hs.pending_result hmem
    obtain ⟨hcore, hfates⟩ := applyCreateResult_core hmatches
      (hs.results r (List.mem_append_left _ hmem)) sendErr
    cases hstep
    refine ⟨r, ?_, hfates⟩
    simp only [core, Prod.mk.injEq] at hcore
    rw [hmailbox, hcore.2.2.2.1]
  | _ => exact absurd ha nofun

theorem Effect.fates_subset (h : Effect f a f') : f.fates.map Prod.fst ⊆ f'.fates.map Prod.fst := by
  rcases h.fates with ⟨hfates, -⟩ | ⟨r, fate, hsettles⟩
  · rw [hfates]
    exact List.Subset.refl _
  · rw [hsettles.fates, List.map_append]
    exact List.subset_append_left _ _

/-- **Every instance is settled.** An instance in the mailbox has a fate once enough results have
been handled, whatever else happens. -/
theorem Sound.inevitable (hs : Sound f) (hr : r ∈ f.mailbox) (href : r.ref.id ≠ 0) :
    factories.Inevitable handlesResult (fun t => r ∈ t.fates.map Prod.fst) f := by
  refine System.Inevitable.of_rank (J := Sound) (P := fun t => r ∈ t.mailbox)
    (fun t => t.mailbox.idxOf r) (fun _ _ _ hs hstep => (hs.step hstep).1)
    (fun _ _ _ hs hg hstep => (hs.step hstep).2.fates_subset hg)
    ?_ ?_ hs hr
  · intro t _ ht
    refine ⟨.result none, rfl, ?_⟩
    show (t.step (.result none)).isSome = true
    cases hmailbox : t.mailbox with
    | nil =>
      rw [hmailbox] at ht
      exact absurd ht List.not_mem_nil
    | cons head rest => simp only [Factory.step, hmailbox, Option.isSome_some]
  · intro t a t' hs hr hstep
    cases ha : handlesResult a with
    | false =>
      obtain ⟨more, hmore⟩ := step_mailbox hstep ha
      refine .inr ⟨?_, ?_⟩
      · rw [hmore]
        exact List.mem_append_left _ hr
      · rw [hmore, List.idxOf_append_of_mem hr]
        exact Nat.le_refl _
    | true =>
      obtain ⟨head, hmailbox, hfates⟩ := hs.step_result hstep ha
      by_cases hhead : head = r
      · refine .inl ?_
        rw [hfates, hhead, created_singleton_of_ne href]
        exact List.mem_append_right _ (List.mem_singleton_self _)
      · refine .inr ⟨?_, ?_⟩
        · rw [hmailbox] at hr
          exact (List.mem_cons.mp hr).resolve_left fun h => hhead h.symm
        · rw [hmailbox, List.idxOf_cons_ne _ hhead]
          exact Nat.le_refl _

end Factory

/-! ### Main results -/

open Factory

/-- What a Factory reports answers a request that it was sent, as the Hosts expect. -/
theorem reports_answer {f : Factory} (hf : factories.Reachable f) {x : ApplyBattleCreated}
    (hx : x ∈ f.reports) : Host.answers (f.requests.map (·.toCreateBattleInternal)) x = true :=
  (reachable_sound hf).2.2 x hx

/-- **Generation fencing.** At every moment a BattleID has at most one creation in flight, the one
that is pending, and at most one Battle. Every instance is on its way or has exactly one fate, and
an instance in the mailbox is bound to have one. A fate is given in one step: to be orphaned is to
be put into the stop queue, an instance is dropped only when that queue is full and stopped by the
loop only when the mailbox has refused it, and what is registered matches the pending creation; any
other stop is one of a registered Battle. Once a stop of generation `g` has been handled, no Battle
of a generation from 1 to `g` is added, reported as created or registered, however the run goes
on. -/
theorem factory_fencing {f : Factory} (hf : factories.Reachable f) :
    ((f.inFlight.map (·.battleID)).Nodup ∧
      (∀ t ∈ f.inFlight, f.creating.lookup t.battleID = some t) ∧ f.battles.keys.Nodup) ∧
    (f.known.map (·.instanceNumber)).Perm (List.range f.instances) ∧
    (∀ r ∈ created f.mailbox,
      factories.Inevitable handlesResult (fun t => r ∈ t.fates.map Prod.fst) f) ∧
    (∀ a f', factories.step f a = some f' →
      (f'.fates = f.fates ∧ ∀ s ∈ f'.stopQueue, s ∈ f.stopQueue ∨ f.Stops s) ∨
        ∃ r fate, Settles f a f' r fate) ∧
    ∀ g ∈ f.generationStops, ∀ as f', factories.Steps f as f' → Fenced g f f' := by
  obtain ⟨hs, hclosed, -⟩ := reachable_sound hf
  refine ⟨⟨hs.single, hs.pending, f.battles.keys_nodup⟩, hs.known, ?_, ?_, ?_⟩
  · intro r hr
    obtain ⟨hmem, href⟩ := List.mem_filter.mp hr
    exact hs.inevitable hmem (of_decide_eq_true href)
  · intro a f' hstep
    exact (hs.step hstep).2.fates
  · intro g hg as f' hsteps
    exact hs.fenced_steps (hclosed g hg) hsteps

/-- Battle 1 is asked for, and its generation is stopped while the create loop has the instance; the
mailbox of the Factory takes the result or refuses it. -/
def stoppedWhileCreating (refused : Bool) : List FactoryAct :=
  [.create hostRef { operationID := 1, request := firstRequest, host := hostRef }, .take,
    .build (.ok firstRef), .stopGeneration ⟨factoryRef.node, 0⟩ 1 [], .send refused]

theorem reports_answer_first : ∃ f x, factories.Reachable f ∧ x ∈ f.reports ∧
    Host.answers (f.requests.map (·.toCreateBattleInternal)) x = true := by
  obtain ⟨f, hf, hend⟩ := factories.exists_reachableUnder_of_run (fun _ _ => True)
    [.create hostRef { operationID := 1, request := firstRequest, host := hostRef }, .take,
      .build (.ok firstRef), .send false, .result none]
    (fun f => decide (f.reports ≠ [])) ⟨factoryRef, rfl⟩ (by decide +kernel)
  obtain ⟨x, hx⟩ := List.exists_mem_of_ne_nil _ (of_decide_eq_true hend)
  exact ⟨f, x, hf, hx, reports_answer hf hx⟩

theorem factory_fencing_stopped : ∃ f, factories.Reachable f ∧ 1 ∈ f.generationStops ∧
    created f.mailbox = [⟨⟨⟨⟨1, firstRequest⟩, hostRef⟩, ⟨1, .zero, false, 0⟩⟩, firstRef, "", 0⟩] ∧
    ∀ as f', factories.Steps f as f' → Fenced 1 f f' := by
  obtain ⟨f, hf, hend⟩ :=
    factories.exists_reachableUnder_of_run (fun _ _ => True) (stoppedWhileCreating false)
    (fun f => decide (1 ∈ f.generationStops ∧ created f.mailbox =
      [⟨⟨⟨⟨1, firstRequest⟩, hostRef⟩, ⟨1, .zero, false, 0⟩⟩, firstRef, "", 0⟩]))
    ⟨factoryRef, rfl⟩ (by decide +kernel)
  obtain ⟨hstop, hmailbox⟩ := of_decide_eq_true hend
  obtain ⟨-, -, -, -, hfenced⟩ := factory_fencing hf
  exact ⟨f, hf, hstop, hmailbox, hfenced 1 hstop⟩

/-- **A stop that is not an orphan stop.** The generation has been stopped and the stop queue is
empty, but the mailbox refuses the result: the loop stops the instance, and no orphan stop is made
of it. -/
theorem refused_result_stopped :
    ∃ f, factories.Steps { self := factoryRef } (stoppedWhileCreating true) f ∧
    f.generationStops = [1] ∧ f.instances = 1 ∧ f.results.length = 0 ∧
    f.fates =
    [(⟨⟨⟨⟨1, firstRequest⟩, hostRef⟩, ⟨1, .zero, false, 0⟩⟩, firstRef, "", 0⟩, .stopped)] ∧
    f.stopQueue.length = 0 := by
  have hrun :
    (factories.runUnder (fun _ _ => True) { self := factoryRef } (stoppedWhileCreating true)).map
      (fun f => decide (f.generationStops = [1] ∧ f.instances = 1 ∧ f.results.length = 0 ∧ f.fates =
        [(⟨⟨⟨⟨1, firstRequest⟩, hostRef⟩, ⟨1, .zero, false, 0⟩⟩, firstRef, "", 0⟩, .stopped)] ∧
        f.stopQueue.length = 0)) = some true := by
    decide +kernel
  obtain ⟨f, hf, hend⟩ := Option.map_eq_some_iff.mp hrun
  exact ⟨f, System.steps_of_run hf, of_decide_eq_true hend⟩

end GameServiceRuntime.Nhsk
