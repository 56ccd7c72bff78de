import GameServiceRuntime.Lib.Table
import GameServiceRuntime.Runtime.Ref

/-!
# The Supervisor

The Supervisor keeps an entry for every logical service that was registered with it: the current
instance with its generation, the policy, and how far a recovery has come. A failure notice of the
current instance schedules a task. Whoever runs the task reports each of its stages, and every
report is checked against the entry's active task, so that a report that comes too late is stale.

A notice may also come from an instance that is prepared and not committed yet. The Supervisor then
takes it as committed and decides on its failure at once.

A handler may read the clock twice; the two readings are `now` and `later`. The executor is the
Runner: its `Submit` refuses a malformed task, and otherwise answers whether the Runner is closed or
its queue full, which is left open.

A definition without a text of its own has the name of what it models.
-/

namespace GameServiceRuntime.Supervisor

/-- `time.Time`; zero is the zero time. -/
abbrev Time := ℤ

abbrev Duration := ℤ

structure ServiceKey where
  space : Text := []
  id : Text := []
  deriving DecidableEq

/-- `RestartStrategy`, with the values that are none. -/
inductive RestartStrategy
  | never
  | onFailure
  | destroy
  | unknown (n : ℕ)
  deriving DecidableEq

structure RestartPolicy where
  strategy : RestartStrategy
  maxAttempts : ℤ := 0
  maxRestarts : ℤ := 0
  window : Duration := 0
  minBackoff : Duration := 0
  maxBackoff : Duration := 0
  deriving DecidableEq

structure Registration where
  key : ServiceKey
  ref : ServiceRef
  generation : UInt64
  policy : RestartPolicy
  deriving DecidableEq

/-- `FailureNotice`; of the kinds only the one there is matters. -/
structure FailureNotice where
  key : ServiceKey
  failedRef : ServiceRef
  generation : UInt64
  occurredAt : Time
  handlerPanic : Bool
  deriving DecidableEq

inductive ServiceStatus
  | running
  | restartStopped
  | destroyed
  | backoff
  | preparing
  | publishing
  | recoveryFailed
  | restartSuppressed
  deriving DecidableEq

/-- `RecoveryFailure`, with the values that are none. -/
inductive RecoveryFailure
  | none
  | snapshotNotFound
  | prepare
  | create
  | publish
  | abort
  | queueFull
  | suppressed
  | unknown (n : ℕ)
  deriving DecidableEq

structure RecoveryTask where
  supervisor : ServiceRef := .zero
  key : ServiceKey := {}
  failedRef : ServiceRef := .zero
  generation : UInt64 := 0
  attempt : UInt64 := 0
  delay : Duration := 0
  deriving DecidableEq

/-- The errors of the package that the Supervisor returns. -/
inductive Err
  | invalidConfig
  | invalidKey
  | invalidPolicy
  | invalidRegistration
  | alreadyRegistered
  | serviceNotRegistered
  | invalidNotice
  | duplicateNotice
  | staleNotice
  | restartSuppressed
  | recoveryQueueFull
  | runnerClosed
  | staleRecovery
  deriving DecidableEq

/-! ### Validation -/

def validText (value : Text) : Bool := value.validString && !value.blank

/-- `validateServiceKey` -/
def validServiceKey (key : ServiceKey) : Bool := validText key.space && validText key.id

/-- `validateConcreteRef` -/
def validConcreteRef (ref : ServiceRef) : Bool := ref.node ≠ [] && ref.id ≠ 0

/-- `validateRestartPolicy` -/
def validRestartPolicy (policy : RestartPolicy) : Bool :=
  match policy.strategy with
  | .never | .destroy =>
    policy.maxAttempts = 0 && policy.maxRestarts = 0 && policy.window = 0 &&
      policy.minBackoff = 0 && policy.maxBackoff = 0
  | .onFailure =>
    1 ≤ policy.maxAttempts && 1 ≤ policy.maxRestarts && 0 < policy.window &&
      0 < policy.minBackoff && policy.minBackoff ≤ policy.maxBackoff
  | .unknown _ => false

def validateRegistration (registration : Registration) : Option Err :=
  if !validServiceKey registration.key then some .invalidKey
  else if !validConcreteRef registration.ref || registration.generation = 0 then
    some .invalidRegistration
  else if !validRestartPolicy registration.policy then some .invalidPolicy
  else none

/-- `validateFailureNotice` -/
def validFailureNotice (notice : FailureNotice) : Bool :=
  validServiceKey notice.key && validConcreteRef notice.failedRef && notice.generation ≠ 0 &&
    notice.occurredAt ≠ 0 && notice.handlerPanic

/-- `validateRecoveryTask` -/
def validRecoveryTask (task : RecoveryTask) : Bool :=
  validConcreteRef task.supervisor && validServiceKey task.key && validConcreteRef task.failedRef &&
    task.failedRef.node = task.supervisor.node && task.generation ≠ 0 && task.attempt ≠ 0 &&
    0 ≤ task.delay

/-! ### Entries -/

/-- `serviceEntry` -/
structure Entry where
  registration : Registration
  status : ServiceStatus := .running
  nextAttempt : UInt64 := 0
  activeTask : RecoveryTask := {}
  attemptsInFault : ℤ := 0
  restarts : List Time := []
  lastFailure : RecoveryFailure := .none
  decided : UInt64 := 0
  preparedRef : ServiceRef := .zero
  deriving DecidableEq

def Entry.pruneRestarts (e : Entry) (now : Time) : Entry :=
  { e with
    restarts := e.restarts.dropWhile fun restart => restart ≤ now - e.registration.policy.window }

/-- The loop of `restartBackoff`, from an index that leaves so many rounds. -/
def backoffRounds (max : Duration) : ℕ → Duration → Duration
  | 0, delay => min delay max
  | n + 1, delay =>
    if max ≤ delay then min delay max
    else if max / 2 < delay then max
    else backoffRounds max n (delay * 2)

def restartBackoff (policy : RestartPolicy) (attempt : ℤ) : Duration :=
  backoffRounds policy.maxBackoff (attempt - 1).toNat policy.minBackoff

/-- `Runner.Submit`; `answer` is what it answers to a well-formed task. -/
def submit (answer : Option Err) (task : RecoveryTask) : Option Err :=
  if validRecoveryTask task then answer else some .invalidConfig

/-- What a Command comes to: the entry, the time of a restart that was committed, the task that was
submitted with the answer to it, and the error. -/
structure Outcome where
  entry : Entry
  committed : Option Time := none
  attempt : Option (RecoveryTask × Option Err) := none
  err : Option Err := none

/-- The task that `schedule` submits. -/
def Entry.nextTask (self : ServiceRef) (e : Entry) : RecoveryTask where
  supervisor := self
  key := e.registration.key
  failedRef := e.registration.ref
  generation := e.registration.generation + 1
  attempt := e.nextAttempt + 1
  delay := restartBackoff e.registration.policy (e.attemptsInFault + 1)

def Entry.schedule (self : ServiceRef) (answer : Option Err) (e : Entry) : Outcome :=
  if e.registration.policy.maxAttempts ≤ e.attemptsInFault then
    { entry := { e with status := .recoveryFailed }, err := some .restartSuppressed }
  else
    let task := e.nextTask self
    let e := { e with nextAttempt := e.nextAttempt + 1, attemptsInFault := e.attemptsInFault + 1 }
    match submit answer task with
    | some err =>
      let failure := if err = .recoveryQueueFull then .queueFull else .prepare
      { entry := { e with status := .recoveryFailed, activeTask := task, lastFailure := failure }
        attempt := some (task, some err)
        err := some err }
    | none =>
      { entry := { e with activeTask := task, status := .backoff }, attempt := some (task, none) }

/-- The entry with a prepared instance as its current one. -/
def Entry.commit (e : Entry) (ref : ServiceRef) (generation : UInt64) (now later : Time) : Entry :=
  Entry.pruneRestarts
    { e with
      registration := { e.registration with ref := ref, generation := generation }
      status := .running
      attemptsInFault := 0
      lastFailure := .none
      preparedRef := .zero
      restarts := e.restarts ++ [now] } later

/-- The notice is of the instance that is prepared. -/
def Entry.adopts (e : Entry) (notice : FailureNotice) : Bool :=
  e.status = .publishing && notice.failedRef = e.preparedRef &&
    notice.generation = e.activeTask.generation

/-- The switch of `handleFailure`. -/
def Entry.decideFailure (self : ServiceRef) (answer : Option Err) (now : Time) (e : Entry) :
    Outcome :=
  match e.registration.policy.strategy with
  | .never => { entry := { e with status := .restartStopped } }
  | .destroy => { entry := { e with status := .destroyed } }
  | .onFailure =>
    let e := e.pruneRestarts now
    if e.registration.policy.maxRestarts ≤ e.restarts.length then
      { entry := { e with status := .restartSuppressed, lastFailure := .suppressed }
        err := some .restartSuppressed }
    else { e with attemptsInFault := 0, lastFailure := .none : Entry }.schedule self answer
  | .unknown _ => { entry := e, err := some .invalidPolicy }

/-- `handleFailure` after the first branch. -/
def Entry.failed (self : ServiceRef) (answer : Option Err) (now : Time) (notice : FailureNotice)
    (e : Entry) : Outcome :=
  if notice.failedRef ≠ e.registration.ref || notice.generation ≠ e.registration.generation then
    { entry := e, err := some .staleNotice }
  else if e.status ≠ .running || e.decided = notice.generation then
    { entry := e, err := some .duplicateNotice }
  else { e with decided := notice.generation : Entry }.decideFailure self answer now

def Entry.handleFailure (self : ServiceRef) (answer : Option Err) (now later : Time)
    (notice : FailureNotice) (e : Entry) : Outcome :=
  if e.adopts notice then
    { (e.commit notice.failedRef notice.generation now now).failed self answer later notice with
      committed := some now }
  else e.failed self answer now notice

def runtimeRoot (node : Text) : ServiceRef := ⟨node, 0⟩

/-- The checks of `activeEntry` on the entry. -/
def Entry.active (self source : ServiceRef) (e : Entry) (task : RecoveryTask)
    (statuses : List ServiceStatus) : Bool :=
  source = runtimeRoot self.node && task.supervisor = self && e.activeTask = task &&
    task.generation = e.registration.generation + 1 && e.status ∈ statuses

/-- An outcome that leaves the entry as it is. -/
def Entry.reply (e : Entry) (err : Option Err) : Outcome := { entry := e, err := err }

def Entry.recoveryStarted (self source : ServiceRef) (task : RecoveryTask) (e : Entry) : Outcome :=
  if source = runtimeRoot self.node && e.activeTask = task && e.status = .preparing then
    e.reply none
  else if e.active self source task [.backoff] then { entry := { e with status := .preparing } }
  else e.reply (some .staleRecovery)

def Entry.recoveryPrepared (self source : ServiceRef) (task : RecoveryTask) (ref : ServiceRef)
    (e : Entry) : Outcome :=
  if source = runtimeRoot self.node && e.activeTask = task && e.status = .publishing &&
      e.preparedRef = ref then e.reply none
  else if !e.active self source task [.preparing] then e.reply (some .staleRecovery)
  else if !validConcreteRef ref || ref.node ≠ self.node || ref = self then
    e.reply (some .staleRecovery)
  else { entry := { e with preparedRef := ref, status := .publishing } }

def Entry.recoveryCommitted (self source : ServiceRef) (now later : Time) (task : RecoveryTask)
    (ref : ServiceRef) (e : Entry) : Outcome :=
  if source = runtimeRoot self.node && e.activeTask = task && e.status = .running &&
      e.registration.generation = task.generation && e.registration.ref = ref then e.reply none
  else if e.active self source task [.publishing] && e.preparedRef = ref then
    { entry := e.commit ref task.generation now later, committed := some now }
  else e.reply (some .staleRecovery)

/-- The failures that may be reported. -/
def RecoveryFailure.known : RecoveryFailure → Bool
  | .none | .unknown _ => false
  | _ => true

def Entry.recoveryFailed (self source : ServiceRef) (answer : Option Err) (task : RecoveryTask)
    (failure : RecoveryFailure) (e : Entry) : Outcome :=
  if !failure.known then e.reply (some .staleRecovery)
  else if !e.active self source task [.backoff, .preparing, .publishing] then
    e.reply (some .staleRecovery)
  else
    let e := { e with preparedRef := .zero, lastFailure := failure }
    if failure = .abort || e.registration.policy.maxAttempts ≤ e.attemptsInFault then
      { entry := { e with status := .recoveryFailed } }
    else e.schedule self answer

/-! ### Commands -/

/-- The Commands, with their source where it matters. -/
inductive Command
  | register (registration : Registration)
  | get (key : ServiceKey)
  | failure (source : ServiceRef) (notice : FailureNotice)
  | recoveryStarted (source : ServiceRef) (task : RecoveryTask)
  | recoveryPrepared (source : ServiceRef) (task : RecoveryTask) (ref : ServiceRef)
  | recoveryCommitted (source : ServiceRef) (task : RecoveryTask) (ref : ServiceRef)
  | recoveryFailed (source : ServiceRef) (task : RecoveryTask) (failure : RecoveryFailure)
  deriving DecidableEq

/-- The key whose entry a Command is about. -/
def Command.key : Command → ServiceKey
  | .register registration => registration.key
  | .get key => key
  | .failure _ notice => notice.key
  | .recoveryStarted _ task | .recoveryPrepared _ task _ | .recoveryCommitted _ task _
  | .recoveryFailed _ task _ => task.key

/-- The error for a Command whose key has no entry. -/
def Command.missing : Command → Err
  | .get _ | .failure _ _ => .serviceNotRegistered
  | _ => .staleRecovery

/-- What a Command does to the entry of its key. -/
def Entry.handle (self : ServiceRef) (answer : Option Err) (now later : Time) (e : Entry) :
    Command → Outcome
  | .register _ => e.reply (some .alreadyRegistered)
  | .get _ => { entry := e.pruneRestarts now }
  | .failure _ notice => e.handleFailure self answer now later notice
  | .recoveryStarted source task => e.recoveryStarted self source task
  | .recoveryPrepared source task ref => e.recoveryPrepared self source task ref
  | .recoveryCommitted source task ref => e.recoveryCommitted self source now later task ref
  | .recoveryFailed source task failure => e.recoveryFailed self source answer task failure

/-- The checks before the entry is looked up. -/
def Command.refused (self : ServiceRef) : Command → Option Err
  | .register registration =>
    match validateRegistration registration with
    | some err => some err
    | none =>
      if registration.ref.node ≠ self.node || registration.ref = self then some .invalidRegistration
      else none
  | .get key => if validServiceKey key then none else some .invalidKey
  | .failure source notice =>
    if !validFailureNotice notice || source ≠ notice.failedRef then some .invalidNotice else none
  | _ => none

/-- The entries of the Supervisor. -/
abbrev Entries := Table ServiceKey Entry

/-- `Handle`: what becomes of the entry of the Command's key, if there is one then; and the error
that is replied. -/
def Entries.handle (self : ServiceRef) (answer : Option Err) (now later : Time) (entries : Entries)
    (c : Command) : Except Err Outcome :=
  match c.refused self with
  | some err => .error err
  | none =>
    match entries.lookup c.key, c with
    | some e, c => .ok (e.handle self answer now later c)
    | none, .register registration => .ok { entry := { registration := registration } }
    | none, c => .error c.missing

end GameServiceRuntime.Supervisor
