import GameServiceRuntime.Runtime.System

/-!
# What an action stands for

An action of the Runtime is either the next operation of one of its goroutines, or something that
the callees, timers and contexts of one party do to that party's record. `Acts` lists both kinds
with what they do to the state, and `step_acts` says that a step does nothing else.
-/

namespace GameServiceRuntime.Runtime

/-- A step of a task's callees or of its timers: it reads the instance and changes the task
only. -/
inductive TaskOnly (x : Inst ClientId) (t : ℕ) (k : Task) : Action → Task → Prop
  | timeout {ctx k'} (h : taskTimeoutStep ctx k = some k') : TaskOnly x t k (.taskTimeout t) k'
  | handleReturn {panics k'} (h : handleReturnStep panics k = some k') :
      TaskOnly x t k (.handleReturn t panics) k'
  | stopReturn {err k'} (h : stopReturnStep err k = some k') :
      TaskOnly x t k (.stopReturn t err) k'
  | closeReturn {err k'} (h : closeReturnStep err k = some k') :
      TaskOnly x t k (.closeReturn t err) k'
  | callStart {w await k'} (h : callStartStep w await x k = some k') :
      TaskOnly x t k (.callStart t w await) k'
  | resumeFail {w g k'} (h : resumeFailStep w g k = some k') :
      TaskOnly x t k (.resumeFail t w) k'

/-- A step of a client's `select` statements or of its context: it changes the client only. -/
inductive ClientOnly (x : Inst ClientId) (q : ClientId) (c : Client) : Action → Client → Prop
  | notFound {c'} (h : clientNotFoundStep x c = some c') : ClientOnly x q c (.clientNotFound q) c'
  | ctx {ctx c'} (h : clientCtxStep ctx c = some c') : ClientOnly x q c (.clientCtx q) c'
  | timer {c'} (h : clientTimerStep c = some c') : ClientOnly x q c (.clientTimer q) c'
  | ctxEnd {u cause} (hq : q = .user u) :
      ClientOnly x q c (.ctxEnd u cause) { c with ctx := some cause }

/-- A step of the creating goroutine's callees or timers. -/
inductive CreatorOnly (i : ℕ) (x : Inst ClientId) : Action → Inst ClientId → Prop
  | timeout {x'} (h : creatorTimeoutStep x = some x') : CreatorOnly i x (.creatorTimeout i) x'
  | initReturn {err x'} (h : initReturnStep err x = some x') :
      CreatorOnly i x (.initReturn i err) x'
  | closeReturn {err x'} (h : creatorCloseReturnStep err x = some x') :
      CreatorOnly i x (.creatorCloseReturn i err) x'

/-- What an action stands for: the next operation of a goroutine, or what the callees, timers and
contexts of one party do to its record. -/
inductive Acts (cfg : Config) (s : State) : Action → State → Prop
  | create {discard startup} : Acts cfg s (.create discard startup)
      { s with
        insts := Function.update s.insts s.numInsts
          { s.insts s.numInsts with discardMailbox := discard, hasStartup := startup }
        numInsts := s.numInsts + 1 }
  | creator {i r} (hi : i < s.numInsts) (h : creatorStep cfg i s.shared (s.insts i) = some r) :
      Acts cfg s (.creator i) (s.setInst i r)
  | creatorOnly {i a x} (h : CreatorOnly i (s.insts i) a x) :
      Acts cfg s a (s.setInst i (s.shared, x))
  | dispatch {s'} (h : s.stepDispatcher cfg = some s') : Acts cfg s .dispatch s'
  | dispatchDone {s'} (h : s.stepDispatcherDone = some s') : Acts cfg s .dispatchDone s'
  | task {t r} (h : taskStep cfg s.shared (s.insts (s.tasks t).inst) (s.tasks t) = some r) :
      Acts cfg s (.task t) ((s.setTask t r).deliver (s.tasks t).pc.reply)
  | taskOnly {t a k} (h : TaskOnly (s.insts (s.tasks t).inst) t (s.tasks t) a k) :
      Acts cfg s a (s.setTaskOnly t k)
  | call {t w r} (h : callStep cfg w s.shared (s.insts (s.tasks t).inst) (s.tasks t) = some r) :
      Acts cfg s (.call t w) (s.setTask t r)
  | client {q r}
      (h : clientStep cfg q s.shared (s.insts (s.clients q).inst) (s.clients q) = some r) :
      Acts cfg s (.client q) (s.setClient q r)
  | clientOnly {q a c} (h : ClientOnly (s.insts (s.clients q).inst) q (s.clients q) a c) :
      Acts cfg s a (s.setClientOnly q c)
  | send {u i n} (hidle : (s.clients (.user u)).pc = .idle) :
      Acts cfg s (.send u i n) (s.setClientOnly (.user u) { pc := .sendLoad n, inst := i })
  | stop {u i} (hidle : (s.clients (.user u)).pc = .idle) :
      Acts cfg s (.stop u i) (s.setClientOnly (.user u) { pc := .stopGet, inst := i })
  | closer {s'} (h : s.stepCloser = some s') : Acts cfg s .closer s'
  | closeCtxEnd {cause} : Acts cfg s (.closeCtxEnd cause) { s with closeCtx := some cause }

theorem step_acts {cfg : Config} {s s' : State} {a : Action} (hs : step cfg s a = some s') :
    Acts cfg s a s' := by
  cases a with
  | create | send | stop | ctxEnd | closeCtxEnd =>
    simp only [step] at hs
    split at hs <;> cases hs
    first
    | exact .create
    | exact .closeCtxEnd
    | exact .send ‹_›
    | exact .stop ‹_›
    | exact .clientOnly (.ctxEnd rfl)
  | creator i =>
    simp only [step] at hs
    split at hs
    · obtain ⟨r, hr, rfl⟩ := Option.map_eq_some_iff.mp hs
      exact .creator ‹_› hr
    · cases hs
  | dispatch => exact .dispatch hs
  | dispatchDone => exact .dispatchDone hs
  | closer => exact .closer hs
  | _ =>
    obtain ⟨r, hr, rfl⟩ := Option.map_eq_some_iff.mp hs
    first
    | exact .task hr
    | exact .call hr
    | exact .client hr
    | exact .creatorOnly (.timeout hr)
    | exact .creatorOnly (.initReturn hr)
    | exact .creatorOnly (.closeReturn hr)
    | exact .taskOnly (.timeout hr)
    | exact .taskOnly (.handleReturn hr)
    | exact .taskOnly (.stopReturn hr)
    | exact .taskOnly (.closeReturn hr)
    | exact .taskOnly (.callStart hr)
    | exact .taskOnly (.resumeFail hr)
    | exact .clientOnly (.notFound hr)
    | exact .clientOnly (.ctx hr)
    | exact .clientOnly (.timer hr)

section Only

variable {x : Inst ClientId} {t : ℕ} {k : Task} {a : Action}

/-- The zero record is that of a task that has ended, so it takes no step. -/
theorem TaskOnly.ne_zero {k' : Task} (h : TaskOnly x t k a k') :
    k ≠ {} := by
  rintro rfl
  cases h with
  | callStart h => rename_i w _; cases w <;> simp [callStartStep, Task.callPc] at h
  | resumeFail h => rename_i w _; cases w <;> simp [resumeFailStep, Task.callPc] at h
  | _ h => simp [taskTimeoutStep, handleReturnStep, stopReturnStep, closeReturnStep] at h

/-- Besides the program counter such a step changes at most the callee. -/
theorem CreatorOnly.eq {i : ℕ} {x' : Inst ClientId} (h : CreatorOnly i x a x') :
    x' = { x with creator := x'.creator, creatorClose := x'.creatorClose } := by
  cases h with
  | timeout h =>
    unfold creatorTimeoutStep at h
    split at h <;> cases h <;> rfl
  | initReturn h =>
    unfold initReturnStep at h
    split at h <;> cases h
    rfl
  | closeReturn h =>
    unfold creatorCloseReturnStep at h
    split at h <;> cases h
    rfl

end Only

end GameServiceRuntime.Runtime
