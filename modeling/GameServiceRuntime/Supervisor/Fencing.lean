import GameServiceRuntime.Supervisor.Limits

/-!
# Fencing of notices and reports

What reaches the Supervisor may be late or come twice: a failure notice of an instance that was
replaced, another notice of a failure that was decided on, a report of a recovery that was given up,
or a report whose reply was lost. The Supervisor tells by its entry alone. A generation that was
decided on is the current one, with `decided` set, or below the current one for good, as generations
only rise.

A report that was accepted is known again by the stage the entry has reached, so a repetition of it
is answered with success as long as the entry stays there. Other reports of the key move the entry
on, and so does a failure notice of the very instance that was prepared or committed.
-/

namespace GameServiceRuntime.Supervisor

/-! ### Answers -/

/-- What the Supervisor replies. -/
def World.reply (self : ServiceRef) (w : World) (ev : Event) : Option Err :=
  match w.entries.handle self ev.answer ev.now ev.later ev.command with
  | .error err => some err
  | .ok out => out.err

/-- The Command is replied to with `err` and changes no entry. -/
def Answers (self : ServiceRef) (w : World) (ev : Event) (err : Option Err) : Prop :=
  w.reply self ev = err ∧
    ∀ w', step self w ev = some w' → ∀ key, w'.entries.lookup key = w.entries.lookup key

/-- The Command is rejected and changes no entry. -/
def Rejected (self : ServiceRef) (w : World) (ev : Event) : Prop :=
  ∃ err, Answers self w ev (some err)

/-- The notice is of the current instance: the committed one, or the one that is being published. -/
def Entry.current (e : Entry) (notice : FailureNotice) : Bool :=
  (notice.failedRef = e.registration.ref && notice.generation = e.registration.generation) ||
    e.adopts notice

/-- The source and the task of a report. -/
def Command.report : Command → Option (ServiceRef × RecoveryTask)
  | .recoveryStarted source task | .recoveryPrepared source task _
  | .recoveryCommitted source task _ | .recoveryFailed source task _ => some (source, task)
  | _ => none

/-- The reports that a stage was reached. -/
def Command.confirms : Command → Bool
  | .recoveryStarted _ _ | .recoveryPrepared _ _ _ | .recoveryCommitted _ _ _ => true
  | _ => false

section Answers

variable {self : ServiceRef} {w w' : World} {ev : Event} {e : Entry} {key : ServiceKey}

theorem answers_of_error {err : Err}
    (h : w.entries.handle self ev.answer ev.now ev.later ev.command = .error err) :
    Answers self w ev (some err) := by
  refine ⟨by rw [World.reply, h], fun w' hstep key => ?_⟩
  simp only [step, h] at hstep
  split_ifs at hstep
  cases hstep
  rfl

/-- A handler that leaves the entry as it is. -/
theorem answers_of_reply {err : Option Err} (he : w.entries.lookup ev.command.key = some e)
    (hrefused : ev.command.refused self = none)
    (h : e.handle self ev.answer ev.now ev.later ev.command = e.reply err) :
    Answers self w ev err := by
  have hout : w.entries.handle self ev.answer ev.now ev.later ev.command = .ok (e.reply err) := by
    simp [Entries.handle, hrefused, he, h]
  refine ⟨by rw [World.reply, hout]; rfl, fun w' hstep key => ?_⟩
  simp only [step, hout] at hstep
  split_ifs at hstep
  cases hstep
  rw [Table.lookup_insert_ite]
  split
  · next hkey => rw [hkey, he]; rfl
  · rfl

/-- A Command to a key that has an entry, after the checks that come first. -/
theorem rejected_of {c : Command} (hc : ev.command = c) (hregister : ∀ r, c ≠ .register r)
    (h : c.refused self = none → ∀ e, w.entries.lookup c.key = some e →
      ∃ err, e.handle self ev.answer ev.now ev.later c = e.reply (some err)) :
      Rejected self w ev := by
  subst hc
  cases hrefused : ev.command.refused self with
  | some err => exact ⟨err, answers_of_error (by simp [Entries.handle, hrefused])⟩
  | none =>
    cases he : w.entries.lookup ev.command.key with
    | none =>
      refine ⟨ev.command.missing, answers_of_error ?_⟩
      simp only [Entries.handle, hrefused, he]
    | some e =>
      obtain ⟨err, herr⟩ := h hrefused e he
      exact ⟨err, answers_of_reply he hrefused herr⟩

/-- A step changes the entry of its Command only, as the handler does. -/
theorem lookup_step (he : w.entries.lookup key = some e) (hstep : step self w ev = some w') :
    w'.entries.lookup key = some
      (if ev.command.key = key ∧ ev.command.refused self = none then
        (e.handle self ev.answer ev.now ev.later ev.command).entry
      else e) := by
  simp only [step, Entries.handle] at hstep
  split_ifs at hstep
  by_cases hkey : ev.command.key = key
  · subst hkey
    cases hrefused : ev.command.refused self <;> simp only [hrefused, he] at hstep <;> cases hstep
    · simp
    · simpa using he
  · rw [if_neg fun h => hkey h.1, ← he]
    split at hstep <;> cases hstep
    · rfl
    · exact AList.lookup_insert_ne (Ne.symm hkey)

end Answers

/-! ### Generations that were decided on -/

/-- The generation was decided on: it is the current one, or it was replaced. -/
def Decided (g : UInt64) (e : Entry) : Prop :=
  g.toNat < e.registration.generation.toNat ∨ e.registration.generation = g ∧ e.decided = g

section Decided

variable {self : ServiceRef} {answer : Option Err} {now later : Time} {e : Entry} {g : UInt64}
  {notice : FailureNotice} {c : Command}

theorem schedule_frame (self : ServiceRef) (answer : Option Err) (e : Entry) :
    (e.schedule self answer).entry.registration = e.registration ∧
      (e.schedule self answer).entry.decided = e.decided := by
  grind [Entry.schedule]

theorem decideFailure_frame (self : ServiceRef) (answer : Option Err) (now : Time) (e : Entry) :
    (e.decideFailure self answer now).entry.registration = e.registration ∧
      (e.decideFailure self answer now).entry.decided = e.decided := by
  grind [Entry.decideFailure, schedule_frame, Entry.pruneRestarts]

/-- A notice that is neither stale nor a duplicate is decided on. -/
theorem failed_cases (self : ServiceRef) (answer : Option Err) (now : Time) (notice : FailureNotice)
    (e : Entry) :
    (∃ err, e.failed self answer now notice = e.reply (some err)) ∨
      (e.failed self answer now notice).entry.registration = e.registration ∧
        (e.failed self answer now notice).entry.decided = e.registration.generation ∧
        notice.generation = e.registration.generation := by
  grind [Entry.failed, decideFailure_frame, Entry.reply]

theorem Decided.failed (h : Decided g e) : Decided g (e.failed self answer now notice).entry := by
  grind [failed_cases self answer now notice e, Decided, Entry.reply]

/-- A generation that is committed is the next one. -/
theorem Decided.commit (h : Decided g e)
    (hnext : e.activeTask.generation.toNat = e.registration.generation.toNat + 1)
    (ref : ServiceRef) : Decided g (e.commit ref e.activeTask.generation now later) := by
  left
  change g.toNat < e.activeTask.generation.toNat
  rcases h with hlt | ⟨rfl, -⟩ <;> omega

/-- What was decided on stays so, whatever Command comes. -/
theorem Decided.handle (h : Decided g e)
    (hnext : e.status.recovering = true →
      e.activeTask.generation.toNat = e.registration.generation.toNat + 1) :
    Decided g (e.handle self answer now later c).entry := by
  cases c with
  | register registration => exact h
  | get key => exact h
  | failure source notice =>
    simp only [Entry.handle, Entry.handleFailure]
    split_ifs with hadopts
    · simp only [Entry.adopts, Bool.and_eq_true, decide_eq_true_eq] at hadopts
      rw [hadopts.2]
      exact (h.commit (hnext (by rw [hadopts.1.1]; rfl)) _).failed
    · exact h.failed
  | recoveryStarted source task =>
    simp only [Entry.handle, Entry.recoveryStarted]
    split_ifs <;> exact h
  | recoveryPrepared source task ref =>
    simp only [Entry.handle, Entry.recoveryPrepared]
    split_ifs <;> exact h
  | recoveryCommitted source task ref =>
    simp only [Entry.handle, Entry.recoveryCommitted]
    split_ifs with hdone hactive
    · exact h
    · simp only [Entry.active, Bool.and_eq_true, decide_eq_true_eq, List.mem_singleton] at hactive
      rw [← hactive.1.1.1.2]
      exact h.commit (hnext (by rw [hactive.1.2]; rfl)) ref
    · exact h
  | recoveryFailed source task failure =>
    grind [Entry.handle, Entry.recoveryFailed, schedule_frame, Decided, Entry.reply]

/-- A notice that is not rejected decides on its generation. -/
theorem decided_of_handleFailure :
    (∃ err, e.handleFailure self answer now later notice = e.reply (some err)) ∨
      Decided notice.generation (e.handleFailure self answer now later notice).entry := by
  unfold Entry.handleFailure
  split_ifs with hadopts
  · right
    -- the adopted instance is current, so the notice is not stale; a duplicate was decided on
    grind [Entry.failed, decideFailure_frame, Entry.commit, Entry.pruneRestarts, Decided]
  · grind [failed_cases self answer now notice e, Decided]

/-- **A second notice** of a generation that was decided on. -/
theorem Decided.rejects (h : Decided notice.generation e)
    (hnext : e.status.recovering = true →
      e.activeTask.generation.toNat = e.registration.generation.toNat + 1) :
    ∃ err, e.handleFailure self answer now later notice = e.reply (some err) := by
  have hnot : e.adopts notice = false := by
    by_contra hadopts
    simp only [Entry.adopts, Bool.not_eq_false, Bool.and_eq_true, decide_eq_true_eq] at hadopts
    have hgen := hnext (by rw [hadopts.1.1]; rfl)
    rw [← hadopts.2] at hgen
    rcases h with hlt | ⟨heq, -⟩
    · omega
    · rw [heq] at hgen
      omega
  have hdecided : notice.generation = e.registration.generation →
    e.decided = notice.generation := by
    rcases h with hlt | ⟨-, heq⟩
    · exact fun heq => absurd hlt (by rw [heq]; omega)
    · exact fun _ => heq
  simp only [Entry.handleFailure, hnot, Entry.failed, Bool.false_eq_true, if_false]
  split_ifs with hstale hduplicate
  · exact ⟨_, rfl⟩
  · exact ⟨_, rfl⟩
  · grind

end Decided

/-! ### Reports that are repeated -/

/-- The entry has reached the stage that a report confirms. -/
def Entry.reached (self : ServiceRef) (e : Entry) : Command → Bool
  | .recoveryStarted source task =>
    source = runtimeRoot self.node && e.activeTask = task && e.status = .preparing
  | .recoveryPrepared source task ref =>
    source = runtimeRoot self.node && e.activeTask = task && e.status = .publishing &&
      e.preparedRef = ref
  | .recoveryCommitted source task ref =>
    source = runtimeRoot self.node && e.activeTask = task && e.status = .running &&
      e.registration.generation = task.generation && e.registration.ref = ref
  | _ => false

/-- Between a report and its repetition: no other report for the key, and no notice for it that is
not rejected. -/
def Quiet (self : ServiceRef) (key : ServiceKey) (w : World) (ev : Event) : Prop :=
  ev.command.key = key → ev.command.report = none ∧
    ∀ source notice, ev.command = .failure source notice → Rejected self w ev

section Reached

variable {self : ServiceRef} {answer : Option Err} {now later : Time} {e : Entry} {c : Command}
  {w w' : World} {ev : Event}

theorem refused_of_confirms (hc : c.confirms = true) : c.refused self = none := by
  cases c <;> first | rfl | cases hc

theorem reached_of_accepted (hc : c.confirms = true)
    (h : (e.handle self answer now later c).err = none) :
    (e.handle self answer now later c).entry.reached self c = true := by
  cases c <;> cases hc
  · grind [Entry.handle, Entry.recoveryStarted, Entry.active, Entry.reached, Entry.reply]
  · grind [Entry.handle, Entry.recoveryPrepared, Entry.active, Entry.reached, Entry.reply]
  · grind [Entry.handle, Entry.recoveryCommitted, Entry.active, Entry.reached, Entry.reply,
      Entry.commit, Entry.pruneRestarts]

theorem handle_of_reached (h : e.reached self c = true) :
    e.handle self answer now later c = e.reply none := by
  cases c <;>
    simp_all [Entry.reached, Entry.handle, Entry.recoveryStarted, Entry.recoveryPrepared,
      Entry.recoveryCommitted]

/-- After a report that was accepted, the entry has reached its stage. -/
theorem reached_of_step (hc : ev.command.confirms = true) (hreply : w.reply self ev = none)
    (hstep : step self w ev = some w') :
    ∃ e, w'.entries.lookup ev.command.key = some e ∧ e.reached self ev.command = true := by
  have hrefused : ev.command.refused self = none := refused_of_confirms hc
  cases he : w.entries.lookup ev.command.key with
  | none =>
    cases hcommand : ev.command <;> rw [hcommand] at hc <;> cases hc <;>
      simp_all [World.reply, Entries.handle]
  | some e =>
    have hnew := lookup_step he hstep
    rw [if_pos ⟨rfl, hrefused⟩] at hnew
    refine ⟨_, hnew, reached_of_accepted hc ?_⟩
    simpa [World.reply, Entries.handle, hrefused, he] using hreply

/-- A Command in between leaves the stage alone. -/
theorem reached_of_quiet (he : w.entries.lookup c.key = some e) (h : e.reached self c = true)
    (hquiet : Quiet self c.key w ev) (hstep : step self w ev = some w') :
    ∃ e', w'.entries.lookup c.key = some e' ∧ e'.reached self c = true := by
  have hnew := lookup_step he hstep
  split_ifs at hnew with hown
  swap
  · exact ⟨e, hnew, h⟩
  obtain ⟨hreport, hnotice⟩ := hquiet hown.1
  cases hcommand : ev.command with
  | register registration => exact ⟨e, by simpa [hcommand, Entry.handle, Entry.reply] using hnew, h⟩
  | get key =>
    rw [hcommand] at hnew
    refine ⟨e.pruneRestarts ev.now, hnew, ?_⟩
    rw [← h]
    cases c <;> rfl
  | failure source notice =>
    obtain ⟨err, -, hsame⟩ := hnotice source notice hcommand
    exact ⟨e, (hsame w' hstep _).trans he, h⟩
  | _ =>
    rw [hcommand] at hreport
    cases hreport

end Reached

/-! ### Every run -/

section Runs

variable {self source : ServiceRef} {w w₁ w₂ : World} {ev : Event}

/-- A recovery that is under way is for the next generation. -/
theorem next_of_reachable (h : (system self).Reachable w) {key : ServiceKey} {e : Entry}
    (he : w.entries.lookup key = some e) (hr : e.status.recovering = true) :
    e.activeTask.generation.toNat = e.registration.generation.toNat + 1 :=
  (restart_limits h he).next hr

theorem reachable_startAt {ok : World → Event → Prop} (h : (system self).Reachable w₁)
    (h' : ((system self).startAt w₁).ReachableUnder ok w₂) : (system self).Reachable w₂ := by
  induction h' with
  | init hinit => exact hinit ▸ h
  | step _ _ hs ih => exact .step ih trivial hs

/-- A notice that was not rejected, and what its generation is from then on. -/
theorem decided_of_notice {notice : FailureNotice} (h : (system self).Reachable w)
    (hcommand : ev.command = .failure source notice)
    (haccepted : ¬ Rejected self w ev) (hstep : step self w ev = some w₁)
    (hrun : ((system self).startAt w₁).Reachable w₂) :
    ∃ e, w₂.entries.lookup notice.key = some e ∧ Decided notice.generation e := by
  have hw₁ : (system self).Reachable w₁ := .step h trivial hstep
  induction hrun with
  | init hinit =>
    subst hinit
    by_contra hnone
    refine haccepted (rejected_of hcommand nofun fun hrefused e he => ?_)
    have hnew := lookup_step he hstep
    rw [hcommand, if_pos ⟨rfl, hrefused⟩] at hnew
    obtain hrejected | hdecided := @decided_of_handleFailure self ev.answer ev.now ev.later e notice
    · exact hrejected
    · exact absurd ⟨_, hnew, hdecided⟩ hnone
  | step hs _ hnext ih =>
    obtain ⟨e, he, hdecided⟩ := ih
    refine ⟨_, lookup_step he hnext, ?_⟩
    split_ifs
    · exact hdecided.handle (next_of_reachable (reachable_startAt hw₁ hs) he)
    · exact hdecided

/-- The clauses about one Command in any state. -/
theorem rejected_notice {notice : FailureNotice} (hcommand : ev.command = .failure source notice)
    (hnot : source ≠ notice.failedRef ∨
      ∀ e, w.entries.lookup notice.key = some e → e.current notice = false) :
      Rejected self w ev := by
  refine rejected_of hcommand nofun fun hrefused e he => ?_
  have hcurrent : e.current notice = false := by
    rcases hnot with hsource | hcurrent
    · simp [Command.refused, hsource] at hrefused
    · exact hcurrent e he
  simp only [Entry.current, Bool.or_eq_false_iff] at hcurrent
  refine ⟨.staleNotice, ?_⟩
  simp only [Entry.handle, Entry.handleFailure, hcurrent.2, Entry.failed,
    Bool.false_eq_true, if_false]
  rw [if_pos]
  · rfl
  · grind

theorem rejected_report {task : RecoveryTask} (hcommand : ev.command.report = some (source, task))
    (hnot : source ≠ runtimeRoot self.node ∨
      ∀ e, w.entries.lookup task.key = some e → e.activeTask ≠ task) : Rejected self w ev := by
  have hstale : ∀ e, w.entries.lookup task.key = some e →
      ¬ (source = runtimeRoot self.node ∧ e.activeTask = task) := by
    grind
  refine rejected_of rfl (fun r hr => by simp [hr, Command.report] at hcommand) fun _ e he => ?_
  refine ⟨.staleRecovery, ?_⟩
  cases hc : ev.command <;> rw [hc] at hcommand he <;> cases hcommand
  all_goals
    have := hstale e he
    simp only [Entry.handle, Entry.recoveryStarted, Entry.recoveryPrepared, Entry.recoveryCommitted,
      Entry.recoveryFailed, Entry.active]
    grind

/-- **Fencing and idempotence.** In every run of the Supervisor: a notice whose source, reference or
generation is not that of the current instance is rejected and changes no entry; so is every notice
for a generation once another notice for it was not; so is a report that is not of the Runtime root
or not of the active task. A started, prepared or committed report that was accepted is answered
with success again and changes nothing, if in between there was no other report for the key and no
notice for it but rejected ones. -/
theorem supervisor_fencing (h : (system self).Reachable w) (ev : Event) :
    (∀ source notice, ev.command = .failure source notice →
      (source ≠ notice.failedRef ∨
        ∀ e, w.entries.lookup notice.key = some e → e.current notice = false) →
        Rejected self w ev) ∧
    (∀ source notice, ev.command = .failure source notice → ¬ Rejected self w ev →
      ∀ w₁ w₂, step self w ev = some w₁ → ((system self).startAt w₁).Reachable w₂ →
        ∀ ev' source' notice', ev'.command = .failure source' notice' → notice'.key = notice.key →
          notice'.generation = notice.generation → Rejected self w₂ ev') ∧
    (∀ source task, ev.command.report = some (source, task) →
      (source ≠ runtimeRoot self.node ∨
        ∀ e, w.entries.lookup task.key = some e → e.activeTask ≠ task) → Rejected self w ev) ∧
    (ev.command.confirms = true → w.reply self ev = none →
      ∀ w₁ w₂, step self w ev = some w₁ →
        ((system self).startAt w₁).ReachableUnder (Quiet self ev.command.key) w₂ →
        ∀ ev', ev'.command = ev.command → Answers self w₂ ev' none) := by
  refine ⟨fun _ _ => rejected_notice, ?_, fun _ _ => rejected_report, ?_⟩
  · intro source notice hcommand haccepted w₁ w₂ hstep hrun ev' source' notice' hcommand' hkey hgen
    obtain ⟨e, he, hdecided⟩ := decided_of_notice h hcommand haccepted hstep hrun
    have hw₂ := reachable_startAt (.step h trivial hstep) hrun
    refine rejected_of hcommand' nofun fun _ e' he' => ?_
    cases (he.symm.trans (by rwa [← hkey]) : some e = some e')
    exact Decided.rejects (hgen ▸ hdecided) (next_of_reachable hw₂ he)
  · intro hconfirms haccepted w₁ w₂ hstep hrun ev' hcommand'
    obtain ⟨e, he, hreached⟩ :
        ∃ e, w₂.entries.lookup ev.command.key = some e ∧ e.reached self ev.command = true := by
      induction hrun with
      | init hinit =>
        subst hinit
        exact reached_of_step hconfirms haccepted hstep
      | step _ hquiet hnext ih =>
        obtain ⟨e, he, hreached⟩ := ih
        exact reached_of_quiet he hreached hquiet hnext
    rw [← hcommand'] at he hreached
    exact answers_of_reply he (refused_of_confirms (hcommand' ▸ hconfirms))
      (handle_of_reached hreached)

end Runs

/-! ### A replacement that is committed -/

/-- The report that the replacement in `failsTwice` is committed. -/
def committedReport (now : Time) : Event :=
  let node := "n"
  ⟨.recoveryCommitted (runtimeRoot node) ⟨⟨node, 1⟩, ⟨node, node⟩, ⟨node, 2⟩, 8, 1, 1⟩
    ⟨node, 3⟩, now, now, none⟩

/-- The replacement fails. -/
def replacementFails : Event :=
  let node := "n"
  ⟨.failure ⟨node, 3⟩ ⟨⟨node, node⟩, ⟨node, 3⟩, 8, 4, true⟩, 6, 6, none⟩

/-- **A repetition after the instance has failed is stale.** The report is accepted, the instance
fails, and the report comes again, with no other report in between. -/
theorem committed_then_failed : ∃ w w₁ w₂, (system ⟨"n", 1⟩).Reachable w ∧
    w.reply ⟨"n", 1⟩ (committedReport 5) = none ∧
    step ⟨"n", 1⟩ w (committedReport 5) = some w₁ ∧
    step ⟨"n", 1⟩ w₁ replacementFails = some w₂ ∧
    w₂.reply ⟨"n", 1⟩ (committedReport 7) = some .staleRecovery := by
  obtain ⟨w, hw, hp⟩ := System.exists_reachableUnder_of_run (system ⟨"n", 1⟩)
    (fun _ _ => True) (failsTwice.take 4) (s := {}) (fun w =>
      decide (w.reply ⟨"n", 1⟩ (committedReport 5) = none) &&
      (step ⟨"n", 1⟩ w (committedReport 5)).any fun w₁ =>
        (step ⟨"n", 1⟩ w₁ replacementFails).any fun w₂ =>
          w₂.reply ⟨"n", 1⟩ (committedReport 7) = some .staleRecovery) rfl
    (by decide +kernel)
  simp only [Bool.and_eq_true, Option.any_eq_true, decide_eq_true_eq] at hp
  obtain ⟨hreply, w₁, hw₁, w₂, hw₂, hstale⟩ := hp
  exact ⟨w, w₁, w₂, hw, hreply, hw₁, hw₂, hstale⟩

/-- The report comes again at once. -/
theorem supervisor_fencing_repeated : ∃ w w₁, (system ⟨"n", 1⟩).Reachable w ∧
    step ⟨"n", 1⟩ w (committedReport 5) = some w₁ ∧
    Answers ⟨"n", 1⟩ w₁ (committedReport 7) none := by
  obtain ⟨w, hw, hp⟩ := System.exists_reachableUnder_of_run (system ⟨"n", 1⟩)
    (fun _ _ => True) (failsTwice.take 4) (s := {}) (fun w =>
      decide (w.reply ⟨"n", 1⟩ (committedReport 5) = none) &&
      (step ⟨"n", 1⟩ w (committedReport 5)).isSome) rfl (by decide +kernel)
  simp only [Bool.and_eq_true, decide_eq_true_eq, Option.isSome_iff_exists] at hp
  obtain ⟨hreply, w₁, hw₁⟩ := hp
  exact ⟨w, w₁, hw, hw₁, (supervisor_fencing hw (committedReport 5)).2.2.2 rfl hreply w₁ w₁ hw₁
    (.init rfl) _ rfl⟩

end GameServiceRuntime.Supervisor
