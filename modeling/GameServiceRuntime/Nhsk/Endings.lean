import GameServiceRuntime.Nhsk.Setting

/-!
# The end of a subgame

A subgame ends by a settlement acknowledgement or by force. Its replay is then handed to a writer,
and the result of the writer or a deadline, whichever comes first, finalizes the replay and sends
the GameOver output. Both come back as Commands, late or more than once, and in the meantime other
subgames may have been prepared and started.

A deadline carries the two numbers of its subgame and nothing else, and a result carries the name of
the replay too. `prepare` accepts numbers that have been used before. A deadline of an earlier
subgame with the same numbers is then taken for one of the subgame that is being finalized, and ends
it before its own replay has been written.
-/

namespace GameServiceRuntime.Nhsk

/-- A `replayFinalizeDeadline`, or a `replayWriteResult`. -/
structure Closing where
  deadline : Bool
  gameNum : UInt16
  subgameNum : UInt16
  /-- of the result -/
  replayName : Text
  /-- the subgame that it was created for -/
  subgame : ℕ
  deriving DecidableEq

/-- A Battle with its replay. The last three fields are history: the closings that have been
created, and for every subgame its numbers and how many GameOver outputs have been sent in it. -/
structure Episode where
  battle : Battle
  replayName : Text := []
  noticeAfterReplay : Bool := false
  closings : List Closing := []
  numbers : ℕ → UInt16 × UInt16 := fun _ => (0, 0)
  gameOvers : ℕ → ℕ := fun _ => 0

namespace Episode

/-- The test of `timer` and of `applyReplayResult`. -/
def matchesClosing (e : Episode) (c : Closing) : Bool :=
  e.battle.phase = .finalizingReplay && c.gameNum = e.battle.gameNum &&
    c.subgameNum = e.battle.subgameNum && (c.deadline || c.replayName = e.replayName)

/-- `beginReplayFinalization` has been reached. -/
def handsOver (e : Episode) (b : Battle) : Bool :=
  (e.battle.phase = .playing || e.battle.phase = .awaitingSettlement) &&
    (b.phase = .finalizingReplay || b.replayFinalized)

/-- What `beginReplayFinalization` creates: a result if the replay is submitted, and then a deadline
unless the timer is refused. -/
def create (e : Episode) (b : Battle) (waits submitted : Bool) : List Closing :=
  if e.handsOver b && submitted then
    let result : Closing := ⟨false, b.gameNum, b.subgameNum, e.replayName, b.subgames⟩
    result :: if waits then [{ result with deadline := true }] else []
  else []

/-- The Battle after a Command, with the history. -/
def record (e : Episode) (b : Battle) : Episode :=
  { e with
    battle := b
    numbers :=
      if b.subgames = e.battle.subgames then e.numbers
      else Function.update e.numbers b.subgames (b.gameNum, b.subgameNum)
    gameOvers := Function.update e.gameOvers b.subgames
      (e.gameOvers b.subgames + (b.overs - e.battle.overs)) }

/-- What the Command was, for the fields that a Battle does not have. The outcome of a replay that
was submitted and whose timer is set comes later. -/
def settle (e : Episode) (b : Battle) (replayName : Text) (submitted : Bool) : Command → Episode
  | .start _ _ =>
    if b.subgames = e.battle.subgames then e.record b
    else { e.record b with replayName, noticeAfterReplay := false }
  | .forceFinish waits _ =>
    { e.record b with
      noticeAfterReplay :=
        if e.handsOver b then b.phase = .finalizingReplay else e.noticeAfterReplay
      closings := e.create b waits submitted ++ e.closings }
  | .completeSettlement _ waits _ =>
    { e.record b with closings := e.create b waits submitted ++ e.closings }
  | .deleteBarrier => { e.record b with noticeAfterReplay := false }
  | _ => e.record b

end Episode

/-- A Command and what the environment says about its replay, or a closing that comes back. -/
inductive EpisodeAction
  | command (action : Action) (replayName : Text) (submitted : Bool)
  | deliver (closing : Closing) (stat : List Text) (refused : Option ℕ)

/-- The end of a replay is not announced by a Command, and a Battle only waits for a replay that it
has submitted. -/
def Command.allowed (submitted : Bool) : Command → Bool
  | .replayDone _ _ => false
  | .forceFinish waits _ => !waits || submitted
  | .completeSettlement _ waits _ => !waits || submitted
  | _ => true

/-- The runs of a Battle with its replays. -/
def episodes : System Episode EpisodeAction where
  init e := ∃ isNewbie hasAI, e = { battle := { isNewbie, hasAI } }
  step e
    | .command a replayName submitted =>
      if a.command.allowed submitted then
        (battles.step e.battle a).map fun b => e.settle b replayName submitted a.command
      else none
    | .deliver c stat refused =>
      if c ∉ e.closings then none
      else if e.matchesClosing c then
        (battles.step e.battle ⟨.replayDone stat e.noticeAfterReplay, refused, false, 0⟩).map
          fun b =>
          { e.record b with noticeAfterReplay :=
            e.noticeAfterReplay && b.phase = .finalizingReplay }
      else some e

/-! ### Invariants -/

section Sets

variable {b b' : Battle}

/-- A Command goes on with the subgame. -/
structure Battle.Continues (b b' : Battle) : Prop where
  subgames : b'.subgames = b.subgames
  live : b'.live = true → b.live = true
  numbers : b.live = true → (b'.gameNum, b'.subgameNum) = (b.gameNum, b.subgameNum)
  ended : b'.replayFinalized = b.replayFinalized ∧ b'.overs ≤ b.overs ∨
    b.replayFinalized = false ∧ b'.replayFinalized = true ∧ b'.overs ≤ b.overs + 1

/-- A Command starts a subgame. -/
structure Battle.Starts (b b' : Battle) : Prop where
  subgames : b'.subgames = b.subgames + 1
  ended : b'.replayFinalized = false ∧ b'.overs = b.overs

theorem Battle.Sets.cases (h : Sets b b') : Continues b b' ∨ Starts b b' := by
  cases h with
  | same h =>
    simp only [setting, Prod.mk.injEq] at h
    obtain ⟨-, hgame, hsubgame, hfinal, hsubgames, hovers, hlive⟩ := h
    exact .inl ⟨hsubgames, fun hl => hlive ▸ hl,
      fun _ => by rw [hgame, hsubgame], .inl ⟨hfinal, hovers.le⟩⟩
  | seats _ h =>
    simp only [setting, Prod.mk.injEq] at h
    obtain ⟨hgame, hsubgame, hfinal, hsubgames, hovers, hlive⟩ := h
    exact .inl ⟨hsubgames, fun hl => hlive ▸ hl,
      fun _ => by rw [hgame, hsubgame], .inl ⟨hfinal, hovers.le⟩⟩
  | prepares hidle h =>
    simp only [Prod.mk.injEq] at h
    obtain ⟨-, hfinal, hsubgames, hovers, hlive⟩ := h
    exact .inl ⟨hsubgames, fun hl => absurd (hlive.symm.trans hl) Bool.false_ne_true,
      fun hl => absurd (hidle.symm.trans hl) Bool.false_ne_true, .inl ⟨hfinal, hovers.le⟩⟩
  | starts h =>
    simp only [setting, Prod.mk.injEq] at h
    obtain ⟨-, -, -, hfinal, hsubgames, hovers, -⟩ := h
    exact .inr ⟨hsubgames, hfinal, hovers⟩
  | ends h =>
    have hsame := h.same
    simp only [Prod.mk.injEq] at hsame
    obtain ⟨-, hgame, hsubgame, hsubgames⟩ := hsame
    exact .inl ⟨hsubgames, h.live, fun _ => by rw [hgame, hsubgame], h.ended⟩

theorem battles_step_cases {a : Action} (h : battles.step b a = some b') :
    b.Continues b' ∨ b.Starts b' := by
  obtain ⟨-, ⟨-, rfl⟩ | ⟨-, rfl⟩⟩ := step_cases h
  · exact .inl ⟨rfl, id, fun _ => rfl, .inl ⟨rfl, le_rfl⟩⟩
  · obtain h | h := (Battle.handle_sets (b.receive a) a.command).cases
    · exact .inl ⟨h.subgames, h.live, h.numbers, h.ended⟩
    · exact .inr ⟨h.subgames, h.ended⟩

end Sets

namespace Episode

variable {e : Episode} {b : Battle}

/-- What holds in every run. -/
structure Sound (e : Episode) : Prop where
  started : e.battle.live = true → 0 < e.battle.subgames
  current : e.battle.live = true →
    e.numbers e.battle.subgames = (e.battle.gameNum, e.battle.subgameNum)
  closings : ∀ c ∈ e.closings, (0 < c.subgame ∧ c.subgame ≤ e.battle.subgames) ∧
    e.numbers c.subgame = (c.gameNum, c.subgameNum)
  once : ∀ n, e.gameOvers n ≤ 1
  later : ∀ n, e.battle.subgames < n → e.gameOvers n = 0
  unended : e.battle.replayFinalized = false → e.gameOvers e.battle.subgames = 0

theorem Sound.continues (h : e.Sound) (hb : e.battle.Continues b) : (e.record b).Sound := by
  obtain ⟨hsubgames, hlive, hsame, hover⟩ := hb
  have hnumbers : (e.record b).numbers = e.numbers := if_pos hsubgames
  have hother : ∀ n, n ≠ e.battle.subgames → (e.record b).gameOvers n = e.gameOvers n :=
    fun n hne => Function.update_of_ne (hsubgames ▸ hne) ..
  have hown : (e.record b).gameOvers e.battle.subgames =
      e.gameOvers e.battle.subgames + (b.overs - e.battle.overs) := by
    rw [← hsubgames]
    exact Function.update_self ..
  have hle : (e.record b).gameOvers e.battle.subgames ≤ 1 := by
    have := h.once e.battle.subgames
    obtain ⟨-, hovers⟩ | ⟨hopen, -, hovers⟩ := hover
    · omega
    · have := h.unended hopen
      omega
  refine ⟨fun hl => ?_, fun hl => ?_, fun c hc => ?_, fun n => ?_, fun n hn => ?_, fun hopen => ?_⟩
  · exact hsubgames ▸ h.started (hlive hl)
  · change (e.record b).numbers b.subgames = (b.gameNum, b.subgameNum)
    rw [hnumbers, hsubgames, hsame (hlive hl)]
    exact h.current (hlive hl)
  · rw [hnumbers]
    exact ⟨hsubgames ▸ (h.closings c hc).1, (h.closings c hc).2⟩
  · by_cases hn : n = e.battle.subgames
    · exact hn ▸ hle
    · exact hother n hn ▸ h.once n
  · have hn : e.battle.subgames < n := hsubgames ▸ hn
    rw [hother n (Nat.ne_of_gt hn)]
    exact h.later n hn
  · change (e.record b).gameOvers b.subgames = 0
    rw [hsubgames, hown]
    obtain ⟨hfinal, hovers⟩ | ⟨-, hfinal, -⟩ := hover
    · have := h.unended (hfinal ▸ hopen)
      omega
    · exact absurd (hfinal.symm.trans hopen) nofun

theorem Sound.starts (h : e.Sound) (hb : e.battle.Starts b) : (e.record b).Sound := by
  obtain ⟨hsubgames, -, hovers⟩ := hb
  have hnumbers :
    (e.record b).numbers = Function.update e.numbers b.subgames (b.gameNum, b.subgameNum) :=
    if_neg (by omega)
  have hother : ∀ n, n ≠ b.subgames → (e.record b).gameOvers n = e.gameOvers n :=
    fun n hne => Function.update_of_ne hne ..
  have hnew : (e.record b).gameOvers b.subgames = 0 := by
    have hzero := h.later b.subgames (by omega)
    have heq :
      (e.record b).gameOvers b.subgames = e.gameOvers b.subgames + (b.overs - e.battle.overs) :=
      Function.update_self ..
    omega
  refine ⟨fun _ => ?_, fun _ => ?_, fun c hc => ?_, fun n => ?_, fun n hn => ?_, fun _ => hnew⟩
  · change 0 < b.subgames
    omega
  · rw [hnumbers]
    exact Function.update_self ..
  · obtain ⟨⟨hpos, hle⟩, heq⟩ := h.closings c hc
    have hlt : c.subgame < b.subgames := by omega
    rw [hnumbers, Function.update_of_ne (Nat.ne_of_lt hlt)]
    exact ⟨⟨hpos, hlt.le⟩, heq⟩
  · by_cases hn : n = b.subgames
    · rw [hn, hnew]
      decide
    · exact hother n hn ▸ h.once n
  · have hn : b.subgames < n := hn
    rw [hother n (Nat.ne_of_gt hn)]
    exact h.later n (by omega)

/-- The fields that are not in it do not matter. -/
theorem Sound.with {e' : Episode} (h : e.Sound) (heq : (e'.battle, e'.numbers, e'.gameOvers) =
    (e.battle, e.numbers, e.gameOvers)) (hclosings : ∀ c ∈ e'.closings, c ∈ e.closings ∨
      (0 < c.subgame ∧ c.subgame ≤ e.battle.subgames) ∧
        e.numbers c.subgame = (c.gameNum, c.subgameNum)) : e'.Sound := by
  simp only [Prod.mk.injEq] at heq
  obtain ⟨hbattle, hnumbers, hovers⟩ := heq
  refine ⟨?_, ?_, fun c hc => ?_, ?_, ?_, ?_⟩
  · rw [hbattle]
    exact h.started
  · rw [hbattle, hnumbers]
    exact h.current
  · rw [hbattle, hnumbers]
    exact (hclosings c hc).elim (h.closings c) id
  · rw [hovers]
    exact h.once
  · rw [hbattle, hovers]
    exact h.later
  · rw [hbattle, hovers]
    exact h.unended

theorem Sound.record (h : e.Sound) {a : Action} (hstep : battles.step e.battle a = some b) :
    (e.record b).Sound ∧ (e.battle.live = true → 0 < b.subgames ∧
      (e.record b).numbers b.subgames = (b.gameNum, b.subgameNum)) := by
  obtain hb | hb := battles_step_cases hstep
  · refine ⟨h.continues hb, fun hlive => ⟨hb.subgames ▸ h.started hlive, ?_⟩⟩
    rw [hb.numbers hlive, ← h.current hlive, hb.subgames]
    exact congrFun (if_pos hb.subgames) _
  · refine ⟨h.starts hb, fun _ => ⟨by have := hb.subgames; omega, ?_⟩⟩
    have hne : b.subgames ≠ e.battle.subgames := by
      have := hb.subgames
      omega
    exact (congrFun (if_neg hne) _).trans (Function.update_self ..)

theorem Sound.create (hrecord : (e.record b).Sound) (hlast : e.battle.live = true → 0 < b.subgames ∧
    (e.record b).numbers b.subgames = (b.gameNum, b.subgameNum)) {waits submitted : Bool}
    {e' : Episode} (heq : (e'.battle, e'.numbers, e'.gameOvers) =
      ((e.record b).battle, (e.record b).numbers, (e.record b).gameOvers))
    (hclosings : e'.closings = e.create b waits submitted ++ e.closings) : e'.Sound := by
  refine hrecord.with heq fun c hc => ?_
  rw [hclosings, List.mem_append] at hc
  refine hc.symm.imp_right fun hc => ?_
  rw [Episode.create] at hc
  split at hc
  next hover =>
    have hlive : e.battle.live = true := by
      simp only [handsOver, Bool.and_eq_true, Bool.or_eq_true, decide_eq_true_eq] at hover
      obtain ⟨⟨h | h, -⟩, -⟩ := hover <;> simp [Battle.live, h]
    obtain ⟨hpos, hnumbers⟩ := hlast hlive
    have hown : c.subgame = b.subgames ∧ (c.gameNum, c.subgameNum) = (b.gameNum, b.subgameNum) := by
      dsimp only at hc
      split at hc
      · simp only [List.mem_cons, List.not_mem_nil, or_false] at hc
        obtain rfl | rfl := hc <;> exact ⟨rfl, rfl⟩
      · obtain rfl := List.mem_singleton.mp hc
        exact ⟨rfl, rfl⟩
    rw [hown.1, hown.2]
    exact ⟨⟨hpos, le_rfl⟩, hnumbers⟩
  next => cases hc

theorem Sound.settle (h : e.Sound) {a : Action} (hstep : battles.step e.battle a = some b)
    (replayName : Text) (submitted : Bool) (c : Command) :
    (e.settle b replayName submitted c).Sound := by
  obtain ⟨hrecord, hlast⟩ := h.record hstep
  cases c with
  | start intn swaps =>
    rw [Episode.settle]
    split
    · exact hrecord
    · exact hrecord.with rfl fun _ => .inl
  | forceFinish waits stat => exact hrecord.create hlast rfl rfl
  | completeSettlement accepted waits stat => exact hrecord.create hlast rfl rfl
  | deleteBarrier => exact hrecord.with rfl fun _ => .inl
  | _ => exact hrecord

end Episode

theorem episode_sound {e : Episode} (h : episodes.Reachable e) : e.Sound := by
  refine h.invariant ?_ ?_
  · rintro e ⟨isNewbie, hasAI, rfl⟩
    exact ⟨nofun, nofun, nofun, fun _ => Nat.zero_le 1, fun _ _ => rfl, fun _ => rfl⟩
  · intro e a e' he _ hstep
    cases a with
    | command a replayName submitted =>
      simp only [episodes, Option.ite_none_right_eq_some] at hstep
      obtain ⟨b, hb, rfl⟩ := Option.map_eq_some_iff.mp hstep.2
      exact he.settle hb replayName submitted a.command
    | deliver c stat refused =>
      simp only [episodes] at hstep
      split_ifs at hstep with hmem hmatch
      · obtain ⟨b, hb, rfl⟩ := Option.map_eq_some_iff.mp hstep
        exact (he.record hb).1.with rfl fun _ => .inl
      · cases hstep
        exact he

/-! ### One end -/

theorem settle_battle (e : Episode) (b : Battle) (replayName : Text) (submitted : Bool)
    (c : Command) : (e.settle b replayName submitted c).battle = b := by
  cases c with
  | start intn swaps =>
    rw [Episode.settle]
    split <;> rfl
  | _ => rfl

variable {e e' : Episode}

theorem stopping_step {a : EpisodeAction} (hphase : e.battle.phase = .stopping)
    (hstep : episodes.step e a = some e') : e'.battle = e.battle := by
  cases a with
  | command a replayName submitted =>
    simp only [episodes, Option.ite_none_right_eq_some] at hstep
    obtain ⟨b, hb, rfl⟩ := Option.map_eq_some_iff.mp hstep.2
    rw [settle_battle]
    obtain ⟨-, ⟨-, rfl⟩ | ⟨hne, -⟩⟩ := step_cases hb
    · rfl
    · exact absurd hphase hne
  | deliver c stat refused =>
    simp only [episodes, Episode.matchesClosing, hphase] at hstep
    split_ifs at hstep with hmem hmatch
    · simp at hmatch
    · cases hstep
      rfl

theorem stopping_steps {as : List EpisodeAction} (hphase : e.battle.phase = .stopping)
    (hsteps : episodes.Steps e as e') : e'.battle = e.battle := by
  induction as generalizing e with
  | nil =>
    cases hsteps
    rfl
  | cons a as ih =>
    obtain ⟨u, hstep, hrest⟩ := hsteps
    have hu := stopping_step hphase hstep
    rw [ih (hu ▸ hphase) hrest, hu]

theorem deliver_matches {c : Closing} {stat : List Text} {refused : Option ℕ}
    (hstep : episodes.step e (.deliver c stat refused) = some e')
    (hopen : e.battle.replayFinalized = false) (hend : e'.battle.replayFinalized = true) :
    c ∈ e.closings ∧ e.matchesClosing c = true := by
  simp only [episodes] at hstep
  split_ifs at hstep with hmem hmatch
  · exact ⟨hmem, hmatch⟩
  · cases hstep
    exact absurd (hopen.symm.trans hend) nofun

/-- **One end for every subgame.** A subgame sends at most one GameOver output, and a Battle that is
being deleted sends nothing any more. A closing finalizes no subgame but its own, as long as no two
subgames of the Battle have been started with the same numbers. -/
theorem one_end_per_subgame {e : Episode} (h : episodes.Reachable e) :
    (∀ n, e.gameOvers n ≤ 1) ∧
    ((∀ n m, 0 < n ∧ n ≤ e.battle.subgames → 0 < m ∧ m ≤ e.battle.subgames →
        e.numbers n = e.numbers m → n = m) →
      ∀ c stat refused e', episodes.step e (.deliver c stat refused) = some e' →
        e.battle.replayFinalized = false → e'.battle.replayFinalized = true →
        c.subgame = e.battle.subgames) ∧
    (e.battle.phase = .stopping →
      ∀ as e', episodes.Steps e as e' → e'.battle.sent = e.battle.sent) := by
  have hsound := episode_sound h
  refine ⟨hsound.once, fun hnumbers c stat refused e' hstep hopen hend => ?_,
    fun hphase as e' hsteps => ?_⟩
  · obtain ⟨hmem, hmatch⟩ := deliver_matches hstep hopen hend
    simp only [Episode.matchesClosing, Bool.and_eq_true, decide_eq_true_eq] at hmatch
    obtain ⟨⟨⟨hphase, hgame⟩, hsubgame⟩, -⟩ := hmatch
    have hlive : e.battle.live = true := by simp [Battle.live, hphase]
    obtain ⟨hrange, hown⟩ := hsound.closings c hmem
    refine hnumbers _ _ hrange ⟨hsound.started hlive, le_rfl⟩ ?_
    rw [hown, hsound.current hlive, hgame, hsubgame]
  · rw [stopping_steps hphase hsteps]

/-- A Battle whose first subgame, with the numbers 1 and 1, is ended by force and waits for its
replay. -/
def firstEnd : List EpisodeAction :=
  (opening.map fun a => .command a [] false) ++
    [.command ⟨.forceFinish true [], none, false, 0⟩ [] true]

/-- The result comes back, and a second subgame is started and ended in the same way. -/
def secondEnd (subgameNum : UInt16) : List EpisodeAction :=
  [.deliver ⟨false, 1, 1, [], 1⟩ [] none, .command ⟨.prepare 1 subgameNum, none, false, 0⟩ [] false,
    .command ⟨.start 0 [], none, false, 0⟩ [1] false,
    .command ⟨.forceFinish true [], none, false, 0⟩ [1] true]

/-- Whether a closing would finalize the replay. -/
def Closing.ends (c : Closing) (e : Episode) : Bool :=
  !e.battle.replayFinalized && (episodes.step e (.deliver c [] none)).any (·.battle.replayFinalized)

theorem Closing.ends_iff {c : Closing} {e : Episode} : c.ends e = true ↔
    e.battle.replayFinalized = false ∧
      ∃ e', episodes.step e (.deliver c [] none) = some e' ∧ e'.battle.replayFinalized = true := by
  rw [ends, Bool.and_eq_true, Bool.not_eq_true', Option.any_eq_true]

/-- **A deadline of an earlier subgame.** The second subgame has a replay of another name, which has
not been written when the deadline of the first subgame finalizes it. -/
theorem stale_deadline_finalizes : ∃ e, episodes.Reachable e ∧ e.battle.subgames = 2 ∧ ∃ c e',
    episodes.step e (.deliver c [] none) = some e' ∧ c.subgame = 1 ∧
      e.battle.replayFinalized = false ∧ e'.battle.replayFinalized = true := by
  obtain ⟨e, h, hp⟩ := episodes.exists_reachableUnder_of_run (fun _ _ => True)
    (s := { battle := { isNewbie := false } }) (firstEnd ++ secondEnd 1)
    (fun e => decide (e.battle.subgames = 2 ∧ Closing.ends ⟨true, 1, 1, [], 1⟩ e = true))
    ⟨false, false, rfl⟩ (by decide +kernel)
  obtain ⟨hsubgames, hends⟩ := of_decide_eq_true hp
  obtain ⟨hopen, e', hstep, hend⟩ := Closing.ends_iff.mp hends
  exact ⟨e, h, hsubgames, _, e', hstep, rfl, hopen, hend⟩

/-- With other numbers the deadline that finalizes the second subgame is its own. -/
theorem one_end_per_subgame_second : ∃ e, episodes.Reachable e ∧ e.battle.subgames = 2 ∧
    e.gameOvers 1 ≤ 1 ∧ ∃ c e', episodes.step e (.deliver c [] none) = some e' ∧
      e'.battle.replayFinalized = true ∧ c.subgame = e.battle.subgames := by
  obtain ⟨e, h, hp⟩ := episodes.exists_reachableUnder_of_run (fun _ _ => True)
    (s := { battle := { isNewbie := false } }) (firstEnd ++ secondEnd 2)
    (fun e => decide (e.battle.subgames = 2 ∧ e.numbers 1 ≠ e.numbers 2 ∧
      Closing.ends ⟨true, 1, 2, [1], 2⟩ e = true)) ⟨false, false, rfl⟩ (by decide +kernel)
  obtain ⟨hsubgames, hnumbers, hends⟩ := of_decide_eq_true hp
  obtain ⟨hopen, e', hstep, hend⟩ := Closing.ends_iff.mp hends
  obtain ⟨honce, hown, -⟩ := one_end_per_subgame h
  refine ⟨e, h, hsubgames, honce 1, _, e', hstep, hend, hown ?_ _ _ _ e' hstep hopen hend⟩
  rw [hsubgames]
  intro n m hn hm heq
  obtain rfl | rfl : n = 1 ∨ n = 2 := by omega
  · obtain rfl | rfl : m = 1 ∨ m = 2 := by omega
    · rfl
    · exact absurd heq hnumbers
  · obtain rfl | rfl : m = 1 ∨ m = 2 := by omega
    · exact absurd heq.symm hnumbers
    · rfl

end GameServiceRuntime.Nhsk
