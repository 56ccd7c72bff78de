import GameServiceRuntime.Nhsk.Deadline
import GameServiceRuntime.Nhsk.Setting
import GameServiceRuntime.Runtime.Ref

/-!
# One action for each opportunity

A turn is identified twice. A play must name the code of the turn, which starts again with each
subgame and goes up by two; timers and results of an AI carry the turn revision, which is never
reset. Both are machine numbers. In a subgame of fewer than `2 ^ 31` turns the codes do not repeat,
so what has to be shown is that an accepted play always closes the opportunity whose code it names.

The revision is different, because nothing bounds how many turns a Battle has. It repeats after `2 ^
64` of them, and then a timer that is late by as many moves for somebody. `late_timer_moves` runs a
Battle that far; up to there what is late does nothing. At the same point the revision is zero,
which the local AI does not take for a revision; up to there its answer is played.
-/

namespace GameServiceRuntime.Nhsk

namespace Battle

variable {b b₁ b' : Battle} {n : ℕ}

/-! ### Tickets -/

/-- What is known of the ticket of a timer or a request that carries `revision`. -/
structure Issued (b : Battle) (t : Ticket) (revision : UInt64) : Prop where
  revision_eq : revision = UInt64.ofNat t.revision
  revision_le : t.revision ≤ b.revisions
  opportunity_le : t.opportunity ≤ b.opportunities
  subgame_le : t.subgame ≤ b.subgames
  earlier : t.opportunity < b.opportunities → t.revision < b.revisions
  /-- the opportunities of this subgame are later than those of the subgames before -/
  older : t.subgame < b.subgames → t.opportunity + b.opened.length ≤ b.opportunities

/-- Every timer and every request is dated. -/
structure Dated (b : Battle) : Prop where
  revision : b.turnRevision = UInt64.ofNat b.revisions
  timers : ∀ t ∈ b.timers, b.Issued t.1 t.2.turnRevision
  requests : ∀ q ∈ b.requests, b.Issued q.1 q.2.turnRevision
  opened_le : b.opened.length ≤ b.revisions

/-- The part of the turn that dates are about. -/
def dates (b : Battle) :=
  (b.turnRevision, b.revisions, b.timers, b.requests, b.subgames, b.opportunities, b.opened)

theorem dates_of_turn (h : b'.turn = b.turn) : b'.dates = b.dates := by
  simp only [turn, Prod.mk.injEq] at h
  obtain ⟨-, h₁, h₂, -, h₃, h₄, h₅, h₆, h₇, -⟩ := h
  rw [dates, h₁, h₂, h₃, h₄, h₅, h₆, h₇, dates]

theorem Issued.mono {t : Ticket} {revision : UInt64} (h : b.Issued t revision)
    (hrevisions : b.revisions ≤ b'.revisions) (hsubgames : b'.subgames = b.subgames)
    (hopportunities : b'.opportunities = b.opportunities + n)
    (hopened : b'.opened.length = b.opened.length + n)
    (hbumped : 0 < n → b.revisions < b'.revisions) : b'.Issued t revision := by
  obtain ⟨hrevision, hle, hopp, hsub, hearlier, holder⟩ := h
  refine ⟨hrevision, hle.trans hrevisions, by omega, by omega, fun hlt => ?_, fun hlt => ?_⟩
  · by_cases hn : 0 < n
    · exact hle.trans_lt (hbumped hn)
    · exact (hearlier (by omega)).trans_le hrevisions
  · have := holder (by omega)
    omega

theorem Dated.congr (h : b.Dated) (heq : b'.dates = b.dates) : b'.Dated := by
  simp only [dates, Prod.mk.injEq] at heq
  obtain ⟨hrevision, hrevisions, htimers, hrequests, hsubgames, hopportunities, hopened⟩ := heq
  have hissued : ∀ {t revision}, b.Issued t revision → b'.Issued t revision := fun hi =>
    hi.mono hrevisions.ge hsubgames (n := 0) hopportunities (congrArg _ hopened) nofun
  refine ⟨?_, fun t ht => hissued (h.timers t (htimers ▸ ht)),
    fun q hq => hissued (h.requests q ?_), ?_⟩
  · rw [hrevision, hrevisions]
    exact h.revision
  · exact hrequests ▸ hq
  · rw [hopened, hrevisions]
    exact h.opened_le

theorem ofNat_succ (n : ℕ) : UInt64.ofNat n + 1 = UInt64.ofNat (n + 1) := by
  rw [UInt64.ofNat_add]
  rfl

theorem Dated.nextRevision (h : b.Dated) : b.nextRevision.Dated := by
  have hissued : ∀ {t revision}, b.Issued t revision → b.nextRevision.Issued t revision := fun hi =>
    hi.mono (Nat.le_succ _) rfl (n := 0) rfl rfl nofun
  refine ⟨?_, fun t ht => hissued (h.timers t ht), fun q hq => hissued (h.requests q hq),
    Nat.le_succ_of_le h.opened_le⟩
  change b.turnRevision + 1 = _
  rw [h.revision, ofNat_succ]
  rfl

theorem issued_ticket (h : b.turnRevision = UInt64.ofNat b.revisions) :
    b.Issued b.ticket b.turnRevision :=
  ⟨h, le_rfl, le_rfl, le_rfl, fun hlt => absurd hlt (lt_irrefl _),
    fun hlt => absurd hlt (lt_irrefl _)⟩

theorem Dated.after (h : b.Dated) (source : Source) (cards : List Card) :
    (b.after ⟨b.turnRevision, source, cards⟩).Dated := by
  rw [Battle.after]
  split
  · exact h
  · have hissued : ∀ {t revision}, b.Issued t revision → Issued
        { b with
          pending := ⟨b.turnRevision, source, cards⟩ :: b.pending
          timers := (b.ticket, ⟨b.turnRevision, source, cards⟩) :: b.timers } t revision :=
            fun hi =>
      hi.mono le_rfl rfl (n := 0) rfl rfl (by rintro ⟨⟩)
    refine ⟨h.revision, fun t ht => ?_, fun q hq => hissued (h.requests q hq), h.opened_le⟩
    obtain rfl | ht := List.mem_cons.mp ht
    · exact hissued (issued_ticket h.revision)
    · exact hissued (h.timers t ht)

theorem Dated.opens (h : b₁.Dated) (ho : Opens b₁ b') : b'.Dated := by
  have haround := ho.around
  simp only [around, Prod.mk.injEq] at haround
  have hissued : ∀ {t revision}, b₁.Issued t revision → b'.Issued t revision := fun hi =>
    hi.mono (ho.revisions ▸ Nat.le_succ _) haround.2.2.2.2.2.2.2.1 (n := 1) ho.opportunities
      (congrArg List.length ho.opened) fun _ => ho.revisions ▸ Nat.lt_succ_self _
  have hrevision : b'.turnRevision = UInt64.ofNat b'.revisions := by
    rw [ho.turnRevision, ho.revisions, h.revision, ofNat_succ]
  have hnew := issued_ticket hrevision
  refine ⟨hrevision, fun t ht => ?_, fun q hq => ?_, ?_⟩
  · obtain ht | ⟨hticket, heq⟩ := ho.timers t ht
    · exact hissued (h.timers t ht)
    · rw [hticket, heq]
      exact hnew
  · obtain hq | ⟨hticket, heq⟩ := ho.requests q hq
    · exact hissued (h.requests q hq)
    · rw [hticket, heq]
      exact hnew
  · rw [ho.opened, ho.revisions]
    exact Nat.succ_le_succ h.opened_le

/-- A new subgame is later than every ticket. -/
theorem Dated.deals (h : b.Dated) (heq : b₁.turn = b.dealtTurn) : b₁.Dated := by
  simp only [turn, dealtTurn, Prod.mk.injEq] at heq
  obtain ⟨-, hrevision, hrevisions, -, htimers, hrequests, hsubgames, hopportunities, hopened, -⟩ :=
    heq
  have hissued : ∀ {t revision}, b.Issued t revision → b₁.Issued t revision := by
    intro t revision hi
    obtain ⟨hr, hle, hopp, hsub, hearlier, -⟩ := hi
    refine ⟨hr, hrevisions ▸ hle, hopportunities ▸ hopp, by omega, fun hlt => ?_, fun _ => ?_⟩
    · rw [hrevisions]
      exact hearlier (hopportunities ▸ hlt)
    · rw [hopened, hopportunities]
      exact hopp
  refine ⟨?_, fun t ht => hissued (h.timers t (htimers ▸ ht)),
    fun q hq => hissued (h.requests q ?_), ?_⟩
  · rw [hrevision, hrevisions]
    exact h.revision
  · exact hrequests ▸ hq
  · rw [hopened]
    exact Nat.zero_le _

theorem Dated.move (h : b.Dated) (hfour : ∀ seat, b.bySeat seat ≠ []) (seat : Fin 4)
    (cards : List Card) : (b.move seat cards).Dated := by
  have hrecord := turn_recordPlay b seat cards
  simp only [Prod.mk.injEq] at hrecord
  have hdates : (b.recordPlay seat cards).dates = b.dates := (dates_of_turn hrecord.1).trans rfl
  have hturned := turned_move hfour seat cards
  cases hturned with
  | stopped hturn _ => exact h.congr ((dates_of_turn hturn).trans hdates)
  | opened hopens hnear => exact (h.congr ((dates_of_turn hnear.turn).trans hdates)).opens hopens

theorem Framed.dates (h : Framed b b₁) : b₁.dates = b.dates := by
  obtain ⟨auto, offline, refused, sent, -, rfl⟩ := h
  rfl

theorem Dated.framed (h : b.Dated) (hframe : Framed b b₁ ∨ Framed b.nextRevision b₁) :
    b₁.Dated := by
  obtain hframe | hframe := hframe
  · exact h.congr hframe.dates
  · exact h.nextRevision.congr hframe.dates

theorem Effect.dated (he : Effect b b') (h : b.Dated)
    (hfour : b.phase = .playing → ∀ seat, b.bySeat seat ≠ []) : b'.Dated := by
  cases he with
  | idle _ hturn => exact h.congr (dates_of_turn hturn)
  | lapse hframe => exact h.framed (.inr hframe)
  | @delay b₁ seat cards hframe =>
    have h₁ := h.framed (.inr hframe)
    have hdates := hframe.dates
    simp only [Battle.dates, Prod.mk.injEq] at hdates
    have hrevision : b₁.turnRevision = b.turnRevision + 1 := hdates.1
    rw [← hrevision]
    exact h₁.after .ai cards
  | @ended b₁ hframe phase replayFinalized _ =>
    have h₁ := h.framed hframe
    exact h₁.congr rfl
  | move hframe hplaying _ _ =>
    have h₁ := h.framed hframe
    have hseats := (alike_of_framed hframe).same_seats
    exact h₁.move (hseats ▸ hfour hplaying) _ _

theorem dated_handle (h : b.Dated) (hfour : b.phase = .playing → ∀ seat, b.bySeat seat ≠ [])
    (c : Command) : (b.handle c).Dated := by
  obtain ⟨intn, swaps, rfl⟩ | ⟨d, rfl, he⟩ | he := b.handle_effect c
  · rw [handle]
    obtain heq | ⟨-, heq⟩ | ⟨bankerSeat, deck, hd⟩ := b.start_cases intn swaps
    · rw [heq]
      exact h
    · rw [heq]
      exact h.congr rfl
    · obtain ⟨hturn, -⟩ | ⟨b₁, hopens, hturn⟩ := hd.turn
      · exact h.deals hturn
      · exact (h.deals hturn).opens hopens
  · have herase : Dated { b with pending := b.pending.erase d } := h.congr rfl
    exact he.dated herase hfour
  · exact he.dated h hfour

theorem four_handle (h : b.phase = .playing → ∀ seat, b.bySeat seat ≠ []) (c : Command)
    (hplaying : (b.handle c).phase = .playing) : ∀ seat, (b.handle c).bySeat seat ≠ [] := by
  obtain ⟨intn, swaps, rfl⟩ | hr | ⟨b₁, seat, cards, halike, hb, -, -, heq⟩ := b.handle_table c
  · rw [handle] at hplaying ⊢
    obtain heq | ⟨hprepared, heq⟩ | ⟨bankerSeat, deck, hd⟩ := b.start_cases intn swaps
    · rw [heq] at hplaying ⊢
      exact h hplaying
    · rw [heq] at hplaying
      exact absurd (hprepared.symm.trans hplaying) (by rintro ⟨⟩)
    · have hseats := hd.seats
      simp only [Prod.mk.injEq] at hseats
      rw [hseats.2.1]
      exact hd.four
  · have hb := hr.playing hplaying
    rw [hr.seats (.inl hb)]
    exact h hb
  · rw [heq, move_seats, halike.same_seats]
    exact h hb

/-! ### Codes -/

/-- The codes of the first opportunities of a subgame, the last one first. -/
def codes : ℕ → List UInt32
  | 0 => []
  | n + 1 => UInt32.ofNat (2 * n + 3) :: codes n

theorem exists_of_mem_codes {code : UInt32} (h : code ∈ codes n) :
    ∃ i < n, code = UInt32.ofNat (2 * i + 3) := by
  induction n with
  | zero => cases h
  | succ n ih =>
    obtain rfl | h := List.mem_cons.mp h
    · exact ⟨n, Nat.lt_succ_self n, rfl⟩
    · obtain ⟨i, hi, heq⟩ := ih h
      exact ⟨i, Nat.lt_succ_of_lt hi, heq⟩

/-- The codes of fewer than `2 ^ 31` opportunities are different. -/
theorem nodup_codes (h : n < 2 ^ 31) : (codes n).Nodup := by
  induction n with
  | zero => exact List.nodup_nil
  | succ n ih =>
    refine List.nodup_cons.mpr ⟨fun hmem => ?_, ih (by omega)⟩
    obtain ⟨i, hi, heq⟩ := exists_of_mem_codes hmem
    have hmod := congrArg UInt32.toNat heq
    simp only [UInt32.toNat_ofNat'] at hmod
    omega

/-- **Opportunities and plays of a subgame.** An opportunity is open exactly in play, and the plays
are those of the opportunities before it. -/
structure Counted (b : Battle) : Prop where
  codes_eq : b.opened.map Prod.fst = codes b.opened.length
  suffix : b.accepted <:+ b.opened
  current : b.phase = .playing → b.opened = (b.verifyCode, b.activeSeat) :: b.accepted

/-- The part of a Battle that this is about. -/
def counts (b : Battle) := (b.opened, b.accepted, b.verifyCode, b.activeSeat)

theorem Counted.congr (h : b.Counted) (heq : b'.counts = b.counts)
    (hphase : b'.phase = .playing → b.phase = .playing) : b'.Counted := by
  simp only [counts, Prod.mk.injEq] at heq
  obtain ⟨hopened, haccepted, hcode, hseat⟩ := heq
  refine ⟨?_, ?_, fun hplaying => ?_⟩
  · rw [hopened]
    exact h.codes_eq
  · rw [hopened, haccepted]
    exact h.suffix
  · rw [hopened, haccepted, hcode, hseat]
    exact h.current (hphase hplaying)

theorem counts_of_turn (hturn : b'.turn = b.turn) (htable : b'.table = b.table) :
    b'.counts = b.counts := by
  simp only [turn, Prod.mk.injEq] at hturn
  obtain ⟨hcode, -, -, -, -, -, -, -, hopened, haccepted⟩ := hturn
  rw [counts, hopened, haccepted, hcode, activeSeat_of_table htable, counts]

/-- The opportunity after all plays so far. -/
theorem counted_opens (ho : Opens b₁ b') (hclosed : b₁.accepted = b₁.opened)
    (hcodes : b₁.opened.map Prod.fst = codes b₁.opened.length)
    (hcode : b₁.verifyCode = UInt32.ofNat (2 * b₁.opened.length + 1)) : b'.Counted := by
  have haround := ho.around
  simp only [around, Prod.mk.injEq] at haround
  have haccepted : b'.accepted = b₁.opened := haround.2.2.2.2.2.2.2.2.1.trans hclosed
  have hseat := activeSeat_of_table ho.table_eq
  have hnext : b₁.verifyCode + 2 = UInt32.ofNat (2 * b₁.opened.length + 3) := by
    rw [hcode]
    exact (UInt32.ofNat_add (2 * b₁.opened.length + 1) 2).symm
  refine ⟨?_, ?_, fun _ => ?_⟩
  · rw [ho.opened, List.map_cons, hcodes, List.length_cons, codes, hnext]
  · rw [ho.opened, haccepted]
    exact List.suffix_cons _ _
  · rw [ho.opened, ho.verifyCode, hseat, haccepted]

theorem Counted.verifyCode (h : b.Counted) (hplaying : b.phase = .playing) :
    b.verifyCode = UInt32.ofNat (2 * b.opened.length + 1) := by
  have hcodes := h.codes_eq
  rw [h.current hplaying, List.map_cons, List.length_cons, codes] at hcodes
  rw [h.current hplaying, List.length_cons]
  exact (List.cons.inj hcodes).1

/-- **A play closes the opportunity** whose code it names. -/
theorem Counted.move (h : b.Counted) (hplaying : b.phase = .playing) (hr : b.refused = none)
    (hfour : ∀ seat, b.bySeat seat ≠ []) {seat : Fin 4} (hseat : b.activeSeat = seat)
    (cards : List Card) : (b.move seat cards).Counted := by
  have hrecord := turn_recordPlay b seat cards
  simp only [turn, Prod.mk.injEq] at hrecord
  obtain ⟨⟨hcode, -, -, -, -, -, -, -, hopened, haccepted⟩, hphase, hrefused⟩ := hrecord
  have hclosed : (b.recordPlay seat cards).accepted = b.opened := by
    rw [haccepted, h.current hplaying, hseat]
  cases turned_move hfour seat cards with
  | stopped hturn hend =>
    have hended := hend (hrefused.trans hr)
    simp only [turn, Prod.mk.injEq] at hturn
    obtain ⟨-, -, -, -, -, -, -, -, hopened', haccepted'⟩ := hturn
    have hopened'' := hopened'.trans hopened
    refine ⟨?_, ?_, fun hp => absurd (hended.symm.trans hp) (by rintro ⟨⟩)⟩
    · rw [hopened'']
      exact h.codes_eq
    · rw [hopened'', haccepted', hclosed]
  | opened hopens hnear =>
    have hturn := hnear.turn
    simp only [turn, Prod.mk.injEq] at hturn
    obtain ⟨hcode', -, -, -, -, -, -, -, hopened', haccepted'⟩ := hturn
    have hopened'' := hopened'.trans hopened
    refine counted_opens hopens ?_ ?_ ?_
    · rw [haccepted', hclosed, hopened'']
    · rw [hopened'']
      exact h.codes_eq
    · rw [hcode', hcode, hopened'']
      exact h.verifyCode hplaying

theorem Framed.counts (h : Framed b b₁ ∨ Framed b.nextRevision b₁) : b₁.counts = b.counts := by
  obtain ⟨auto, offline, refused, sent, -, rfl⟩ | ⟨auto, offline, refused, sent, -, rfl⟩ := h
  all_goals rfl

theorem Effect.counted (he : Effect b b') (h : b.Counted) (hr : b.refused = none)
    (hfour : b.phase = .playing → ∀ seat, b.bySeat seat ≠ []) : b'.Counted := by
  cases he with
  | idle htable hturn _ hphase =>
    exact h.congr (counts_of_turn hturn htable) fun hp =>
      (hphase.resolve_right fun hne => hne.1 hp) ▸ hp
  | lapse hframe hplaying => exact h.congr (Framed.counts (.inr hframe)) fun _ => hplaying
  | delay hframe hplaying =>
    refine h.congr (Eq.trans ?_ (Framed.counts (.inr hframe))) fun _ => hplaying
    rw [after]
    split <;> rfl
  | @ended b₁ hframe phase replayFinalized hphase =>
    have hcounts := Framed.counts hframe
    refine h.congr hcounts fun hp => ?_
    obtain rfl | rfl | rfl := hphase <;> cases hp
  | @move b₁ seat cards hframe hplaying hseat hvalid =>
    have halike := alike_of_framed hframe
    have h₁ : b₁.Counted := h.congr (Framed.counts hframe) fun _ => hplaying
    refine h₁.move (halike.same_phase.trans hplaying) (halike.refused hr) ?_
      ((activeSeat_of_table halike.table).trans hseat) cards
    rw [halike.same_seats]
    exact hfour hplaying

theorem Dealt.counted {bankerSeat : ℕ} {deck : List Card} (hd : Dealt b b' bankerSeat deck)
    (hsent : b'.sendFailed = false) : b'.Counted := by
  obtain ⟨-, hne⟩ | ⟨b₁, hopens, hturn⟩ := hd.turn
  · exact absurd (hd.refused_eq_none hsent) hne
  · simp only [Battle.turn, dealtTurn, Prod.mk.injEq] at hturn
    obtain ⟨hcode, -, -, -, -, -, -, -, hopened, haccepted⟩ := hturn
    refine counted_opens hopens ?_ ?_ ?_
    · rw [hopened, haccepted]
    · rw [hopened]
      rfl
    · rw [hopened, hcode]
      rfl

theorem counted_handle {c : Command} (h : b.sendFailed = false → b.Counted)
    (hr : b.refused = none ∨ b.sendFailed = true)
    (hfour : b.phase = .playing → ∀ seat, b.bySeat seat ≠ [])
    (hsent : (b.handle c).sendFailed = false) : (b.handle c).Counted := by
  have hbefore : ∀ {b₀ : Battle}, Effect b₀ (b.handle c) → b₀.sendFailed = b.sendFailed →
      b.sendFailed = false := by
    intro b₀ he heq
    rw [← heq, ← hsent]
    obtain hrests | hmoves := he.rests_or_moves
    · exact (sendFailed_of_answers hrests.answers).symm
    · exact (sendFailed_of_answers hmoves.answers).symm
  obtain ⟨intn, swaps, rfl⟩ | ⟨d, rfl, he⟩ | he := b.handle_effect c
  · rw [handle] at hsent ⊢
    obtain heq | ⟨hprepared, heq⟩ | ⟨bankerSeat, deck, hd⟩ := b.start_cases intn swaps
    · rw [heq] at hsent ⊢
      exact h hsent
    · rw [heq] at hsent ⊢
      exact (h hsent).congr rfl id
    · exact hd.counted hsent
  · have hb := hbefore he rfl
    have herase : Counted { b with pending := b.pending.erase d } := (h hb).congr rfl id
    exact he.counted herase
      (hr.resolve_right fun hfailed => absurd (hb.symm.trans hfailed) (by rintro ⟨⟩)) hfour
  · have hb := hbefore he rfl
    exact he.counted (h hb)
      (hr.resolve_right fun hfailed => absurd (hb.symm.trans hfailed) (by rintro ⟨⟩)) hfour

end Battle

/-! ### Runs -/

open Battle

variable {b : Battle}

theorem four_of_reachable (h : battles.Reachable b) :
    b.phase = .playing → ∀ seat, b.bySeat seat ≠ [] := by
  refine h.invariant (I := fun b => b.phase = .playing → ∀ seat, b.bySeat seat ≠ []) ?_ ?_
  · rintro b ⟨isNewbie, hasAI, rfl⟩
    nofun
  · intro b a b' hb _ hstep
    obtain ⟨-, ⟨-, rfl⟩ | ⟨-, rfl⟩⟩ := step_cases hstep
    · exact hb
    · exact four_handle (b := b.receive a) hb a.command

theorem dated_of_reachable (h : battles.Reachable b) : b.Dated := by
  refine h.invariant_of (fun _ => four_of_reachable) ?_ ?_
  · rintro b ⟨isNewbie, hasAI, rfl⟩
    exact ⟨rfl, nofun, nofun, le_rfl⟩
  · intro b a b' hb hfour _ _ hstep
    obtain ⟨-, ⟨-, rfl⟩ | ⟨-, rfl⟩⟩ := step_cases hstep
    · exact hb
    · have hreceive : (b.receive a).Dated := hb.congr rfl
      exact dated_handle hreceive hfour a.command

theorem counted_of_reachable (h : battles.Reachable b) : b.sendFailed = false → b.Counted := by
  refine h.invariant_of (I := fun b => b.sendFailed = false → b.Counted)
    (fun _ => four_of_reachable) ?_ ?_
  · rintro b ⟨isNewbie, hasAI, rfl⟩ -
    exact ⟨rfl, List.suffix_refl _, nofun⟩
  · intro b a b' hb hfour _ _ hstep
    obtain ⟨-, ⟨-, rfl⟩ | ⟨-, rfl⟩⟩ := step_cases hstep
    · exact hb
    · have hreceive : (b.receive a).sendFailed = false → (b.receive a).Counted := by
        intro hsent
        have hsent' : b.sendFailed = false := (Bool.or_eq_false_iff.mp hsent).1
        exact (hb hsent').congr rfl id
      have hrefused : (b.receive a).refused = none ∨ (b.receive a).sendFailed = true := by
        cases hr : a.refused <;> simp [receive, hr]
      exact counted_handle hreceive hrefused hfour

/-- A timer that was set in the run, or the result for a request that was made in it, comes back. It
may come late and more than once. -/
inductive Arrives (b : Battle) : Ticket → Command → Prop
  | timer {t : Ticket} {deadline : ActionDeadline} (h : (t, deadline) ∈ b.timers) :
    Arrives b t (.timer deadline)
  | aiResult {t : Ticket} {request : AIRequest} (h : (t, request) ∈ b.requests) (cards : List Card)
    (failed early : Bool) : Arrives b t (.aiResult ⟨request, cards, failed⟩ early)

/-- It was created for an earlier opportunity or for an earlier subgame. -/
def Ticket.Late (t : Ticket) (b : Battle) : Prop :=
  t.subgame < b.subgames ∨ t.opportunity < b.opportunities

/-- What is late has another revision than the turn. -/
theorem revision_ne_of_late {t : Ticket} {revision : UInt64} (hi : b.Issued t revision)
    (hdated : b.Dated) (hcounted : b.Counted) (hplaying : b.phase = .playing) (hlate : t.Late b)
    (hbound : b.revisions < t.revision + 2 ^ 64) : revision ≠ b.turnRevision := by
  have hopen : 0 < b.opened.length := by
    rw [hcounted.current hplaying]
    exact Nat.succ_pos _
  have hearlier : t.opportunity < b.opportunities := by
    obtain hsubgame | hopportunity := hlate
    · have := hi.older hsubgame
      omega
    · exact hopportunity
  have hlt := hi.earlier hearlier
  rw [hi.revision_eq, hdated.revision]
  intro heq
  have hmod := congrArg UInt64.toNat heq
  simp only [UInt64.toNat_ofNat'] at hmod
  omega

/-- **What is late does nothing.** -/
theorem handle_late {t : Ticket} {a : Action} (h : battles.Reachable b)
    (hsent : b.sendFailed = false) (harrives : Arrives b t a.command) (hlate : t.Late b)
    (hbound : b.revisions < t.revision + 2 ^ 64) :
    ((b.receive a).handle a.command).table = b.table := by
  have hdated := dated_of_reachable h
  have hcounted := counted_of_reachable h hsent
  generalize a.command = c at harrives ⊢
  cases harrives with
  | @timer deadline hmem =>
    have hskip : deadline.turnRevision ≠ b.turnRevision ∨ b.phase ≠ .playing := by
      by_cases hplaying : b.phase = .playing
      · exact .inl (revision_ne_of_late (hdated.timers _ hmem) hdated hcounted hplaying
          hlate hbound)
      · exact .inr hplaying
    have hsame : Battle.timer { b.receive a with pending := b.pending.erase deadline } deadline =
        { b.receive a with pending := b.pending.erase deadline } := if_pos hskip
    exact (congrArg table hsame).trans rfl
  | @aiResult request hmem cards failed early =>
    have hskip : b.phase ≠ .playing ∨ request.turnRevision ≠ b.turnRevision := by
      by_cases hplaying : b.phase = .playing
      · exact .inr (revision_ne_of_late (hdated.requests _ hmem) hdated hcounted hplaying
          hlate hbound)
      · exact .inl hplaying
    have hsame : (b.receive a).applyAIResult ⟨request, cards, failed⟩ early = b.receive a := by
      refine if_pos ?_
      obtain hphase | hrevision := hskip
      · exact .inr (.inl hphase)
      · exact .inr (.inr (.inr (.inr (.inl hrevision))))
    exact (congrArg table hsame).trans rfl

/-- **One action for each opportunity.** In a subgame in which no Send is refused and that has fewer
than `2 ^ 31` turns, no two opportunities have the same code and no two accepted plays name the same
code; each accepted play is of an opportunity, by the seat that was active when the opportunity
started. A timer or the result of an AI for an earlier opportunity or subgame leaves the table as it
is, as long as fewer than `2 ^ 64` turn revisions lie between. -/
theorem one_action_per_opportunity {b : Battle} (h : battles.Reachable b)
    (hsent : b.sendFailed = false) (hturns : b.opened.length < 2 ^ 31) :
    (b.opened.map Prod.fst).Nodup ∧ (b.accepted.map Prod.fst).Nodup ∧
    (∀ play ∈ b.accepted, play ∈ b.opened) ∧
    ∀ t a b', Arrives b t a.command → t.Late b → b.revisions < t.revision + 2 ^ 64 →
      battles.step b a = some b' → b'.table = b.table := by
  have hcounted := counted_of_reachable h hsent
  have hnodup : (b.opened.map Prod.fst).Nodup := by
    rw [hcounted.codes_eq]
    exact nodup_codes hturns
  refine ⟨hnodup, hnodup.sublist (hcounted.suffix.sublist.map _), fun play hmem => ?_, ?_⟩
  · exact hcounted.suffix.subset hmem
  · intro t a b' harrives hlate hbound hstep
    obtain ⟨-, ⟨-, rfl⟩ | ⟨-, rfl⟩⟩ := step_cases hstep
    · rfl
    · exact handle_late h hsent harrives hlate hbound

/-- In the seventh turn of the pairs six plays have been accepted, and the timer of the first turn
comes back. -/
theorem one_action_per_opportunity_pairs : ∃ b, battles.Reachable b ∧ b.accepted.length = 6 ∧
    (b.opened.map Prod.fst).Nodup ∧ (∀ play ∈ b.accepted, play ∈ b.opened) ∧
    ∃ d b', (⟨1, 1, 1⟩, d) ∈ b.timers ∧ battles.step b { command := .timer d } = some b' ∧
      b'.table = b.table := by
  obtain ⟨b, h⟩ := pairs_begun
  obtain ⟨hopened, hopportunities, hrevisions⟩ := h.turns
  obtain ⟨hnodup, -, hplays, hlate⟩ := one_action_per_opportunity h.reachable h.sent (by omega)
  have hstep := step_of_playing h.phase_eq h.live { command := .timer ⟨1, .timeout, []⟩ }
  exact ⟨b, h.reachable, h.plays, hnodup, hplays, _, _, h.first, hstep,
    hlate ⟨1, 1, 1⟩ _ _ (.timer h.first) (.inr (by rw [hopportunities]; decide))
      (by rw [hrevisions]; decide) hstep⟩

/-! ### The local AI -/

/-- The part of `AIRequest` that is the same in every turn. -/
structure AIOrigin where
  target : ServiceRef
  battleID : ℕ
  productID : ℕ
  matchID : ℕ
  /-- `initializeBattle` has checked it. -/
  valid : target.node ≠ [] ∧ target.id ≠ 0 ∧ battleID ≠ 0 ∧ productID ≠ 0 ∧ matchID ≠ 0

/-- `validAIRequest`; zero is the time that `IsZero` holds of. -/
def validAIRequest (origin : AIOrigin) (request : AIRequest) (hand : List Card) : Bool :=
  origin.target.node ≠ [] && origin.target.id ≠ 0 && origin.battleID ≠ 0 && origin.productID ≠ 0 &&
    origin.matchID ≠ 0 && request.gameNum ≠ 0 && request.subgameNum ≠ 0 && request.userID ≠ 0 &&
    request.seatID < 4 && request.turnRevision ≠ 0 && request.verifyCode ≠ 0 &&
    request.startedAt ≠ 0 && hand ≠ []

/-- `LocalAIProvider.Move`, where `leading` and `hand` are those of the scene -/
def localAIMove (origin : AIOrigin) (request : AIRequest) (leading : Bool) (hand : List Card) :
    Option (List Card) :=
  if !validAIRequest origin request hand then none
  else match hand with
    | [] => none
    | card :: cards =>
      if !leading then some []
      else some [cards.foldl (fun card candidate =>
        let candidateValue := cardLogicValue (cardValue candidate)
        let value := cardLogicValue (cardValue card)
        if candidateValue < value ∨ candidateValue = value ∧ candidate < card then candidate
        else card) card]

/-- The request of a turn is valid until the revision comes back to zero. -/
theorem validAIRequest_of_playing (h : battles.Reachable b) (hplaying : b.phase = .playing)
    (hsent : b.sendFailed = false) (hrevisions : b.revisions < 2 ^ 64)
    (hnumbers : b.gameNum ≠ 0 ∧ b.subgameNum ≠ 0) (hstarted : b.actionStartedAt ≠ 0)
    (origin : AIOrigin) {seat : Fin 4} (hhand : b.seatHand seat ≠ []) (hcode : b.verifyCode ≠ 0) :
    validAIRequest origin ⟨b.gameNum, b.subgameNum, b.userID (b.bySeat seat), seat, b.turnRevision,
      b.verifyCode, b.actionStartedAt⟩ (b.seatHand seat) = true := by
  have hrevision : b.turnRevision ≠ 0 := by
    have hdated := dated_of_reachable h
    have hle := hdated.opened_le
    rw [(counted_of_reachable h hsent).current hplaying, List.length_cons] at hle
    rw [hdated.revision]
    intro hzero
    have hmod := congrArg UInt64.toNat hzero
    simp only [UInt64.toNat_ofNat', UInt64.toNat_zero, Nat.mod_eq_of_lt hrevisions] at hmod
    omega
  have huser : b.userID (b.bySeat seat) ≠ 0 := by
    obtain ⟨player, hplayer, -⟩ :=
      (conserved_of_reachable h).seated seat (four_of_reachable h hplaying seat)
    rw [userID, hplayer]
    exact named_of_reachable h _ player hplayer
  obtain ⟨hnode, hid, hbattle, hproduct, hmatch⟩ := origin.valid
  simp [validAIRequest, hnode, hid, hbattle, hproduct, hmatch, hnumbers, huser, hrevision, hcode,
    hstarted, hhand]

/-- **The local AI is never refused** before the revision comes back to zero. Its answer to the
request of the current turn is played. -/
theorem local_ai_moves {b : Battle} (h : battles.Reachable b) (hplaying : b.phase = .playing)
    (hlive : b.panicked = false) (hcalm : b.Calm) (hrevisions : b.revisions < 2 ^ 64)
    (hnumbers : b.gameNum ≠ 0 ∧ b.subgameNum ≠ 0) (hstarted : b.actionStartedAt ≠ 0)
    (origin : AIOrigin) :
    ∃ seat : Fin 4, ∃ ticket request cards b', b.activeSeat = seat ∧
      (b.submitAI seat).requests = (ticket, request) :: b.requests ∧
      localAIMove origin request (b.lastCards = []) (b.seatHand seat) = some cards ∧
      battles.step b { command := .aiResult ⟨request, cards, false⟩ false } = some b' ∧
      b'.outedCards = b.outedCards ++ [cards] := by
  have hp := primed_of_calm h hplaying hlive hcalm .snapshot
  obtain ⟨seat, hseat⟩ : ∃ seat : Fin 4, b.activeSeat = seat := ⟨⟨_, hp.range⟩, rfl⟩
  have hcards : b.seatHand seat ≠ [] := hp.round.active seat hseat
  have hvalid := validAIRequest_of_playing h hplaying hcalm.sent hrevisions hnumbers hstarted origin
    hcards (not_or.mp (hp.not_lapse hseat)).1
  refine ⟨seat, _, _, b.localAutoCards (b.bySeat seat), _, hseat, rfl, ?_,
    step_of_playing hplaying hlive _, ?_⟩
  · unfold localAIMove
    rw [hvalid, localAutoCards]
    rw [seatHand] at hcards ⊢
    cases hhand : b.hand (b.bySeat seat) with
    | nil => exact absurd hhand hcards
    | cons card cards => cases b.lastCards <;> rfl
  · exact (primed_of_calm h hplaying hlive hcalm _).aiResult_outedCards hplaying hseat

/-- In the seventh turn of the pairs the local AI passes, and the pass is accepted. -/
theorem local_ai_moves_pairs : ∃ b seat origin request cards b', battles.Reachable b ∧
    b.accepted.length = 6 ∧
    localAIMove origin request (b.lastCards = []) (b.seatHand seat) = some cards ∧
    battles.step b { command := .aiResult ⟨request, cards, false⟩ false } = some b' ∧
    b'.outedCards = b.outedCards ++ [cards] := by
  obtain ⟨b, h⟩ := pairs_begun
  obtain ⟨seat, -, request, cards, b', -, -, hmove, hstep, hout⟩ := local_ai_moves h.reachable
    h.phase_eq h.live h.calm (by rw [h.turns.2.2]; decide) h.numbers h.startedAt
    ⟨⟨"n", 1⟩, 1, 1, 1, by decide⟩
  exact ⟨b, seat, _, request, cards, b', h.reachable, h.plays, hmove, hstep, hout⟩

/-! ### A revision that comes back -/

namespace Battle

variable {b : Battle}

theorem emit_id (outputs : List Output) (b : Battle) :
    ∃ refused sent, emit outputs b id = { b with refused, sent } := by
  obtain ⟨refused, sent, he, -⟩ | ⟨refused, sent, -, he⟩ := emit_cases outputs b id
  all_goals exact ⟨refused, sent, he⟩

/-- What a new opportunity leaves alone besides. -/
theorem startAction_rest (hlt : b.activeSeat < 4) :
    (b.startAction.replayFinalized, b.startAction.panicked) = (b.replayFinalized, b.panicked) ∧
      ∀ t ∈ b.timers, t ∈ b.startAction.timers := by
  have hask : ∀ (b₁ : Battle) seat,
      ((b₁.askAction seat).replayFinalized, (b₁.askAction seat).panicked,
        (b₁.askAction seat).timers) = (b₁.replayFinalized, b₁.panicked, b₁.timers) := by
    intro b₁ seat
    have hsubmit : ∀ b₂, b₂ = (if b₁.useAI (b₁.bySeat seat) then b₁.submitAI seat else b₁) →
        (b₂.replayFinalized, b₂.panicked, b₂.timers) =
        (b₁.replayFinalized, b₁.panicked, b₁.timers) := by
      rintro b₂ rfl
      split <;> rfl
    rw [askAction, ← hsubmit _ rfl]
    generalize (if b₁.useAI (b₁.bySeat seat) then b₁.submitAI seat else b₁) = b₂
    split
    · rfl
    · obtain ⟨refused, sent, he⟩ :=
        emit_id [.client b₂.activePlayers (b₂.askOutCardPayload seat)] b₂
      rw [he]
  rw [startAction,
    withActive_of_eq (show b.openAction.activeSeat = (⟨b.activeSeat, hlt⟩ : Fin 4) from rfl)]
  split
  · exact ⟨rfl, fun _ ht => ht⟩
  · have hafter := hask (b.openAction.after ⟨b.openAction.turnRevision,
      b.openAction.actionSource (b.openAction.bySeat ⟨b.activeSeat, hlt⟩), []⟩) ⟨b.activeSeat, hlt⟩
    simp only [Prod.mk.injEq] at hafter ⊢
    rw [hafter.1, hafter.2.1, hafter.2.2, after]
    split
    · exact ⟨⟨rfl, rfl⟩, fun _ ht => ht⟩
    · exact ⟨⟨rfl, rfl⟩, fun _ ht => List.mem_cons_of_mem _ ht⟩

/-- `forceFinish` in a subgame, with every Send accepted. -/
theorem forceFinish_sent (hr : b.refused = none) (hplaying : b.phase = .playing)
    (hreplay : b.replayFinalized = false) :
    ∃ refused sent, b.forceFinish false [] =
      { b.nextRevision with refused, sent, phase := .finished, replayFinalized := true } := by
  rw [forceFinish, if_pos (.inl hplaying), finish]
  obtain ⟨refused, sent, hr', he⟩ :=
    emit_none (b := { b.nextRevision with phase := .finished }) hr _ _
  rw [he, if_neg (by rintro ⟨⟩), finishReplay, if_neg (by simp [nextRevision, hreplay])]
  obtain ⟨refused', sent', -, he'⟩ := emit_none
    (b := { b.nextRevision with
      phase := .finalizingReplay, refused, sent, replayFinalized := true }) hr' _ _
  exact ⟨refused', sent', he'⟩

theorem prepare_finished (hinit : b.initialized = true) (hfour : b.hasFourPlayers = true)
    (hphase : b.phase = .finished) :
    b.prepare 1 1 =
      { b with gameNum := 1, subgameNum := 1, phase := .preparing, customDeckCatalog := [] } := by
  rw [prepare, if_neg (by simp [hinit, hfour]), if_neg (by simp [hphase]),
    if_pos (.inr (.inl hphase))]

/-- `start` without a custom deck, with every Send accepted. -/
theorem start_sent (hr : b.refused = none) (hphase : b.phase = .preparing)
    (hfour : b.hasFourPlayers = true) (hcatalog : b.customDeckCatalog = []) :
    ∃ refused sent, refused = none ∧ b.start 0 [] =
      startAction { b.dealSubgame none 0 (b.dealtDeck none []) with refused, sent } := by
  have hcustom : b.customDeckForSubgame = none := by
    simp [customDeckForSubgame, validCatalog, hcatalog]
  have hdealt : (b.dealSubgame none 0 (b.dealtDeck none [])).refused = none := hr
  rw [start, if_neg (by simp [hphase, hfour]), hcustom]
  exact emit_none hdealt _ _

end Battle

open Battle

/-- A Battle in one phase of a subgame, with the timer of the first subgame still to come. -/
structure Stage (b : Battle) (phase : Phase) (revision subgames : ℕ) : Prop where
  reachable : battles.ReachableUnder (fun _ a => a.refused = none) b
  phase_eq : b.phase = phase
  live : b.panicked = false
  initialized : b.initialized = true
  four : b.hasFourPlayers = true
  auto : b.rules.timeoutAutoMove = true
  sent : b.sendFailed = false
  revision_eq : b.turnRevision = UInt64.ofNat revision
  subgames_eq : b.subgames = subgames
  timer : (⟨1, 1, 1⟩, ⟨1, .timeout, []⟩) ∈ b.timers

/-- A Battle in its subgame with the number `n`, from 0, with nothing played in it. -/
structure Again (b : Battle) (n : ℕ) : Prop extends Stage b .playing (2 * n + 1) (n + 1) where
  replay : b.replayFinalized = false
  lead : b.lastCards = []
  custom : b.custom = none
  opened : b.opened.length = 1

theorem reachable_handle (h : battles.ReachableUnder (fun _ a => a.refused = none) b)
    (hlive : b.panicked = false) (hphase : b.phase ≠ .stopping) (c : Command) :
    battles.ReachableUnder (fun _ a => a.refused = none)
      ((b.receive { command := c }).handle c) := by
  have hstep : battles.step b { command := c } = some ((b.receive { command := c }).handle c) := by
    simp [battles, hlive, hphase]
  exact .step h rfl hstep

namespace Stage

variable {b : Battle} {revision subgames : ℕ}

theorem force (h : Stage b .playing revision subgames) (hreplay : b.replayFinalized = false) :
    ∃ b', Stage b' .finished (revision + 1) subgames := by
  have hreach :=
    reachable_handle h.reachable h.live (by rw [h.phase_eq]; nofun) (.forceFinish false [])
  obtain ⟨refused, sent, heq⟩ :=
    forceFinish_sent (b := b.receive { command := .forceFinish false [] }) rfl h.phase_eq hreplay
  rw [handle, heq] at hreach
  have hrevision : b.turnRevision + 1 = UInt64.ofNat (revision + 1) := by
    rw [h.revision_eq, ofNat_succ]
  exact ⟨_, hreach, rfl, h.live, h.initialized, h.four, h.auto,
    Bool.or_eq_false_iff.mpr ⟨h.sent, rfl⟩, hrevision, h.subgames_eq, h.timer⟩

theorem prepare (h : Stage b .finished revision subgames) :
    ∃ b', Stage b' .preparing revision subgames ∧ b'.customDeckCatalog = [] := by
  have hreach := reachable_handle h.reachable h.live (by rw [h.phase_eq]; nofun) (.prepare 1 1)
  have heq :=
    prepare_finished (b := b.receive { command := .prepare 1 1 }) h.initialized h.four h.phase_eq
  rw [handle, heq] at hreach
  exact ⟨_, ⟨hreach, rfl, h.live, h.initialized, h.four, h.auto,
    Bool.or_eq_false_iff.mpr ⟨h.sent, rfl⟩, h.revision_eq, h.subgames_eq, h.timer⟩, rfl⟩

end Stage

/-- The next subgame: this one is forced to finish, and another one is prepared and started. -/
theorem Again.next {n : ℕ} (h : Again b n) : ∃ b', Again b' (n + 1) := by
  obtain ⟨b₁, h₁⟩ := h.toStage.force h.replay
  obtain ⟨b₂, h₂, hcatalog⟩ := h₁.prepare
  have hreach := reachable_handle h₂.reachable h₂.live (by rw [h₂.phase_eq]; nofun) (.start 0 [])
  obtain ⟨refused, sent, -, heq⟩ :=
    start_sent (b := b₂.receive { command := .start 0 [] }) rfl h₂.phase_eq h₂.four hcatalog
  rw [handle, heq] at hreach
  have hopens := startAction_opens { (b₂.receive { command := .start 0 [] }).dealSubgame none 0
    ((b₂.receive { command := .start 0 [] }).dealtDeck none []) with refused, sent }
  have hrest := startAction_rest (b := { (b₂.receive { command := .start 0 [] }).dealSubgame none 0
    ((b₂.receive { command := .start 0 [] }).dealtDeck none []) with refused, sent })
    (show 0 < 4 by decide)
  generalize startAction _ = b₃ at hreach hopens hrest
  have haround := hopens.around
  simp only [around, table, answers, Prod.mk.injEq] at haround hrest
  obtain ⟨⟨-, -, -, hcustom, hlast, -⟩, hphase, hseats, hplayers, hinit, hrules, ⟨-, hsent, -⟩,
    hsubgames, -⟩ := haround
  obtain ⟨⟨hreplay, hlive⟩, htimers⟩ := hrest
  have hfour : b₃.hasFourPlayers = true := by
    have hfour := h₂.four
    rw [hasFourPlayers] at hfour ⊢
    rw [hseats, hplayers]
    exact hfour
  have hrevision : b₂.turnRevision + 1 = UInt64.ofNat (2 * (n + 1) + 1) := by
    rw [h₂.revision_eq, ofNat_succ]
    rfl
  exact ⟨b₃, ⟨hreach, hphase, hlive.trans h₂.live, hinit.trans h₂.initialized, hfour,
    (congrArg Rules.timeoutAutoMove hrules).trans h₂.auto, hsent,
    hopens.turnRevision.trans hrevision,
    hsubgames.trans (congrArg (· + 1) h₂.subgames_eq), htimers _ h₂.timer⟩, hreplay, hlast, hcustom,
    congrArg List.length hopens.opened⟩

theorem exists_again (n : ℕ) : ∃ b, Again b n := by
  induction n with
  | zero =>
    obtain ⟨b, h, hp⟩ := battles.exists_reachableUnder_of_run (fun _ a => a.refused = none)
      (s := { isNewbie := false }) opening
      (fun b => decide (b.phase = .playing ∧ b.panicked = false ∧ b.initialized = true ∧
        b.hasFourPlayers = true ∧ b.rules.timeoutAutoMove = true ∧ b.sendFailed = false ∧
        b.turnRevision = 1 ∧ b.subgames = 1 ∧ (⟨1, 1, 1⟩, ⟨1, .timeout, []⟩) ∈ b.timers ∧
        b.replayFinalized = false ∧ b.lastCards = [] ∧ b.custom.isNone = true ∧
          b.opened.length = 1))
      ⟨false, false, rfl⟩ (by decide +kernel)
    obtain ⟨hphase, hlive, hinit, hfour, hauto, hsent, hrevision, hsubgames, htimer, hreplay,
      hlast, hcustom, hopened⟩ := of_decide_eq_true hp
    exact ⟨b, ⟨h, hphase, hlive, hinit, hfour, hauto, hsent, hrevision, hsubgames, htimer⟩,
      hreplay, hlast, Option.isNone_iff_eq_none.mp hcustom, hopened⟩
  | succ n ih =>
    obtain ⟨b, h⟩ := ih
    exact h.next

/-- When no cards are on the table a move takes cards from a hand. -/
theorem hands_ne_of_move {c : Command} {cards : List Card} (hlead : b.lastCards = [])
    (hout : (b.handle c).outedCards = b.outedCards ++ [cards])
    (hstart : ∀ intn swaps, c ≠ .start intn swaps) : (b.handle c).hands ≠ b.hands := by
  have hne : cards ≠ [] := by
    obtain ⟨intn, swaps, rfl⟩ | hr | ⟨b₁, seat, cards', halike, -, -, hvalid, heq⟩ :=
      b.handle_table c
    · exact absurd rfl (hstart intn swaps)
    · rw [outedCards_of_table hr.table] at hout
      simp at hout
    · rw [heq, move_outedCards, outedCards_of_table halike.table] at hout
      obtain rfl : cards' = cards := by simpa using hout
      rintro rfl
      simp [validActionCandidate, lastCards_of_table halike.table, hlead] at hvalid
  intro hhands
  obtain ⟨seat, -, hperm, -⟩ := takesFromHand_handle hout
  have hlength := hperm.length_eq
  have hhand : (b.handle c).hand (b.bySeat seat) = b.seatHand seat := by
    rw [hand, hhands]
    rfl
  rw [hhand, List.length_append] at hlength
  exact hne (List.length_eq_zero_iff.mp (by omega))

/-- **A timer that is late by `2 ^ 64` revisions** moves: after `2 ^ 63` subgames that were forced
to finish, the revision of the first turn is that of the turn again. -/
theorem late_timer_moves : ∃ b b' t d, battles.ReachableUnder (fun _ a => a.refused = none) b ∧
    b.opened.length < 2 ^ 31 ∧ (t, d) ∈ b.timers ∧ t.subgame < b.subgames ∧
    battles.step b { command := .timer d } = some b' ∧ b'.hands ≠ b.hands := by
  obtain ⟨b, h⟩ := exists_again (2 ^ 63)
  have hreach := h.reachable.reachable
  have hround := (good_of_reachable hreach h.sent).round h.phase_eq
  have hrange := hround.range (.inr h.live)
  have hranked : ∀ player, Ranked (b.hand player) :=
    hand_ranked (conserved_of_reachable hreach) hround.started
      (by rw [dealt, h.custom]; exact ranked_ordinaryDeck)
  have hodd : b.verifyCode.toNat % 2 = 1 := by
    rw [(counted_of_reachable hreach h.sent).verifyCode h.phase_eq, h.opened]
    rfl
  have hrevision : (1 : UInt64) = b.turnRevision := by
    rw [h.revision_eq]
    decide
  obtain ⟨b₁, seat, cards, hframe, heq⟩ := timer_due
    (b := { b.receive { command := .timer ⟨1, .timeout, []⟩ } with
      pending := b.pending.erase ⟨1, .timeout, []⟩ })
    (d := ⟨1, .timeout, []⟩) (hround.congr rfl rfl fun _ => hrange) h.phase_eq hrange hodd rfl
      h.auto hranked
    ⟨hrevision, (by rintro ⟨⟩), (by rintro ⟨⟩)⟩
  have hout := b₁.move_outedCards seat cards
  rw [← heq, outedCards_of_table hframe.alike.table] at hout
  have hstep : battles.step b { command := .timer ⟨1, .timeout, []⟩ } =
      some ((b.receive { command := .timer ⟨1, .timeout, []⟩ }).handle
        (.timer ⟨1, .timeout, []⟩)) := by
    simp [battles, h.live, h.phase_eq]
  refine ⟨b, _, _, _, h.reachable, by rw [h.opened]; decide, h.timer, ?_, hstep, ?_⟩
  · rw [h.subgames_eq]
    decide
  · exact hands_ne_of_move (b := b.receive { command := .timer ⟨1, .timeout, []⟩ }) h.lead hout
      (by rintro intn swaps ⟨⟩)

end GameServiceRuntime.Nhsk
