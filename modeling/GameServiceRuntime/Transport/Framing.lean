import GameServiceRuntime.Lib.Transition
import GameServiceRuntime.Transport.Wire

/-!
# Frames on a connection

A body goes over a connection as a frame: four bytes for its length, and the body. The writer may
accept any number of bytes in each call, and the reader may return the stream in any pieces; neither
loses a byte. The Sends of a connection take turns under `writeMu`.

A Send whose write fails releases `writeMu` first and closes the connection then. A Send that waits
for the lock may get it in between. If the first one has left a part of its frame in the stream, the
second one succeeds and its frame is read as the rest of the other: see `frame_after_torn_write`.

## Scope

The table of connections is left out. A Send may have taken the connection from the table, or from a
dial, before the connection was removed, so here it may come with it at any time. Whatever else
closes the connection (the read loop, `Close`, another connection to the same peer) may do so at any
time.

## Main definitions

* `writeFrame`, `readFrame` — one frame, against any writer and any reader
* `Link` — a connection and the Sends that use it
* `Prompt` — no Send takes the lock between a write that failed in the middle of a frame and the
  close

## Main results

* `frames_lossless`
* `frame_after_torn_write`
* `envelopes_arrive`
-/

namespace GameServiceRuntime.Transport

/-- The errors of reading and writing frames. -/
inductive FrameErr
  /-- of the package -/
  | wire (err : WireErr)
  | eof
  /-- `io.ErrUnexpectedEOF` -/
  | unexpectedEOF
  /-- of the writer -/
  | write
  deriving DecidableEq

/-! ### Writing -/

/-- An `io.Writer`: how many bytes each of its calls accepts, whether the call then fails, and what
has been accepted. -/
structure Writer where
  answer : ℕ → ℕ × Bool
  calls : ℕ := 0
  stream : List UInt8 := []

namespace Writer

/-- The number of bytes that the next call accepts. -/
def accepts (w : Writer) (data : List UInt8) : ℕ := min (w.answer w.calls).1 data.length

def write (w : Writer) (data : List UInt8) : Writer :=
  { w with calls := w.calls + 1, stream := w.stream ++ data.take (w.accepts data) }

/-- Every call accepts something and does not fail. -/
def Accepting (w : Writer) : Prop := ∀ call, 0 < (w.answer call).1 ∧ (w.answer call).2 = false

end Writer

def writeAll (w : Writer) (data : List UInt8) : Option FrameErr × Writer :=
  if data = [] then (none, w)
  else if (w.answer w.calls).2 then (some .write, w.write data)
  else if w.accepts data = 0 then (some .unexpectedEOF, w.write data)
  else writeAll (w.write data) (data.drop (w.accepts data))
  termination_by data.length
  decreasing_by
    rw [List.length_drop]
    have := List.length_pos_of_ne_nil ‹data ≠ []›
    omega

/-- The bytes of a frame. -/
def frame (body : List UInt8) : List UInt8 := bigEndian 4 body.length ++ body

def writeFrame (w : Writer) (body : List UInt8) (maxFrameSize : UInt32) :
    Option FrameErr × Writer :=
  if body.length = 0 then (some (.wire .invalidFrame), w)
  else if body.length > maxFrameSize.toNat then (some (.wire .frameTooLarge), w)
  else
    match writeAll w (bigEndian 4 body.length) with
    | (some err, w) => (some err, w)
    | (none, w) => writeAll w body

/-- Frames one after another, up to the first error. -/
def writeFrames (w : Writer) (maxFrameSize : UInt32) : List (List UInt8) → Option FrameErr × Writer
  | [] => (none, w)
  | body :: bodies =>
    match writeFrame w body maxFrameSize with
    | (some err, w) => (some err, w)
    | (none, w) => writeFrames w maxFrameSize bodies

/-! ### Reading

A reader is the list of the pieces that it has for its calls. A call returns the first piece, or as
much of it as there is room for; an empty piece is a call that returns nothing. -/

/-- `io.ReadFull`, after `got` has been read and with room for `n` more bytes. -/
def readFull (got : List UInt8) :
    List (List UInt8) → ℕ → Except FrameErr (List UInt8 × List (List UInt8))
  | chunks, 0 => .ok (got, chunks)
  | [], _ + 1 => .error (if got = [] then .eof else .unexpectedEOF)
  | chunk :: chunks, n + 1 =>
    if chunk.length ≤ n + 1 then readFull (got ++ chunk) chunks (n + 1 - chunk.length)
    else .ok (got ++ chunk.take (n + 1), chunk.drop (n + 1) :: chunks)

def readFrame (chunks : List (List UInt8)) (maxFrameSize : UInt32) :
    Except FrameErr (List UInt8 × List (List UInt8)) := do
  let (header, chunks) ← readFull [] chunks 4
  let length := value header
  if length = 0 then .error (.wire .invalidFrame)
  else if length > maxFrameSize.toNat then .error (.wire .frameTooLarge)
  else readFull [] chunks length

/-- What `readFull` returns depends on the bytes only, not on the pieces. -/
theorem readFull_eq (got : List UInt8) (chunks : List (List UInt8)) (n : ℕ) :
    (n ≤ chunks.flatten.length ∧ ∃ rest, rest.flatten = chunks.flatten.drop n ∧
        readFull got chunks n = .ok (got ++ chunks.flatten.take n, rest)) ∨
      (chunks.flatten.length < n ∧
        readFull got chunks n =
          .error (if got ++ chunks.flatten = [] then .eof else .unexpectedEOF)) := by
  induction chunks generalizing got n with
  | nil =>
    cases n with
    | zero => exact .inl ⟨Nat.le_refl 0, [], rfl, by simp [readFull]⟩
    | succ n => exact .inr ⟨Nat.succ_pos n, by simp [readFull]⟩
  | cons chunk chunks ih =>
    cases n with
    | zero => exact .inl ⟨Nat.zero_le _, chunk :: chunks, rfl, by simp [readFull]⟩
    | succ n =>
      rw [readFull, List.flatten_cons, List.length_append]
      by_cases hroom : chunk.length ≤ n + 1
      · rw [if_pos hroom]
        rcases ih (got ++ chunk) (n + 1 - chunk.length) with ⟨hle, rest, hrest, hread⟩
          | ⟨hlt, hread⟩
        · refine .inl ⟨by omega, rest, ?_, ?_⟩
          · rw [hrest, List.drop_append, List.drop_eq_nil_of_le hroom, List.nil_append]
          · rw [hread, List.append_assoc, List.take_append, List.take_of_length_le hroom]
        · exact .inr ⟨by omega, by rw [hread, List.append_assoc]⟩
      · rw [if_neg hroom]
        refine .inl ⟨by omega, chunk.drop (n + 1) :: chunks, ?_, ?_⟩
        · rw [List.flatten_cons, List.drop_append_of_le_length (by omega)]
        · rw [List.take_append_of_le_length (by omega)]

variable {chunks rest : List (List UInt8)}

theorem readFull_ok {got : List UInt8} {n : ℕ} {bs : List UInt8}
    (h : readFull got chunks n = .ok (bs, rest)) :
    chunks.flatten.length = rest.flatten.length + n := by
  rcases readFull_eq got chunks n with ⟨hle, rest', hrest, hread⟩ | ⟨-, hread⟩
  · rw [hread] at h
    cases h
    rw [hrest, List.length_drop]
    omega
  · rw [hread] at h
    cases h

variable {maxFrameSize : UInt32}

theorem readFrame_shorter {body : List UInt8}
    (h : readFrame chunks maxFrameSize = .ok (body, rest)) :
    rest.flatten.length < chunks.flatten.length := by
  rw [readFrame] at h
  cases hheader : readFull [] chunks 4 with
  | error err =>
    rw [hheader] at h
    cases h
  | ok p =>
    obtain ⟨header, mid⟩ := p
    have hmid := readFull_ok hheader
    rw [hheader] at h
    replace h : (if value header = 0 then .error (.wire .invalidFrame)
      else if value header > maxFrameSize.toNat then .error (.wire .frameTooLarge)
      else readFull [] mid (value header)) = Except.ok (body, rest) := h
    split_ifs at h
    have hrest := readFull_ok h
    omega

/-- `readFrame` again and again: the bodies, and the error in the end. -/
def readLoop (chunks : List (List UInt8)) (maxFrameSize : UInt32) : List (List UInt8) × FrameErr :=
  match _h : readFrame chunks maxFrameSize with
  | .error err => ([], err)
  | .ok (body, rest) =>
    let (bodies, err) := readLoop rest maxFrameSize
    (body :: bodies, err)
  termination_by chunks.flatten.length
  decreasing_by exact readFrame_shorter _h

theorem readLoop_error {chunks : List (List UInt8)} {err : FrameErr}
    (h : readFrame chunks maxFrameSize = .error err) :
    readLoop chunks maxFrameSize = ([], err) := by
  rw [readLoop]
  split <;> simp_all

theorem readLoop_ok {body : List UInt8} (h : readFrame chunks maxFrameSize = .ok (body, rest)) :
    readLoop chunks maxFrameSize =
      (body :: (readLoop rest maxFrameSize).1, (readLoop rest maxFrameSize).2) := by
  rw [readLoop]
  split <;> simp_all

/-! ### What is written is read -/

/-- A body that `writeFrame` accepts. -/
def Fits (maxFrameSize : UInt32) (body : List UInt8) : Prop :=
  body.length ≠ 0 ∧ body.length ≤ maxFrameSize.toNat

/-- The frames of some bodies. -/
def frames (bodies : List (List UInt8)) : List UInt8 := bodies.flatMap frame

@[simp] theorem frames_cons (body : List UInt8) (bodies : List (List UInt8)) :
    frames (body :: bodies) = frame body ++ frames bodies := List.flatMap_cons

theorem frames_concat (bodies : List (List UInt8)) (body : List UInt8) :
    frames (bodies ++ [body]) = frames bodies ++ frame body := by
  simp [frames]

theorem length_frame (body : List UInt8) : (frame body).length = 4 + body.length := by
  rw [frame, List.length_append, length_bigEndian]

section Writing

variable {w : Writer} {maxFrameSize : UInt32}

theorem writeAll_accepting (hw : w.Accepting) (data : List UInt8) :
    ∃ w', writeAll w data = (none, w') ∧ w'.Accepting ∧ w'.stream = w.stream ++ data := by
  fun_induction writeAll w data with
  | case1 w => exact ⟨w, rfl, hw, (List.append_nil _).symm⟩
  | case2 w data _ herr => exact absurd ((hw w.calls).2.symm.trans herr) nofun
  | case3 w data hdata _ hzero =>
    have hpos := (hw w.calls).1
    have hlength := List.length_pos_of_ne_nil hdata
    rw [Writer.accepts] at hzero
    omega
  | case4 w data _ _ _ ih =>
    obtain ⟨w', hwrite, haccepting, hstream⟩ := ih hw
    refine ⟨w', hwrite, haccepting, ?_⟩
    rw [hstream, Writer.write, List.append_assoc, List.take_append_drop]

theorem writeFrame_accepting (hw : w.Accepting) {body : List UInt8}
    (hbody : Fits maxFrameSize body) :
    ∃ w', writeFrame w body maxFrameSize = (none, w') ∧ w'.Accepting ∧
      w'.stream = w.stream ++ frame body := by
  obtain ⟨w₁, hheader, hw₁, hstream₁⟩ := writeAll_accepting hw (bigEndian 4 body.length)
  obtain ⟨w₂, hrest, hw₂, hstream₂⟩ := writeAll_accepting hw₁ body
  refine ⟨w₂, ?_, hw₂, ?_⟩
  · rw [writeFrame, if_neg hbody.1, if_neg (Nat.not_lt.mpr hbody.2), hheader]
    exact hrest
  · rw [hstream₂, hstream₁, frame, List.append_assoc]

theorem writeFrames_accepting (hw : w.Accepting) {bodies : List (List UInt8)}
    (hbodies : ∀ body ∈ bodies, Fits maxFrameSize body) :
    ∃ w', writeFrames w maxFrameSize bodies = (none, w') ∧
    w'.stream = w.stream ++ frames bodies := by
  induction bodies generalizing w with
  | nil => exact ⟨w, rfl, (List.append_nil _).symm⟩
  | cons body bodies ih =>
    obtain ⟨w₁, hframe, hw₁, hstream₁⟩ :=
      writeFrame_accepting hw (hbodies body (List.mem_cons_self ..))
    obtain ⟨w₂, hrest, hstream₂⟩ := ih hw₁ fun b hb => hbodies b (List.mem_cons_of_mem body hb)
    refine ⟨w₂, ?_, ?_⟩
    · rw [writeFrames, hframe]
      exact hrest
    · rw [hstream₂, hstream₁, frames_cons, List.append_assoc]

end Writing

section Reading

variable {chunks : List (List UInt8)} {maxFrameSize : UInt32} {body rest : List UInt8}

theorem readFull_append {header : List UInt8} (h : chunks.flatten = header ++ rest) :
    ∃ chunks', readFull [] chunks header.length = .ok (header, chunks') ∧
    chunks'.flatten = rest := by
  rcases readFull_eq [] chunks header.length with ⟨-, chunks', hrest, hread⟩ | ⟨hlt, -⟩
  · refine ⟨chunks', ?_, ?_⟩
    · rw [hread, h, List.nil_append, List.take_left]
    · rw [hrest, h, List.drop_left]
  · rw [h, List.length_append] at hlt
    omega

theorem length_lt_of_fits (hbody : Fits maxFrameSize body) : body.length < 256 ^ 4 :=
  Nat.lt_of_le_of_lt hbody.2 (UInt32.toNat_lt maxFrameSize)

/-- A frame whose header has been read. -/
theorem readFrame_of_header (hbody : Fits maxFrameSize body)
    (h : chunks.flatten = bigEndian 4 body.length ++ rest) :
    ∃ chunks', chunks'.flatten = rest ∧
      readFrame chunks maxFrameSize = readFull [] chunks' body.length := by
  obtain ⟨chunks', hread, hrest⟩ := readFull_append h
  refine ⟨chunks', hrest, ?_⟩
  rw [length_bigEndian] at hread
  have hvalue := value_bigEndian (length_lt_of_fits hbody)
  simp only [readFrame, hread, Bind.bind, Except.bind, hvalue, if_neg hbody.1,
    if_neg (Nat.not_lt.mpr hbody.2)]

theorem readFrame_frame (hbody : Fits maxFrameSize body) (h : chunks.flatten = frame body ++ rest) :
    ∃ chunks', readFrame chunks maxFrameSize = .ok (body, chunks') ∧ chunks'.flatten = rest := by
  rw [frame, List.append_assoc] at h
  obtain ⟨mid, hmid, hread⟩ := readFrame_of_header hbody h
  obtain ⟨chunks', hfull, hrest⟩ := readFull_append hmid
  exact ⟨chunks', hread.trans hfull, hrest⟩

/-- Less than a frame is not read as one. -/
theorem readFrame_short (hbody : Fits maxFrameSize body) (h : chunks.flatten <+: frame body)
    (hshort : chunks.flatten.length < (frame body).length) :
    ∃ err, readFrame chunks maxFrameSize = .error err := by
  rw [length_frame] at hshort
  rcases readFull_eq [] chunks 4 with ⟨hle, -⟩ | ⟨-, hread⟩
  · -- The header is there, so it is the header of the frame.
    have hheader : bigEndian 4 body.length <+: chunks.flatten :=
      List.prefix_of_prefix_length_le (List.prefix_append _ _) h
        (by rw [length_bigEndian]; exact hle)
    obtain ⟨rest, hrest⟩ := hheader
    obtain ⟨mid, hmid, hframe⟩ := readFrame_of_header hbody hrest.symm
    rcases readFull_eq [] mid body.length with ⟨henough, -⟩ | ⟨-, hread⟩
    · rw [← hrest, List.length_append, length_bigEndian, ← hmid] at hshort
      omega
    · exact ⟨_, hframe.trans hread⟩
  · exact ⟨_, by simp only [readFrame, hread, Bind.bind, Except.bind]; rfl⟩

theorem readLoop_frames {bodies : List (List UInt8)} (hbodies : ∀ b ∈ bodies, Fits maxFrameSize b)
    (h : chunks.flatten = frames bodies ++ rest) :
    ∃ chunks', chunks'.flatten = rest ∧
      readLoop chunks maxFrameSize =
        (bodies ++ (readLoop chunks' maxFrameSize).1, (readLoop chunks' maxFrameSize).2) := by
  induction bodies generalizing chunks with
  | nil => exact ⟨chunks, h, rfl⟩
  | cons b bodies ih =>
    rw [frames_cons, List.append_assoc] at h
    obtain ⟨mid, hread, hmid⟩ := readFrame_frame (hbodies b (List.mem_cons_self ..)) h
    obtain ⟨chunks', hrest, hloop⟩ := ih (fun c hc => hbodies c (List.mem_cons_of_mem b hc)) hmid
    exact ⟨chunks', hrest, by rw [readLoop_ok hread, hloop]; rfl⟩

theorem readLoop_empty (h : chunks.flatten = []) : readLoop chunks maxFrameSize = ([], .eof) := by
  refine readLoop_error ?_
  rcases readFull_eq [] chunks 4 with ⟨hle, -⟩ | ⟨-, hread⟩
  · rw [h] at hle
    exact absurd hle (by decide)
  · simp only [readFrame, hread, h, Bind.bind, Except.bind]
    rfl

/-- The peer of a stream of frames that ends in a part of a frame reads the bodies of the frames. -/
theorem readLoop_tail {bodies : List (List UInt8)} {tail : List UInt8}
    (hbodies : ∀ b ∈ bodies, Fits maxFrameSize b) (hbody : Fits maxFrameSize body)
    (htail : tail <+: frame body) (h : chunks.flatten = frames bodies ++ tail) :
    (readLoop chunks maxFrameSize).1 = bodies ∨
    (readLoop chunks maxFrameSize).1 = bodies ++ [body] := by
  obtain ⟨chunks', hrest, hloop⟩ := readLoop_frames hbodies h
  rw [hloop]
  rcases Nat.lt_or_ge tail.length (frame body).length with hlt | hge
  · obtain ⟨err, herr⟩ := readFrame_short hbody (hrest ▸ htail) (hrest ▸ hlt)
    exact .inl (by rw [readLoop_error herr, List.append_nil])
  · have hwhole : chunks'.flatten = frame body ++ [] := by
      rw [hrest, List.append_nil]
      exact htail.eq_of_length_le hge
    obtain ⟨last, hread, hlast⟩ := readFrame_frame hbody hwhole
    exact .inr (by rw [readLoop_ok hread, readLoop_empty hlast])

end Reading

/-! ### The Sends of a connection -/

/-- Where a Send is. -/
inductive Phase
  | idle
  /-- at `writeMu.Lock` -/
  | waiting (body : List UInt8)
  /-- between `writeMu.Lock` and `writeMu.Unlock` -/
  | inside
  /-- `write` has returned an error, and `removeConnection` comes next -/
  | closing

/-- Where the Send is that holds `writeMu`. -/
inductive Section
  /-- in a call of `Write`: the earlier calls have accepted `done` bytes of the frame, and this one
  has accepted `taken` -/
  | writing (body : List UInt8) (done taken : ℕ)
  /-- on the way out -/
  | leaving (failed : Bool)

/-- A connection and the Sends that use it. The last two fields are history: the bodies of the
writes that have succeeded, and whether a write has failed with a part of its frame in the
stream. -/
structure Link (σ : Type) where
  phase : σ → Phase := fun _ => .idle
  /-- `writeMu` -/
  holder : Option (σ × Section) := none
  stream : List UInt8 := []
  closed : Bool := false
  sent : List (List UInt8) := []
  torn : Bool := false

/-- What can happen. -/
inductive LinkAct (σ : Type)
  /-- a Send comes to `write` -/
  | send (p : σ) (body : List UInt8)
  /-- a Send gets `writeMu`; `SetWriteDeadline` may fail -/
  | lock (p : σ) (deadlineErr : Bool)
  /-- the connection accepts one byte of the call in progress -/
  | accept
  /-- the call in progress returns -/
  | wrote (err : Bool)
  | unlock
  /-- `removeConnection`, by a Send that failed -/
  | close (p : σ)
  /-- the connection is closed for another reason -/
  | drop

/-- The argument of the call of `Write` that follows `done` bytes of a frame: what is left of the
header or of the body. -/
def chunkAt (body : List UInt8) (done : ℕ) : List UInt8 :=
  if done < 4 then (bigEndian 4 body.length).drop done else body.drop (done - 4)

namespace Link

variable {σ : Type} [DecidableEq σ]

/-- The first steps under the lock: the deadline, and the checks of `writeFrame`. -/
def enter (maxFrameSize : UInt32) (body : List UInt8) (deadlineErr : Bool) : Section :=
  if deadlineErr then .leaving true
  else if body.length = 0 then .leaving true
  else if body.length > maxFrameSize.toNat then .leaving true
  else .writing body 0 0

/-- The loop of `writeAll` after a call of `Write` that returned; once for the header and once for
the body. -/
def wrote (s : Link σ) (p : σ) (body : List UInt8) (done taken : ℕ) (err : Bool) : Link σ :=
  if err ∨ taken = 0 then
    { s with holder := some (p, .leaving true), torn := s.torn || 0 < done + taken }
  else if done + taken = (frame body).length then
    { s with holder := some (p, .leaving false), sent := s.sent ++ [body] }
  else { s with holder := some (p, .writing body (done + taken) 0) }

/-- One step. A closed connection accepts nothing. -/
def step (maxFrameSize : UInt32) (s : Link σ) : LinkAct σ → Option (Link σ)
  | .send p body =>
    match s.phase p with
    | .idle => some { s with phase := Function.update s.phase p (.waiting body) }
    | _ => none
  | .lock p deadlineErr =>
    match s.holder, s.phase p with
    | none, .waiting body =>
      some { s with
        holder := some (p, enter maxFrameSize body deadlineErr)
        phase := Function.update s.phase p .inside }
    | _, _ => none
  | .accept =>
    match s.holder with
    | some (p, .writing body done taken) =>
      match (chunkAt body done)[taken]? with
      | some b =>
        if s.closed then none
        else some { s with
          holder := some (p, .writing body done (taken + 1))
          stream := s.stream ++ [b] }
      | none => none
    | _ => none
  | .wrote err =>
    match s.holder with
    | some (p, .writing body done taken) => some (s.wrote p body done taken err)
    | _ => none
  | .unlock =>
    match s.holder with
    | some (p, .leaving failed) =>
      some { s with
        holder := none
        phase := Function.update s.phase p (if failed then .closing else .idle) }
    | _ => none
  | .close p =>
    match s.phase p with
    | .closing => some { s with closed := true, phase := Function.update s.phase p .idle }
    | _ => none
  | .drop => some { s with closed := true }

/-- The runs of a connection. -/
def system (σ : Type) [DecidableEq σ] (maxFrameSize : UInt32) : System (Link σ) (LinkAct σ) where
  init s := s = {}
  step := step maxFrameSize

/-- No Send gets the lock between a write that failed in the middle of a frame and the close. -/
def Prompt (s : Link σ) : LinkAct σ → Prop
  | .lock _ _ => s.torn → s.closed
  | _ => True

instance (s : Link σ) : DecidablePred (Prompt s)
  | .lock _ _ => inferInstanceAs (Decidable (s.torn → s.closed))
  | .send _ _ | .accept | .wrote _ | .unlock | .close _ | .drop => inferInstanceAs (Decidable True)

/-! ### The stream -/

/-- The stream is the frames of the writes that succeeded, and a part of one more. -/
def Torn (maxFrameSize : UInt32) (s : Link σ) : Prop :=
  ∃ body tail, Fits maxFrameSize body ∧ tail <+: frame body ∧ s.stream = frames s.sent ++ tail

/-- What the holder of the lock has written of its frame. -/
def progress (s : Link σ) : List UInt8 :=
  match s.holder with
  | some (_, .writing body done taken) => (frame body).take (done + taken)
  | _ => []

/-- The invariant. -/
structure Framed (maxFrameSize : UInt32) (s : Link σ) : Prop where
  fits : ∀ body ∈ s.sent, Fits maxFrameSize body
  writing : ∀ p body done taken, s.holder = some (p, .writing body done taken) →
    Fits maxFrameSize body
  whole : s.torn = false → s.stream = frames s.sent ++ s.progress
  part : s.torn = true → Torn maxFrameSize s
  /-- Who writes after a frame has been torn does not get a byte through. -/
  stuck : s.torn = true → ∀ p body done taken, s.holder = some (p, .writing body done taken) →
    s.closed = true ∧ done + taken = 0
  inside : ∀ p c, s.holder = some (p, c) → s.phase p = .inside
  /-- The write that failed is on its way to the close. -/
  closes : s.torn = true →
    s.closed = true ∨ (∃ p, s.holder = some (p, .leaving true)) ∨ ∃ p, s.phase p = .closing

variable {maxFrameSize : UInt32} {s s' : Link σ} {p : σ} {body : List UInt8} {done taken : ℕ}

/-- A byte of a call of `Write` is the next byte of the frame. -/
theorem frame_of_chunkAt {b : UInt8} (h : (chunkAt body done)[taken]? = some b) :
    (frame body)[done + taken]? = some b := by
  rw [chunkAt] at h
  by_cases hheader : done < 4
  · rw [if_pos hheader, List.getElem?_drop] at h
    obtain ⟨hlt, -⟩ := List.getElem?_eq_some_iff.mp h
    rw [frame, List.getElem?_append_left hlt, h]
  · rw [if_neg hheader, List.getElem?_drop] at h
    rw [frame, List.getElem?_append_right (by rw [length_bigEndian]; omega), length_bigEndian, ← h]
    congr 1
    omega

theorem Framed.send (h : Framed maxFrameSize s) (hidle : s.phase p = .idle) :
    Framed maxFrameSize { s with phase := Function.update s.phase p (.waiting body) } where
  fits := h.fits
  writing := h.writing
  whole := h.whole
  part := h.part
  stuck := h.stuck
  inside q c hq := by
    have hphase := h.inside q c hq
    have hqp : q ≠ p := by
      rintro rfl
      exact absurd (hidle.symm.trans hphase) nofun
    exact (Function.update_of_ne hqp ..).trans hphase
  closes htorn := by
    refine (h.closes htorn).imp_right (Or.imp_right ?_)
    rintro ⟨q, hq⟩
    have hqp : q ≠ p := by
      rintro rfl
      exact absurd (hidle.symm.trans hq) nofun
    exact ⟨q, (Function.update_of_ne hqp ..).trans hq⟩

omit [DecidableEq σ] in
theorem Framed.closed {phase : σ → Phase} (h : Framed maxFrameSize s)
    (hphase : ∀ q, s.phase q = .inside → phase q = .inside) :
    Framed maxFrameSize { s with closed := true, phase := phase } where
  fits := h.fits
  writing := h.writing
  whole := h.whole
  part := h.part
  stuck htorn p body done taken hp := ⟨rfl, (h.stuck htorn p body done taken hp).2⟩
  inside q c hq := hphase q (h.inside q c hq)
  closes _ := .inl rfl

theorem enter_writing {body body' : List UInt8} {deadlineErr : Bool}
    (h : enter maxFrameSize body deadlineErr = .writing body' done taken) :
    Fits maxFrameSize body' ∧ done = 0 ∧ taken = 0 := by
  rw [enter] at h
  split_ifs at h with hdeadline hempty hlarge
  cases h
  exact ⟨⟨hempty, Nat.le_of_not_lt hlarge⟩, rfl, rfl⟩

theorem Framed.lock {deadlineErr : Bool} (h : Framed maxFrameSize s) (hfree : s.holder = none)
    (hprompt : s.torn = true → s.closed = true) :
    Framed maxFrameSize { s with
      holder := some (p, enter maxFrameSize body deadlineErr)
      phase := Function.update s.phase p .inside } where
  fits := h.fits
  writing q b done taken hq := by
    obtain ⟨-, henter⟩ := Prod.mk.inj (Option.some.inj hq)
    exact (enter_writing henter).1
  whole hwhole := by
    have hstream := h.whole hwhole
    simp only [progress, hfree] at hstream ⊢
    split
    · next q b done taken hq =>
      obtain ⟨-, henter⟩ := Prod.mk.inj (Option.some.inj hq)
      obtain ⟨-, rfl, rfl⟩ := enter_writing henter
      simpa using hstream
    · exact hstream
  part := h.part
  stuck htorn q b done taken hq := by
    obtain ⟨-, henter⟩ := Prod.mk.inj (Option.some.inj hq)
    obtain ⟨-, rfl, rfl⟩ := enter_writing henter
    exact ⟨hprompt htorn, rfl⟩
  inside q c hq := by
    cases hq
    exact Function.update_self ..
  closes htorn := .inl (hprompt htorn)

omit [DecidableEq σ] in
theorem Framed.accept {b : UInt8} (h : Framed maxFrameSize s)
    (hholder : s.holder = some (p, .writing body done taken))
    (hb : (chunkAt body done)[taken]? = some b) (hopen : s.closed = false) :
    Framed maxFrameSize { s with
      holder := some (p, .writing body done (taken + 1))
      stream := s.stream ++ [b] } := by
  have hclear : s.torn = false := by
    by_contra htorn
    have hclosed := (h.stuck (by simpa using htorn) p body done taken hholder).1
    exact absurd (hopen.symm.trans hclosed) nofun
  have hnot : ¬ s.torn = true := by simp [hclear]
  refine ⟨h.fits, ?_, ?_, fun htorn => absurd htorn hnot, fun htorn => absurd htorn hnot, ?_,
    fun htorn => absurd htorn hnot⟩
  · intro q body' done' taken' hq
    cases hq
    exact h.writing p body done taken hholder
  · intro _
    have hstream := h.whole hclear
    simp only [progress, hholder] at hstream ⊢
    rw [hstream, List.append_assoc, ← Nat.add_assoc, List.take_add_one, frame_of_chunkAt hb,
      Option.toList_some]
  · intro q c hq
    cases hq
    exact h.inside p _ hholder

omit [DecidableEq σ] in
theorem Framed.wrote {err : Bool} (h : Framed maxFrameSize s)
    (hholder : s.holder = some (p, .writing body done taken)) :
    Framed maxFrameSize (s.wrote p body done taken err) := by
  have hbody := h.writing p body done taken hholder
  have hinside := h.inside p _ hholder
  have hstream : s.torn = false → s.stream = frames s.sent ++ (frame body).take (done + taken) := by
    intro hclear
    have hwhole := h.whole hclear
    simp only [progress, hholder] at hwhole
    exact hwhole
  rw [Link.wrote]
  split_ifs with hfail hdone
  · -- The write fails; the frame is torn if a byte of it is in the stream.
    refine ⟨h.fits, nofun, ?_, ?_, nofun, ?_, fun _ => .inr (.inl ⟨p, rfl⟩)⟩
    · intro hclear
      obtain ⟨hclear, hnone⟩ := Bool.or_eq_false_iff.mp hclear
      have hzero : done + taken = 0 := by simpa using hnone
      have hwhole := hstream hclear
      rw [hzero, List.take_zero] at hwhole
      exact hwhole
    · intro _
      cases htorn : s.torn with
      | false => exact ⟨body, _, hbody, List.take_prefix (done + taken) (frame body), hstream htorn⟩
      | true => exact h.part htorn
    · intro q c hq
      cases hq
      exact hinside
  all_goals
    -- Bytes have gone through, so no frame has been torn before.
    have hclear : s.torn = false := by
      by_contra htorn
      have hzero := (h.stuck (by simpa using htorn) p body done taken hholder).2
      omega
    have hnot : ¬ s.torn = true := by simp [hclear]
  · refine ⟨?_, nofun, ?_, fun htorn => absurd htorn hnot, nofun, ?_,
      fun htorn => absurd htorn hnot⟩
    · intro b hb
      rcases List.mem_append.mp hb with hb | hb
      · exact h.fits b hb
      · rw [List.mem_singleton.mp hb]
        exact hbody
    · intro _
      have hwhole := hstream hclear
      rw [hdone, List.take_length] at hwhole
      simp only [progress, List.append_nil, frames_concat]
      exact hwhole
    · intro q c hq
      cases hq
      exact hinside
  · refine ⟨h.fits, ?_, ?_, fun htorn => absurd htorn hnot, fun htorn => absurd htorn hnot, ?_,
      fun htorn => absurd htorn hnot⟩
    · intro q body' done' taken' hq
      cases hq
      exact hbody
    · exact fun _ => hstream hclear
    · intro q c hq
      cases hq
      exact hinside

theorem Framed.unlock {failed : Bool} (h : Framed maxFrameSize s)
    (hholder : s.holder = some (p, .leaving failed)) :
    Framed maxFrameSize { s with
      holder := none
      phase := Function.update s.phase p (if failed then .closing else .idle) } where
  fits := h.fits
  writing := nofun
  whole hclear := by
    have hstream := h.whole hclear
    simp only [progress, hholder] at hstream
    exact hstream
  part := h.part
  stuck _ := nofun
  inside := nofun
  closes htorn := by
    rcases h.closes htorn with hclosed | ⟨q, hq⟩ | ⟨q, hq⟩
    · exact .inl hclosed
    · rw [hholder] at hq
      cases hq
      exact .inr (.inr ⟨p, by simp⟩)
    · have hqp : q ≠ p := by
        rintro rfl
        exact absurd (hq.symm.trans (h.inside q _ hholder)) nofun
      exact .inr (.inr ⟨q, (Function.update_of_ne hqp ..).trans hq⟩)

theorem Framed.step {a : LinkAct σ} (h : Framed maxFrameSize s) (hprompt : Prompt s a)
    (hstep : s.step maxFrameSize a = some s') : Framed maxFrameSize s' := by
  cases a with
  | send p body =>
    simp only [Link.step] at hstep
    split at hstep
    · cases hstep
      exact h.send ‹_›
    · cases hstep
  | lock p deadlineErr =>
    simp only [Link.step] at hstep
    split at hstep
    · cases hstep
      exact h.lock ‹_› hprompt
    · cases hstep
  | accept =>
    simp only [Link.step] at hstep
    split at hstep
    · split at hstep
      · split at hstep
        · cases hstep
        · cases hstep
          exact h.accept ‹_› ‹_› (by simpa using ‹¬ s.closed = true›)
      · cases hstep
    · cases hstep
  | wrote err =>
    simp only [Link.step] at hstep
    split at hstep
    · cases hstep
      exact h.wrote ‹_›
    · cases hstep
  | unlock =>
    simp only [Link.step] at hstep
    split at hstep
    · cases hstep
      exact h.unlock ‹_›
    · cases hstep
  | close p =>
    simp only [Link.step] at hstep
    split at hstep
    · next hclosing =>
      cases hstep
      refine h.closed fun q hq => ?_
      have hqp : q ≠ p := by
        rintro rfl
        exact absurd (hclosing.symm.trans hq) nofun
      exact (Function.update_of_ne hqp ..).trans hq
    · cases hstep
  | drop =>
    cases hstep
    exact h.closed fun _ hq => hq

theorem framed_of_reachable (h : (system σ maxFrameSize).ReachableUnder Prompt s) :
    Framed maxFrameSize s := by
  refine h.invariant ?_ fun s a s' hs hprompt hstep => hs.step hprompt hstep
  rintro s rfl
  exact ⟨nofun, nofun, fun _ => rfl, nofun, nofun, nofun, nofun⟩

omit [DecidableEq σ] in
/-- The stream of a connection is whole frames, and perhaps a part of one more. -/
theorem Framed.stream (h : Framed maxFrameSize s) :
    s.stream = frames s.sent ∨ Torn maxFrameSize s := by
  cases htorn : s.torn with
  | true => exact .inr (h.part htorn)
  | false =>
    have hstream := h.whole htorn
    rw [progress] at hstream
    split at hstream
    · next q body done taken hholder =>
      exact .inr ⟨body, _, h.writing q body done taken hholder, List.take_prefix _ _, hstream⟩
    · exact .inl (hstream.trans (List.append_nil _))

omit [DecidableEq σ] in
/-- The peer reads the bodies that were sent, and perhaps that of a write that has not returned or
that failed at its end. -/
theorem Framed.readLoop (h : Framed maxFrameSize s) {chunks : List (List UInt8)}
    (hchunks : chunks.flatten = s.stream) :
    (readLoop chunks maxFrameSize).1 = s.sent ∨
      ∃ body, Fits maxFrameSize body ∧ (readLoop chunks maxFrameSize).1 = s.sent ++ [body] := by
  rcases h.stream with hwhole | ⟨body, tail, hbody, htail, hstream⟩
  · rw [hwhole, ← List.append_nil (frames s.sent)] at hchunks
    obtain ⟨rest, hrest, hloop⟩ := readLoop_frames h.fits hchunks
    exact .inl (by rw [hloop, readLoop_empty hrest, List.append_nil])
  · exact (readLoop_tail h.fits hbody htail (hchunks.trans hstream)).imp_right fun hlast =>
      ⟨body, hbody, hlast⟩

/-- Once a frame has been torn, no write succeeds. -/
theorem Framed.sent_of_torn {a : LinkAct σ} (h : Framed maxFrameSize s) (htorn : s.torn = true)
    (hstep : s.step maxFrameSize a = some s') : s'.sent = s.sent := by
  cases a with
  | wrote err =>
    simp only [Link.step] at hstep
    split at hstep
    · next p body done taken hholder =>
      cases hstep
      have hzero := (h.stuck htorn p body done taken hholder).2
      rw [Link.wrote, if_pos (.inr (by omega))]
    · cases hstep
  | _ =>
    simp only [Link.step] at hstep
    repeat' split at hstep
    all_goals cases hstep
    all_goals rfl

end Link

/-- **Framing is lossless.** Bodies that `writeFrame` has written to a writer that accepts something
in each call are read back by `readFrame`, whatever pieces the reader gets. On a connection with any
number of Sends the stream is whole frames, in the order of the writes, and what the present writer
has written of its own; the peer reads the bodies that were sent. When a write has left a part of
its frame, the connection is closed or is about to be, and no later write succeeds. This holds if no
Send gets the lock between the write that failed and the close. -/
theorem frames_lossless (σ : Type) [DecidableEq σ] (maxFrameSize : UInt32) :
    (∀ answer bodies, (⟨answer, 0, []⟩ : Writer).Accepting →
      (∀ body ∈ bodies, body.length ≠ 0 ∧ body.length ≤ maxFrameSize.toNat) →
      ∃ w, writeFrames ⟨answer, 0, []⟩ maxFrameSize bodies = (none, w) ∧
        ∀ chunks, chunks.flatten = w.stream → readLoop chunks maxFrameSize = (bodies, .eof)) ∧
    ∀ s, (Link.system σ maxFrameSize).ReachableUnder Link.Prompt s →
      (s.torn = false → s.stream = frames s.sent ++ s.progress) ∧
      (∀ chunks, chunks.flatten = s.stream →
        (readLoop chunks maxFrameSize).1 = s.sent ∨
          ∃ body, Fits maxFrameSize body ∧ (readLoop chunks maxFrameSize).1 = s.sent ++ [body]) ∧
      (s.torn = true → s.closed = true ∨ (∃ p, s.holder = some (p, .leaving true)) ∨
        ∃ p, s.phase p = .closing) ∧
      ∀ a s', s.torn = true → s.step maxFrameSize a = some s' → s'.sent = s.sent := by
  refine ⟨fun answer bodies haccepting hbodies => ?_, fun s hs => ?_⟩
  · obtain ⟨w, hwrite, hstream⟩ := writeFrames_accepting haccepting hbodies
    refine ⟨w, hwrite, fun chunks hchunks => ?_⟩
    have hflat : chunks.flatten = frames bodies ++ [] := by
      rw [hchunks, hstream, List.append_nil]
      rfl
    obtain ⟨rest, hrest, hloop⟩ := readLoop_frames hbodies hflat
    rw [hloop, readLoop_empty hrest, List.append_nil]
  · have hframed := Link.framed_of_reachable hs
    exact ⟨hframed.whole, fun _ hchunks => hframed.readLoop hchunks, hframed.closes,
      fun _ _ htorn hstep => hframed.sent_of_torn htorn hstep⟩

/-- One Send writes a whole frame, byte after byte. -/
def wholeFrame (p : Bool) (body : List UInt8) : List (LinkAct Bool) :=
  .lock p false :: List.replicate 4 .accept ++ .wrote false :: List.replicate body.length .accept ++
    [.wrote false, .unlock]

/-- The write of `[1, 2]` fails after five of its six bytes. -/
def tornFrame : List (LinkAct Bool) :=
  .lock false false :: List.replicate 4 .accept ++ [.wrote false, .accept, .wrote true, .unlock]

/-- One Send has succeeded when the next one fails, after five of its six bytes. -/
theorem frames_lossless_torn :
    (∃ w, writeFrames ⟨fun _ => (1, false), 0, []⟩ 16 [[7, 8], [9]] = (none, w) ∧
      ∀ chunks, chunks.flatten = w.stream → readLoop chunks 16 = ([[7, 8], [9]], .eof)) ∧
    ∃ s, (Link.system Bool 16).ReachableUnder Link.Prompt s ∧ s.sent = [[7]] ∧ s.torn = true ∧
      s.stream = frame [7] ++ [0, 0, 0, 2, 1] ∧ s.closed = false ∧
      ∀ a s', s.step 16 a = some s' → s'.sent = [[7]] := by
  refine ⟨(frames_lossless Bool 16).1 _ _ (fun _ => ⟨Nat.one_pos, rfl⟩) (by decide), ?_⟩
  obtain ⟨s, hs, hend⟩ := System.exists_reachableUnder_of_run (Link.system Bool 16) Link.Prompt
    (.send false [1, 2] :: .send true [7] :: wholeFrame true [7] ++ tornFrame)
    (fun s => decide (s.sent = [[7]] ∧ s.torn = true ∧ s.stream = frame [7] ++ [0, 0, 0, 2, 1] ∧
      s.closed = false)) rfl (by decide)
  obtain ⟨hsent, htorn, hstream, hopen⟩ := of_decide_eq_true hend
  obtain ⟨-, -, -, hlast⟩ := (frames_lossless Bool 16).2 s hs
  exact ⟨s, hs, hsent, htorn, hstream, hopen, fun a s' h => (hlast a s' htorn h).trans hsent⟩

/-- The first Send fails after five of its six bytes. The second one gets the lock before the
connection is closed and succeeds, and the peer reads a body that nobody sent. -/
theorem frame_after_torn_write :
    ∃ s, (Link.system Bool 16).Reachable s ∧ s.torn = true ∧ s.closed = false ∧ s.sent = [[7]] ∧
      (readLoop [s.stream] 16).1 = [[1, 0]] := by
  obtain ⟨s, hs, hend⟩ :=
    System.exists_reachableUnder_of_run (Link.system Bool 16) (fun _ _ => True)
    (.send false [1, 2] :: .send true [7] :: tornFrame ++ wholeFrame true [7])
    (fun s => decide (s.torn = true ∧ s.closed = false ∧ s.sent = [[7]] ∧
      s.stream = [0, 0, 0, 2, 1, 0, 0, 0, 1, 7])) rfl (by decide)
  obtain ⟨htorn, hopen, hsent, hstream⟩ := of_decide_eq_true hend
  refine ⟨s, hs, htorn, hopen, hsent, ?_⟩
  have hfirst : readFrame [s.stream] 16 = .ok ([1, 0], [[0, 0, 1, 7]]) := by
    rw [hstream]
    decide
  have hsecond : readFrame [[0, 0, 1, 7]] 16 = .error (.wire .frameTooLarge) := by decide
  rw [readLoop_ok hfirst, readLoop_error hsecond]

/-! ### Envelopes -/

/-- The envelopes that the read loop of the peer gives to `Receive`; a body that is not one ends
it. -/
def received : List (List UInt8) → List WireEnvelope
  | [] => []
  | body :: bodies =>
    match decodeWireEnvelope body with
    | .ok envelope => envelope :: received bodies
    | .error _ => []

namespace Link

variable {σ : Type} [DecidableEq σ] {maxFrameSize : UInt32} {P : List UInt8 → Prop} {s s' : Link σ}

/-- Every body on the connection is one of these. -/
structure Bodies (P : List UInt8 → Prop) (s : Link σ) : Prop where
  waiting : ∀ p body, s.phase p = .waiting body → P body
  writing : ∀ p body done taken, s.holder = some (p, .writing body done taken) → P body
  sent : ∀ body ∈ s.sent, P body

theorem Bodies.update {p : σ} {phase : Phase} (h : Bodies P s)
    (hphase : ∀ body, phase = .waiting body → P body) (q : σ) (body : List UInt8)
    (hq : Function.update s.phase p phase q = .waiting body) : P body := by
  rw [Function.update_apply] at hq
  split_ifs at hq
  · exact hphase body hq
  · exact h.waiting q body hq

theorem Bodies.step {a : LinkAct σ} (h : Bodies P s) (ha : ∀ p body, a = .send p body → P body)
    (hstep : s.step maxFrameSize a = some s') : Bodies P s' := by
  cases a with
  | send p body =>
    simp only [Link.step] at hstep
    split at hstep <;> cases hstep
    exact ⟨h.update (by rintro _ ⟨⟩; exact ha p body rfl), h.writing, h.sent⟩
  | lock p deadlineErr =>
    simp only [Link.step] at hstep
    split at hstep <;> cases hstep
    next body _ hwaiting =>
    refine ⟨h.update (by rintro _ ⟨⟩), ?_, h.sent⟩
    intro q body' done taken hq
    obtain ⟨-, henter⟩ := Prod.mk.inj (Option.some.inj hq)
    rw [enter] at henter
    split_ifs at henter
    cases henter
    exact h.waiting p body hwaiting
  | accept =>
    simp only [Link.step] at hstep
    repeat' split at hstep
    all_goals cases hstep
    refine ⟨h.waiting, ?_, h.sent⟩
    rintro q body' done' taken' ⟨⟩
    exact h.writing _ _ _ _ ‹_›
  | wrote err =>
    simp only [Link.step] at hstep
    split at hstep <;> cases hstep
    next p body done taken hholder =>
    have hbody := h.writing p body done taken hholder
    rw [Link.wrote]
    split_ifs
    · exact ⟨h.waiting, by rintro _ _ _ _ ⟨⟩, h.sent⟩
    · refine ⟨h.waiting, by rintro _ _ _ _ ⟨⟩, ?_⟩
      intro b hb
      rcases List.mem_append.mp hb with hb | hb
      · exact h.sent b hb
      · rw [List.mem_singleton.mp hb]
        exact hbody
    · exact ⟨h.waiting, by rintro _ _ _ _ ⟨⟩; exact hbody, h.sent⟩
  | unlock =>
    simp only [Link.step] at hstep
    split at hstep <;> cases hstep
    exact ⟨h.update (by intro b hb; split_ifs at hb), by rintro _ _ _ _ ⟨⟩, h.sent⟩
  | close p =>
    simp only [Link.step] at hstep
    split at hstep <;> cases hstep
    exact ⟨h.update (by rintro _ ⟨⟩), h.writing, h.sent⟩
  | drop =>
    cases hstep
    exact ⟨h.waiting, h.writing, h.sent⟩

end Link

section Envelopes

variable {σ : Type} {maxFrameSize : UInt32} {envelopes : List WireEnvelope}

/-- `Send` writes what `encodeWireEnvelope` returns for one of the envelopes. -/
def Carries (maxFrameSize : UInt32) (envelopes : List WireEnvelope) : LinkAct σ → Bool
  | .send _ body => envelopes.any fun e => encodeWireEnvelope e maxFrameSize = .ok body
  | _ => true

/-- What the peer makes of a body. -/
def Arrives (maxFrameSize : UInt32) (body : List UInt8) (f : WireEnvelope) : Prop :=
  decodeWireEnvelope body = .ok f ∧ ∃ e, encodeWireEnvelope e maxFrameSize = .ok body ∧
    SameEnvelope f e

theorem received_append {bodies : List (List UInt8)}
    (h : ∀ body ∈ bodies, ∃ f, Arrives maxFrameSize body f)
    (rest : List (List UInt8)) : ∃ fs, List.Forall₂ (Arrives maxFrameSize) bodies fs ∧
      received (bodies ++ rest) = fs ++ received rest := by
  induction bodies with
  | nil => exact ⟨[], .nil, rfl⟩
  | cons body bodies ih =>
    obtain ⟨f, hf⟩ := h body (List.mem_cons_self ..)
    obtain ⟨fs, hfs, hreceived⟩ := ih fun b hb => h b (List.mem_cons_of_mem body hb)
    refine ⟨f :: fs, .cons hf hfs, ?_⟩
    rw [List.cons_append, received, hf.1, hreceived]
    rfl

/-- **Envelopes arrive in order.** In every interleaving of the Sends of a connection the peer
receives the envelopes of the writes that succeeded, each once and in the order of the writes, and
at most one more. This holds if no Send gets the lock between a torn write and the close. -/
theorem envelopes_arrive [DecidableEq σ] {s : Link σ} {chunks : List (List UInt8)}
    (h : (Link.system σ maxFrameSize).ReachableUnder
      (fun s a => Link.Prompt s a ∧ Carries maxFrameSize envelopes a) s)
    (hchunks : chunks.flatten = s.stream) :
    ∃ fs last, List.Forall₂ (Arrives maxFrameSize) s.sent fs ∧ last.length ≤ 1 ∧
      received (readLoop chunks maxFrameSize).1 = fs ++ last := by
  have hbodies : s.Bodies fun body => ∃ f, Arrives maxFrameSize body f := by
    refine h.invariant ?_ fun s a s' hs ha hstep => hs.step ?_ hstep
    · rintro s rfl
      exact ⟨by rintro p body ⟨⟩, by rintro p body done taken ⟨⟩, by rintro body ⟨⟩⟩
    · rintro p body rfl
      obtain ⟨e, he, hencode⟩ := List.any_eq_true.mp ha.2
      have hbody := of_decide_eq_true hencode
      obtain ⟨hwithin, rfl⟩ := encodeWireEnvelope_ok hbody
      exact ⟨_, decodeWireEnvelope_envelopeBytes hwithin, e, hbody,
        WireReader.sameEnvelope_normalized e⟩
  have hframed := Link.framed_of_reachable (h.mono fun _ _ ha => ha.1)
  rcases hframed.readLoop hchunks with hread | ⟨body, -, hread⟩
  · obtain ⟨fs, hfs, hreceived⟩ := received_append hbodies.sent []
    exact ⟨fs, [], hfs, Nat.zero_le 1, by rw [hread]; simpa [received] using hreceived⟩
  · obtain ⟨fs, hfs, hreceived⟩ := received_append hbodies.sent [body]
    refine ⟨fs, _, hfs, ?_, by rw [hread, hreceived]⟩
    rw [received]
    split <;> simp [received]

/-- Another reply of the same kind. -/
def laterReply : WireEnvelope := { errorReply with session := 5 }

/-- Two Sends wait for the lock, and the one that came later gets it first. -/
theorem envelopes_arrive_two : ∃ s : Link Bool,
    s.sent = [envelopeBytes laterReply, envelopeBytes errorReply] ∧ ∃ f g last,
      Arrives 100 (envelopeBytes laterReply) f ∧ Arrives 100 (envelopeBytes errorReply) g ∧
      received (readLoop [s.stream] 100).1 = f :: g :: last := by
  obtain ⟨s, hs, hsent⟩ := System.exists_reachableUnder_of_run (Link.system Bool 100)
    (fun s a => Link.Prompt s a ∧ Carries 100 [errorReply, laterReply] a)
    (.send true (envelopeBytes errorReply) :: .send false (envelopeBytes laterReply) ::
      wholeFrame false (envelopeBytes laterReply) ++ wholeFrame true (envelopeBytes errorReply))
    (fun s => decide (s.sent = [envelopeBytes laterReply, envelopeBytes errorReply])) rfl
    (by decide +kernel)
  have hsent := of_decide_eq_true hsent
  have hchunks : [s.stream].flatten = s.stream := List.append_nil _
  obtain ⟨fs, last, hfs, -, hreceived⟩ := envelopes_arrive hs hchunks
  rw [hsent] at hfs
  obtain ⟨f, _, hf, htail, rfl⟩ := List.forall₂_cons_left_iff.mp hfs
  obtain ⟨g, _, hg, hnil, rfl⟩ := List.forall₂_cons_left_iff.mp htail
  obtain rfl := List.forall₂_nil_left_iff.mp hnil
  exact ⟨s, hsent, f, g, last, hf, hg, hreceived⟩

end Envelopes

end GameServiceRuntime.Transport
