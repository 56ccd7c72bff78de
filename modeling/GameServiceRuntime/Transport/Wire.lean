import GameServiceRuntime.Lib.Reader
import GameServiceRuntime.Runtime.Ref

/-!
# The wire codec

`transport/tcp/wire.go`: the byte form of a `WireEnvelope`. The encoder first computes the size from
the lengths of the fields, with a limit for each, and then writes field after field; the decoder
reads them in the same order with the same limits.

An `int` has 64 bits. Lengths are natural numbers, and the sums of lengths in `wireEnvelopeSize` are
bounded by the limits checked there, far below `2 ^ 64`.

A definition without a text of its own has the name of what it models.
-/

namespace GameServiceRuntime.Transport

/-- The errors of the codec. -/
inductive WireErr
  | frameTooLarge
  | invalidFrame
  deriving DecidableEq

def wireVersion : UInt8 := 1

def maxNodeIDLength : ℕ := 255

def maxCallPathLength : ℕ := 64

def maxErrorCodeLength : ℕ := 128

def maxErrorMessageLength : ℕ := 4096

/-! ### Writing -/

def writeUint16 (output : List UInt8) (value : UInt16) : List UInt8 :=
  output ++ bigEndian 2 value.toNat

def writeUint32 (output : List UInt8) (value : UInt32) : List UInt8 :=
  output ++ bigEndian 4 value.toNat

def writeUint64 (output : List UInt8) (value : UInt64) : List UInt8 :=
  output ++ bigEndian 8 value.toNat

def writeString16 (output : List UInt8) (value : Text) (maximum : ℕ) :
    Except WireErr (List UInt8) :=
  if value.length > maximum ∨ value.length > 2 ^ 16 - 1 then .error .frameTooLarge
  else .ok (writeUint16 output (UInt16.ofNat value.length) ++ value)

def writeServiceRef (output : List UInt8) (ref : ServiceRef) : Except WireErr (List UInt8) := do
  let output ← writeString16 output ref.node maxNodeIDLength
  pure (writeUint64 output ref.id)

def serviceRefWireSize (ref : ServiceRef) : Except WireErr ℕ :=
  if ref.node.length > maxNodeIDLength ∨ ref.node.length > 2 ^ 16 - 1 then .error .frameTooLarge
  else .ok (2 + ref.node.length + 8)

/-- The loop of `wireEnvelopeSize` over the call path. -/
def callPathWireSize (size : ℕ) : List ServiceRef → Except WireErr ℕ
  | [] => .ok size
  | ref :: refs => do
    let refSize ← serviceRefWireSize ref
    callPathWireSize (size + refSize) refs

def wireEnvelopeSize (envelope : WireEnvelope) : Except WireErr ℕ :=
  if envelope.callPath.len > maxCallPathLength ∨ envelope.errorCode.length > maxErrorCodeLength ∨
      envelope.errorMessage.length > maxErrorMessageLength then .error .frameTooLarge
  else if envelope.payload.len > 2 ^ 32 - 1 then .error .frameTooLarge
  else do
    let sourceSize ← serviceRefWireSize envelope.source
    let targetSize ← serviceRefWireSize envelope.target
    let size ← callPathWireSize (2 + sourceSize + targetSize + 8 + 4 + 2) envelope.callPath.elems
    pure (size + (2 + envelope.errorCode.length) + (2 + envelope.errorMessage.length) +
      (4 + envelope.payload.len))

/-- The loop of `encodeWireEnvelope` over the call path. -/
def writeCallPath (output : List UInt8) : List ServiceRef → Except WireErr (List UInt8)
  | [] => .ok output
  | ref :: refs => do
    let output ← writeServiceRef output ref
    writeCallPath output refs

/-- What `encodeWireEnvelope` writes once the size is checked. -/
def writeEnvelope (envelope : WireEnvelope) : Except WireErr (List UInt8) := do
  let output := [wireVersion]
  let output := output ++ [if envelope.response then 1 else 0]
  let output ← writeServiceRef output envelope.source
  let output ← writeServiceRef output envelope.target
  let output := writeUint64 output envelope.session
  let output := writeUint32 output envelope.command
  let output := writeUint16 output (UInt16.ofNat envelope.callPath.len)
  let output ← writeCallPath output envelope.callPath.elems
  let output ← writeString16 output envelope.errorCode maxErrorCodeLength
  let output ← writeString16 output envelope.errorMessage maxErrorMessageLength
  let output := writeUint32 output (UInt32.ofNat envelope.payload.len)
  pure (output ++ envelope.payload.elems)

def encodeWireEnvelope (envelope : WireEnvelope) (maxFrameSize : UInt32) :
    Except WireErr (List UInt8) :=
  if maxFrameSize = 0 then .error .frameTooLarge
  else do
    let size ← wireEnvelopeSize envelope
    if size > maxFrameSize.toNat ∨ size > 2 ^ 63 - 1 then .error .frameTooLarge
    else writeEnvelope envelope

/-! ### Reading -/

/-- `wireReader`, whose errors are those of the codec. -/
abbrev WireReader (α : Type) := Reader WireErr α

/-- The conversion of an `int` to `uint64`. -/
def uint64OfInt (n : ℤ) : ℤ := if n < 0 then n + 2 ^ 64 else n

namespace WireReader

def remaining : WireReader ℤ := ⟨fun data pos => .ok ((data.length : ℤ) - pos, pos)⟩

/-- `r.data[start:r.pos]`, after `r.pos` was moved by `length`. -/
def take (length : ℕ) : WireReader (List UInt8) where
  run data pos := match Reader.slice data pos (pos + length) with
    | .error fault => .error fault
    | .ok bs => .ok (bs, pos + length)

def bytes (length : UInt32) : WireReader (List UInt8) := do
  let remaining ← remaining
  if uint64OfInt remaining < length.toNat then .fail .invalidFrame
  else take length.toNat

/-- The number in the first `n` bytes of a slice, which must have as many. -/
def number (n : ℕ) (data : List UInt8) : WireReader ℕ where
  run _ pos := match Reader.slice data 0 n with
    | .error fault => .error fault
    | .ok bs => .ok (value bs, pos)

def byte : WireReader UInt8 := do
  let data ← bytes 1
  let b ← number 1 data
  pure (UInt8.ofNat b)

def uint16 : WireReader UInt16 := do
  let data ← bytes 2
  let v ← number 2 data
  pure (UInt16.ofNat v)

def uint32 : WireReader UInt32 := do
  let data ← bytes 4
  let v ← number 4 data
  pure (UInt32.ofNat v)

def uint64 : WireReader UInt64 := do
  let data ← bytes 8
  let v ← number 8 data
  pure (UInt64.ofNat v)

def string16 (maximum : ℕ) : WireReader Text := do
  let length ← uint16
  if length.toNat > maximum then .fail .frameTooLarge
  else bytes length.toUInt32

def serviceRef : WireReader ServiceRef := do
  let node ← string16 maxNodeIDLength
  let id ← uint64
  pure ⟨node, id⟩

/-- The loop of `decodeWireEnvelope` over the call path. -/
def callPath : ℕ → WireReader (List ServiceRef)
  | 0 => pure []
  | n + 1 => do
    let ref ← serviceRef
    let refs ← callPath n
    pure (ref :: refs)

/-- The reads of `decodeWireEnvelope`. `byte`, `uint16` and `bytes` return no other error than
`ErrInvalidFrame`, which is what the source turns their errors into. -/
def envelope : WireReader WireEnvelope := do
  let version ← byte
  Reader.require (version = wireVersion) .invalidFrame
  let flags ← byte
  Reader.require (flags &&& ~~~1 = 0) .invalidFrame
  let source ← serviceRef
  let target ← serviceRef
  let session ← uint64
  let command ← uint32
  let pathLength ← uint16
  Reader.require (pathLength.toNat ≤ maxCallPathLength) .invalidFrame
  let path ← callPath pathLength.toNat
  let errorCode ← string16 maxErrorCodeLength
  let errorMessage ← string16 maxErrorMessageLength
  let payloadLength ← uint32
  let payload ← bytes payloadLength
  pure
    { source := source
      target := target
      session := session
      command := command
      payload := (Slice.of payload).copy
      response := flags &&& 1 ≠ 0
      callPath := if pathLength > 0 then .of path else .nil
      errorCode := errorCode
      errorMessage := errorMessage }

end WireReader

/-- `decodeWireEnvelope`: nothing may remain after the last read. -/
def decodeWireEnvelope (data : List UInt8) : Except (ReadFault WireErr) WireEnvelope :=
  match WireReader.envelope.run data 0 with
  | .error fault => .error fault
  | .ok (envelope, pos) =>
    if (data.length : ℤ) - pos ≠ 0 then .error (.failed .invalidFrame) else .ok envelope

/-! ### The bytes of an envelope -/

/-- A string with its length. -/
def stringBytes (s : Text) : List UInt8 := bigEndian 2 s.length ++ s

/-- A reference. -/
def refBytes (ref : ServiceRef) : List UInt8 := stringBytes ref.node ++ bigEndian 8 ref.id.toNat

/-- The byte form of an envelope, without any limit. -/
def envelopeBytes (e : WireEnvelope) : List UInt8 :=
  [wireVersion] ++ ([if e.response then 1 else 0] ++ (refBytes e.source ++ (refBytes e.target ++
    (bigEndian 8 e.session.toNat ++ (bigEndian 4 e.command.toNat ++
      (bigEndian 2 e.callPath.len ++ (e.callPath.elems.flatMap refBytes ++
        (stringBytes e.errorCode ++ (stringBytes e.errorMessage ++
          (bigEndian 4 e.payload.len ++ e.payload.elems))))))))))

/-- A reference within the limit for node names. -/
def RefWithin (ref : ServiceRef) : Prop := ref.node.length ≤ maxNodeIDLength

instance (ref : ServiceRef) : Decidable (RefWithin ref) := inferInstanceAs (Decidable (_ ≤ _))

/-- The limits of the fields. -/
structure WithinLimits (e : WireEnvelope) : Prop where
  source : RefWithin e.source
  target : RefWithin e.target
  callPath : e.callPath.len ≤ maxCallPathLength
  refs : ∀ ref ∈ e.callPath.elems, RefWithin ref
  errorCode : e.errorCode.length ≤ maxErrorCodeLength
  errorMessage : e.errorMessage.length ≤ maxErrorMessageLength
  payload : e.payload.len ≤ 2 ^ 32 - 1

/-- The same envelope, up to nil versus empty payload and call path. -/
structure SameEnvelope (e f : WireEnvelope) : Prop where
  source : e.source = f.source
  target : e.target = f.target
  session : e.session = f.session
  command : e.command = f.command
  payload : e.payload.elems = f.payload.elems
  response : e.response = f.response
  callPath : e.callPath.elems = f.callPath.elems
  errorCode : e.errorCode = f.errorCode
  errorMessage : e.errorMessage = f.errorMessage

variable {e : WireEnvelope}

theorem SameEnvelope.envelopeBytes_eq {f : WireEnvelope} (h : SameEnvelope e f) :
    envelopeBytes e = envelopeBytes f := by
  simp only [envelopeBytes, Slice.len, h.source, h.target, h.session, h.command, h.payload,
    h.response, h.callPath, h.errorCode, h.errorMessage]

/-! ### What the encoder writes -/

variable {output : List UInt8} {ref : ServiceRef} {refs : List ServiceRef} {size : ℕ}

theorem writeString16_eq {s : Text} {maximum : ℕ} (h : s.length ≤ maximum)
    (hm : maximum < 2 ^ 16) : writeString16 output s maximum = .ok (output ++ stringBytes s) := by
  have hlen : (UInt16.ofNat s.length).toNat = s.length :=
    UInt16.toNat_ofNat_of_lt (show s.length < 2 ^ 16 by omega)
  rw [writeString16, if_neg (by omega), writeUint16, hlen, stringBytes, List.append_assoc]

theorem writeServiceRef_eq (h : RefWithin ref) :
    writeServiceRef output ref = .ok (output ++ refBytes ref) := by
  rw [writeServiceRef, writeString16_eq h (by decide)]
  simp [refBytes, writeUint64, bind, Except.bind, pure, Except.pure]

theorem writeCallPath_eq (h : ∀ ref ∈ refs, RefWithin ref) :
    writeCallPath output refs = .ok (output ++ refs.flatMap refBytes) := by
  induction refs generalizing output with
  | nil => simp [writeCallPath]
  | cons ref refs ih =>
    rw [writeCallPath, writeServiceRef_eq (h ref (by simp))]
    show writeCallPath (output ++ refBytes ref) refs = _
    rw [ih fun r hr => h r (by simp [hr]), List.flatMap_cons, List.append_assoc]

/-- The lengths that are written are the lengths of the envelope. -/
theorem WithinLimits.toNat_callPath (h : WithinLimits e) :
    (UInt16.ofNat e.callPath.len).toNat = e.callPath.len :=
  UInt16.toNat_ofNat_of_lt (lt_of_le_of_lt h.callPath (by decide))

theorem WithinLimits.toNat_payload (h : WithinLimits e) :
    (UInt32.ofNat e.payload.len).toNat = e.payload.len :=
  UInt32.toNat_ofNat_of_lt (lt_of_le_of_lt h.payload (by decide))

/-- **What the encoder writes.** -/
theorem writeEnvelope_eq (h : WithinLimits e) :
    writeEnvelope e = .ok (envelopeBytes e) := by
  simp only [writeEnvelope, writeServiceRef_eq h.source, writeServiceRef_eq h.target,
    writeCallPath_eq h.refs, writeString16_eq h.errorCode (by decide : maxErrorCodeLength < 2 ^ 16),
    writeString16_eq h.errorMessage (by decide : maxErrorMessageLength < 2 ^ 16), bind, Except.bind,
    pure, Except.pure, writeUint16, writeUint32, writeUint64, h.toNat_callPath, h.toNat_payload,
    envelopeBytes,
    List.append_assoc]

theorem length_stringBytes (s : Text) : (stringBytes s).length = 2 + s.length := by
  simp [stringBytes]

theorem length_refBytes (ref : ServiceRef) : (refBytes ref).length = 2 + ref.node.length + 8 := by
  simp [refBytes, length_stringBytes]

theorem serviceRefWireSize_eq (h : RefWithin ref) :
    serviceRefWireSize ref = .ok (refBytes ref).length := by
  have hmax : maxNodeIDLength ≤ 2 ^ 16 - 1 := by decide
  rw [RefWithin] at h
  rw [serviceRefWireSize, if_neg (by omega), length_refBytes]

theorem callPathWireSize_eq (h : ∀ ref ∈ refs, RefWithin ref) :
    callPathWireSize size refs = .ok (size + (refs.flatMap refBytes).length) := by
  induction refs generalizing size with
  | nil => simp [callPathWireSize]
  | cons ref refs ih =>
    rw [callPathWireSize, serviceRefWireSize_eq (h ref (by simp))]
    show callPathWireSize (size + (refBytes ref).length) refs = _
    rw [ih fun r hr => h r (by simp [hr]), List.flatMap_cons, List.length_append, Nat.add_assoc]

/-- **The size function gives the length of what is written.** -/
theorem wireEnvelopeSize_eq (h : WithinLimits e) :
    wireEnvelopeSize e = .ok (envelopeBytes e).length := by
  have hpath := h.callPath
  have hcode := h.errorCode
  have hmessage := h.errorMessage
  have hpayload := h.payload
  rw [wireEnvelopeSize, if_neg (by omega), if_neg (by omega)]
  simp only [serviceRefWireSize_eq h.source, serviceRefWireSize_eq h.target,
    callPathWireSize_eq h.refs, bind, Except.bind, pure, Except.pure]
  simp only [envelopeBytes, List.length_append, length_stringBytes, length_bigEndian,
    List.length_singleton, Slice.len]
  congr 1
  omega

/-- **The encoder on an envelope that fits.** -/
theorem encodeWireEnvelope_eq {max : UInt32} (h : WithinLimits e)
    (hsize : (envelopeBytes e).length ≤ max.toNat) :
    encodeWireEnvelope e max = .ok (envelopeBytes e) := by
  have hpos : 0 < (envelopeBytes e).length := by simp [envelopeBytes]
  have hmax : max ≠ 0 := by
    rintro rfl
    exact absurd hpos (Nat.not_lt.mpr hsize)
  have hlt : max.toNat < 2 ^ 32 := max.toNat_lt
  rw [encodeWireEnvelope, if_neg hmax, wireEnvelopeSize_eq h]
  show (if _ then _ else _) = _
  rw [if_neg (by omega), writeEnvelope_eq h]

/-! ### What the encoder takes -/

theorem bind_eq_ok {ε α β : Type} {x : Except ε α} {f : α → Except ε β} {b : β}
    (h : x >>= f = .ok b) : ∃ a, x = .ok a ∧ f a = .ok b := by
  cases x with
  | error => cases h
  | ok a => exact ⟨a, rfl, h⟩

theorem refWithin_of_size (h : serviceRefWireSize ref = .ok size) : RefWithin ref := by
  rw [serviceRefWireSize] at h
  split_ifs at h with hlong
  rw [RefWithin]
  omega

theorem refWithin_of_pathSize {start size : ℕ} (h : callPathWireSize start refs = .ok size) :
    ∀ ref ∈ refs, RefWithin ref := by
  induction refs generalizing start with
  | nil => simp
  | cons ref refs ih =>
    obtain ⟨n, hn, hrest⟩ := bind_eq_ok h
    exact List.forall_mem_cons.mpr ⟨refWithin_of_size hn, ih hrest⟩

theorem withinLimits_of_size (h : wireEnvelopeSize e = .ok size) : WithinLimits e := by
  rw [wireEnvelopeSize] at h
  split_ifs at h with hfields hpayload
  obtain ⟨source, hsource, h⟩ := bind_eq_ok h
  obtain ⟨target, htarget, h⟩ := bind_eq_ok h
  obtain ⟨path, hpath, -⟩ := bind_eq_ok h
  rw [not_or, not_or] at hfields
  exact ⟨refWithin_of_size hsource, refWithin_of_size htarget, Nat.le_of_not_lt hfields.1,
    refWithin_of_pathSize hpath, Nat.le_of_not_lt hfields.2.1, Nat.le_of_not_lt hfields.2.2,
    Nat.le_of_not_lt hpayload⟩

/-- **What is encoded is within the limits.** -/
theorem encodeWireEnvelope_ok {max : UInt32} {body : List UInt8}
    (h : encodeWireEnvelope e max = .ok body) : WithinLimits e ∧ envelopeBytes e = body := by
  rw [encodeWireEnvelope] at h
  split_ifs at h
  obtain ⟨size, hsize, h⟩ := bind_eq_ok h
  have hwithin := withinLimits_of_size hsize
  split_ifs at h
  rw [writeEnvelope_eq hwithin] at h
  exact ⟨hwithin, Except.ok.inj h⟩

/-! ### What the decoder reads -/

namespace WireReader

theorem bytes_run (length : UInt32) (data : List UInt8) (pos : ℕ) (hpos : pos ≤ data.length) :
    (bytes length).run data pos =
      if pos + length.toNat ≤ data.length
      then .ok ((data.drop pos).take length.toNat, pos + length.toNat)
      else .error (.failed .invalidFrame) := by
  have hint : uint64OfInt ((data.length : ℤ) - pos) = (data.length : ℤ) - pos :=
    if_neg (by omega)
  show (if uint64OfInt ((data.length : ℤ) - pos) < length.toNat then
    (Reader.fail .invalidFrame : WireReader _) else take length.toNat).run data pos = _
  rw [hint]
  by_cases h : pos + length.toNat ≤ data.length
  · rw [if_neg (by omega), if_pos h, take]
    simp [Reader.slice, h]
  · rw [if_pos (by omega), if_neg h, Reader.fail]

theorem accepts_bytes {length : UInt32} {bs : List UInt8} (h : bs.length = length.toNat) :
    (bytes length).Accepts bs bs := by
  intro pre rest
  rw [bytes_run _ _ _ (by simp), if_pos (by simp [h]), ← h]
  simp

theorem sound_bytes (length : UInt32) :
    (bytes length).Sound fun a bs => a = bs ∧ bs.length = length.toNat := by
  intro data pos hpos
  rw [bytes_run length data pos hpos]
  by_cases h : pos + length.toNat ≤ data.length
  · rw [if_pos h]
    refine ⟨h, (data.drop pos).take length.toNat, ?_, rfl, by simp; omega⟩
    rw [← List.drop_drop, List.take_append_drop]
  · rw [if_neg h]
    simp

variable {v : ℕ}

/-- The numbers of `n` bytes, read as `k` reads them. -/
theorem accepts_number {α : Type} (n : UInt32) (k : ℕ → α) (hv : v < 256 ^ n.toNat) :
    (do let data ← bytes n; let v ← number n.toNat data; pure (k v) : WireReader α).Accepts
      (bigEndian n.toNat v) (k v) := by
  have hlen := length_bigEndian n.toNat v
  have hnumber : (number n.toNat (bigEndian n.toNat v)).Accepts [] v := by
    intro pre rest
    have htake : (bigEndian n.toNat v).take n.toNat = bigEndian n.toNat v :=
      List.take_of_length_le (le_of_eq hlen)
    simp [number, Reader.slice, htake, value_bigEndian hv]
  rw [show bigEndian n.toNat v = bigEndian n.toNat v ++ ([] ++ []) by simp]
  exact (accepts_bytes hlen).bind (hnumber.bind (.pure (k v)))

theorem sound_number {α : Type} (n : UInt32) (k : ℕ → α) :
    (do let data ← bytes n; let v ← number n.toNat data; pure (k v) : WireReader α).Sound
      fun a bs => bs.length = n.toNat ∧ a = k (value bs) := by
  refine (sound_bytes n).bind ?_
  rintro data bs ⟨rfl, hlen⟩
  have hnumber : (number n.toNat data).Sound fun v bs => v = value data ∧ bs = [] := by
    intro all pos hpos
    simp only [number, Reader.slice]
    rw [if_pos ⟨by omega, by omega⟩]
    exact ⟨hpos, [], rfl, by simp [← hlen], rfl⟩
  refine hnumber.bind ?_
  rintro v bs ⟨rfl, rfl⟩
  exact .pure (by simpa using hlen)

theorem accepts_byte (b : UInt8) : byte.Accepts [b] b := by
  have h := accepts_number 1 UInt8.ofNat (v := b.toNat) b.toNat_lt
  have hb : bigEndian 1 b.toNat = [b] := by simp [bigEndian]
  rw [UInt8.ofNat_toNat] at h
  exact hb ▸ h

theorem accepts_uint16 (h : v < 2 ^ 16) : uint16.Accepts (bigEndian 2 v) (UInt16.ofNat v) :=
  accepts_number 2 UInt16.ofNat (by simpa using h)

theorem accepts_uint32 (h : v < 2 ^ 32) : uint32.Accepts (bigEndian 4 v) (UInt32.ofNat v) :=
  accepts_number 4 UInt32.ofNat (by simpa using h)

theorem accepts_uint64 (v : UInt64) : uint64.Accepts (bigEndian 8 v.toNat) v := by
  have h := accepts_number 8 UInt64.ofNat (v := v.toNat) (by simpa using v.toNat_lt)
  rwa [UInt64.ofNat_toNat] at h

theorem accepts_string16 {maximum : ℕ} {s : Text} (h : s.length ≤ maximum) (hm : maximum < 2 ^ 16) :
    (string16 maximum).Accepts (stringBytes s) s := by
  have hlen : (UInt16.ofNat s.length).toNat = s.length :=
    UInt16.toNat_ofNat_of_lt (show s.length < 2 ^ 16 by omega)
  refine (accepts_uint16 (by omega)).bind ?_
  rw [hlen, if_neg (by omega)]
  exact accepts_bytes (by simp [hlen])

theorem accepts_serviceRef {ref : ServiceRef} (h : RefWithin ref) :
    serviceRef.Accepts (refBytes ref) ref := by
  rw [show refBytes ref = stringBytes ref.node ++
    (bigEndian 8 ref.id.toNat ++ []) by simp [refBytes]]
  exact (accepts_string16 h (by decide)).bind ((accepts_uint64 ref.id).bind (.pure _))

theorem accepts_callPath {refs : List ServiceRef} (h : ∀ ref ∈ refs, RefWithin ref) :
    (callPath refs.length).Accepts (refs.flatMap refBytes) refs := by
  induction refs with
  | nil => exact .pure []
  | cons ref refs ih =>
    rw [show (ref :: refs).flatMap refBytes = refBytes ref ++ (refs.flatMap refBytes ++ []) by simp]
    exact (accepts_serviceRef (h ref (by simp))).bind
      ((ih fun r hr => h r (by simp [hr])).bind (.pure _))

/-- The envelope as it comes out of the decoder: an empty payload or call path is nil. -/
def normalized (e : WireEnvelope) : WireEnvelope :=
  { e with
    payload := (Slice.of e.payload.elems).copy
    callPath := if e.callPath.elems = [] then .nil else .of e.callPath.elems }

theorem sameEnvelope_normalized (e : WireEnvelope) : SameEnvelope (normalized e) e where
  source := rfl
  target := rfl
  session := rfl
  command := rfl
  payload := rfl
  response := rfl
  callPath := by
    by_cases h : e.callPath.elems = []
    · simp [normalized, h]
    · simp [normalized, h]
  errorCode := rfl
  errorMessage := rfl

/-- **Decoding what was encoded.** -/
theorem accepts_envelope {e : WireEnvelope} (h : WithinLimits e) :
    envelope.Accepts (envelopeBytes e) (normalized e) := by
  have hflags : (if e.response then 1 else 0 : UInt8) &&& ~~~1 = 0 := by
    cases e.response <;> decide
  have hresponse : decide ((if e.response then 1 else 0 : UInt8) &&& 1 ≠ 0) = e.response := by
    cases e.response <;> decide
  have hpos : (UInt16.ofNat e.callPath.len > 0) ↔ e.callPath.elems ≠ [] := by
    rw [gt_iff_lt, UInt16.lt_iff_toNat_lt, h.toNat_callPath, Slice.len]
    exact List.length_pos_iff
  have hvalue : normalized e =
      { source := e.source, target := e.target, session := e.session, command := e.command
        payload := (Slice.of e.payload.elems).copy
        response := decide ((if e.response then 1 else 0 : UInt8) &&& 1 ≠ 0)
        callPath := if UInt16.ofNat e.callPath.len > 0 then .of e.callPath.elems else .nil
        errorCode := e.errorCode, errorMessage := e.errorMessage } := by
    rw [hresponse, normalized]
    by_cases hnil : e.callPath.elems = []
    · simp [hnil, Slice.len]
    · rw [if_neg hnil, if_pos (hpos.mpr hnil)]
  rw [hvalue, envelopeBytes]
  have hcommand : uint32.Accepts (bigEndian 4 e.command.toNat) e.command := by
    simpa using accepts_uint32 e.command.toNat_lt
  have hrefs := accepts_callPath h.refs
  -- The reads of the decoder one by one; the checks read nothing.
  refine (accepts_byte _).bind (.require_bind rfl ?_)
  refine (accepts_byte _).bind (.require_bind hflags ?_)
  refine (accepts_serviceRef h.source).bind ((accepts_serviceRef h.target).bind ?_)
  refine (accepts_uint64 _).bind (hcommand.bind ?_)
  refine (accepts_uint16 (lt_of_le_of_lt h.callPath (by decide))).bind ?_
  refine .require_bind (by rw [h.toNat_callPath]; exact h.callPath) ?_
  rw [h.toNat_callPath]
  refine hrefs.bind ?_
  refine (accepts_string16 h.errorCode (by decide)).bind ?_
  refine (accepts_string16 h.errorMessage (by decide)).bind ?_
  refine (accepts_uint32 (lt_of_le_of_lt h.payload (by decide))).bind ?_
  rw [← List.append_nil e.payload.elems]
  refine (accepts_bytes (by rw [h.toNat_payload]; rfl)).bind ?_
  rw [List.append_nil]
  exact .pure _

/-! #### From the bytes read -/

theorem sound_byte : byte.Sound fun b bs => bs = [b] := by
  refine (sound_number 1 UInt8.ofNat).mono ?_
  rintro b bs ⟨hlen, rfl⟩
  obtain ⟨c, rfl⟩ := List.length_eq_one_iff.mp hlen
  simp [value]

theorem sound_uint16 : uint16.Sound fun v bs => bs = bigEndian 2 v.toNat := by
  refine (sound_number 2 UInt16.ofNat).mono ?_
  rintro v bs ⟨hlen, rfl⟩
  have hlt := value_lt bs
  rw [hlen] at hlt
  rw [UInt16.toNat_ofNat_of_lt' hlt]
  exact (hlen ▸ bigEndian_value bs).symm

theorem sound_uint32 : uint32.Sound fun v bs => bs = bigEndian 4 v.toNat := by
  refine (sound_number 4 UInt32.ofNat).mono ?_
  rintro v bs ⟨hlen, rfl⟩
  have hlt := value_lt bs
  rw [hlen] at hlt
  rw [UInt32.toNat_ofNat_of_lt' hlt]
  exact (hlen ▸ bigEndian_value bs).symm

theorem sound_uint64 : uint64.Sound fun v bs => bs = bigEndian 8 v.toNat := by
  refine (sound_number 8 UInt64.ofNat).mono ?_
  rintro v bs ⟨hlen, rfl⟩
  have hlt := value_lt bs
  rw [hlen] at hlt
  rw [UInt64.toNat_ofNat_of_lt' hlt]
  exact (hlen ▸ bigEndian_value bs).symm

theorem sound_string16 (maximum : ℕ) :
    (string16 maximum).Sound fun s bs => bs = stringBytes s ∧ s.length ≤ maximum := by
  refine sound_uint16.bind ?_
  rintro length bs rfl
  split
  · exact .fail
  · refine (sound_bytes _).mono ?_
    rintro s bs ⟨rfl, hlen⟩
    rw [UInt16.toNat_toUInt32] at hlen
    exact ⟨by rw [stringBytes, hlen], by omega⟩

theorem sound_serviceRef : serviceRef.Sound fun ref bs => bs = refBytes ref ∧ RefWithin ref := by
  refine (sound_string16 _).bind ?_
  rintro node bs ⟨rfl, hnode⟩
  refine sound_uint64.bind ?_
  rintro id bs rfl
  exact .pure ⟨by simp [refBytes], hnode⟩

theorem sound_callPath (n : ℕ) : (callPath n).Sound fun refs bs =>
    bs = refs.flatMap refBytes ∧ refs.length = n ∧ ∀ ref ∈ refs, RefWithin ref := by
  induction n with
  | zero => exact .pure (by simp)
  | succ n ih =>
    refine sound_serviceRef.bind ?_
    rintro ref bs ⟨rfl, href⟩
    refine ih.bind ?_
    rintro refs bs ⟨rfl, hlen, hrefs⟩
    refine .pure ⟨by simp, by simp [hlen], ?_⟩
    intro r hr
    rcases List.mem_cons.mp hr with rfl | hr
    · exact href
    · exact hrefs r hr

theorem flags_eq {flags : UInt8} (h : flags &&& ~~~1 = 0) :
    (if decide (flags &&& 1 ≠ 0) then 1 else 0 : UInt8) = flags := by
  obtain ⟨⟨i⟩⟩ := flags
  revert i
  decide +kernel

/-- **Encoding what was decoded.** -/
theorem sound_envelope : envelope.Sound fun e bs =>
    bs = envelopeBytes e ∧ WithinLimits e ∧ normalized e = e := by
  refine sound_byte.bind ?_
  rintro version bs rfl
  refine .require_bind ?_
  rintro rfl
  refine sound_byte.bind ?_
  rintro flags bs rfl
  refine .require_bind fun hflags => ?_
  refine sound_serviceRef.bind ?_
  rintro source bs ⟨rfl, hsource⟩
  refine sound_serviceRef.bind ?_
  rintro target bs ⟨rfl, htarget⟩
  refine sound_uint64.bind ?_
  rintro session bs rfl
  refine sound_uint32.bind ?_
  rintro command bs rfl
  refine sound_uint16.bind ?_
  rintro pathLength bs rfl
  refine .require_bind fun hpath => ?_
  refine (sound_callPath _).bind ?_
  rintro path bs ⟨rfl, hlen, hrefs⟩
  refine (sound_string16 _).bind ?_
  rintro code bs ⟨rfl, hcode⟩
  refine (sound_string16 _).bind ?_
  rintro message bs ⟨rfl, hmessage⟩
  refine sound_uint32.bind ?_
  rintro payloadLength bs rfl
  refine (sound_bytes _).bind ?_
  rintro payload bs ⟨rfl, hpayload⟩
  have hpayload' : payload.length ≤ 2 ^ 32 - 1 := by
    have := payloadLength.toNat_lt
    omega
  -- The call path is nil exactly when nothing was read for it.
  have hnil : pathLength > 0 ↔ path ≠ [] := by
    rw [gt_iff_lt, UInt16.lt_iff_toNat_lt, ← hlen]
    exact List.length_pos_iff
  have helems : (if pathLength > 0 then .of path else .nil : Slice ServiceRef).elems = path := by
    by_cases h : path = []
    · rw [if_neg (by simpa [hnil] using h), h, Slice.elems_nil]
    · rw [if_pos (hnil.mpr h), Slice.elems_of]
  refine .pure ⟨?_, ⟨hsource, htarget, ?_, ?_, hcode, hmessage, hpayload'⟩, ?_⟩
  · simp only [envelopeBytes, flags_eq hflags, Slice.len, helems, hlen, Slice.elems_copy,
      Slice.elems_of, hpayload, List.append_nil]
  · rw [Slice.len, helems, hlen]
    exact hpath
  · rw [helems]
    exact hrefs
  · rw [normalized]
    simp only [helems, Slice.elems_copy, Slice.elems_of, WireEnvelope.mk.injEq, true_and, and_true]
    by_cases h : path = []
    · rw [if_pos h, if_neg (by simpa [hnil] using h)]
    · rw [if_neg h, if_pos (hnil.mpr h)]

end WireReader

/-! ### Both ways -/

theorem decodeWireEnvelope_envelopeBytes (h : WithinLimits e) :
    decodeWireEnvelope (envelopeBytes e) = .ok (WireReader.normalized e) := by
  rw [decodeWireEnvelope, (WireReader.accepts_envelope h).run]
  simp

theorem of_decodeWireEnvelope {data : List UInt8}
    (h : decodeWireEnvelope data = .ok e) : data = envelopeBytes e ∧ WithinLimits e := by
  rw [decodeWireEnvelope] at h
  split at h
  · cases h
  · next f pos hrun =>
    split at h
    · cases h
    · next hpos =>
      cases h
      have hlen : pos = data.length := by omega
      rw [hlen] at hrun
      have := WireReader.sound_envelope.run hrun
      exact ⟨this.1, this.2.1⟩

theorem decodeWireEnvelope_ne_outOfRange (data : List UInt8) :
    decodeWireEnvelope data ≠ .error .outOfRange := by
  have h := WireReader.sound_envelope data 0 (Nat.zero_le _)
  rw [decodeWireEnvelope]
  split at h
  · next fault hrun => simpa [hrun] using h
  · next e pos hrun =>
    rw [hrun]
    dsimp only
    split <;> simp

/-- **Wire codec round trip.** What is within the limits is encoded to as many bytes as the size
function says and decoded to the same envelope. What is decoded is encoded back to the same bytes,
no two byte strings are decoded to one envelope, and no read is outside the string. -/
theorem wire_round_trip :
    (∀ e, WithinLimits e → ∃ size, wireEnvelopeSize e = .ok size ∧
      ∀ maxFrameSize : UInt32, 0 < maxFrameSize → size ≤ maxFrameSize.toNat →
        ∃ output f, encodeWireEnvelope e maxFrameSize = .ok output ∧ output.length = size ∧
          decodeWireEnvelope output = .ok f ∧ SameEnvelope f e) ∧
    (∀ data e, decodeWireEnvelope data = .ok e → ∀ maxFrameSize : UInt32,
      data.length ≤ maxFrameSize.toNat → encodeWireEnvelope e maxFrameSize = .ok data) ∧
    (∀ data₁ data₂ e₁ e₂, decodeWireEnvelope data₁ = .ok e₁ → decodeWireEnvelope data₂ = .ok e₂ →
      SameEnvelope e₁ e₂ → data₁ = data₂) ∧
    ∀ data, decodeWireEnvelope data ≠ .error .outOfRange := by
  refine ⟨fun e he => ⟨_, wireEnvelopeSize_eq he, fun max _ hsize => ?_⟩, ?_, ?_,
    decodeWireEnvelope_ne_outOfRange⟩
  · exact ⟨_, _, encodeWireEnvelope_eq he hsize, rfl, decodeWireEnvelope_envelopeBytes he,
      WireReader.sameEnvelope_normalized e⟩
  · intro data e hdecode max hsize
    obtain ⟨rfl, he⟩ := of_decodeWireEnvelope hdecode
    exact encodeWireEnvelope_eq he hsize
  · intro data₁ data₂ e₁ e₂ h₁ h₂ hsame
    rw [(of_decodeWireEnvelope h₁).1, (of_decodeWireEnvelope h₂).1]
    exact hsame.envelopeBytes_eq

/-- A reply with an error and without a payload. -/
def errorReply : WireEnvelope :=
  ⟨⟨"a", 1⟩, ⟨"b", 2⟩, 3, 4, .nil, true, .of [⟨"b", 2⟩],
    "E", []⟩

/-- It goes through the codec. -/
theorem wire_round_trip_errorReply :
    ∃ output f, encodeWireEnvelope errorReply 100 = .ok output ∧
      decodeWireEnvelope output = .ok f ∧ f.session = 3 := by
  obtain ⟨size, hsize, h⟩ := wire_round_trip.1 errorReply
    ⟨by decide, by decide, by decide, by decide, by decide, by decide, by decide⟩
  obtain rfl : size = 58 := Except.ok.inj (hsize.symm.trans rfl)
  obtain ⟨output, f, hencode, -, hdecode, hsame⟩ := h 100 (by decide) (by decide)
  exact ⟨output, f, hencode, hdecode, hsame.session⟩

end GameServiceRuntime.Transport
