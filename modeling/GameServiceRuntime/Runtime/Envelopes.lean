import GameServiceRuntime.Runtime.Pending
import GameServiceRuntime.Runtime.RemoteError

/-!
# Envelopes between honest nodes

Envelopes are put together in one place and checked in another. `send` and `reply` of `cluster.go`
make them for Commands, for Calls, for the Core's own name resolution and for the results of all of
these, and `validate` on the other node asks for the source, the call path and the shape of the
payload that each of these should have. Here any number of running nodes do nothing but what the
code does, and it is shown that the two agree.

A transport keeps what it is given and may deliver it any number of times. What the codecs, the
registries and the mailboxes answer is up to the environment, separately in every step, so a codec
need not be a function. A handler may reply to a Command at any time and as often as it likes.

`Handed.answers` and the receipts are not in the source. They say which envelope is the answer to
which.

## Main results

* `honest_envelopes_valid` — no envelope is refused by `validate`, and a Call that could not be
  delivered has one answer, an error
-/

namespace GameServiceRuntime.Runtime.Envelopes

open Pending (coreResolveNameCommand maxCoreServiceNameLength validate EnvelopeErr endsInTarget)

variable {ρ : Type}

/-- `Envelope`. The payload is any value. -/
structure Envelope (π : Type) where
  source : ServiceRef
  target : ServiceRef
  session : UInt64
  command : UInt32
  payload : π
  callPath : List ServiceRef
  deriving DecidableEq

/-! ### The Core's own codec -/

/-- A payload. The Core's own codec tells names and references from everything else. -/
inductive Value (ρ : Type)
  | name (n : Text)
  | ref (r : ServiceRef)
  | other (v : ρ)

def encodeCoreResolveName : Value ρ → Except Error (Slice UInt8)
  | .name n =>
    if n.length > maxCoreServiceNameLength then .error (.core .invalidClusterEnvelope)
    else .ok (.of n)
  | _ => .error (.core .invalidClusterEnvelope)

def decodeCoreResolveName (payload : Slice UInt8) : Except Error Text :=
  if payload.len > maxCoreServiceNameLength then .error (.core .invalidClusterEnvelope)
  else .ok payload.elems

def putUint64 (v : UInt64) : List UInt8 :=
  [56, 48, 40, 32, 24, 16, 8, 0].map fun k : UInt64 => (v >>> k).toUInt8

def encodeCoreResolveResponse (node : Text) : Value ρ → Except Error (Slice UInt8)
  | .ref r =>
    if r.node ≠ node ∨ r.id = 0 then .error (.core .invalidClusterEnvelope)
    else .ok (.of (putUint64 r.id))
  | _ => .error (.core .invalidClusterEnvelope)

/-- `fmt.Errorf("%w: %v", s, err)` -/
def wrap (s : CoreError) (err : Error) : Error :=
  .other (fun _ => false) (.ofString s.text ++ ": " ++ err.text) [.core s]

/-! ### The envelopes a node makes -/

/-- `clusterRuntime.send` on a node, up to where it hands the envelope to the transport. `encoded`
is the codec's answer. -/
def send (node : Text) (e : Envelope (Value ρ)) (encoded : Except Error (Slice UInt8)) :
    Except Error WireEnvelope := do
  let source : ServiceRef := if e.source = .zero then ⟨node, 0⟩ else e.source
  let payload ←
    if e.target.id = 0 then
      if e.command ≠ coreResolveNameCommand ∨ e.session = 0 ∨ source.id ≠ 0 then
        .error (.core .invalidClusterEnvelope)
      else encodeCoreResolveName e.payload
    else encoded.mapError (wrap .payloadEncode)
  return { source := source, target := e.target, session := e.session, command := e.command,
           payload := payload, response := false, callPath := (Slice.of e.callPath).copy,
           errorCode := [], errorMessage := [] }

/-- `sendEnvelope` on a node: what is handed to the transport. -/
def sendEnvelope (node : Text) (e : Envelope (Value ρ)) (encoded : Except Error (Slice UInt8)) :
    List WireEnvelope :=
  if e.target.node = node ∨ e.target.node = [] then []
  else
    match send node e encoded with
    | .ok wire => [wire]
    | .error _ => []

/-- A Response that has no payload and no error yet. -/
def response (responder caller : ServiceRef) (command : UInt32) (session : UInt64) : WireEnvelope :=
  { source := responder, target := caller, session := session, command := command,
    payload := .nil, response := true, callPath := .nil, errorCode := [], errorMessage := [] }

/-- `wire.ErrorCode, wire.ErrorMessage = encodeRemoteError(err)` -/
def withError (wire : WireEnvelope) (err : Error) : WireEnvelope :=
  { wire with errorCode := (encodeRemoteError err).1, errorMessage := (encodeRemoteError err).2 }

/-- `clusterRuntime.reply` on a node, up to where it hands the envelope to the transport. -/
def reply (node : Text) (responder caller : ServiceRef) (command : UInt32) (session : UInt64)
    (result : Except Error (Value ρ)) (encoded : Except Error (Slice UInt8)) : WireEnvelope :=
  let wire := response responder caller command session
  match result with
  | .error err => withError wire err
  | .ok value =>
    match
      if responder.id = 0 ∧ command = coreResolveNameCommand then
        encodeCoreResolveResponse node value
      else encoded with
    | .error err =>
      withError wire (if err.is .invalidClusterEnvelope then err else wrap .payloadEncode err)
    | .ok payload => { wire with payload := payload }

/-- Who makes a Call: `Runtime.Call`, or a Service with its current call path. -/
inductive Caller
  | runtime
  | service (id : UInt64) (path : List ServiceRef)

/-- The source of a Call. -/
def Caller.source (node : Text) : Caller → ServiceRef
  | .runtime => ⟨node, 0⟩
  | .service id _ => ⟨node, id⟩

/-- The path of a Call, of `Call` and of `callFromService`. -/
def Caller.path (node : Text) (target : ServiceRef) : Caller → Except Error (List ServiceRef)
  | .runtime => .ok [target]
  | .service id path =>
    let path := if path.length = 0 then [⟨node, id⟩] else path
    if target ∈ path then .error (.core .callCycle) else .ok (path ++ [target])

/-! ### What a node does with an envelope -/

/-- What became of an envelope that was received. -/
inductive Fate (ρ : Type)
  /-- `validate` refused it. -/
  | invalid (err : EnvelopeErr)
  /-- `receiveReply` has it. -/
  | replied
  /-- It is in the mailbox of its target. -/
  | delivered (e : Envelope (Value ρ))
  /-- The name was found. -/
  | resolved (ref : ServiceRef)
  /-- It could not be delivered, or the name was not found. -/
  | failed (err : Error)

/-- What the codec, the registry and the mailbox answer: `nil` of `sendLocalEnvelope` is `none`. -/
structure Answers (ρ : Type) where
  decoded : Except Error (Value ρ)
  resolved : Except Error ServiceRef
  accepted : Option Error

/-- `clusterRuntime.reply` to an envelope with an error. -/
def refusal (node : Text) (wire : WireEnvelope) (err : Error) : WireEnvelope :=
  reply (ρ := Empty) node wire.target wire.source wire.command wire.session (.error err) (.ok .nil)

/-- The refusal, if somebody waits for it. -/
def refuseCall (node : Text) (wire : WireEnvelope) (err : Error) : List WireEnvelope :=
  if wire.session ≠ 0 then [refusal node wire err] else []

/-- `receiveCommand` on a node: what becomes of the Command and what is handed to the transport. -/
def receiveCommand (node : Text) (wire : WireEnvelope) (a : Answers ρ) :
    Fate ρ × List WireEnvelope :=
  if wire.target.id = 0 then
    match decodeCoreResolveName wire.payload with
    | .error err => (.failed err, [refusal node wire err])
    | .ok _ =>
      match a.resolved with
      | .error err => (.failed err, [refusal node wire err])
      | .ok ref =>
        (.resolved ref, [reply (ρ := ρ) node wire.target wire.source wire.command wire.session
          (.ok (.ref ref)) (.ok .nil)])
  else
    match a.decoded with
    | .error err =>
      (.failed (wrap .payloadDecode err), refuseCall node wire (wrap .payloadDecode err))
    | .ok payload =>
      match a.accepted with
      | some err => (.failed err, refuseCall node wire err)
      | none => (.delivered ⟨wire.source, wire.target, wire.session, wire.command, payload,
          wire.callPath.elems⟩, [])

/-- `receive` on a node that runs. -/
def receive (node peer : Text) (wire : WireEnvelope) (a : Answers ρ) : Fate ρ × List WireEnvelope :=
  match validate node true peer wire with
  | .error .runtimeClosed => (.invalid .runtimeClosed, [])
  | .error .invalidClusterEnvelope =>
    (.invalid .invalidClusterEnvelope,
      if !wire.response ∧ wire.session ≠ 0 ∧ wire.source.node = peer ∧ wire.target.node = node ∧
          (wire.target.id ≠ 0 ∨ wire.command = coreResolveNameCommand) then
        [refusal node wire (.core .invalidClusterEnvelope)]
      else [])
  | .ok () => if wire.response then (.replied, []) else receiveCommand node wire a

/-! ### The cluster -/

/-- An envelope that a node handed to its transport, and which receipt it answers. -/
structure Handed where
  sender : Text
  wire : WireEnvelope
  answers : Option ℕ

/-- An envelope that a node received. -/
structure Receipt (ρ : Type) where
  node : Text
  peer : Text
  wire : WireEnvelope
  fate : Fate ρ

/-- Everything handed to a transport and everything received. -/
structure State (ρ : Type) where
  handed : List Handed := []
  receipts : List (Receipt ρ) := []

/-- Hand envelopes to the transport of a node. -/
def State.hand (s : State ρ) (sender : Text) (answers : Option ℕ) (wires : List WireEnvelope) :
    State ρ :=
  { s with handed := s.handed ++ wires.map fun wire => ⟨sender, wire, answers⟩ }

/-- The envelopes that answer the `k`-th receipt. -/
def State.answersTo (s : State ρ) (k : ℕ) : List Handed :=
  s.handed.filter fun x => x.answers = some k

/-- What the nodes do. -/
inductive Action (ρ : Type)
  /-- `Send` of the Runtime, which is number 0, or of a Service -/
  | send (node : Text) (source : UInt64) (target : ServiceRef) (command : UInt32)
      (payload : Value ρ) (encoded : Except Error (Slice UInt8))
  /-- `Call`, with the session that `create` gave out -/
  | call (node : Text) (caller : Caller) (target : ServiceRef) (command : UInt32)
      (payload : Value ρ) (session : UInt64) (encoded : Except Error (Slice UInt8))
  | resolveRemote (node peer : Text) (name : Text) (session : UInt64)
  /-- The transport delivers the `k`-th envelope that was handed to one. -/
  | deliver (k : ℕ) (a : Answers ρ)
  /-- The handler of the `k`-th envelope received replies, returns an error or panics. -/
  | reply (k : ℕ) (result : Except Error (Value ρ)) (encoded : Except Error (Slice UInt8))

/-- The effect of an action. A node of a cluster has a name, and no session is 0. -/
def step (s : State ρ) : Action ρ → Option (State ρ)
  | .send node source target command payload encoded =>
    if node = [] then none
    else some (s.hand node none
      (sendEnvelope node ⟨⟨node, source⟩, target, 0, command, payload, []⟩ encoded))
  | .call node caller target command payload session encoded =>
    if node = [] ∨ session = 0 then none
    else
      match caller.path node target with
      | .error _ => some s
      | .ok path => some (s.hand node none
        (sendEnvelope node ⟨caller.source node, target, session, command, payload, path⟩ encoded))
  | .resolveRemote node peer name session =>
    if node = [] ∨ session = 0 then none
    else if peer = node ∨ peer = [] then some s
    else some (s.hand node none
      (sendEnvelope (ρ := ρ)
        node ⟨⟨node, 0⟩, ⟨peer, 0⟩, session, coreResolveNameCommand, .name name,
        [⟨peer, 0⟩]⟩ (.ok .nil)))
  | .deliver k a =>
    (s.handed[k]?).map fun x =>
      let node := x.wire.target.node
      let result := receive node x.sender x.wire a
      { s.hand node (some s.receipts.length) result.2 with
        receipts := s.receipts ++ [⟨node, x.sender, x.wire, result.1⟩] }
  | .reply k result encoded =>
    match s.receipts[k]? with
    | some ⟨node, _, _, .delivered e⟩ =>
      if e.session = 0 then some s
      else if e.source.node = node ∨ e.source.node = [] then some s
      else some (s.hand node (some k)
        [reply node e.target e.source e.command e.session result encoded])
    | _ => none

/-- The nodes of a cluster, which have done nothing yet. -/
def system (ρ : Type) : System (State ρ) (Action ρ) where
  init s := s = {}
  step := step

/-! ### What `validate` lets through -/

section Validate

variable {node peer : Text} {wire : WireEnvelope}

theorem encodeRemoteError_code_ne_nil (err : Error) : (encodeRemoteError err).1 ≠ [] := by
  have hall : ∀ definition ∈ stableRemoteErrors, definition.1 ≠ [] := by decide +kernel
  rw [encodeRemoteError]
  split
  · next hfind => exact hall _ (List.mem_of_find?_eq_some hfind)
  · exact (by decide : Text.ofString "remote" ≠ [])

theorem validate_command (hpeer : peer ≠ []) (hsource : wire.source.node = peer)
    (htarget : wire.target.node = node) (hresponse : wire.response = false)
    (hcode : wire.errorCode = []) (hmessage : wire.errorMessage = [])
    (hcore : wire.target.id = 0 → wire.command = coreResolveNameCommand ∧ wire.session ≠ 0 ∧
      wire.source.id = 0 ∧ wire.payload.len ≤ maxCoreServiceNameLength)
    (hsend : wire.session = 0 → wire.callPath.elems = [])
    (hcall : wire.session ≠ 0 → wire.callPath.elems.getLast? = some wire.target) :
    validate node true peer wire = .ok () := by
  have hends : wire.session ≠ 0 → wire.callPath.len ≠ 0 ∧ endsInTarget wire = true := by
    intro hs
    have hlast := hcall hs
    refine ⟨fun hlen => ?_, by rw [endsInTarget, hlast, decide_eq_true_eq]⟩
    rw [List.length_eq_zero_iff.1 hlen] at hlast
    cases hlast
  rw [validate, if_neg (by simp), if_neg (by simp [hpeer, hsource, htarget]),
    if_neg (by simp [hresponse]), if_neg (by simp [hcode, hmessage])]
  by_cases hid : wire.target.id = 0
  · obtain ⟨hcommand, hs, hsid, hlen⟩ := hcore hid
    rw [if_pos hid, if_neg (by simp [hcommand, hs, hsid, hlen]), if_neg (by simp [hends hs])]
  · rw [if_neg hid]
    by_cases hs : wire.session = 0
    · rw [if_pos hs, if_neg (by simp [Slice.len, hsend hs])]
    · rw [if_neg hs, if_neg (by simp [hends hs])]

theorem validate_response (hpeer : peer ≠ []) (hsource : wire.source.node = peer)
    (htarget : wire.target.node = node) (hresponse : wire.response = true)
    (hsession : wire.session ≠ 0) (hpath : wire.callPath.elems = [])
    (hmessage : wire.errorCode = [] → wire.errorMessage = [])
    (herror : wire.errorCode ≠ [] → wire.payload.elems = [])
    (hcore : wire.source.id = 0 → wire.command = coreResolveNameCommand ∧ wire.target.id = 0 ∧
      (wire.errorCode = [] → wire.payload.len = 8)) :
    validate node true peer wire = .ok () := by
  have hlen : wire.errorCode ≠ [] → wire.payload.len = 0 := fun h => by
    rw [Slice.len, herror h, List.length_nil]
  rw [validate, if_neg (by simp), if_neg (by simp [hpeer, hsource, htarget]), if_pos hresponse]
  rw [if_neg, if_neg, if_neg]
  · rintro ⟨hid, hcode, hne⟩
    exact hne ((hcore hid).2.2 hcode)
  · rintro ⟨hid, hne | hne⟩
    · exact hne (hcore hid).1
    · exact hne (hcore hid).2.1
  · rintro (hs | hp | ⟨hcode, hne⟩ | ⟨hcode, hne⟩)
    · exact hsession hs
    · exact hp (by rw [Slice.len, hpath, List.length_nil])
    · exact hne (hmessage hcode)
    · exact hne (hlen hcode)

theorem core_of_validate (h : validate node true peer wire = .ok ())
    (hresponse : wire.response = false) (hid : wire.target.id = 0) :
    wire.command = coreResolveNameCommand ∧ wire.session ≠ 0 ∧ wire.source.id = 0 := by
  rw [validate, if_neg (by simp)] at h
  split at h
  · cases h
  rw [if_neg (by simp [hresponse])] at h
  split at h
  · cases h
  split at h
  · cases h
  next hshape =>
    simp only [not_or, not_not] at hshape
    exact ⟨hshape.1, hshape.2.1, hshape.2.2.1⟩

theorem peer_ne_nil_of_validate (h : validate node true peer wire = .ok ()) : peer ≠ [] := by
  rintro rfl
  rw [validate, if_neg (by simp), if_pos (by simp)] at h
  cases h

end Validate

/-! ### What the nodes make -/

section Made

variable {node : Text} {e : Envelope (Value ρ)} {encoded : Except Error (Slice UInt8)}
  {wire : WireEnvelope}

/-- An envelope of a node passes the check of the node it is addressed to. -/
structure Honest (node : Text) (wire : WireEnvelope) : Prop where
  valid : validate wire.target.node true node wire = .ok ()
  target_ne_nil : wire.target.node ≠ []

theorem len_of_encodeCoreResolveName {v : Value ρ} {payload : Slice UInt8}
    (h : encodeCoreResolveName v = .ok payload) : payload.len ≤ maxCoreServiceNameLength := by
  cases v with
  | name n =>
    rw [encodeCoreResolveName] at h
    split at h
    · cases h
    · next hlen =>
      cases h
      exact not_lt.1 hlen
  | ref r => cases h
  | other v => cases h

theorem len_of_encodeCoreResolveResponse {v : Value ρ} {payload : Slice UInt8}
    (h : encodeCoreResolveResponse node v = .ok payload) : payload.len = 8 := by
  cases v with
  | name n => cases h
  | ref r =>
    rw [encodeCoreResolveResponse] at h
    split at h
    · cases h
    · cases h
      rfl
  | other v => cases h

/-- What `send` makes of an envelope, and what it asks of one for the Core. -/
theorem send_eq (h : send node e encoded = .ok wire) (hsource : e.source ≠ .zero) :
    wire.source = e.source ∧ wire.target = e.target ∧ wire.session = e.session ∧
      wire.command = e.command ∧ wire.response = false ∧ wire.callPath.elems = e.callPath ∧
      wire.errorCode = [] ∧ wire.errorMessage = [] ∧
      (e.target.id = 0 → e.command = coreResolveNameCommand ∧ e.session ≠ 0 ∧ e.source.id = 0 ∧
        wire.payload.len ≤ maxCoreServiceNameLength) := by
  rw [send] at h
  simp only [if_neg hsource] at h
  by_cases hid : e.target.id = 0
  · simp only [if_pos hid] at h
    by_cases hshape : e.command ≠ coreResolveNameCommand ∨ e.session = 0 ∨ e.source.id ≠ 0
    · rw [if_pos hshape] at h
      cases h
    · rw [if_neg hshape] at h
      cases hname : encodeCoreResolveName e.payload with
      | error err =>
        rw [hname] at h
        cases h
      | ok payload =>
        rw [hname] at h
        cases h
        simp only [not_or, not_not] at hshape
        exact ⟨rfl, rfl, rfl, rfl, rfl, rfl, rfl, rfl, fun _ =>
          ⟨hshape.1, hshape.2.1, hshape.2.2, len_of_encodeCoreResolveName hname⟩⟩
  · simp only [if_neg hid] at h
    cases encoded with
    | error err => cases h
    | ok payload =>
      cases h
      exact ⟨rfl, rfl, rfl, rfl, rfl, rfl, rfl, rfl, fun h0 => absurd h0 hid⟩

/-- **Commands.** What `sendEnvelope` hands over passes the check, if a Send has no call path and
the path of a Call ends in its target. -/
theorem sendEnvelope_honest (hnode : node ≠ []) (hsource : e.source.node = node)
    (hsend : e.session = 0 → e.callPath = [])
    (hcall : e.session ≠ 0 → e.callPath.getLast? = some e.target)
    (h : wire ∈ sendEnvelope node e encoded) : Honest node wire := by
  have hzero : e.source ≠ .zero := by
    intro hz
    rw [hz] at hsource
    exact hnode hsource.symm
  rw [sendEnvelope] at h
  split at h
  · cases h
  next hremote =>
    rw [not_or] at hremote
    cases hwire : send node e encoded with
    | error err =>
      rw [hwire] at h
      cases h
    | ok w =>
      rw [hwire, List.mem_singleton] at h
      subst h
      obtain ⟨hs, ht, hsession, hcommand, hresponse, hpath, hcode, hmessage, hcore⟩ :=
        send_eq hwire hzero
      refine ⟨validate_command hnode (by rw [hs, hsource]) rfl hresponse hcode hmessage ?_
        ?_ ?_, ?_⟩
      · rw [ht, hcommand, hsession, hs]
        exact hcore
      · rw [hsession, hpath]
        exact hsend
      · rw [hsession, hpath, ht]
        exact hcall
      · rw [ht]
        exact hremote.2

/-- A reply is an error without a payload, or a payload without an error. -/
theorem reply_cases (node : Text) (responder caller : ServiceRef) (command : UInt32)
    (session : UInt64) (result : Except Error (Value ρ)) (encoded : Except Error (Slice UInt8)) :
    (∃ err, reply node responder caller command session result encoded =
        withError (response responder caller command session) err) ∨
      ∃ payload, (responder.id = 0 ∧ command = coreResolveNameCommand → payload.len = 8) ∧
        reply node responder caller command session result encoded =
          { response responder caller command session with payload := payload } := by
  cases result with
  | error err => exact .inl ⟨err, rfl⟩
  | ok value =>
    rw [reply]
    by_cases hcore : responder.id = 0 ∧ command = coreResolveNameCommand
    · simp only [if_pos hcore]
      cases hencode : encodeCoreResolveResponse node value with
      | error err => exact .inl ⟨_, rfl⟩
      | ok payload => exact .inr ⟨payload, fun _ => len_of_encodeCoreResolveResponse hencode, rfl⟩
    · simp only [if_neg hcore]
      cases encoded with
      | error err => exact .inl ⟨_, rfl⟩
      | ok payload => exact .inr ⟨payload, fun h => absurd h hcore, rfl⟩

section Reply

variable {responder caller : ServiceRef} {command : UInt32} {session : UInt64}

/-- **Errors.** An error for a Call passes the check of the caller's node. -/
theorem withError_honest (hnode : node ≠ []) (hresponder : responder.node = node)
    (hcaller : caller.node ≠ []) (hsession : session ≠ 0)
    (hcore : responder.id = 0 → command = coreResolveNameCommand ∧ caller.id = 0) (err : Error) :
    Honest node (withError (response responder caller command session) err) := by
  have hcode := encodeRemoteError_code_ne_nil err
  refine ⟨validate_response hnode hresponder rfl rfl hsession rfl (fun h => absurd h hcode)
    (fun _ => rfl) fun hid => ?_, hcaller⟩
  exact ⟨(hcore hid).1, (hcore hid).2, fun h => absurd h hcode⟩

/-- **Replies.** Whatever a handler replies passes the check of the caller's node. -/
theorem reply_honest (hnode : node ≠ []) (hresponder : responder.node = node)
    (hcaller : caller.node ≠ []) (hsession : session ≠ 0)
    (hcore : responder.id = 0 → command = coreResolveNameCommand ∧ caller.id = 0)
    (result : Except Error (Value ρ)) (encoded : Except Error (Slice UInt8)) :
    Honest node (reply node responder caller command session result encoded) := by
  rcases reply_cases node responder caller command session result encoded with
    ⟨err, hreply⟩ | ⟨payload, hlen, hreply⟩
  · rw [hreply]
    exact withError_honest hnode hresponder hcaller hsession hcore err
  · rw [hreply]
    refine ⟨validate_response hnode hresponder rfl rfl hsession rfl (fun _ => rfl)
      (fun h => absurd rfl h) fun hid => ?_, hcaller⟩
    exact ⟨(hcore hid).1, (hcore hid).2, fun _ => hlen ⟨hid, (hcore hid).1⟩⟩

end Reply

end Made

/-! ### What a node does with an honest envelope -/

/-- An error Response to a Call. -/
structure Refuses (wire answer : WireEnvelope) : Prop where
  response : answer.response = true
  errorCode : answer.errorCode ≠ []
  source : answer.source = wire.target
  target : answer.target = wire.source
  session : answer.session = wire.session
  command : answer.command = wire.command

theorem refusal_refuses (node : Text) (wire : WireEnvelope) (err : Error) :
    Refuses wire (refusal node wire err) :=
  ⟨rfl, encodeRemoteError_code_ne_nil err, rfl, rfl, rfl, rfl⟩

/-- What comes of an envelope and the answers to it. -/
structure Treated (wire : WireEnvelope) (fate : Fate ρ) (answers : List WireEnvelope) : Prop where
  not_invalid : ∀ err, fate ≠ .invalid err
  delivered : ∀ e, fate = .delivered e →
    e.source = wire.source ∧ e.target = wire.target ∧ e.target.id ≠ 0
  honest : ∀ answer ∈ answers, Honest wire.target.node answer
  failed : ∀ err, fate = .failed err → wire.session ≠ 0 →
    ∃ answer, answers = [answer] ∧ Refuses wire answer

section Receive

variable {peer : Text} {wire : WireEnvelope}

theorem Honest.source_ne_nil (h : Honest peer wire) : wire.source.node ≠ [] := by
  rw [(Pending.validate_ends h.valid).1]
  exact peer_ne_nil_of_validate h.valid

/-- An answer to an honest Call passes the check of the caller's node. -/
theorem Honest.reply (h : Honest peer wire) (hresponse : wire.response = false)
    (hsession : wire.session ≠ 0) (result : Except Error (Value ρ))
    (encoded : Except Error (Slice UInt8)) :
    Honest wire.target.node (Envelopes.reply wire.target.node wire.target wire.source wire.command
      wire.session result encoded) :=
  reply_honest h.target_ne_nil rfl h.source_ne_nil hsession
    (fun hid => ⟨(core_of_validate h.valid hresponse hid).1,
      (core_of_validate h.valid hresponse hid).2.2⟩) result encoded

theorem refuseCall_treated (h : Honest peer wire) (hresponse : wire.response = false)
    (err : Error) : Treated (ρ := ρ) wire (.failed err) (refuseCall wire.target.node wire err) := by
  refine ⟨fun _ => nofun, fun _ => nofun, fun answer hanswer => ?_, fun _ _ hsession => ?_⟩
  · rw [refuseCall] at hanswer
    split at hanswer
    · next hsession =>
      rw [List.mem_singleton] at hanswer
      rw [hanswer]
      exact h.reply hresponse hsession _ _
    · cases hanswer
  · exact ⟨_, if_pos hsession, refusal_refuses _ wire err⟩

theorem receiveCommand_treated (h : Honest peer wire) (hresponse : wire.response = false)
    (a : Answers ρ) :
    Treated wire (receiveCommand wire.target.node wire a).1
      (receiveCommand wire.target.node wire a).2 := by
  rw [receiveCommand]
  by_cases hid : wire.target.id = 0
  · have hsession : wire.session ≠ 0 := (core_of_validate h.valid hresponse hid).2.1
    have hrefuse : ∀ err, Treated (ρ := ρ) wire (.failed err)
        [refusal wire.target.node wire err] := by
      intro err
      have := refuseCall_treated (ρ := ρ) h hresponse err
      rwa [refuseCall, if_pos hsession] at this
    simp only [if_pos hid]
    cases decodeCoreResolveName wire.payload with
    | error err => exact hrefuse err
    | ok name =>
      cases a.resolved with
      | error err => exact hrefuse err
      | ok ref =>
        refine ⟨fun _ => nofun, fun _ => nofun, fun answer hanswer => ?_, fun _ => nofun⟩
        rw [List.mem_singleton] at hanswer
        rw [hanswer]
        exact h.reply hresponse hsession _ _
  · simp only [if_neg hid]
    cases a.decoded with
    | error err => exact refuseCall_treated h hresponse _
    | ok payload =>
      cases a.accepted with
      | some err => exact refuseCall_treated h hresponse err
      | none =>
        refine ⟨fun _ => nofun, fun e he => ?_, fun _ => nofun, fun _ => nofun⟩
        cases he
        exact ⟨rfl, rfl, hid⟩

theorem receive_treated (h : Honest peer wire) (a : Answers ρ) :
    Treated wire (receive wire.target.node peer wire a).1
      (receive wire.target.node peer wire a).2 := by
  simp only [receive, h.valid]
  by_cases hresponse : wire.response = true
  · rw [if_pos hresponse]
    exact ⟨fun _ => nofun, fun _ => nofun, fun _ => nofun, fun _ => nofun⟩
  · rw [if_neg hresponse]
    exact receiveCommand_treated h (Bool.not_eq_true _ ▸ hresponse) a

end Receive

/-! ### Runs -/

/-- What holds of everything handed over and received. -/
structure Inv (s : State ρ) : Prop where
  honest : ∀ x ∈ s.handed, Honest x.sender x.wire
  bounded : ∀ x ∈ s.handed, ∀ k, x.answers = some k → k < s.receipts.length
  /-- a receipt is of an honest envelope, and is treated as such -/
  received : ∀ r ∈ s.receipts, r.node = r.wire.target.node ∧ Honest r.peer r.wire ∧
    (∀ err, r.fate ≠ .invalid err) ∧ ∀ e, r.fate = .delivered e →
      e.source = r.wire.source ∧ e.target = r.wire.target ∧ e.target.id ≠ 0
  answered : ∀ k r err, s.receipts[k]? = some r → r.fate = .failed err → r.wire.session ≠ 0 →
    ∃ answer, s.answersTo k = [⟨r.node, answer, some k⟩] ∧ Refuses r.wire answer

section Runs

variable {s : State ρ}

theorem answersTo_hand (s : State ρ) (sender : Text) (answers : Option ℕ)
    (wires : List WireEnvelope) (k : ℕ) : (s.hand sender answers wires).answersTo k =
      s.answersTo k ++ if answers = some k then wires.map fun wire =>
      ⟨sender, wire, answers⟩ else [] := by
  rw [State.answersTo, State.hand, List.filter_append, State.answersTo]
  congr 1
  split_ifs with h
  · rw [List.filter_eq_self]
    intro x hx
    obtain ⟨wire, -, rfl⟩ := List.mem_map.1 hx
    exact decide_eq_true h
  · rw [List.filter_eq_nil_iff]
    intro x hx
    obtain ⟨wire, -, rfl⟩ := List.mem_map.1 hx
    rwa [decide_eq_true_eq]

theorem mem_hand {x : Handed} {sender : Text} {answers : Option ℕ} {wires : List WireEnvelope}
    (h : x ∈ (s.hand sender answers wires).handed) :
    x ∈ s.handed ∨ x.sender = sender ∧ x.answers = answers ∧ x.wire ∈ wires := by
  rcases List.mem_append.1 h with h | h
  · exact .inl h
  · obtain ⟨wire, hwire, rfl⟩ := List.mem_map.1 h
    exact .inr ⟨rfl, rfl, hwire⟩

/-- Handing over more honest envelopes, none of which answers a receipt that failed. -/
theorem Inv.hand (h : Inv s) {sender : Text} {answers : Option ℕ} {wires : List WireEnvelope}
    (hwires : ∀ wire ∈ wires, Honest sender wire)
    (hanswers : ∀ k, answers = some k → ∃ r e, s.receipts[k]? = some r ∧ r.fate = .delivered e) :
    Inv (s.hand sender answers wires) := by
  refine ⟨fun x hx => ?_, fun x hx k hk => ?_, h.received, fun k r err hr herr hsession => ?_⟩
  · rcases mem_hand hx with hx | ⟨hs, -, hw⟩
    · exact h.honest x hx
    · rw [hs]
      exact hwires _ hw
  · rcases mem_hand hx with hx | ⟨-, ha, -⟩
    · exact h.bounded x hx k hk
    · obtain ⟨r, -, hr, -⟩ := hanswers k (ha ▸ hk)
      exact (List.getElem?_eq_some_iff.1 hr).1
  · rw [answersTo_hand, if_neg, List.append_nil]
    · exact h.answered k r err hr herr hsession
    · intro hk
      obtain ⟨r', e, hr', he⟩ := hanswers k hk
      rw [show s.receipts[k]? = some r from hr] at hr'
      cases hr'
      rw [herr] at he
      cases he

/-- Receiving an honest envelope and answering it. -/
theorem Inv.deliver (h : Inv s) {peer : Text} {wire : WireEnvelope} (hwire : Honest peer wire)
    {fate : Fate ρ} {answers : List WireEnvelope} (htreated : Treated wire fate answers) :
    Inv { s.hand wire.target.node (some s.receipts.length) answers with
      receipts := s.receipts ++ [⟨wire.target.node, peer, wire, fate⟩] } := by
  refine ⟨fun x hx => ?_, fun x hx k hk => ?_, fun r hr => ?_, fun k r err hr herr hsession => ?_⟩
  · rcases mem_hand hx with hx | ⟨hs, -, hw⟩
    · exact h.honest x hx
    · rw [hs]
      exact htreated.honest _ hw
  · rw [List.length_append]
    rcases mem_hand hx with hx | ⟨-, ha, -⟩
    · exact Nat.lt_add_right _ (h.bounded x hx k hk)
    · rw [ha, Option.some_inj] at hk
      exact hk ▸ Nat.lt_succ_self _
  · rcases List.mem_append.1 hr with hr | hr
    · exact h.received r hr
    · rw [List.mem_singleton] at hr
      subst hr
      exact ⟨rfl, hwire, htreated.not_invalid, htreated.delivered⟩
  · show ∃ answer, (s.hand wire.target.node (some s.receipts.length) answers).answersTo k = _ ∧ _
    rw [answersTo_hand]
    have hr' : (s.receipts ++ [⟨wire.target.node, peer, wire, fate⟩])[k]? = some r := hr
    by_cases hlt : k < s.receipts.length
    · rw [List.getElem?_append_left hlt] at hr'
      rw [if_neg (fun hk => hlt.ne (Option.some_inj.1 hk).symm), List.append_nil]
      exact h.answered k r err hr' herr hsession
    · obtain ⟨hk, -⟩ := List.getElem?_eq_some_iff.1 hr'
      rw [List.length_append, List.length_singleton] at hk
      obtain rfl : k = s.receipts.length := by omega
      rw [List.getElem?_concat_length, Option.some_inj] at hr'
      subst hr'
      obtain ⟨answer, hanswers, hrefuses⟩ := htreated.failed err herr hsession
      -- nothing answered this receipt before it was made
      have hnone : s.answersTo s.receipts.length = [] := by
        rw [State.answersTo, List.filter_eq_nil_iff]
        intro x hx hk
        exact absurd (h.bounded x hx _ (of_decide_eq_true hk)) (lt_irrefl _)
      refine ⟨answer, ?_, hrefuses⟩
      rw [hnone, if_pos rfl, hanswers, List.nil_append, List.map_singleton]

theorem Caller.source_node (node : Text) (caller : Caller) : (caller.source node).node = node := by
  cases caller <;> rfl

theorem Caller.getLast?_path {node : Text} {target : ServiceRef} {caller : Caller}
    {path : List ServiceRef} (h : caller.path node target = .ok path) :
    path.getLast? = some target := by
  cases caller with
  | runtime =>
    cases h
    rfl
  | service id own =>
    simp only [Caller.path] at h
    generalize (if own.length = 0 then [(⟨node, id⟩ : ServiceRef)] else own) = p at h
    split at h
    · cases h
    · cases h
      rw [List.getLast?_append, List.getLast?_singleton, Option.some_or]

/-- **Step.** -/
theorem Inv.step {a : Action ρ} {s' : State ρ} (h : Inv s)
    (hstep : step s a = some s') : Inv s' := by
  cases a with
  | send node source target command payload encoded =>
    simp only [Envelopes.step, Option.ite_none_left_eq_some, Option.some_inj] at hstep
    obtain ⟨hnode, rfl⟩ := hstep
    refine h.hand (fun wire hwire => ?_) (fun k => nofun)
    exact sendEnvelope_honest hnode rfl (fun _ => rfl) (fun hne => absurd rfl hne) hwire
  | call node caller target command payload session encoded =>
    simp only [Envelopes.step, Option.ite_none_left_eq_some, not_or] at hstep
    obtain ⟨⟨hnode, hsession⟩, hstep⟩ := hstep
    cases hpath : caller.path node target with
    | error err =>
      rw [hpath] at hstep
      cases hstep
      exact h
    | ok path =>
      rw [hpath] at hstep
      cases hstep
      refine h.hand (fun wire hwire => ?_) (fun k => nofun)
      exact sendEnvelope_honest hnode (caller.source_node node) (fun hz => absurd hz hsession)
        (fun _ => Caller.getLast?_path hpath) hwire
  | resolveRemote node peer name session =>
    simp only [Envelopes.step, Option.ite_none_left_eq_some, not_or] at hstep
    obtain ⟨⟨hnode, hsession⟩, hstep⟩ := hstep
    split at hstep
    · cases hstep
      exact h
    · cases hstep
      refine h.hand (fun wire hwire => ?_) (fun k => nofun)
      exact sendEnvelope_honest hnode rfl (fun hz => absurd hz hsession) (fun _ => rfl) hwire
  | deliver k a =>
    obtain ⟨x, hx, rfl⟩ := Option.map_eq_some_iff.1 hstep
    have hwire := h.honest x (List.mem_of_getElem? hx)
    exact h.deliver hwire (receive_treated hwire a)
  | reply k result encoded =>
    simp only [Envelopes.step] at hstep
    split at hstep
    · next node peer wire e hr =>
      split at hstep
      · cases hstep
        exact h
      next hsession =>
        split at hstep
        · cases hstep
          exact h
        next hcaller =>
          cases hstep
          obtain ⟨hnode, hwire, -, hdelivered⟩ := h.received _ (List.mem_of_getElem? hr)
          obtain ⟨-, htarget, hid⟩ := hdelivered e rfl
          simp only at hnode htarget
          refine h.hand (fun answer hanswer => ?_) fun k' hk' => ?_
          · rw [List.mem_singleton] at hanswer
            rw [hanswer]
            exact reply_honest (hnode ▸ hwire.target_ne_nil) (by rw [htarget, hnode])
              (fun hz => hcaller (.inr hz)) hsession (fun hz => absurd hz hid) result encoded
          · cases hk'
            exact ⟨_, e, hr, rfl⟩
    · cases hstep

theorem reachable_inv (h : (system ρ).Reachable s) : Inv s := by
  refine h.invariant ?_ ?_
  · rintro _ rfl
    exact ⟨nofun, nofun, nofun, nofun⟩
  · exact fun s a s' hinv _ hstep => hinv.step hstep

/-- **Send and validate agree.** Every envelope that was handed to a transport passes the check of
the node it is addressed to, no node has refused one, and each Call that was received and could not
be delivered has one answer, an error that passes the check of the caller's node. -/
theorem honest_envelopes_valid (h : (system ρ).Reachable s) :
    (∀ x ∈ s.handed, validate x.wire.target.node true x.sender x.wire = .ok ()) ∧
      (∀ r ∈ s.receipts, ∀ err, r.fate ≠ .invalid err) ∧
      ∀ k r err, s.receipts[k]? = some r → r.fate = .failed err → r.wire.session ≠ 0 →
        ∃ answer, s.answersTo k = [⟨r.node, answer, some k⟩] ∧ Refuses r.wire answer ∧
          validate r.peer true r.node answer = .ok () := by
  have hinv := reachable_inv h
  refine ⟨fun x hx => (hinv.honest x hx).valid, fun r hr => (hinv.received r hr).2.2.1,
    fun k r err hr herr hsession => ?_⟩
  obtain ⟨answer, hanswers, hrefuses⟩ := hinv.answered k r err hr herr hsession
  have hmem : (⟨r.node, answer, some k⟩ : Handed) ∈ s.answersTo k := by
    rw [hanswers]
    exact List.mem_singleton_self _
  have hvalid := (hinv.honest _ (List.mem_of_mem_filter hmem)).valid
  obtain ⟨-, hwire, -⟩ := hinv.received r (List.mem_of_getElem? hr)
  refine ⟨answer, hanswers, hrefuses, ?_⟩
  rwa [hrefuses.target, (Pending.validate_ends hwire.valid).1] at hvalid

/-- Whether the envelope could not be delivered. -/
def Fate.isFailed : Fate ρ → Bool
  | .failed _ => true
  | _ => false

/-- Node `a` calls a Service of node `b` whose mailbox is full, and resolves a name there. -/
theorem honest_envelopes_valid_sample :
    ∃ s : State Unit, (system Unit).Reachable s ∧
      (∀ x ∈ s.handed, validate x.wire.target.node true x.sender x.wire = .ok ()) ∧
      s.handed.length = 4 ∧ ∃ k r, s.receipts[k]? = some r ∧ r.fate.isFailed = true ∧
        ∃ answer, s.answersTo k = [⟨r.node, answer, some k⟩] ∧ Refuses r.wire answer := by
  let answers : Answers Unit :=
    ⟨.ok (.other ()), .ok ⟨"b", 7⟩, some (.core .mailboxFull)⟩
  obtain ⟨s, hs, hp⟩ := System.exists_reachableUnder_of_run (system Unit) (fun _ _ => True)
    [.call "a" .runtime ⟨"b", 7⟩ 3 (.other ()) 1 (.ok .nil),
      .resolveRemote "a" "b" "name" 2,
      .deliver 0 answers, .deliver 1 answers]
    (fun s => s.handed.length == 4 &&
      (s.receipts[0]?).any fun r => r.fate.isFailed && r.wire.session ≠ 0) (s := {}) rfl
    (by decide +kernel)
  obtain ⟨hvalid, -, hanswered⟩ := honest_envelopes_valid hs
  simp only [Bool.and_eq_true, beq_iff_eq, Option.any_eq_true, decide_eq_true_eq] at hp
  obtain ⟨hlength, r, hr, hfailed, hsession⟩ := hp
  refine ⟨s, hs, hvalid, hlength, 0, r, hr, hfailed, ?_⟩
  cases hfate : r.fate with
  | failed err =>
    obtain ⟨answer, hanswers, hrefuses, -⟩ := hanswered 0 r err hr hfate hsession
    exact ⟨answer, hanswers, hrefuses⟩
  | _ =>
    rw [hfate] at hfailed
    cases hfailed

end Runs

end GameServiceRuntime.Runtime.Envelopes
