import GameServiceRuntime.Lib.Text

/-!
# Errors between nodes

A handler's error crosses to another node as a code and a message. The responder looks for the first
error of a table that `errors.Is` finds in it and sends its code; the caller looks the code up in
the same table. What is in no entry crosses as text.

An error value is a tree. The Core's errors are leaves with an identity; every other error has a
text, an `Is` method of its own that may match whatever it likes, and the errors it unwraps to,
none, one or many. `RemoteError` has none of these.

One code is one error. An error that matches two of the table arrives as the first, and one that
matches an error that is not in the table arrives without it.
-/

namespace GameServiceRuntime.Runtime

/-- The errors that `errors.go` declares. -/
inductive CoreError
  | timeout
  | replyTwice
  | serviceNotFound
  | serviceClosed
  | mailboxFull
  | invalidServiceSpec
  | runtimeClosed
  | replyUnavailable
  | replyExpired
  | unknownCommand
  | serviceNameConflict
  | callCycle
  | callNotAllowed
  | serviceFailed
  | stopTimeout
  | closeTimeout
  | invalidClusterConfig
  | clusterStart
  | remoteUnavailable
  | invalidClusterEnvelope
  | payloadEncode
  | payloadDecode
  | invalidRunnerConfig
  | runnerNameConflict
  | invalidRunnerTarget
  | runnerQueueFull
  | runnerClosed
  | runnerAwaitNotAllowed
  | runnerPanic
  deriving DecidableEq

/-- The texts of `errors.go`. -/
def CoreError.text : CoreError → String
  | .timeout => "gsr: call timed out"
  | .replyTwice => "gsr: reply already sent"
  | .serviceNotFound => "gsr: service not found"
  | .serviceClosed => "gsr: service closed"
  | .mailboxFull => "gsr: mailbox full"
  | .invalidServiceSpec => "gsr: invalid service spec"
  | .runtimeClosed => "gsr: runtime closed"
  | .replyUnavailable => "gsr: reply unavailable"
  | .replyExpired => "gsr: reply expired"
  | .unknownCommand => "gsr: unknown command"
  | .serviceNameConflict => "gsr: service name conflict"
  | .callCycle => "gsr: synchronous call cycle"
  | .callNotAllowed => "gsr: service call not allowed in this context"
  | .serviceFailed => "gsr: service failed"
  | .stopTimeout => "gsr: service stop timed out"
  | .closeTimeout => "gsr: close timed out"
  | .invalidClusterConfig => "gsr: invalid cluster config"
  | .clusterStart => "gsr: cluster transport start failed"
  | .remoteUnavailable => "gsr: remote node unavailable"
  | .invalidClusterEnvelope => "gsr: invalid cluster envelope"
  | .payloadEncode => "gsr: cluster payload encode failed"
  | .payloadDecode => "gsr: cluster payload decode failed"
  | .invalidRunnerConfig => "gsr: invalid runner config"
  | .runnerNameConflict => "gsr: runner name conflict"
  | .invalidRunnerTarget => "gsr: invalid runner target"
  | .runnerQueueFull => "gsr: runner queue full"
  | .runnerClosed => "gsr: runner closed"
  | .runnerAwaitNotAllowed => "gsr: runner await not allowed in this context"
  | .runnerPanic => "gsr: runner processor panicked"

/-- An error value. -/
inductive Error
  | core (s : CoreError)
  /-- `RemoteError` -/
  | remote (code message : Text)
  /-- any other one: what its `Is` method matches, its text, and what it unwraps to -/
  | other (matched : CoreError → Bool) (text : Text) (causes : List Error)

mutual

def Error.is (target : CoreError) : Error → Bool
  | .core s => s = target
  | .remote _ _ => false
  | .other matched _ causes => matched target || anyIs target causes

/-- `errors.Is` of one of the errors. -/
def anyIs (target : CoreError) : List Error → Bool
  | [] => false
  | e :: causes => e.is target || anyIs target causes

end

/-- `Error()` -/
def Error.text : Error → Text
  | .core s => .ofString s.text
  | .remote _ message =>
    if message = [] then "gsr: remote error"
    else "gsr: remote error: " ++ message
  | .other _ text _ => text

def stableRemoteErrors : List (Text × CoreError) :=
  [("timeout", .timeout),
    ("reply_twice", .replyTwice),
    ("service_not_found", .serviceNotFound),
    ("service_closed", .serviceClosed),
    ("mailbox_full", .mailboxFull),
    ("invalid_service_spec", .invalidServiceSpec),
    ("runtime_closed", .runtimeClosed),
    ("reply_unavailable", .replyUnavailable),
    ("reply_expired", .replyExpired),
    ("unknown_command", .unknownCommand),
    ("service_name_conflict", .serviceNameConflict),
    ("call_cycle", .callCycle),
    ("call_not_allowed", .callNotAllowed),
    ("service_failed", .serviceFailed),
    ("stop_timeout", .stopTimeout),
    ("close_timeout", .closeTimeout),
    ("invalid_cluster_config", .invalidClusterConfig),
    ("cluster_start", .clusterStart),
    ("remote_unavailable", .remoteUnavailable),
    ("invalid_envelope", .invalidClusterEnvelope),
    ("payload_encode", .payloadEncode),
    ("payload_decode", .payloadDecode)]

/-- `stableRemoteErrorsByCode`; a later definition of a code would replace an earlier one. -/
def stableRemoteErrorsByCode (code : Text) : Option CoreError :=
  (stableRemoteErrors.reverse.find? fun definition => definition.1 = code).map Prod.snd

def maxRemoteErrorMessageLength : ℕ := 4096

def encodeRemoteError (err : Error) : Text × Text :=
  match stableRemoteErrors.find? fun definition => err.is definition.2 with
  | some definition => (definition.1, [])
  | none => ("remote", err.text.take maxRemoteErrorMessageLength)

def decodeRemoteError (code message : Text) : Error :=
  match stableRemoteErrorsByCode code with
  | some s => .core s
  | none => .remote code message

/-- The error that the caller receives. -/
def transfer (err : Error) : Error :=
  decodeRemoteError (encodeRemoteError err).1 (encodeRemoteError err).2

/-- The errors that have a code. -/
def CoreError.Stable (s : CoreError) : Prop := s ∈ stableRemoteErrors.map Prod.snd

instance (s : CoreError) : Decidable s.Stable := inferInstanceAs (Decidable (_ ∈ _))

section Transfer

variable {err : Error} {s : CoreError}

/-- Every code is looked up to its own error. -/
theorem stableRemoteErrorsByCode_eq {definition : Text × CoreError}
    (h : definition ∈ stableRemoteErrors) :
    stableRemoteErrorsByCode definition.1 = some definition.2 := by
  have hall : ∀ definition ∈ stableRemoteErrors,
      stableRemoteErrorsByCode definition.1 = some definition.2 := by decide +kernel
  exact hall definition h

theorem stableRemoteErrorsByCode_remote : stableRemoteErrorsByCode "remote" = none := by
  decide +kernel

/-- An error arrives as the first one of the table that it matches, or as text if it matches
none. -/
theorem transfer_cases (err : Error) :
    (∃ s, s.Stable ∧ err.is s = true ∧ transfer err = .core s) ∨
      (∀ s, s.Stable → err.is s = false) ∧
        transfer err = .remote "remote"
          (err.text.take maxRemoteErrorMessageLength) := by
  rw [transfer, encodeRemoteError]
  cases hfind : stableRemoteErrors.find? fun definition => err.is definition.2 with
  | some definition =>
    have hmem := List.mem_of_find?_eq_some hfind
    have his : err.is definition.2 = true :=
      List.find?_some (p := fun definition : Text × CoreError => err.is definition.2) hfind
    refine .inl ⟨definition.2, List.mem_map_of_mem hmem, his, ?_⟩
    simp only [decodeRemoteError, stableRemoteErrorsByCode_eq hmem]
  | none =>
    refine .inr ⟨fun s hs => ?_, ?_⟩
    · obtain ⟨definition, hmem, rfl⟩ := List.mem_map.1 hs
      simpa using List.find?_eq_none.1 hfind definition hmem
    · simp only [decodeRemoteError, stableRemoteErrorsByCode_remote]

theorem is_core {t : CoreError} : (Error.core s).is t = true ↔ s = t := by
  rw [Error.is, decide_eq_true_eq]

theorem not_is_remote {code message : Text} : (Error.remote code message).is s = false := by
  rw [Error.is]

/-- **Remote error fidelity.** What an error matches is kept exactly if it matches at most one error
of the Core and that one has a code. An error that matches none arrives as a `RemoteError`, which
matches none. -/
theorem remote_error_fidelity (err : Error) :
    ((∀ s, err.is s = true → (transfer err).is s = true) ↔
        (∀ s, err.is s = true → s.Stable) ∧
        ∀ s t, err.is s = true → err.is t = true → s = t) ∧
      ((∀ s, err.is s = false) → (∃ code message, transfer err = .remote code message) ∧
        ∀ s, (transfer err).is s = false) := by
  rcases transfer_cases err with ⟨s₀, hstable, hs₀, htransfer⟩ | ⟨hnone, htransfer⟩
  · rw [htransfer]
    constructor
    · simp only [is_core]
      constructor
      · intro h
        refine ⟨fun s hs => h s hs ▸ hstable, fun s t hs ht => ?_⟩
        rw [← h s hs, ← h t ht]
      · rintro ⟨-, hunique⟩ s hs
        exact hunique s₀ s hs₀ hs
    · intro h
      rw [h s₀] at hs₀
      cases hs₀
  · rw [htransfer]
    constructor
    · simp only [not_is_remote, Bool.false_eq_true, imp_false, Bool.not_eq_true]
      constructor
      · intro h
        refine ⟨fun s hs => ?_, fun s t hs => ?_⟩ <;>
        · rw [h s] at hs
          cases hs
      · rintro ⟨hstable, -⟩ s
        by_contra hs
        rw [Bool.not_eq_false] at hs
        rw [hnone s (hstable s hs)] at hs
        cases hs
    · exact fun _ => ⟨⟨_, _, rfl⟩, fun s => not_is_remote⟩

/-- An error of the Core without a code, and two with codes joined: what they match does not
arrive. -/
theorem remote_error_lost :
    ((Error.core .runnerClosed).is .runnerClosed = true ∧
      (transfer (.core .runnerClosed)).is .runnerClosed = false) ∧
    ((Error.other (fun _ => false) [] [.core .serviceClosed, .core .timeout]).is
      .serviceClosed = true ∧
      (transfer (.other (fun _ => false) [] [.core .serviceClosed, .core .timeout])).is
        .serviceClosed = false) := by
  decide +kernel

end Transfer

end GameServiceRuntime.Runtime
