import GameServiceRuntime.Lib.Table
import GameServiceRuntime.Lib.Text
import GameServiceRuntime.Lib.Transition

/-!
# Sessions, tickets and proofs

The values of `tooling/entry` and the checks made of them. A login has a ticket issued for a
session; a gateway presents proofs made with the secret of the session. Sessions are kept by the
ticket's identifier and server. The keyed hash is a parameter.

A definition without a text of its own has the name of what it models.
-/

namespace GameServiceRuntime.Entry

/-- A point in time; the zero time is `0`. -/
abbrev Time := ℤ

/-- A string of bytes. -/
abbrev Bytes := List UInt8

structure AuthIdentity where
  accountID : Text
  playerID : Text
  server : Text
  deriving DecidableEq

structure LoginTicket where
  uid : Text := []
  subID : Text := []
  server : Text := []
  secretRef : Text := []
  generation : UInt64 := 0
  expiresAt : Time := 0
  deriving DecidableEq

structure SessionIdentity where
  uid : Text
  subID : Text
  playerID : Text
  server : Text
  generation : UInt64
  deriving DecidableEq

structure GatewayProof where
  uid : Text
  subID : Text
  server : Text
  generation : UInt64
  sequence : UInt64
  mac : Bytes
  deriving DecidableEq

structure SessionKey where
  uid : Text
  server : Text
  deriving DecidableEq

/-- The errors of the package. -/
inductive Err
  | invalidIdentity
  | invalidTicket
  | unauthorized
  | ticketExpired
  | sessionRevoked
  | invalidProof
  | proofReplay
  | sessionCapacity
  /-- The random source failed. -/
  | random
  deriving DecidableEq

/-- What the registry is set up with. -/
structure Config where
  /-- `RegistryConfig.Capacity` after the default. -/
  capacity : ℕ
  /-- Whether a code is the keyed hash of a proof's other fields. -/
  hmac : Bytes → GatewayProof → Bool

def validText (value : Text) : Bool := value.validString && !value.blank

def validIdentity (identity : AuthIdentity) : Bool :=
  validText identity.accountID && validText identity.playerID && validText identity.server

def validTicket (ticket : LoginTicket) : Bool :=
  validText ticket.uid && validText ticket.subID && validText ticket.server &&
    ticket.secretRef ≠ [] && ticket.generation ≠ 0 && ticket.expiresAt ≠ 0

def validProofFields (proof : GatewayProof) : Bool :=
  validText proof.uid && validText proof.subID && validText proof.server &&
    proof.generation ≠ 0 && proof.sequence ≠ 0

def verifyGatewayProof (cfg : Config) (secret : Bytes) (proof : GatewayProof) : Bool :=
  32 ≤ secret.length && validProofFields proof && proof.mac.length = 32 && cfg.hmac secret proof

/-- The key of the session a ticket is for. -/
def LoginTicket.key (ticket : LoginTicket) : SessionKey := ⟨ticket.uid, ticket.server⟩

/-- The key of the session a proof is for. -/
def GatewayProof.key (proof : GatewayProof) : SessionKey := ⟨proof.uid, proof.server⟩

/-- What `IsBound` asks of its arguments. -/
def wellFormed (identity : SessionIdentity) (connectionID : Text) : Bool :=
  validText identity.uid && validText identity.subID && validText identity.playerID &&
    validText identity.server && identity.generation ≠ 0 && validText connectionID

end GameServiceRuntime.Entry
