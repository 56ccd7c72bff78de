import GameServiceRuntime.Runtime.Permits
import GameServiceRuntime.Runtime.Completion
import GameServiceRuntime.Runtime.Envelopes
import GameServiceRuntime.Runtime.Registry
import GameServiceRuntime.Runtime.CloseResult
import GameServiceRuntime.ServiceGroup.Canonical
import GameServiceRuntime.ServiceGroup.Leases
import GameServiceRuntime.Control.Mailbox
import GameServiceRuntime.Entry.Proof
import GameServiceRuntime.Entry.Secrets
import GameServiceRuntime.Snapshot.Store
import GameServiceRuntime.Record.Archive
import GameServiceRuntime.Game.SharedLedger
import GameServiceRuntime.Game.Notified
import GameServiceRuntime.Supervisor.Fencing
import GameServiceRuntime.Tooling.Decorators
import GameServiceRuntime.Game.Outcome
import GameServiceRuntime.Game.Balances
import GameServiceRuntime.Game.Atomic
import GameServiceRuntime.Game.Room
import GameServiceRuntime.Game.Player
import GameServiceRuntime.Nhsk.Secrecy
import GameServiceRuntime.Nhsk.Opportunity
import GameServiceRuntime.Control.Advance
import GameServiceRuntime.Nhsk.Adjust
import GameServiceRuntime.Nhsk.Rotation
import GameServiceRuntime.Nhsk.Endings
import GameServiceRuntime.Nhsk.ControlFrame
import GameServiceRuntime.Nhsk.Factory
import GameServiceRuntime.Transport.Framing
