import DiskBridge.Address
import DiskBridge.Dialogue
import DiskBridge.Error.Message

/-!
# The network

Faults of the system's network calls, connections as streams of bytes, their sending side, and
what becomes of an attempt to connect.
-/

namespace DiskBridge

namespace Network

/-- A failed call of the system: its text, and its error number if it has one. -/
structure Fault where
  text : String
  code : Option Int32 := none
  deriving DecidableEq

namespace Fault

def message (fault : Fault) : String :=
  match fault.code with
  | some code => fault.text ++ s!" (os error {code})"
  | none => fault.text

/-- The error number, input/output error if there is none. -/
def errno (fault : Fault) : Int32 := fault.code.getD Errno.inputOutput

/-- Nobody listens at the address. -/
def refused : Fault := ⟨"Connection refused", some 111⟩

/-- No route leads to the address. -/
def unreachable : Fault := ⟨"Network is unreachable", some 101⟩

/-- Somebody listens at the address already. -/
def addressInUse : Fault := ⟨"Address already in use", some 98⟩

/-- The stream ended before all bytes asked for had arrived. -/
def endOfStream : Fault := ⟨"failed to fill whole buffer", none⟩

end Fault

/-- The sending side of a connection: it takes every write, or some more writes and then fails. -/
inductive Outlet where
  | steady
  | failing (writes : Nat) (fault : Fault)
  deriving DecidableEq

namespace Outlet

/-- What one more write leaves of the sending side. -/
def write : Outlet → Except Fault Outlet
  | steady => .ok steady
  | failing 0 fault => .error fault
  | failing (writes + 1) fault => .ok (failing writes fault)

end Outlet

/-- Questions to a connection. -/
inductive Request where
  | send (bytes : List UInt8)
  /-- Waits for exactly `count` bytes. -/
  | receive (count : Nat)
  deriving DecidableEq

abbrev Request.Reply : Request → Type
  | .send _ => Except Fault Unit
  | .receive _ => Except Fault (List UInt8)

end Network

/-- The interface of a connection. -/
abbrev Stream : Interface where
  Request := Network.Request
  Reply := Network.Request.Reply

/-- A network as one machine sees it. -/
structure Network where
  /-- Whether connections can be made at all. -/
  routed : Bool
  /-- Where somebody listens. -/
  listening : Address → Bool

namespace Network

/-- What becomes of an attempt to connect. -/
def connect (network : Network) (address : Address) : Except Fault Unit :=
  if !network.routed then .error .unreachable
  else if network.listening address then .ok ()
  else .error .refused

end Network

end DiskBridge
