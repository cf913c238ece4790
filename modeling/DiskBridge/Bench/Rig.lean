import DiskBridge.Adapter.Pins
import DiskBridge.Bench.UsbScript
import DiskBridge.Bench.Wire
import DiskBridge.Remote.Client
import DiskBridge.Remote.Server

/-!
# Rigs

A rig is a bus with a chip on the bench somewhere behind it: at its own end, behind an adapter, or
behind a bridge.
-/

namespace DiskBridge.Bench

/-- A bus, and how to reach the chip on the bench behind it. -/
structure Rig (σ : Type) where
  bus : Machine Bus σ
  wire : σ → Wire
  setWire : Wire → σ → σ

namespace Rig

/-- The chip itself. -/
def plain : Rig Wire where
  bus := Wire.device
  wire := id
  setWire := fun wire _ => wire

/-- A USB host, and behind an adapter the chip. Its interrupt is on `intPin`, or else on the
data line. -/
def host (intPin : Option UInt8) : Machine Usb (UsbScript × Adapter.Pins Wire) :=
  UsbScript.host (Adapter.Pins.obey Wire.device (intPin.getD Adapter.dataPin))

/-- What stands behind the host at first. -/
def behindHost (intPin : Option UInt8) (wire : Wire) : Adapter.Pins Wire :=
  { behind := { wire with needsRoute := intPin.isNone } }

/-- The chip behind an adapter. -/
def adapter (intPin : Option UInt8) : Rig (Adapter × UsbScript × Adapter.Pins Wire) where
  bus := Adapter.device (host intPin)
  wire := fun (_, _, pins) => pins.behind
  setWire := fun wire (adapter, script, pins) => (adapter, script, { pins with behind := wire })

/-- The chip behind a bridge. -/
def bridge : Rig (Remote.Server.Peer Wire) where
  bus := Remote.Client.device (Remote.Server.peer Wire.device)
  wire := (·.device)
  setWire := fun wire peer => { peer with device := wire }

end Rig

/-- A USB bus with one adapter on it. -/
def oneAdapter : UsbScript := { devices := [(Adapter.identity, ⟨1, 2⟩)] }

end DiskBridge.Bench
