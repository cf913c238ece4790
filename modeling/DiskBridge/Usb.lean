import DiskBridge.Codec.Basic
import DiskBridge.Dialogue
import DiskBridge.Error
import DiskBridge.Text.Inspect

/-!
# USB

The part of a USB host that an adapter needs: finding a device among those on the bus, opening
and claiming it, and bulk transfers.
-/

namespace DiskBridge

namespace Usb

/-- Why a USB call failed. -/
inductive Fault where
  | inputOutput
  | badParameter
  | access
  | noDevice
  | notFound
  | busy
  | timeout
  | overflow
  | pipe
  | interrupted
  | noMemory
  | unsupported
  | badDescriptor
  | other
  deriving DecidableEq

namespace Fault

def all : List Fault :=
  [inputOutput, badParameter, access, noDevice, notFound, busy, timeout, overflow, pipe,
    interrupted, noMemory, unsupported, badDescriptor, other]

def name : Fault → String
  | inputOutput => "Io"
  | badParameter => "InvalidParam"
  | access => "Access"
  | noDevice => "NoDevice"
  | notFound => "NotFound"
  | busy => "Busy"
  | timeout => "Timeout"
  | overflow => "Overflow"
  | pipe => "Pipe"
  | interrupted => "Interrupted"
  | noMemory => "NoMem"
  | unsupported => "NotSupported"
  | badDescriptor => "BadDescriptor"
  | other => "Other"

def message : Fault → String
  | inputOutput => "Input/Output Error"
  | badParameter => "Invalid parameter"
  | access => "Access denied (insufficient permissions)"
  | noDevice => "No such device (it may have been disconnected)"
  | notFound => "Entity not found"
  | busy => "Resource busy"
  | timeout => "Operation timed out"
  | overflow => "Overflow"
  | pipe => "Pipe error"
  | interrupted => "System call interrupted (perhaps due to signal)"
  | noMemory => "Insufficient memory"
  | unsupported => "Operation not supported or unimplemented on this platform"
  | badDescriptor => "Malformed descriptor"
  | other => "Other error"

/-- The fault that a negative return code of the host stands for. -/
def ofCode (code : Int) : Fault :=
  match code with
  | -1 => inputOutput
  | -2 => badParameter
  | -3 => access
  | -4 => noDevice
  | -5 => notFound
  | -6 => busy
  | -7 => timeout
  | -8 => overflow
  | -9 => pipe
  | -10 => interrupted
  | -11 => noMemory
  | -12 => unsupported
  | _ => other

/-- What a fault means to the user of an adapter. -/
def toError : Fault → Error
  | noDevice => .access .noDevice
  | access => .access .permission
  | fault => .usb fault.message

end Fault

/-- Where a device is plugged in. -/
structure Location where
  bus : UInt8
  address : UInt8
  deriving DecidableEq

/-- The maker and the model of a device. -/
structure Identity where
  vendor : UInt16
  product : UInt16
  deriving DecidableEq

inductive Request where
  /-- Prepares the host for use. -/
  | prepare
  | logLevel (level : Nat)
  | list
  | descriptor (index : Nat)
  | openDevice (index : Nat)
  /-- Lets a kernel driver be detached when the interface is claimed. -/
  | detachDriver
  | claim
  | release
  | close
  | bulkWrite (bytes : List UInt8)
  | bulkRead (count : Nat)
  deriving DecidableEq

abbrev Request.Reply : Request → Type
  | .prepare | .openDevice _ | .detachDriver | .claim | .release => Except Fault Unit
  | .logLevel _ | .close => Unit
  | .list => Except Fault (List Location)
  | .descriptor _ => Except Fault Identity
  | .bulkWrite _ => Except Fault Nat
  | .bulkRead _ => Except Fault (List UInt8)

end Usb

/-- The interface of a USB host. -/
abbrev Usb : Interface where
  Request := Usb.Request
  Reply := Usb.Request.Reply

/-- A USB device and where it is plugged in. -/
structure UsbInfo where
  identity : Usb.Identity
  location : Usb.Location
  deriving DecidableEq

namespace UsbInfo

def inspect (info : UsbInfo) : String :=
  Inspect.record "UsbInfo"
    [("vendor_id", toString info.identity.vendor),
      ("product_id", toString info.identity.product),
      ("bus_number", toString info.location.bus),
      ("device_address", toString info.location.address)]

/-- The lines printed for a reader. -/
def lines (info : UsbInfo) : List String :=
  ["  - device: " ++ paddedDigits 16 4 info.identity.vendor.toNat ++ ":"
      ++ paddedDigits 16 4 info.identity.product.toNat,
    "  - bus/address: " ++ paddedDigits 10 3 info.location.bus.toNat ++ "-"
      ++ paddedDigits 10 3 info.location.address.toNat]

instance : Codec UsbInfo where
  write info :=
    Codec.write info.identity.vendor ++ Codec.write info.identity.product
      ++ Codec.write info.location.bus ++ Codec.write info.location.address
  read := do
    let vendor ← Codec.read
    let product ← Codec.read
    let bus ← Codec.read
    let address ← Codec.read
    return ⟨⟨vendor, product⟩, ⟨bus, address⟩⟩

end UsbInfo

end DiskBridge
