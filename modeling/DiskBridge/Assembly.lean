import DiskBridge.Adapter.Setup
import DiskBridge.Config
import DiskBridge.Remote.Client

/-!
# Assembling a drive

What is chosen before a drive is made: the bus it uses, an adapter on this machine or a bridge
elsewhere, and its configuration. A bridge cannot be chosen once a USB host was given.
-/

namespace DiskBridge

structure Assembly where
  /-- A USB host was given. It is used up by the next adapter. -/
  hasHost : Bool := false
  wanted : Adapter.Wanted := {}
  /-- The address of a bridge. -/
  address : Option Address := none
  config : Config := .standard
  deriving DecidableEq

namespace Assembly

open Dialogue

def inspect (assembly : Assembly) : String :=
  Inspect.record "Ch376Builder"
    [("usb_context", if assembly.hasHost then "Some(..)" else "None"),
      ("index", Inspect.option toString assembly.wanted.index),
      ("int_pin", Inspect.option toString assembly.wanted.intPin),
      ("remote_addr", Inspect.option Address.text assembly.address),
      ("config", assembly.config.inspect)]

/-- Chooses a bridge. -/
def setRemote (assembly : Assembly) (address : Address) : Except Error Assembly :=
  if assembly.hasHost then
    .error (.setup
      "Cannot set remote address when (local) USB context is already configured")
  else .ok { assembly with address := some address }

/-- What is said of a text that leads to no address. -/
def resolveError : Address.ResolveError → Error
  | .noPort => failure "Failed to resolve address: invalid socket address" Errno.invalidArgument
  | .badPort => failure "Failed to resolve address: invalid port value" Errno.invalidArgument
  | .cutHost =>
    failure "Failed to resolve address: file name contained an unexpected NUL byte"
      Errno.invalidArgument
  | .unknownHost =>
    failure ("Failed to resolve address: failed to lookup address information: "
      ++ "Name or service not known") Errno.invalidArgument
where
  /-- An address that could not be found. -/
  failure (message : String) (errno : Int32) : Error :=
    .access (.addressResolution message errno)

/-- Chooses a bridge by the text of its address. -/
def setRemoteText (assembly : Assembly) (text : String) : Except Error Assembly :=
  match Address.resolve text with
  | .ok address => assembly.setRemote address
  | .error error => .error (resolveError error)

/-- Chooses the bridge on this machine. -/
def setRemoteStandard (assembly : Assembly) : Except Error Assembly :=
  assembly.setRemoteText Address.standard.text

/-- The log level a host is prepared with. -/
def hostLogLevel : Nat := 3

/-- Prepares a USB host and chooses it. -/
def addHost (assembly : Assembly) : Dialogue Usb Error Assembly := do
  Adapter.call .prepare id
  return { assembly with hasHost := true }

/-- Opens the adapter, preparing a host if none was given. -/
def openAdapter (assembly : Assembly) : Dialogue Usb Error (Adapter × UsbInfo) := do
  if !assembly.hasHost then
    Adapter.call .prepare id
    ask (.logLevel hostLogLevel) .done
  Adapter.acquire assembly.wanted true

/-- Opens the adapter and lets go of it at once. -/
def tryAdapter (assembly : Assembly) : Dialogue Usb Error Unit := do
  let _ ← assembly.openAdapter
  Adapter.drop

/-- What is left to choose from after an adapter was asked for. -/
def afterAdapter (assembly : Assembly) : Assembly := { assembly with hasHost := false }

end Assembly

end DiskBridge
