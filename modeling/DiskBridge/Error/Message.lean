import DiskBridge.Error
import DiskBridge.Text.Inspect

/-!
# Error texts

The message, the system error number and the inspection text of every error.
-/

namespace DiskBridge

/-! ## System error numbers -/

namespace Errno

def noEntry : Int32 := 2
def inputOutput : Int32 := 5
def accessDenied : Int32 := 13
def busy : Int32 := 16
def noDevice : Int32 := 19
def invalidArgument : Int32 := 22
def nameTooLong : Int32 := 36
def timedOut : Int32 := 110

end Errno

namespace TrafficError

def message : TrafficError → String
  | shortTransfer expected actual =>
    s!"Short transfer: expected {expected} bytes, got {actual}"
  | transactionOpen => "Transaction already in progress"
  | noTransaction => "No transaction in progress"
  | selfTest sent expected actual =>
    "Self-test failed: sent 0x" ++ hexByte sent ++ ", expected 0x" ++ hexByte expected
      ++ ", got 0x" ++ hexByte actual
  | remoteGone message errno => s!"Remote disconnected: {message} {errno}"
  | remote message errno =>
    s!"Hit an error communicating with a remote device: {message}, {errno}"

/-- The name of the variant. -/
def name : TrafficError → String
  | shortTransfer .. => "ShortTransfer"
  | transactionOpen => "TransactionInProgress"
  | noTransaction => "NoTransaction"
  | selfTest .. => "SelfTest"
  | remoteGone .. => "RemoteDisconnected"
  | remote .. => "Remote"

def errno : TrafficError → Int32
  | transactionOpen => Errno.busy
  | remoteGone _ errno | remote _ errno => errno
  | shortTransfer .. | noTransaction | selfTest .. => Errno.inputOutput

def inspect (error : TrafficError) : String :=
  match error with
  | shortTransfer expected actual =>
    Inspect.record error.name [("expected", toString expected), ("actual", toString actual)]
  | selfTest sent expected actual =>
    Inspect.record error.name
      [("sent", toString sent), ("expected", toString expected), ("actual", toString actual)]
  | remoteGone message errno | remote message errno =>
    Inspect.record error.name [("message", Inspect.quoted message), ("errno", toString errno)]
  | transactionOpen | noTransaction => error.name

end TrafficError

namespace AccessError

def message : AccessError → String
  | noDevice => "The library is not connected to a device"
  | notFound vendor product =>
    "SPI adapter " ++ paddedDigits 16 4 vendor.toNat ++ "/" ++ paddedDigits 16 4 product.toNat
      ++ " not found - is it connected and do you have permissions to access it?"
  | permission =>
    "Hit USB permissions error while attempting to access the SPI adapter.  Are you sure you "
      ++ "have suitable permissions?  You may need to reconfigure udev rules in "
      ++ "/etc/udev/rules.d/."
  | addressResolution message _ => "Failed to resolve network address: " ++ message
  | network message _ => "Failed to connect to remote device: " ++ message

def name : AccessError → String
  | noDevice => "NoDevice"
  | notFound .. => "NotFound"
  | permission => "Permission"
  | addressResolution .. => "AddressResolution"
  | network .. => "NetworkConnection"

def errno : AccessError → Int32
  | noDevice => Errno.noDevice
  | notFound .. => Errno.noEntry
  | permission => Errno.accessDenied
  | addressResolution _ errno | network _ errno => errno

def inspect (error : AccessError) : String :=
  match error with
  | notFound vendor product =>
    Inspect.record error.name [("vid", toString vendor), ("pid", toString product)]
  | addressResolution message errno | network message errno =>
    Inspect.record error.name [("message", Inspect.quoted message), ("errno", toString errno)]
  | noDevice | permission => error.name

end AccessError

namespace PathError

def message : PathError → String
  | empty => "Path is empty"
  | notAbsolute path => s!"Path {path} does not start with '/'"
  | nameTooLong segment limit => s!"Path segment {segment} is longer than {limit} characters"
  | missingLeaf path => s!"Path {path} has no file or directory name after the final '/'"
  | directoryOpen segment status =>
    s!"Failed to open directory {segment}: " ++ status.text

def name : PathError → String
  | empty => "Empty"
  | notAbsolute _ => "NotAbsolute"
  | nameTooLong .. => "SegmentTooLong"
  | missingLeaf _ => "MissingLeaf"
  | directoryOpen .. => "DirectoryOpen"

def errno : PathError → Int32
  | nameTooLong .. => Errno.nameTooLong
  | directoryOpen .. => Errno.noEntry
  | empty | notAbsolute _ | missingLeaf _ => Errno.invalidArgument

def inspect (error : PathError) : String :=
  match error with
  | empty => error.name
  | notAbsolute path | missingLeaf path =>
    Inspect.record error.name [("path", Inspect.quoted path)]
  | nameTooLong segment limit =>
    Inspect.record error.name [("segment", Inspect.quoted segment), ("max", toString limit)]
  | directoryOpen segment status =>
    Inspect.record error.name
      [("segment", Inspect.quoted segment), ("status", status.inspect)]

end PathError

namespace StreamError

def message : StreamError → String
  | chunkOverrun offered remaining =>
    s!"Chip offered a {offered} byte chunk with only {remaining} bytes left in the transfer"

def name : StreamError → String
  | chunkOverrun .. => "ChunkOverrun"

def inspect (error : StreamError) : String :=
  match error with
  | chunkOverrun offered remaining =>
    Inspect.record error.name
      [("offered", toString offered), ("remaining", toString remaining)]

end StreamError

namespace Error

def message : Error → String
  | usb message =>
    "USB error while attempting to communicate with the SPI adapter: " ++ message
  | setup message => "Device initialization failed: " ++ message
  | traffic kind => "Device communication error: " ++ kind.message
  | timeout span => "Device operation timed out after " ++ span.inspect
  | access kind => kind.message
  | arguments message => "ch376 library called with invalid arguments: " ++ message
  | unexpectedStatus command status =>
    "CH376 returned unexpected status " ++ status.text ++ " for " ++ command.text
  | path kind => "Path resolution failed: " ++ kind.message
  | stream kind => "Streaming transfer failed: " ++ kind.message

/-- The name of the variant. -/
def name : Error → String
  | usb _ => "Usb"
  | setup _ => "Init"
  | traffic _ => "Communication"
  | timeout _ => "Timeout"
  | access _ => "DeviceAccess"
  | arguments _ => "Args"
  | unexpectedStatus .. => "UnexpectedStatus"
  | path _ => "Path"
  | stream _ => "Stream"

/-- The name of the inner variant of those errors that have one. -/
def kindName? : Error → Option String
  | usb _ => some "UsbError"
  | traffic kind => some kind.name
  | access kind => some kind.name
  | path kind => some kind.name
  | stream kind => some kind.name
  | setup _ | timeout _ | arguments _ | unexpectedStatus .. => none

/-- The system error number that describes the error best. -/
def errno : Error → Int32
  | usb _ | setup _ | stream _ => Errno.inputOutput
  | traffic kind => kind.errno
  | timeout _ => Errno.timedOut
  | access kind => kind.errno
  | arguments _ => Errno.invalidArgument
  | unexpectedStatus _ .missing => Errno.noEntry
  | unexpectedStatus _ .diskGone => Errno.noDevice
  | unexpectedStatus .. => Errno.inputOutput
  | path kind => kind.errno

def inspect (error : Error) : String :=
  match error with
  | usb message =>
    Inspect.tuple error.name
      [Inspect.record "UsbError" [("message", Inspect.quoted message)]]
  | setup message | arguments message =>
    Inspect.record error.name [("message", Inspect.quoted message)]
  | traffic kind => Inspect.record error.name [("kind", kind.inspect)]
  | timeout span => Inspect.record error.name [("dur", span.inspect)]
  | access kind => Inspect.record error.name [("kind", kind.inspect)]
  | unexpectedStatus command status =>
    Inspect.record error.name [("command", command.name), ("status", status.inspect)]
  | path kind => Inspect.record error.name [("kind", kind.inspect)]
  | stream kind => Inspect.record error.name [("kind", kind.inspect)]

end Error

end DiskBridge
