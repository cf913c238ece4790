import DiskBridge.Command
import DiskBridge.Duration
import DiskBridge.Status

/-!
# Errors

Everything that can go wrong between a driver and the disk, as causes. Their wording and their
system error numbers are in `DiskBridge.Error.Message`.
-/

namespace DiskBridge

/-- Bytes could not be moved over the bus. -/
inductive TrafficError where
  /-- Fewer bytes were moved than asked for. -/
  | shortTransfer (expected actual : UInt64)
  | transactionOpen
  | noTransaction
  /-- The chip did not answer the complement of the byte it was sent. -/
  | selfTest (sent expected actual : UInt8)
  /-- The far end of a remote connection went away. -/
  | remoteGone (message : String) (errno : Int32)
  /-- The far end of a remote connection misbehaved. -/
  | remote (message : String) (errno : Int32)
  deriving DecidableEq

/-- The device that carries the bus could not be reached. -/
inductive AccessError where
  | noDevice
  | notFound (vendor product : UInt16)
  | permission
  | addressResolution (message : String) (errno : Int32)
  | network (message : String) (errno : Int32)
  deriving DecidableEq

/-- A path could not be turned into names on the chip. -/
inductive PathError where
  | empty
  | notAbsolute (path : String)
  | nameTooLong (segment : String) (limit : UInt64)
  /-- Nothing stands after the last separator. -/
  | missingLeaf (path : String)
  /-- A directory on the way could not be opened. -/
  | directoryOpen (segment : String) (status : Status)
  deriving DecidableEq

/-- The chip broke the rules of a chunked transfer. -/
inductive StreamError where
  | chunkOverrun (offered remaining : UInt64)
  deriving DecidableEq

inductive Error where
  | usb (message : String)
  | setup (message : String)
  | traffic (kind : TrafficError)
  | timeout (span : Duration)
  | access (kind : AccessError)
  | arguments (message : String)
  /-- A command was answered by a status it does not allow. -/
  | unexpectedStatus (command : Command) (status : Status)
  | path (kind : PathError)
  | stream (kind : StreamError)
  deriving DecidableEq

instance : Inhabited Error := ⟨.setup ""⟩

end DiskBridge
