import DiskBridge.Codec.Basic
import DiskBridge.Config
import DiskBridge.Error

/-!
# Binary form of statuses, commands, configurations and errors

Variants are numbered in the order in which their types declare them.
-/

namespace DiskBridge.Codec

/-! ## The chip's vocabulary -/

instance : Codec Status where
  write
    | .other byte => writeIndex Status.documented.length ++ write byte
    | status => writeIndex (Status.documented.idxOf status)
  read := do
    let index ← readIndex (Status.documented.length + 1)
    match Status.documented[index]? with
    | some status => return status
    | none => return .other (← read)

instance : Codec Command where
  write command := writeIndex (Command.all.idxOf command)
  read := readListed Command.all

instance : Codec UsbMode where
  write mode := writeIndex (UsbMode.all.idxOf mode)
  read := readListed UsbMode.all

instance : Codec StatusMode where
  write mode := writeIndex (StatusMode.all.idxOf mode)
  read := readListed StatusMode.all

instance : Codec Config where
  write config :=
    write config.statusMode ++ write config.beforeReset ++ write config.afterReset
      ++ write config.modeSwitch ++ write config.directAnswer
  read := do
    let statusMode ← read
    let beforeReset ← read
    let afterReset ← read
    let modeSwitch ← read
    let directAnswer ← read
    return { statusMode, beforeReset, afterReset, modeSwitch, directAnswer }

/-! ## Errors -/

instance : Codec TrafficError where
  write
    | .shortTransfer expected actual => writeIndex 0 ++ write expected ++ write actual
    | .transactionOpen => writeIndex 1
    | .noTransaction => writeIndex 2
    | .selfTest sent expected actual =>
      writeIndex 3 ++ write sent ++ write expected ++ write actual
    | .remoteGone message errno => writeIndex 4 ++ write message ++ write errno
    | .remote message errno => writeIndex 5 ++ write message ++ write errno
  read := do
    match ← readIndex 6 with
    | 0 => return .shortTransfer (← read) (← read)
    | 1 => return .transactionOpen
    | 2 => return .noTransaction
    | 3 => return .selfTest (← read) (← read) (← read)
    | 4 => return .remoteGone (← read) (← read)
    | _ => return .remote (← read) (← read)

instance : Codec AccessError where
  write
    | .noDevice => writeIndex 0
    | .notFound vendor product => writeIndex 1 ++ write vendor ++ write product
    | .permission => writeIndex 2
    | .addressResolution message errno => writeIndex 3 ++ write message ++ write errno
    | .network message errno => writeIndex 4 ++ write message ++ write errno
  read := do
    match ← readIndex 5 with
    | 0 => return .noDevice
    | 1 => return .notFound (← read) (← read)
    | 2 => return .permission
    | 3 => return .addressResolution (← read) (← read)
    | _ => return .network (← read) (← read)

instance : Codec PathError where
  write
    | .empty => writeIndex 0
    | .notAbsolute path => writeIndex 1 ++ write path
    | .nameTooLong segment limit => writeIndex 2 ++ write segment ++ write limit
    | .missingLeaf path => writeIndex 3 ++ write path
    | .directoryOpen segment status => writeIndex 4 ++ write segment ++ write status
  read := do
    match ← readIndex 5 with
    | 0 => return .empty
    | 1 => return .notAbsolute (← read)
    | 2 => return .nameTooLong (← read) (← read)
    | 3 => return .missingLeaf (← read)
    | _ => return .directoryOpen (← read) (← read)

instance : Codec StreamError where
  write
    | .chunkOverrun offered remaining => writeIndex 0 ++ write offered ++ write remaining
  read := do
    let _ ← readIndex 1
    return .chunkOverrun (← read) (← read)

instance : Codec Error where
  write
    | .usb message => writeIndex 0 ++ writeIndex 0 ++ write message
    | .setup message => writeIndex 1 ++ write message
    | .traffic kind => writeIndex 2 ++ write kind
    | .timeout span => writeIndex 3 ++ write span
    | .access kind => writeIndex 4 ++ write kind
    | .arguments message => writeIndex 5 ++ write message
    | .unexpectedStatus command status => writeIndex 6 ++ write command ++ write status
    | .path kind => writeIndex 7 ++ write kind
    | .stream kind => writeIndex 8 ++ write kind
  read := do
    match ← readIndex 9 with
    | 0 =>
      let _ ← readIndex 1
      return .usb (← read)
    | 1 => return .setup (← read)
    | 2 => return .traffic (← read)
    | 3 => return .timeout (← read)
    | 4 => return .access (← read)
    | 5 => return .arguments (← read)
    | 6 => return .unexpectedStatus (← read) (← read)
    | 7 => return .path (← read)
    | _ => return .stream (← read)

end DiskBridge.Codec
