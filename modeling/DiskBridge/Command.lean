import DiskBridge.Text.Digits

/-!
# Commands

The commands a driver sends to the chip, and the USB modes it moves the chip through. A command
is its opcode byte at the start of a transaction, then argument bytes, then a payload whose
direction the command fixes.
-/

namespace DiskBridge

inductive Command where
  | version
  | reset
  /-- The chip answers the complement of the byte it is sent. -/
  | selfTest
  /-- Routes the interrupt onto the data line while chip select is high. -/
  | routeInterrupt
  | fileSize
  | usbMode
  /-- Reads and clears the pending status. -/
  | status
  /-- Reads the chip's buffer: a length, then that many bytes. -/
  | readBuffer
  /-- Asks how many bytes the chip accepts, then sends them. -/
  | writeBuffer
  | fileName
  | diskConnect
  | diskMount
  | fileOpen
  | fileCreate
  | fileErase
  | fileClose
  | locate
  | read
  | readMore
  | write
  | writeMore
  | dirCreate
  deriving DecidableEq, Inhabited

namespace Command

/-- All commands, in the order of their variant numbers. -/
def all : List Command :=
  [version, reset, selfTest, routeInterrupt, fileSize, usbMode, status, readBuffer, writeBuffer,
    fileName, diskConnect, diskMount, fileOpen, fileCreate, fileErase, fileClose, locate, read,
    readMore, write, writeMore, dirCreate]

/-- The byte that begins a transaction of this command. -/
def opcode : Command → UInt8
  | version => 0x01
  | reset => 0x05
  | selfTest => 0x06
  | routeInterrupt => 0x0b
  | fileSize => 0x0c
  | usbMode => 0x15
  | status => 0x22
  | readBuffer => 0x27
  | writeBuffer => 0x2d
  | fileName => 0x2f
  | diskConnect => 0x30
  | diskMount => 0x31
  | fileOpen => 0x32
  | fileCreate => 0x34
  | fileErase => 0x35
  | fileClose => 0x36
  | locate => 0x39
  | read => 0x3a
  | readMore => 0x3b
  | write => 0x3c
  | writeMore => 0x3d
  | dirCreate => 0x40

/-- The command an opcode begins, if any. -/
def ofOpcode? (byte : UInt8) : Option Command := all.find? (·.opcode == byte)

theorem ofOpcode?_opcode (command : Command) : ofOpcode? command.opcode = some command := by
  cases command <;> rfl

/-- Whether the chip reports completion by raising its interrupt. -/
def isInterrupting : Command → Bool
  | diskConnect | diskMount | fileOpen | fileCreate | fileErase | fileClose | locate | read
  | readMore | write | writeMore | dirCreate => true
  | _ => false

/-- The name of a command in inspection text. -/
def name : Command → String
  | version => "GetIcVer"
  | reset => "ResetAll"
  | selfTest => "CheckExist"
  | routeInterrupt => "SetSdoInt"
  | fileSize => "GetFileSize"
  | usbMode => "SetUsbMode"
  | status => "GetStatus"
  | readBuffer => "RdUsbData0"
  | writeBuffer => "WrReqData"
  | fileName => "SetFileName"
  | diskConnect => "DiskConnect"
  | diskMount => "DiskMount"
  | fileOpen => "FileOpen"
  | fileCreate => "FileCreate"
  | fileErase => "FileErase"
  | fileClose => "FileClose"
  | locate => "ByteLocate"
  | read => "ByteRead"
  | readMore => "ByteRdGo"
  | write => "ByteWrite"
  | writeMore => "ByteWrGo"
  | dirCreate => "DirCreate"

/-- The name of a command in the chip's data sheet. -/
def label : Command → String
  | version => "GET_IC_VER"
  | reset => "RESET_ALL"
  | selfTest => "CHECK_EXIST"
  | routeInterrupt => "SET_SDO_INT"
  | fileSize => "GET_FILE_SIZE"
  | usbMode => "SET_USB_MODE"
  | status => "GET_STATUS"
  | readBuffer => "RD_USB_DATA0"
  | writeBuffer => "WR_REQ_DATA"
  | fileName => "SET_FILE_NAME"
  | diskConnect => "DISK_CONNECT"
  | diskMount => "DISK_MOUNT"
  | fileOpen => "FILE_OPEN"
  | fileCreate => "FILE_CREATE"
  | fileErase => "FILE_ERASE"
  | fileClose => "FILE_CLOSE"
  | locate => "BYTE_LOCATE"
  | read => "BYTE_READ"
  | readMore => "BYTE_RD_GO"
  | write => "BYTE_WRITE"
  | writeMore => "BYTE_WR_GO"
  | dirCreate => "DIR_CREATE"

/-- The label and the opcode, as messages show it. -/
def text (command : Command) : String :=
  command.label ++ " (0x" ++ hexByte command.opcode ++ ")"

/-! ## Argument bytes -/

/-- Ends a name sent with `fileName`. -/
def nameEnd : UInt8 := 0x00

/-- Argument of `fileClose`: store the file's size on the disk. -/
def storeSize : UInt8 := 0x01

/-- Argument of `fileSize`: the open file. -/
def openFileSize : UInt8 := 0x68

/-- Sent while a byte is read from the chip. -/
def filler : UInt8 := 0x00

/-- Argument of `selfTest`. -/
def testPattern : UInt8 := 0x57

/-- First argument of `routeInterrupt`. -/
def routeSelector : UInt8 := 0x16

/-- Second argument of `routeInterrupt`: the data line follows the interrupt. -/
def routeEnable : UInt8 := 0x90

/-- The largest number of bytes the chip moves in one chunk. -/
def maxChunk : Nat := 255

/-- The longest name, the root marker of the first name included. -/
def maxName : Nat := 13

/-- The largest read or write of one call, a 16-bit length. -/
def maxTransfer : Nat := 65535

end Command

/-- The host modes the chip passes through while a disk is brought up. -/
inductive UsbMode where
  /-- Host mode without frames on the bus. -/
  | quiet
  /-- Host mode with frames on the bus. -/
  | active
  /-- Host mode resetting the bus. -/
  | busReset
  deriving DecidableEq, Inhabited

namespace UsbMode

def all : List UsbMode := [quiet, active, busReset]

def byte : UsbMode → UInt8
  | quiet => 0x05
  | active => 0x07
  | busReset => 0x06

def name : UsbMode → String
  | quiet => "Host0"
  | active => "Host1"
  | busReset => "Host2"

def text : UsbMode → String
  | quiet => "Host 0"
  | active => "Host 1"
  | busReset => "Host 2"

end UsbMode

end DiskBridge
