import DiskBridge.Codec.Basic
import DiskBridge.Drive.Basic

/-!
# Chunked reads and writes

The first command carries the whole length. Then the chip decides how much moves in each chunk:
a chunk is transferred, the command to go on is sent, and its status says whether more follows.
A chunk larger than what is left is refused before any of its bytes moves.
-/

namespace DiskBridge

/-- A read that ended early: the bytes that had arrived, and why it ended. -/
structure Cut where
  received : List UInt8
  stop : Stop
  deriving DecidableEq

/-- A buffer after `received` was put at its front. -/
def overlay (received buffer : List UInt8) : List UInt8 :=
  received ++ buffer.drop received.length

namespace Drive

open Dialogue

/-- Refuses a transfer that a 16-bit length cannot express. -/
def checkSize (size : Nat) : Operation Unit := do
  if Command.maxTransfer < size then
    let message := "Attempted to transfer " ++ toString size ++ " bytes, more than the maximum "
      ++ toString Command.maxTransfer
    say .warn message
    Operation.fail (.arguments message)

/-- The fault of a chunk that does not fit. -/
def overrun (offered remaining : Nat) : Error :=
  .stream (.chunkOverrun (UInt64.ofNat offered) (UInt64.ofNat remaining))

/-! ## Reading -/

/-- Receives `count` bytes after those in `received`. -/
def receiveChunk : (count : Nat) → (received : List UInt8) → Dialogue Bus Cut (List UInt8)
  | 0, received => return received
  | count + 1, received => do
    let byte ← Bus.receive.mapFailure fun error => ⟨received, .error error⟩
    receiveChunk count (received ++ [byte])

/-- Reads the chunk that the chip has ready, if at most `room` bytes. -/
def readChunk (room : Nat) : Dialogue Bus Cut (List UInt8) := do
  let early : Error → Cut := fun error => ⟨[], .error error⟩
  let chunk ← Bus.bracket early (fun chunk error => ⟨chunk, .error error⟩) do
    (Bus.send [Command.readBuffer.opcode]).mapFailure early
    let length := (← Bus.receive.mapFailure early).toNat
    if room < length then
      say .error ("Error while reading data: chip offered " ++ toString length ++ " bytes, "
        ++ toString room ++ " remaining")
      failed ⟨[], .error (overrun length room)⟩
    else receiveChunk length []
  say .trace ("Read chunk of " ++ toString chunk.length ++ " bytes")
  return chunk

/-- Reads chunks until the chip reports success, for at most `rounds` chunks; the result counts
the chunks too. -/
def readChunks (drive : Drive) (size : Nat) :
    (rounds : Nat) → (received : List UInt8) → (chunks : Nat) →
      Dialogue Bus Cut (List UInt8 × Nat)
  | 0, received, _ => failed ⟨received, .stalled⟩
  | rounds + 1, received, chunks => do
    let chunk ← (readChunk (size - received.length)).mapFailure fun cut =>
      ⟨received ++ cut.received, cut.stop⟩
    let received := received ++ chunk
    let next : Operation Status := do
      sendCommand .readMore []
      drive.status
    match ← next.mapFailure (Cut.mk received) with
    | .success => return (received, chunks + 1)
    | .readPending => drive.readChunks size rounds received (chunks + 1)
    | status =>
      say .error ("Error while reading data: " ++ status.text ++ " after "
        ++ toString received.length ++ " bytes")
      failed ⟨received, .error (.unexpectedStatus .readMore status)⟩

/-- Reads up to `size` bytes from the open file at its cursor. -/
def read (drive : Drive) (size : Nat) : Dialogue Bus Cut (List UInt8) := do
  say .trace ("Entered Ch376::read_file buf.len(): " ++ toString size)
  if size = 0 then
    say .debug "Read of 0 bytes, nothing to do"
    return []
  else
    let start : Operation Unit := do
      checkSize size
      let status ← drive.commandStatus .read (littleEndian 2 size)
      expectStatus .read status .readPending
    start.mapFailure (Cut.mk [])
    let (received, chunks) ← drive.readChunks size drive.patience [] 0
    if received.length ≠ size then
      say .warn ("Chip completed read after " ++ toString received.length ++ " of "
        ++ toString size ++ " bytes")
    say .debug ("Read " ++ toString received.length ++ " bytes in " ++ toString chunks
      ++ " chunks")
    return received

/-! ## Writing -/

/-- Writes as much of the front of `data` as the chip asks for. -/
def writeChunk (data : List UInt8) : Operation Nat := do
  let length ← Bus.transaction do
    Bus.send [Command.writeBuffer.opcode]
    let length := (← Bus.receive).toNat
    if data.length < length then
      say .error ("Error while writing data: chip requested " ++ toString length ++ " bytes, "
        ++ toString data.length ++ " remaining")
      failed (overrun length data.length)
    else
      Bus.send (data.take length)
      return length
  say .trace ("Wrote chunk of " ++ toString length ++ " bytes")
  return length

/-- Writes chunks until the chip reports success, for at most `rounds` chunks; the result counts
the bytes and the chunks. -/
def writeChunks (drive : Drive) :
    (rounds : Nat) → (data : List UInt8) → (written chunks : Nat) → Operation (Nat × Nat)
  | 0, _, _, _ => failed .stalled
  | rounds + 1, data, written, chunks => do
    let length ← writeChunk data
    let written := written + length
    sendCommand .writeMore []
    match ← drive.status with
    | .success => return (written, chunks + 1)
    | .writePending => drive.writeChunks rounds (data.drop length) written (chunks + 1)
    | status =>
      say .error ("Error while writing data: " ++ status.text ++ " after "
        ++ toString written ++ " bytes")
      Operation.fail (.unexpectedStatus .writeMore status)

/-- Writes `data` to the open file at its cursor; the result is the number of bytes the chip
took. -/
def write (drive : Drive) (data : List UInt8) : Operation Nat := do
  let size := data.length
  say .trace ("Entered Ch376::write_file data.len(): " ++ toString size)
  if size = 0 then
    say .debug "Write of 0 bytes, nothing to do"
    return 0
  else
    checkSize size
    let status ← drive.commandStatus .write (littleEndian 2 size)
    expectStatus .write status .writePending
    let (written, chunks) ← drive.writeChunks drive.patience data 0 0
    if written ≠ size then
      say .warn ("Chip completed write after " ++ toString written ++ " of "
        ++ toString size ++ " bytes")
    say .debug ("Wrote " ++ toString written ++ " bytes in " ++ toString chunks ++ " chunks")
    return written

end Drive

end DiskBridge
