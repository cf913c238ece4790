import DiskBridge.Bus
import DiskBridge.Codec.Errors

/-!
# Messages of the remote bridge

A bus can be carried over a connection: each call is a request, each reply a response. A message
is framed by its length in eight bytes; lengths above a limit are refused.
-/

namespace DiskBridge

namespace Bus.Call

/-- The name of a call in messages. -/
def name : Call → String
  | begin => "BeginTransaction"
  | finish => "EndTransaction"
  | exchange _ => "Transfer"
  | poll => "InterruptPending"
  | pause _ => "Delay"

instance : Codec Call where
  write
    | begin => Codec.writeIndex 0
    | finish => Codec.writeIndex 1
    | exchange byte => Codec.writeIndex 2 ++ Codec.write byte
    | poll => Codec.writeIndex 3
    | pause span => Codec.writeIndex 4 ++ Codec.write span
  read := do
    match ← Codec.readIndex 5 with
    | 0 => return begin
    | 1 => return finish
    | 2 => return exchange (← Codec.read)
    | 3 => return poll
    | _ => return pause (← Codec.read)

end Bus.Call

namespace Remote

/-- The answer to a request. -/
inductive Response where
  | began (result : Except Error Unit)
  | finished (result : Except Error Unit)
  | exchanged (result : Except Error UInt8)
  | polled (result : Except Error Bool)
  | paused

namespace Response

/-- The response that carries the reply to a call. -/
def ofReply : (call : Bus.Call) → call.Reply → Response
  | .begin, result => began result
  | .finish, result => finished result
  | .exchange _, result => exchanged result
  | .poll, result => polled result
  | .pause _, () => paused

/-- The response as messages show it. -/
def text : Response → String
  | began result =>
    Inspect.tuple "BeginTransaction" [Inspect.result Error.inspect (fun _ => Inspect.unit) result]
  | finished result =>
    Inspect.tuple "EndTransaction" [Inspect.result Error.inspect (fun _ => Inspect.unit) result]
  | exchanged result =>
    Inspect.tuple "Transfer" [Inspect.result Error.inspect toString result]
  | polled result =>
    Inspect.tuple "InterruptPending" [Inspect.result Error.inspect toString result]
  | paused => "Delay"

instance : Codec Response where
  write
    | began result => Codec.writeIndex 0 ++ Codec.write result
    | finished result => Codec.writeIndex 1 ++ Codec.write result
    | exchanged result => Codec.writeIndex 2 ++ Codec.write result
    | polled result => Codec.writeIndex 3 ++ Codec.write result
    | paused => Codec.writeIndex 4
  read := do
    match ← Codec.readIndex 5 with
    | 0 => return began (← Codec.read)
    | 1 => return finished (← Codec.read)
    | 2 => return exchanged (← Codec.read)
    | 3 => return polled (← Codec.read)
    | _ => return paused

end Response

/-! ## Frames -/

/-- The longest message accepted. -/
def maxMessage : Nat := 1024

/-- A message preceded by its length. -/
def frame (body : List UInt8) : List UInt8 := littleEndian 8 body.length ++ body

/-- What is said of a message that is too long. -/
def tooLong (length : Nat) : String :=
  s!"Message length {length} exceeds maximum {maxMessage}"

/-- What stands at the front of some bytes. -/
inductive Front where
  /-- A message, and the bytes after it. -/
  | whole (body rest : List UInt8)
  /-- The length of a message that is too long. -/
  | oversized (length : Nat)
  /-- Too few bytes to tell. -/
  | incomplete

/-- Cuts a message off the front of some bytes. -/
def front (bytes : List UInt8) : Front :=
  if bytes.length < 8 then .incomplete
  else
    let length := ofLittleEndian (bytes.take 8)
    let body := bytes.drop 8
    if maxMessage < length then .oversized length
    else if body.length < length then .incomplete
    else .whole (body.take length) (body.drop length)

theorem length_rest_lt {bytes body rest : List UInt8} (h : front bytes = .whole body rest) :
    rest.length < bytes.length := by
  grind [front]

end Remote

end DiskBridge
