import DiskBridge.Adapter.Basic
import DiskBridge.Bench.UsbScript

/-!
# What the bench writes down

The calls of a bus and of a USB host as text, a word or a line for each. A failed call carries an
exclamation mark.
-/

namespace DiskBridge.Bench

/-- A call of a bus with its outcome, as one word. -/
def busWord : Event Bus → String
  | ⟨.begin, .ok _⟩ => "B"
  | ⟨.begin, .error _⟩ => "B!"
  | ⟨.finish, .ok _⟩ => "E"
  | ⟨.finish, .error _⟩ => "E!"
  | ⟨.exchange sent, .ok received⟩ => hexByte sent ++ ">" ++ hexByte received
  | ⟨.exchange sent, .error _⟩ => hexByte sent ++ "!"
  | ⟨.poll, .ok raised⟩ => if raised then "I1" else "I0"
  | ⟨.poll, .error _⟩ => "I!"
  | ⟨.pause span, _⟩ => "D" ++ toString span.toNanos

namespace UsbEntry

/-- The mark of a return code that is no success. -/
def mark (code : Int) : String := if code = 0 then "" else " !" ++ toString code

/-- An entry as a line; a transfer shows its endpoint, its time limit in milliseconds and its
bytes, and how it fell short if it did. -/
def text : UsbEntry → String
  | opened index code => "open " ++ toString index ++ mark code
  | detached code => "detach 1" ++ mark code
  | claimed code => "claim 0" ++ mark code
  | released code => "release 0" ++ mark code
  | closed => "close"
  | logLevel level => "debug " ++ toString level
  | bulk outgoing bytes code asked moved =>
    let endpoint := if outgoing then Adapter.outEndpoint else Adapter.inEndpoint
    let limit := Adapter.transferTimeout.toNanos / 1000000
    let shortfall := if code = 0 && moved = asked then "" else s!" !{code}/{moved}"
    hexByte endpoint ++ "/" ++ toString limit ++ " " ++ hexBytes bytes ++ shortfall

end UsbEntry

end DiskBridge.Bench
