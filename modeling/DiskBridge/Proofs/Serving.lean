import DiskBridge.Proofs.RoundTrip
import DiskBridge.Remote.Server

/-!
# What a server does with the bytes of a client

`Server.advance` reads bytes message by message. `front_frame` says that a frame stands at the
front of any bytes that begin with it, and the lemmas `advance_incomplete`, `advance_oversized`,
`advance_garbled` and `advance_request` say what each kind of front makes the server do; nothing
else unfolds `advance`.
-/

namespace DiskBridge.Remote

open Dialogue Network

/-! ## Frames -/

/-- What a length and the bytes after it stand for. -/
theorem front_append {length : Nat} (h : length < 256 ^ 8) (after : List UInt8) :
    front (littleEndian 8 length ++ after) =
      if maxMessage < length then .oversized length
      else if after.length < length then .incomplete
      else .whole (after.take length) (after.drop length) := by
  have h8 := length_littleEndian 8 length
  rw [front, if_neg (by rw [List.length_append, h8]; omega)]
  simp only [List.take_left' h8, List.drop_left' h8, ofLittleEndian_littleEndian_of_lt h]

/-- A message that is not too long is found at the front of its frame. -/
theorem front_frame {body : List UInt8} (h : body.length ≤ maxMessage) (rest : List UInt8) :
    front (frame body ++ rest) = .whole body rest := by
  have hl : body.length < 256 ^ 8 := Nat.lt_of_le_of_lt h (by decide)
  rw [frame, List.append_assoc, front_append hl, if_neg (by omega),
    if_neg (by rw [List.length_append]; omega), List.take_left, List.drop_left]

/-- The length of a message alone is no message. -/
theorem front_length {length : Nat} (hp : 0 < length) (h : length ≤ maxMessage) :
    front (littleEndian 8 length) = .incomplete := by
  have hl : length < 256 ^ 8 := Nat.lt_of_le_of_lt h (by decide)
  rw [← List.append_nil (littleEndian 8 length), front_append hl, if_neg (by omega)]
  exact if_pos hp

theorem front_nil : front [] = .incomplete := rfl

theorem length_encode_call (call : Bus.Call) :
    0 < (Codec.encode call).length ∧ (Codec.encode call).length ≤ maxMessage := by
  cases call with
  | begin | finish | poll => decide
  | exchange byte =>
    have h : (Codec.encode (Bus.Call.exchange byte)).length = 5 := rfl
    rw [h]
    decide
  | pause span =>
    have h : (Codec.encode (Bus.Call.pause span)).length = 16 := rfl
    rw [h]
    decide

/-- A call is decoded from its request. -/
theorem decode_encode_call (call : Bus.Call) :
    Codec.decode Bus.Call (Codec.encode call) = .ok call :=
  Codec.decode_encode (Nat.lt_of_le_of_lt (length_encode_call call).2 (by decide))

namespace Server

section Advance

variable {ε : Type} {outlet : Outlet} {opened : Bool} {bytes body rest : List UInt8}

theorem advance_incomplete (h : front bytes = .incomplete) :
    (advance outlet opened bytes : Dialogue Bus ε Progress) = done { opened, unread := bytes } := by
  rw [advance]
  split
  · rfl
  · next h' => cases h.symm.trans h'
  · next h' => cases h.symm.trans h'

theorem advance_oversized {length : Nat} (h : front bytes = .oversized length) :
    (advance outlet opened bytes : Dialogue Bus ε Progress) =
      closeAbandoned opened >>= fun _ =>
        done { ending := some (serverError ("Invalid request: " ++ tooLong length)
          Errno.invalidArgument) } := by
  rw [advance]
  split
  · next h' => cases h.symm.trans h'
  · next h' =>
    cases h.symm.trans h'
    rfl
  · next h' => cases h.symm.trans h'

/-- A whole message that is no request ends the connection, and leaves the bus as it is. -/
theorem advance_garbled {cause : DecodeError} (h : front bytes = .whole body rest)
    (hd : Codec.decode Bus.Call body = .error cause) :
    (advance outlet opened bytes : Dialogue Bus ε Progress) =
      done { opened
             ending := some (serverError ("Failed to deserialize: " ++ cause.message)
               Errno.inputOutput) } := by
  rw [advance]
  split
  · next h' => cases h.symm.trans h'
  · next h' => cases h.symm.trans h'
  · next h' =>
    cases h.symm.trans h'
    rw [hd]
    rfl

/-- A request is carried out and answered, and the server goes on with the bytes after it. -/
theorem advance_request {call : Bus.Call} (h : front bytes = .whole body rest)
    (hd : Codec.decode Bus.Call body = .ok call) :
    (advance outlet opened bytes : Dialogue Bus ε Progress) =
      ask call fun reply =>
        match sendResponse outlet (Codec.encode (Response.ofReply call reply)) with
        | (sent, .error error) =>
          done { opened := staysOpen opened call reply, sent := [sent], ending := some error }
        | (sent, .ok outlet) =>
          advance outlet (staysOpen opened call reply) rest >>= fun progress =>
            done { progress with sent := sent :: progress.sent } := by
  rw [advance]
  split
  · next h' => cases h.symm.trans h'
  · next h' => cases h.symm.trans h'
  · next h' =>
    cases h.symm.trans h'
    rw [hd]
    rfl

end Advance

/-- On a steady connection every request is answered. -/
theorem advance_steady {ε : Type} (opened : Bool) {body : List UInt8} {call : Bus.Call}
    (hl : body.length ≤ maxMessage) (hd : Codec.decode Bus.Call body = .ok call)
    (rest : List UInt8) :
    (advance .steady opened (frame body ++ rest) : Dialogue Bus ε Progress) =
      ask call fun reply =>
        advance .steady (staysOpen opened call reply) rest >>= fun progress =>
          done { progress with
            sent := frame (Codec.encode (Response.ofReply call reply)) :: progress.sent } :=
  advance_request (front_frame hl rest) hd

/-- On a steady connection a frame that holds a call is answered by the reply of the device. -/
theorem advance_call {ε : Type} (opened : Bool) (call : Bus.Call) (rest : List UInt8) :
    (advance .steady opened (frame (Codec.encode call) ++ rest) : Dialogue Bus ε Progress) =
      ask call fun reply =>
        advance .steady (staysOpen opened call reply) rest >>= fun progress =>
          done { progress with
            sent := frame (Codec.encode (Response.ofReply call reply)) :: progress.sent } :=
  advance_steady opened (length_encode_call call).2 (decode_encode_call call) rest

end Server

end DiskBridge.Remote
