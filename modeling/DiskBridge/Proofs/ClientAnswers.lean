import DiskBridge.Proofs.ServedRequests

/-!
# What a client accepts as an answer

The far end of a connection may send any bytes. A client takes the first message of them for the
answer to its call, and accepts it only if it is of the kind of the call. In whatever way the call
ends, a whole message is used up by it and no more, so that the next call finds the next message.

1. `front` finds a message exactly where there is one (`front_eq_whole_iff`), and the client reads as
   far as `front` does (`outcome_receiveMessage`).
2. So what a call learns is a function of the bytes (`understood`, `outcome_converse`), and each kind
   of call judges it by its own kind of response (`Asks`).
3. By induction over the calls, the messages are used up one by one (`afterCalls_eq`).

`client_accepts_matching` puts them together.
-/

namespace DiskBridge.Remote

open Dialogue Network

/-! ## A connection -/

/-- A connection to a far end that sends the bytes `incoming` and then closes its side, and takes
all that is sent to it. -/
structure Line where
  incoming : List UInt8
  /-- What was sent to the far end. -/
  sent : List UInt8 := []
  deriving DecidableEq

namespace Line

def stream : Machine Stream Line
  | .send bytes, line => { reply := .ok (), state := { line with sent := line.sent ++ bytes } }
  | .receive count, line =>
    if count ≤ line.incoming.length then
      { reply := .ok (line.incoming.take count)
        state := { line with incoming := line.incoming.drop count } }
    else { reply := .error .endOfStream, state := { line with incoming := [] } }

end Line

/-! ## Messages -/

/-- A message is found exactly where a frame stands that is not too long. -/
theorem front_eq_whole_iff {bytes body rest : List UInt8} :
    front bytes = .whole body rest ↔ bytes = frame body ++ rest ∧ body.length ≤ maxMessage := by
  constructor
  · intro h
    by_cases h8 : bytes.length < 8
    · rw [front, if_pos h8] at h
      cases h
    obtain ⟨length, after, hl, rfl⟩ := exists_length (Nat.not_lt.1 h8)
    rw [front_append hl] at h
    split at h
    · cases h
    · next hm =>
      split at h
      · cases h
      · next ha =>
        cases h
        have hn : (after.take length).length = length := List.length_take_of_le (Nat.not_lt.1 ha)
        rw [frame, hn, List.append_assoc, List.take_append_drop]
        exact ⟨rfl, Nat.not_lt.1 hm⟩
  · rintro ⟨rfl, hl⟩
    exact front_frame hl rest

namespace Client

theorem outcome_receive (count : Nat) (bytes sent : List UInt8) :
    (receive count).outcome Line.stream ⟨bytes, sent⟩ =
      if count ≤ bytes.length then (.ok (bytes.take count), ⟨bytes.drop count, sent⟩)
      else (.error .endOfStream, ⟨[], sent⟩) := by
  rw [receive, outcome_ask]
  simp only [Line.stream]
  split <;> rfl

/-- The client reads the message at the front of the bytes. A length that is too long it reads and
refuses, and a message that is cut short it reads to its end. -/
theorem outcome_receiveMessage (bytes sent : List UInt8) :
    receiveMessage.outcome Line.stream ⟨bytes, sent⟩ =
      match front bytes with
      | .whole body rest => (.ok body, ⟨rest, sent⟩)
      | .oversized length => (.error ⟨tooLong length, none⟩, ⟨bytes.drop 8, sent⟩)
      | .incomplete => (.error .endOfStream, ⟨[], sent⟩) := by
  have hr := outcome_receive 8 bytes sent
  unfold front
  by_cases h8 : bytes.length < 8
  · rw [if_neg (by omega)] at hr
    rw [receiveMessage, outcome_bind_error hr, if_pos h8]
  · rw [if_pos (by omega)] at hr
    rw [receiveMessage, outcome_bind_ok hr, if_neg h8]
    dsimp only
    generalize ofLittleEndian (bytes.take 8) = length
    by_cases hm : maxMessage < length
    · rw [if_pos hm, if_pos hm]
      rfl
    · rw [if_neg hm, if_neg hm, outcome_receive]
      by_cases hb : (bytes.drop 8).length < length
      · rw [if_pos hb, if_neg (by omega)]
      · rw [if_neg hb, if_pos (by omega)]

/-! ## Calls -/

/-- What a client makes of the bytes it is sent, and what it leaves of them. -/
def understood (bytes : List UInt8) : Except Error Response × List UInt8 :=
  match front bytes with
  | .whole body rest =>
    ((Codec.decode Response body).mapError fun cause =>
      connectionError ("Failed to deserialize: " ++ cause.message) Errno.inputOutput, rest)
  | .oversized length =>
    (.error (during "Failed to read response" ⟨tooLong length, none⟩), bytes.drop 8)
  | .incomplete => (.error (during "Failed to read response" .endOfStream), [])

/-- A request is sent in one frame, and the bytes are read as an answer. -/
theorem outcome_converse (call : Bus.Call) (bytes sent : List UInt8) :
    (converse call).outcome Line.stream ⟨bytes, sent⟩ =
      ((understood bytes).1, ⟨(understood bytes).2, sent ++ frame (Codec.encode call)⟩) := by
  have hl : ((send (littleEndian 8 (Codec.encode call).length)).mapFailure
      (during "Failed to send message length")).outcome Line.stream ⟨bytes, sent⟩ =
        (.ok (), ⟨bytes, sent ++ littleEndian 8 (Codec.encode call).length⟩) := rfl
  have hb : ((send (Codec.encode call)).mapFailure
      (during "Failed to send message")).outcome Line.stream
        ⟨bytes, sent ++ littleEndian 8 (Codec.encode call).length⟩ =
        (.ok (), ⟨bytes, sent ++ frame (Codec.encode call)⟩) := by
    rw [frame, ← List.append_assoc]
    rfl
  rw [converse, outcome_bind_ok hl, outcome_bind_ok hb, outcome_bind, outcome_mapFailure,
    outcome_receiveMessage, understood]
  cases front bytes with
  | whole body rest =>
    dsimp only [Except.mapError]
    cases Codec.decode Response body <;> rfl
  | oversized length => rfl
  | incomplete => rfl

section Understood

variable {bytes body rest : List UInt8}

theorem understood_frame (h : body.length ≤ maxMessage) :
    (understood (frame body ++ rest)).2 = rest := by
  rw [understood, front_frame h]

theorem understood_response {response : Response} (h : body.length ≤ maxMessage)
    (hd : Codec.decode Response body = .ok response) :
    (understood (frame body ++ rest)).1 = .ok response := by
  simp only [understood, front_frame h, hd]
  rfl

theorem understood_garbled {cause : DecodeError} (h : body.length ≤ maxMessage)
    (hd : Codec.decode Response body = .error cause) :
    (understood (frame body ++ rest)).1 =
      .error (.access (.network ("Failed to deserialize: " ++ cause.message) Errno.inputOutput)) := by
  simp only [understood, front_frame h, hd]
  rfl

theorem understood_cutShort (h : CutShort bytes) :
    (understood bytes).1 = .error (.access (.network
      "Failed to read response: failed to fill whole buffer" Errno.inputOutput)) := by
  rw [understood, h.front]
  rfl

theorem understood_oversized {length : Nat} (h : Oversized length bytes) :
    (understood bytes).1 = .error (.access (.network
      ("Failed to read response: " ++ tooLong length) Errno.inputOutput)) := by
  rw [understood, h.front]
  rfl

/-- Only a whole message is understood. -/
theorem exists_of_understood {response : Response} (h : (understood bytes).1 = .ok response) :
    ∃ body rest, bytes = frame body ++ rest ∧ body.length ≤ maxMessage ∧
      Codec.decode Response body = .ok response := by
  unfold understood at h
  split at h
  · next body rest hf =>
    obtain ⟨hb, hl⟩ := front_eq_whole_iff.1 hf
    refine ⟨body, rest, hb, hl, ?_⟩
    cases hd : Codec.decode Response body with
    | error cause =>
      rw [hd] at h
      cases h
    | ok other =>
      rw [hd] at h
      cases h
      rfl
  · cases h
  · cases h

end Understood

/-- A dialogue makes a call and judges the answer: a response of this kind carries the result, and
any other is refused. -/
def Asks {α : Type} (call : Bus.Call) (kind : Except Error α → Response)
    (dialogue : Dialogue Stream Error α) : Prop :=
  ∃ next : Response → Dialogue Stream Error α, dialogue = (converse call >>= next) ∧
    (∀ result, next (kind result) = ofExcept result) ∧
    ∀ response, (∀ result, response ≠ kind result) → next response = failed (unexpected call response)

theorem asks_begin : Asks .begin .began begin := by
  refine ⟨_, rfl, fun _ => rfl, fun response hn => ?_⟩
  cases response with
  | began result => exact absurd rfl (hn result)
  | _ => rfl

theorem asks_finish : Asks .finish .finished finish := by
  refine ⟨_, rfl, fun _ => rfl, fun response hn => ?_⟩
  cases response with
  | finished result => exact absurd rfl (hn result)
  | _ => rfl

theorem asks_exchange (byte : UInt8) : Asks (.exchange byte) .exchanged (exchange byte) := by
  refine ⟨_, rfl, fun _ => rfl, fun response hn => ?_⟩
  cases response with
  | exchanged result => exact absurd rfl (hn result)
  | _ => rfl

theorem asks_poll : Asks .poll .polled poll := by
  refine ⟨_, rfl, fun _ => rfl, fun response hn => ?_⟩
  cases response with
  | polled result => exact absurd rfl (hn result)
  | _ => rfl

section Asks

variable {α : Type} {call : Bus.Call} {kind : Except Error α → Response}
  {dialogue : Dialogue Stream Error α} (h : Asks call kind dialogue) {bytes : List UInt8}
  (sent : List UInt8)

include h

theorem Asks.outcome_error {error : Error} (hu : (understood bytes).1 = .error error) :
    dialogue.outcome Line.stream ⟨bytes, sent⟩ =
      (.error error, ⟨(understood bytes).2, sent ++ frame (Codec.encode call)⟩) := by
  obtain ⟨next, rfl, -, -⟩ := h
  rw [outcome_bind, outcome_converse, hu]

theorem Asks.outcome_carried {result : Except Error α}
    (hu : (understood bytes).1 = .ok (kind result)) :
    dialogue.outcome Line.stream ⟨bytes, sent⟩ =
      (result, ⟨(understood bytes).2, sent ++ frame (Codec.encode call)⟩) := by
  obtain ⟨next, rfl, hk, -⟩ := h
  rw [outcome_bind, outcome_converse, hu]
  dsimp only
  rw [hk]
  cases result <;> rfl

theorem Asks.outcome_refused {response : Response} (hu : (understood bytes).1 = .ok response)
    (hn : ∀ result, response ≠ kind result) :
    dialogue.outcome Line.stream ⟨bytes, sent⟩ =
      (.error (unexpected call response),
        ⟨(understood bytes).2, sent ++ frame (Codec.encode call)⟩) := by
  obtain ⟨next, rfl, -, ho⟩ := h
  rw [outcome_bind, outcome_converse, hu]
  dsimp only
  rw [ho response hn]
  rfl

/-- However a call ends, it has sent one request and read one answer, and it has a value only from a
response that carries one. -/
theorem Asks.exists_outcome (bytes sent : List UInt8) :
    ∃ result, dialogue.outcome Line.stream ⟨bytes, sent⟩ =
        (result, ⟨(understood bytes).2, sent ++ frame (Codec.encode call)⟩) ∧
      ∀ value, result = .ok value → (understood bytes).1 = .ok (kind (.ok value)) := by
  cases hu : (understood bytes).1 with
  | error error => exact ⟨_, h.outcome_error sent hu, nofun⟩
  | ok response =>
    by_cases hk : ∃ result, response = kind result
    · obtain ⟨result, rfl⟩ := hk
      exact ⟨_, h.outcome_carried sent hu, fun value hr => by rw [hr]⟩
    · exact ⟨_, h.outcome_refused sent hu fun result hr => hk ⟨result, hr⟩, nofun⟩

end Asks

/-- How a client takes the answer to a call, which is of this kind if it matches the call. -/
structure Answered {α : Type} (call : Bus.Call) (kind : Except Error α → Response)
    (dialogue : Dialogue Stream Error α) : Prop where
  /-- Whatever comes back, one request is sent in one frame. -/
  request : ∀ bytes sent journal,
    (dialogue.run Line.stream ⟨bytes, sent⟩ journal).state.sent =
      sent ++ frame (Codec.encode call)
  /-- The call has a value exactly if a whole message holds it in a response of this kind. -/
  accepted : ∀ bytes sent journal value,
    (dialogue.run Line.stream ⟨bytes, sent⟩ journal).result = .ok value ↔
      ∃ body rest, bytes = frame body ++ rest ∧ body.length ≤ maxMessage ∧
        Codec.decode Response body = .ok (kind (.ok value))
  /-- A whole message is used up, and no more. -/
  consumed : ∀ body rest sent journal, body.length ≤ maxMessage →
    (dialogue.run Line.stream ⟨frame body ++ rest, sent⟩ journal).state.incoming = rest
  /-- An error in a response of this kind is passed on as it is. -/
  passed : ∀ body rest sent journal error, body.length ≤ maxMessage →
    Codec.decode Response body = .ok (kind (.error error)) →
    (dialogue.run Line.stream ⟨frame body ++ rest, sent⟩ journal).result = .error error
  /-- A response of another kind is an error of the far end. -/
  mismatched : ∀ body rest sent journal response, body.length ≤ maxMessage →
    Codec.decode Response body = .ok response → (∀ result, response ≠ kind result) →
    (dialogue.run Line.stream ⟨frame body ++ rest, sent⟩ journal).result =
      .error (.traffic (.remote ("Unexpected response for " ++ call.name ++ ": " ++ response.text)
        Errno.inputOutput))
  /-- A message that is no response is an error of the connection. -/
  garbled : ∀ body rest sent journal cause, body.length ≤ maxMessage →
    Codec.decode Response body = .error cause →
    (dialogue.run Line.stream ⟨frame body ++ rest, sent⟩ journal).result =
      .error (.access (.network ("Failed to deserialize: " ++ cause.message) Errno.inputOutput))
  /-- So are bytes that end inside a length or inside a message. -/
  cutShort : ∀ bytes sent journal, CutShort bytes →
    (dialogue.run Line.stream ⟨bytes, sent⟩ journal).result =
      .error (.access (.network "Failed to read response: failed to fill whole buffer"
        Errno.inputOutput))
  /-- So is a length above the limit. -/
  oversized : ∀ length bytes sent journal, Oversized length bytes →
    (dialogue.run Line.stream ⟨bytes, sent⟩ journal).result =
      .error (.access (.network ("Failed to read response: " ++ tooLong length) Errno.inputOutput))

theorem Asks.answered {α : Type} {call : Bus.Call} {kind : Except Error α → Response}
    {dialogue : Dialogue Stream Error α} (h : Asks call kind dialogue) :
    Answered call kind dialogue where
  request bytes sent journal := by
    obtain ⟨result, ho, -⟩ := h.exists_outcome bytes sent
    rw [(run_of_outcome ho journal).2]
  accepted bytes sent journal value := by
    obtain ⟨result, ho, hv⟩ := h.exists_outcome bytes sent
    constructor
    · intro hr
      rw [(run_of_outcome ho journal).1] at hr
      exact exists_of_understood (hv value hr)
    · rintro ⟨body, rest, rfl, hl, hd⟩
      exact (run_of_outcome (h.outcome_carried sent (understood_response hl hd)) journal).1
  consumed body rest sent journal hl := by
    obtain ⟨result, ho, -⟩ := h.exists_outcome (frame body ++ rest) sent
    rw [(run_of_outcome ho journal).2, understood_frame hl]
  passed body rest sent journal error hl hd :=
    (run_of_outcome (h.outcome_carried sent (understood_response hl hd)) journal).1
  mismatched body rest sent journal response hl hd hn :=
    (run_of_outcome (h.outcome_refused sent (understood_response hl hd) hn) journal).1
  garbled body rest sent journal cause hl hd :=
    (run_of_outcome (h.outcome_error sent (understood_garbled hl hd)) journal).1
  cutShort bytes sent journal hc :=
    (run_of_outcome (h.outcome_error sent (understood_cutShort hc)) journal).1
  oversized length bytes sent journal ho :=
    (run_of_outcome (h.outcome_error sent (understood_oversized ho)) journal).1

/-! ## Many calls -/

/-- What a call leaves of a connection. -/
theorem state_device (call : Bus.Call) (bytes sent : List UInt8) :
    (device Line.stream call ⟨bytes, sent⟩).state =
      ⟨(understood bytes).2, sent ++ frame (Codec.encode call)⟩ := by
  cases call with
  | begin =>
    obtain ⟨result, ho, -⟩ := asks_begin.exists_outcome bytes sent
    exact (run_of_outcome ho []).2
  | finish =>
    obtain ⟨result, ho, -⟩ := asks_finish.exists_outcome bytes sent
    exact (run_of_outcome ho []).2
  | exchange byte =>
    obtain ⟨result, ho, -⟩ := (asks_exchange byte).exists_outcome bytes sent
    exact (run_of_outcome ho []).2
  | poll =>
    obtain ⟨result, ho, -⟩ := asks_poll.exists_outcome bytes sent
    exact (run_of_outcome ho []).2
  | pause span =>
    have ho : (pause span : Dialogue Stream Error Unit).outcome Line.stream ⟨bytes, sent⟩ =
        (.ok (), ⟨(understood bytes).2, sent ++ frame (Codec.encode (Bus.Call.pause span))⟩) := by
      rw [pause, outcome_bind, outcome_attempt, outcome_converse]
      dsimp only
      rcases (understood bytes).1 with error | response
      · rfl
      · cases response <;> rfl
    exact (run_of_outcome ho []).2

/-- A connection after some calls, of which any may have failed. -/
def afterCalls : List Bus.Call → Line → Line
  | [], line => line
  | call :: calls, line => afterCalls calls (device Line.stream call line).state

/-- Calls use up as many messages, one each, whatever the messages are. -/
theorem afterCalls_eq (calls : List Bus.Call) (bodies : List (List UInt8)) (rest sent : List UInt8)
    (hn : calls.length = bodies.length) (hl : ∀ body ∈ bodies, body.length ≤ maxMessage) :
    afterCalls calls ⟨bodies.flatMap frame ++ rest, sent⟩ =
      ⟨rest, sent ++ calls.flatMap fun call => frame (Codec.encode call)⟩ := by
  induction calls generalizing bodies sent with
  | nil =>
    obtain rfl := List.eq_nil_of_length_eq_zero hn.symm
    simp [afterCalls]
  | cons call calls ih =>
    cases bodies with
    | nil => cases hn
    | cons body bodies =>
      obtain ⟨hb, hl⟩ := List.forall_mem_cons.1 hl
      rw [afterCalls, state_device, List.flatMap_cons, List.append_assoc, understood_frame hb,
        ih bodies _ (Nat.succ.inj hn) hl, List.flatMap_cons, List.append_assoc]

/-- **Matching answers.** Let the far end of a connection send any bytes. Each call of a client that
can fail sends one request, and has a value exactly if the bytes begin with a whole message, not too
long, that holds it in a response of the kind of the call. An error in such a response is passed on, a
response of another kind is an error of the far end, and all else is an error of the connection. A
whole message is used up by the call, however that ends, so that any number of calls use up as many
messages and the next one begins where the next message does. -/
theorem client_accepts_matching :
    Answered .begin .began begin ∧ Answered .finish .finished finish ∧
      (∀ byte, Answered (.exchange byte) .exchanged (exchange byte)) ∧
      Answered .poll .polled poll ∧
      ∀ (calls : List Bus.Call) (bodies : List (List UInt8)) (rest sent : List UInt8),
        calls.length = bodies.length → (∀ body ∈ bodies, body.length ≤ maxMessage) →
        afterCalls calls ⟨bodies.flatMap frame ++ rest, sent⟩ =
          ⟨rest, sent ++ calls.flatMap fun call => frame (Codec.encode call)⟩ :=
  ⟨asks_begin.answered, asks_finish.answered, fun byte => (asks_exchange byte).answered,
    asks_poll.answered, afterCalls_eq⟩

/-- An answer of the wrong kind fails the first call, and the second finds the answer after it. -/
theorem client_accepts_matching_after_mismatch :
    let polled := Codec.encode (Response.polled (.ok true))
    let began := Codec.encode (Response.began (.ok ()))
    let line : Line := ⟨frame polled ++ frame began, []⟩
    ∃ first second, begin.run Line.stream line [] = first ∧
      begin.run Line.stream first.state [] = second ∧
      first.result = .error (.traffic (.remote
        ("Unexpected response for BeginTransaction: " ++ (Response.polled (.ok true)).text) 5)) ∧
      second.result = .ok () ∧ second.state.incoming = [] := by
  intro polled began line
  have hp : Codec.decode Response polled = .ok (.polled (.ok true)) := Codec.decode_encode (by decide)
  have hb : Codec.decode Response began = .ok (.began (.ok ())) := Codec.decode_encode (by decide)
  have ha := client_accepts_matching.1
  obtain ⟨sent, hs⟩ : ∃ sent, (begin.run Line.stream line []).state = ⟨frame began ++ [], sent⟩ := by
    refine ⟨(begin.run Line.stream line []).state.sent, ?_⟩
    rw [List.append_nil, ← ha.consumed polled (frame began) [] [] (by decide)]
  refine ⟨_, _, rfl, rfl, ha.mismatched polled (frame began) [] [] _ (by decide) hp nofun, ?_, ?_⟩
  · rw [hs]
    exact (ha.accepted _ _ _ _).2 ⟨began, [], rfl, by decide, hb⟩
  · rw [hs]
    exact ha.consumed began [] sent [] (by decide)

end Client

end DiskBridge.Remote
