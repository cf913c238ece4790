import DiskBridge.Proofs.Transparency

/-!
# The server executes the requests it was sent

A client can send any bytes and go away. The server carries out the requests at the front of them,
as far as they go, answers each with the reply of the device, and lets nothing of the bytes after
them reach the device.

1. `front` finds a message exactly where a frame stands (`exists_length`, `front_append`), so that
   all bytes are requests in their frames and a rest that is cut short, too long or no request
   (`exists_requests`). The requests are the longest run of them (`Requests.prefix_of_stops`).
2. The server makes the calls of the requests in order, and then treats the rest as if it had come
   alone (`transcript_advance_requests`, `transcript_serveConnection`).
3. The transaction it then closes is one that a request began and none ended (`openAfter_iff`).

`serveConnection_executes` states it for all bytes and all devices.
-/

namespace DiskBridge

namespace Remote

open Dialogue Network Server

/-! ## What a client sends -/

/-- Messages that are not too long and hold the given calls. -/
def Requests (bodies : List (List UInt8)) (calls : List Bus.Call) : Prop :=
  (∀ body ∈ bodies, body.length ≤ maxMessage) ∧
    bodies.map (Codec.decode Bus.Call) = calls.map .ok

/-- No bytes, or bytes that end inside a length or inside a message. -/
def CutShort (rest : List UInt8) : Prop :=
  rest.length < 8 ∨ ∃ length body, rest = littleEndian 8 length ++ body ∧ body.length < length ∧
    length ≤ maxMessage

/-- Bytes that begin with a length above the limit. -/
def Oversized (length : Nat) (rest : List UInt8) : Prop :=
  maxMessage < length ∧ length < 2 ^ 64 ∧ ∃ further, rest = littleEndian 8 length ++ further

/-- Bytes that begin with a whole message that is no request. -/
def Garbled (cause : DecodeError) (rest : List UInt8) : Prop :=
  ∃ body further, rest = frame body ++ further ∧ body.length ≤ maxMessage ∧
    Codec.decode Bus.Call body = .error cause

/-- Bytes that do not begin with a request. -/
def Stops (rest : List UInt8) : Prop :=
  CutShort rest ∨ (∃ length, Oversized length rest) ∨ ∃ cause, Garbled cause rest

section Front

variable {rest : List UInt8}

theorem CutShort.front (h : CutShort rest) : front rest = .incomplete := by
  rcases h with h | ⟨length, body, rfl, hb, hl⟩
  · rw [Remote.front, if_pos h]
  · rw [front_append (Nat.lt_of_le_of_lt hl (by decide)), if_neg (by omega), if_pos hb]

theorem Oversized.front {length : Nat} (h : Oversized length rest) :
    front rest = .oversized length := by
  obtain ⟨hm, hl, further, rfl⟩ := h
  rw [front_append hl, if_pos hm]

theorem Garbled.front {cause : DecodeError} (h : Garbled cause rest) :
    ∃ body further, front rest = .whole body further ∧
      Codec.decode Bus.Call body = .error cause := by
  obtain ⟨body, further, rfl, hl, hd⟩ := h
  exact ⟨body, further, front_frame hl further, hd⟩

/-- Eight bytes are a length. -/
theorem exists_length (h : 8 ≤ rest.length) :
    ∃ length after, length < 256 ^ 8 ∧ rest = littleEndian 8 length ++ after := by
  have h8 : (rest.take 8).length = 8 := List.length_take_of_le h
  have hl := ofLittleEndian_lt (rest.take 8)
  have hb := littleEndian_ofLittleEndian (rest.take 8)
  rw [h8] at hl hb
  refine ⟨_, rest.drop 8, hl, ?_⟩
  rw [hb, List.take_append_drop]

/-- Bytes begin with a request or stop there. -/
theorem request_or_stops (rest : List UInt8) :
    (∃ body call after, rest = frame body ++ after ∧ body.length ≤ maxMessage ∧
      Codec.decode Bus.Call body = .ok call) ∨ Stops rest := by
  by_cases h8 : rest.length < 8
  · exact .inr (.inl (.inl h8))
  obtain ⟨length, after, hl, rfl⟩ := exists_length (Nat.not_lt.1 h8)
  by_cases hm : maxMessage < length
  · exact .inr (.inr (.inl ⟨length, hm, hl, after, rfl⟩))
  have hm := Nat.not_lt.1 hm
  by_cases ha : after.length < length
  · exact .inr (.inl (.inr ⟨length, after, rfl, ha, hm⟩))
  have hn : (after.take length).length = length := List.length_take_of_le (Nat.not_lt.1 ha)
  have hf : littleEndian 8 length ++ after = frame (after.take length) ++ after.drop length := by
    rw [frame, hn, List.append_assoc, List.take_append_drop]
  rw [hf]
  have hs : (after.take length).length ≤ maxMessage := Nat.le_trans (Nat.le_of_eq hn) hm
  cases hd : Codec.decode Bus.Call (after.take length) with
  | ok call => exact .inl ⟨_, call, _, rfl, hs, hd⟩
  | error cause => exact .inr (.inr (.inr ⟨cause, _, _, rfl, hs, hd⟩))

/-- Bytes that stop do not begin with a request. -/
theorem Stops.not_request {body : List UInt8} {call : Bus.Call} (h : Stops (frame body ++ rest))
    (hl : body.length ≤ maxMessage) : Codec.decode Bus.Call body ≠ .ok call := by
  have hf := front_frame hl rest
  rcases h with h | ⟨length, h⟩ | ⟨cause, h⟩
  · cases hf.symm.trans h.front
  · cases hf.symm.trans h.front
  · obtain ⟨_, _, hw, hd⟩ := h.front
    cases hf.symm.trans hw
    rw [hd]
    nofun

end Front

section Requests

variable {body : List UInt8} {bodies : List (List UInt8)} {calls : List Bus.Call}

theorem Requests.nil : Requests [] [] := ⟨by simp, rfl⟩

theorem Requests.cons {call : Bus.Call} (hl : body.length ≤ maxMessage)
    (hd : Codec.decode Bus.Call body = .ok call) (h : Requests bodies calls) :
    Requests (body :: bodies) (call :: calls) := by
  refine ⟨List.forall_mem_cons.2 ⟨hl, h.1⟩, ?_⟩
  rw [List.map_cons, List.map_cons, hd, h.2]

theorem Requests.cons_inv (h : Requests (body :: bodies) calls) :
    ∃ call others, calls = call :: others ∧ body.length ≤ maxMessage ∧
      Codec.decode Bus.Call body = .ok call ∧ Requests bodies others := by
  obtain ⟨hl, hd⟩ := h
  obtain ⟨hl, hs⟩ := List.forall_mem_cons.1 hl
  cases calls with
  | nil => cases hd
  | cons call others =>
    rw [List.map_cons, List.map_cons, List.cons.injEq] at hd
    exact ⟨call, others, rfl, hl, hd.1, hs, hd.2⟩

/-- All bytes are requests in their frames and a rest at which they stop. -/
theorem exists_requests (bytes : List UInt8) :
    ∃ bodies calls rest, Requests bodies calls ∧ bytes = bodies.flatMap frame ++ rest ∧
      Stops rest := by
  induction hn : bytes.length using Nat.strongRecOn generalizing bytes with
  | ind n ih =>
    rcases request_or_stops bytes with ⟨body, call, after, rfl, hl, hd⟩ | hs
    · have ha : after.length < n := hn ▸ length_rest_lt (front_frame hl after)
      obtain ⟨bodies, calls, rest, hr, rfl, hs⟩ := ih _ ha after rfl
      refine ⟨body :: bodies, call :: calls, rest, hr.cons hl hd, ?_, hs⟩
      rw [List.flatMap_cons, List.append_assoc]
    · exact ⟨[], [], bytes, .nil, rfl, hs⟩

/-- Requests up to bytes that stop are the longest run: all others are the beginning of it. -/
theorem Requests.prefix_of_stops {rest : List UInt8} (hs : Stops rest) {more : List (List UInt8)}
    {others : List Bus.Call} {left : List UInt8} (h : Requests bodies calls)
    (hm : Requests more others) (he : bodies.flatMap frame ++ rest = more.flatMap frame ++ left) :
    more <+: bodies := by
  induction more generalizing bodies calls others with
  | nil => exact List.nil_prefix
  | cons body more ih =>
    obtain ⟨call, others, rfl, hl, hd, hm⟩ := hm.cons_inv
    rw [List.flatMap_cons, List.append_assoc] at he
    cases bodies with
    | nil =>
      rw [List.flatMap_nil, List.nil_append] at he
      rw [he] at hs
      exact absurd hd (hs.not_request hl)
    | cons first bodies =>
      obtain ⟨_, _, -, hf, -, hb⟩ := h.cons_inv
      rw [List.flatMap_cons, List.append_assoc] at he
      have hw := front_frame hf (bodies.flatMap frame ++ rest)
      rw [he, front_frame hl, Front.whole.injEq] at hw
      obtain ⟨rfl, hw⟩ := hw
      exact (List.prefix_cons_inj body).2 (ih hb hm hw.symm)

end Requests

/-! ## Transactions left open -/

/-- A transaction was begun after the last attempt to end one. -/
def LeftOpen (events : List (Event Bus)) : Prop :=
  ∃ before after, events = before ++ ⟨.begin, .ok ()⟩ :: after ∧
    ∀ event ∈ after, event.request ≠ .finish

theorem leftOpen_cons {event : Event Bus} {events : List (Event Bus)} :
    LeftOpen (event :: events) ↔
      LeftOpen events ∨ event = ⟨.begin, .ok ()⟩ ∧ ∀ event ∈ events, event.request ≠ .finish := by
  constructor
  · rintro ⟨_ | ⟨_, before⟩, after, he, hf⟩
    · cases he
      exact .inr ⟨rfl, hf⟩
    · cases he
      exact .inl ⟨before, after, rfl, hf⟩
  · rintro (⟨before, after, rfl, hf⟩ | ⟨rfl, hf⟩)
    · exact ⟨event :: before, after, rfl, hf⟩
    · exact ⟨[], events, rfl, hf⟩

/-- The note of the server says whether a transaction was left open, now or before. -/
theorem openAfter_iff (opened : Bool) (events : List (Event Bus)) :
    openAfter opened events = true ↔
      LeftOpen events ∨ opened = true ∧ ∀ event ∈ events, event.request ≠ .finish := by
  induction events generalizing opened with
  | nil => simp [openAfter, LeftOpen]
  | cons event events ih =>
    show openAfter (staysOpen opened event.request event.reply) events = true ↔ _
    rw [ih, leftOpen_cons, List.forall_mem_cons]
    obtain ⟨_ | _ | _ | _ | _, reply⟩ := event
    case begin =>
      cases reply with
      | ok => cases opened <;> simp [staysOpen, Except.toBool]
      | error => simp [staysOpen, Except.toBool]
    case finish => simp [staysOpen]
    all_goals simp [staysOpen]

theorem transcript_closeAbandoned {ε : Type} {opened : Bool} {events : List (Event Bus)}
    {result : Except ε Unit} (h : Transcript (closeAbandoned opened) events result) :
    result = .ok () ∧
      (opened = true ∧ (∃ reply, events = [⟨.finish, reply⟩]) ∨ opened = false ∧ events = []) := by
  cases opened with
  | false =>
    cases h
    exact ⟨rfl, .inr ⟨rfl, rfl⟩⟩
  | true =>
    obtain _ | _ | _ | ⟨reply, h⟩ := h
    cases reply with
    | ok =>
      cases h
      exact ⟨rfl, .inl ⟨rfl, _, rfl⟩⟩
    | error error =>
      obtain _ | _ | h := h
      cases h
      exact ⟨rfl, .inl ⟨rfl, _, rfl⟩⟩

/-- One call ends the transaction that was left open, if one was. -/
def Closes (served closing : List (Event Bus)) : Prop :=
  LeftOpen served ∧ (∃ reply, closing = [⟨.finish, reply⟩]) ∨ ¬LeftOpen served ∧ closing = []

theorem closes_of_transcript {served closing : List (Event Bus)} {error ending : Error}
    (h : Transcript (closeAbandoned (openAfter false served) >>= fun _ => done error) closing
      (.ok ending : Except Empty Error)) : Closes served closing ∧ ending = error := by
  have ho : openAfter false served = true ↔ LeftOpen served := by
    rw [openAfter_iff]
    simp
  rcases transcript_bind h with ⟨cause, -, -⟩ | ⟨_, _, _, rfl, hc, hd⟩
  · cases cause
  cases hd
  rw [List.append_nil]
  obtain ⟨-, ⟨hs, hr⟩ | ⟨hs, rfl⟩⟩ := transcript_closeAbandoned hc
  · exact ⟨.inl ⟨ho.1 hs, hr⟩, rfl⟩
  · exact ⟨.inr ⟨fun hl => Bool.false_ne_true (hs.symm.trans (ho.2 hl)), rfl⟩, rfl⟩

/-! ## What the server does -/

section Ending

variable {opened : Bool} {rest : List UInt8}

theorem ending_of_cutShort (h : CutShort rest) :
    (advance .steady opened rest >>= hangUp : Dialogue Bus Empty Error) =
      closeAbandoned opened >>= fun _ => done disconnected := by
  rw [advance_incomplete h.front]
  rfl

theorem ending_of_oversized {length : Nat} (h : Oversized length rest) :
    (advance .steady opened rest >>= hangUp : Dialogue Bus Empty Error) =
      closeAbandoned opened >>= fun _ =>
        done (serverError ("Invalid request: " ++ tooLong length) Errno.invalidArgument) := by
  rw [advance_oversized h.front, bind_assoc]
  rfl

theorem ending_of_garbled {cause : DecodeError} (h : Garbled cause rest) :
    (advance .steady opened rest >>= hangUp : Dialogue Bus Empty Error) =
      done (serverError ("Failed to deserialize: " ++ cause.message) Errno.inputOutput) := by
  obtain ⟨body, further, hf, hd⟩ := h.front
  rw [advance_garbled hf hd]
  rfl

/-- Where the bytes stop, no response is sent. -/
theorem sent_of_stops (h : Stops rest) {events : List (Event Bus)} {progress : Progress}
    (ht : Transcript (advance .steady opened rest) events (.ok progress : Except Empty Progress)) :
    progress.sent = [] := by
  rcases h with h | ⟨length, h⟩ | ⟨cause, h⟩
  · rw [advance_incomplete h.front] at ht
    cases ht
    rfl
  · rw [advance_oversized h.front] at ht
    rcases transcript_bind ht with ⟨cause, -, -⟩ | ⟨_, _, _, -, -, hd⟩
    · cases cause
    · cases hd
      rfl
  · obtain ⟨body, further, hf, hd⟩ := h.front
    rw [advance_garbled hf hd] at ht
    cases ht
    rfl

/-- What comes after a length above the limit is not read. -/
theorem serveConnection_unread {bodies : List (List UInt8)} {calls : List Bus.Call}
    (h : Requests bodies calls) {length : Nat} (hl : Oversized length rest)
    (further : List UInt8) :
    (serveConnection .steady (bodies.flatMap frame ++ (littleEndian 8 length ++ further)) :
        Dialogue Bus Empty (List (List UInt8) × Error)) =
      serveConnection .steady (bodies.flatMap frame ++ rest) := by
  have ha (opened : Bool) : (advance .steady opened (bodies.flatMap frame ++
      (littleEndian 8 length ++ further)) : Dialogue Bus Empty Progress) =
        advance .steady opened (bodies.flatMap frame ++ rest) := by
    induction bodies generalizing calls opened with
    | nil =>
      have hf : Oversized length (littleEndian 8 length ++ further) := ⟨hl.1, hl.2.1, further, rfl⟩
      rw [List.flatMap_nil, List.nil_append, List.nil_append, advance_oversized hf.front,
        advance_oversized hl.front]
    | cons body bodies ih =>
      obtain ⟨call, others, rfl, hm, hd, hb⟩ := h.cons_inv
      rw [List.flatMap_cons, List.append_assoc, List.append_assoc, advance_steady opened hm hd,
        advance_steady opened hm hd]
      simp only [ih hb]
  rw [serveConnection, serveConnection, ha]

end Ending

section Serving

variable {bodies : List (List UInt8)} {calls : List Bus.Call} (h : Requests bodies calls)
  {rest : List UInt8}

include h

/-- The server makes the calls of the requests and answers each of them. -/
theorem transcript_advance_requests {opened : Bool} {events : List (Event Bus)} {last : Progress}
    (ht : Transcript (advance .steady opened (bodies.flatMap frame ++ rest)) events
      (.ok last : Except Empty Progress)) :
    ∃ served after progress, events = served ++ after ∧ served.map (·.request) = calls ∧
      Transcript (advance .steady (openAfter opened served) rest) after
        (.ok progress : Except Empty Progress) ∧
      last = { progress with sent := responses served ++ progress.sent } := by
  induction bodies generalizing calls opened events last with
  | nil =>
    obtain rfl : calls = [] := List.map_eq_nil_iff.1 h.2.symm
    exact ⟨[], events, last, rfl, rfl, ht, rfl⟩
  | cons body bodies ih =>
    obtain ⟨call, others, rfl, hl, hd, hb⟩ := h.cons_inv
    rw [List.flatMap_cons, List.append_assoc, advance_steady opened hl hd] at ht
    obtain _ | _ | _ | ⟨reply, ht⟩ := ht
    rcases transcript_bind ht with ⟨cause, -, -⟩ | ⟨_, _, _, rfl, ha, hn⟩
    · cases cause
    cases hn
    obtain ⟨served, after, progress, rfl, rfl, hr, rfl⟩ := ih hb ha
    refine ⟨⟨call, reply⟩ :: served, after, progress, ?_, rfl, hr, rfl⟩
    rw [List.append_nil]
    rfl

/-- After the requests, the server ends the connection as if the rest had come alone. -/
theorem transcript_serveConnection {events : List (Event Bus)}
    {result : Except Empty (List (List UInt8) × Error)}
    (hs : Stops rest)
    (ht : Transcript (serveConnection .steady (bodies.flatMap frame ++ rest)) events result) :
    ∃ served closing error, events = served ++ closing ∧ served.map (·.request) = calls ∧
      result = .ok (responses served, error) ∧
      Transcript (advance .steady (openAfter false served) rest >>= hangUp) closing
        (.ok error : Except Empty Error) := by
  rcases transcript_bind ht with ⟨cause, -, -⟩ | ⟨_, _, _, rfl, ha, hn⟩
  · cases cause
  obtain ⟨served, late, progress, rfl, hc, hr, rfl⟩ := transcript_advance_requests h ha
  rcases transcript_bind hn with ⟨cause, -, -⟩ | ⟨error, closing, _, rfl, hh, hd⟩
  · cases cause
  cases hd
  refine ⟨served, late ++ closing, error, ?_, hc, ?_, hr.bind hh⟩
  · rw [List.append_nil, List.append_assoc]
  · rw [sent_of_stops hs hr, List.append_nil]

end Serving

/-- **Requests.** Whatever bytes a client sends and whatever device is served, let `bodies` be the
longest run of requests at the front of the bytes, and `rest` what follows them. The server makes
their calls, once each and in order, and sends their results. If `rest` is cut short it reports that
the client is gone, and if it begins with a length above the limit that the request is invalid,
whatever comes after the length; in both cases one more call ends a transaction that was left open.
If `rest` begins with a message that is no request it reports that one, and makes no call. -/
theorem serveConnection_executes {σ : Type} (machine : Machine Bus σ) (bytes : List UInt8)
    (state : σ) (journal : Journal) :
    let serve (bytes : List UInt8) : Dialogue Bus Empty (List (List UInt8) × Error) :=
      serveConnection .steady bytes
    let ran := (serve bytes).run machine.recorded (state, []) journal
    ∃ bodies calls rest, Requests bodies calls ∧ bytes = bodies.flatMap frame ++ rest ∧
      (∀ more others left, Requests more others → bytes = more.flatMap frame ++ left →
        more <+: bodies) ∧
      ∃ served closing error, ran.state.2.reverse = served ++ closing ∧
        served.map (·.request) = calls ∧
        ran.result = .ok (served.map fun event =>
          frame (Codec.encode (Response.ofReply event.request event.reply)), error) ∧
        (CutShort rest → Closes served closing ∧
          error = .traffic (.remoteGone
            "Client disconnected: error: failed to fill whole buffer kind: unexpected end of file"
            0)) ∧
        (∀ length, Oversized length rest → Closes served closing ∧
          error = .traffic (.remote ("Invalid request: " ++ tooLong length) 22) ∧
          ∀ further, serve (bodies.flatMap frame ++ (littleEndian 8 length ++ further)) =
            serve bytes) ∧
        (∀ cause, Garbled cause rest → closing = [] ∧
          error = .traffic (.remote ("Failed to deserialize: " ++ cause.message) 5)) ∧
        (CutShort rest ∨ (∃ length, Oversized length rest) ∨ ∃ cause, Garbled cause rest) := by
  intro serve ran
  obtain ⟨bodies, calls, rest, hr, rfl, hs⟩ := exists_requests bytes
  obtain ⟨served, closing, error, he, hc, ha, ht⟩ :=
    transcript_serveConnection hr hs (transcript_recorded machine _ state journal).1
  refine ⟨bodies, calls, rest, hr, rfl, fun more others left hm => hr.prefix_of_stops hs hm,
    served, closing, error, he, hc, ha, fun h => ?_, fun length h => ?_, fun cause h => ?_, hs⟩
  · rw [ending_of_cutShort h] at ht
    exact closes_of_transcript ht
  · rw [ending_of_oversized h] at ht
    obtain ⟨hl, he⟩ := closes_of_transcript ht
    exact ⟨hl, he, serveConnection_unread hr h⟩
  · rw [ending_of_garbled h] at ht
    cases ht
    exact ⟨rfl, rfl⟩

end Remote

end DiskBridge
