import DiskBridge.Drive.Session
import DiskBridge.Proofs.Transcript

/-!
# Transactions are bracketed

The calls that a drive makes on its bus are a sequence of pauses, polls, refused attempts to begin
a transaction, and whole transactions (`Bracketed`), whatever the bus answers: every transaction
that was begun is ended once, also when an exchange in it or the end itself fails.

1. A dialogue that only exchanges bytes and pauses may stand inside a transaction (`Confined`).
2. `Bus.bracket` around such a dialogue makes one whole transaction (`transcript_bracket`). It is
   the only place where transactions are begun and ended.
3. Everything else is put together from brackets, polls and pauses. What holds of these holds of all
   operations (`Commanding`, or `Transferring` for those that move chunks of data), and to be
   bracketed is such a property (`transferring_bracketed`).

`session_bracketed` states it for every session on every device, action by action.
-/

namespace DiskBridge

open Dialogue

/-! ## Well-bracketed calls -/

namespace Bus

/-- The calls that may stand inside a transaction. -/
def Inner (event : Event Bus) : Prop :=
  match event.request with
  | .exchange _ | .pause _ => True
  | .begin | .finish | .poll => False

/-- A sequence of pauses, polls, failed attempts to begin a transaction, and whole transactions,
each of them begun, filled with exchanges and pauses, and ended once. -/
inductive Bracketed : List (Event Bus) → Prop
  | nil : Bracketed []
  | pause (span : Duration) {rest : List (Event Bus)} :
      Bracketed rest → Bracketed (⟨.pause span, ()⟩ :: rest)
  | poll (reply : Except Error Bool) {rest : List (Event Bus)} :
      Bracketed rest → Bracketed (⟨.poll, reply⟩ :: rest)
  | refused (error : Error) {rest : List (Event Bus)} :
      Bracketed rest → Bracketed (⟨.begin, .error error⟩ :: rest)
  | block (reply : Except Error Unit) {body rest : List (Event Bus)} :
      (∀ event ∈ body, Inner event) → Bracketed rest →
        Bracketed (⟨.begin, .ok ()⟩ :: (body ++ ⟨.finish, reply⟩ :: rest))

theorem Bracketed.append {before after : List (Event Bus)} (hb : Bracketed before)
    (ha : Bracketed after) : Bracketed (before ++ after) := by
  induction hb with
  | nil => exact ha
  | pause span _ ih => exact .pause span ih
  | poll reply _ ih => exact .poll reply ih
  | refused error _ ih => exact .refused error ih
  | block reply hi _ ih =>
    rw [List.cons_append, List.append_assoc]
    exact .block reply hi ih

theorem bracketed : Concatenative Bracketed := ⟨.nil, .append⟩

theorem Bracketed.flatten {traces : List (List (Event Bus))}
    (h : ∀ trace ∈ traces, Bracketed trace) : Bracketed traces.flatten := by
  induction traces with
  | nil => exact .nil
  | cons trace rest ih =>
    rw [List.flatten_cons]
    exact (h trace List.mem_cons_self).append (ih fun t ht => h t (List.mem_cons_of_mem _ ht))

/-- A dialogue whose calls are bracketed, whatever the answers. -/
abbrev Disciplined (dialogue : Dialogue Bus ε α) : Prop := Always Bracketed dialogue

/-- A dialogue that may stand inside a transaction. -/
abbrev Confined (dialogue : Dialogue Bus ε α) : Prop :=
  Always (fun events => ∀ event ∈ events, Inner event) dialogue

theorem inner : Concatenative (I := Bus) fun events => ∀ event ∈ events, Inner event where
  nil := by simp
  append hb ha event h := (List.mem_append.1 h).elim (hb event) (ha event)

/-! ## What stands inside a transaction -/

theorem confined_exchange (byte : UInt8) : Confined (exchange byte) := by
  refine always_ask inner (fun reply event h => ?_) fun reply => always_ofExcept inner reply
  rw [List.mem_singleton] at h
  subst h
  exact True.intro

theorem confined_pause (span : Duration) : Confined (pause span : Dialogue Bus ε Unit) := by
  refine always_ask inner (fun reply event h => ?_) fun reply => always_done inner ()
  rw [List.mem_singleton] at h
  subst h
  exact True.intro

theorem confined_send (bytes : List UInt8) : Confined (send bytes) := by
  induction bytes with
  | nil => exact always_done inner ()
  | cons byte rest ih => exact (confined_exchange byte).bind inner fun _ => ih

theorem confined_receiveMany (count : Nat) : Confined (receiveMany count) := by
  induction count with
  | zero => exact always_done inner []
  | succ count ih =>
    exact (confined_exchange _).bind inner fun byte => ih.bind inner fun _ => always_done inner _

/-! ## Single calls -/

theorem transcript_exchange {byte : UInt8} {events : List (Event Bus)} {result : Except Error UInt8}
    (h : Transcript (exchange byte) events result) : events = [⟨.exchange byte, result⟩] := by
  obtain _ | _ | _ | ⟨reply, h⟩ := h
  obtain ⟨rfl, rfl⟩ := transcript_ofExcept h
  rfl

theorem transcript_poll {events : List (Event Bus)} {result : Except Error Bool}
    (h : Transcript poll events result) : events = [⟨.poll, result⟩] := by
  obtain _ | _ | _ | ⟨reply, h⟩ := h
  obtain ⟨rfl, rfl⟩ := transcript_ofExcept h
  rfl

theorem transcript_pause {span : Duration} {events : List (Event Bus)} {result : Except ε Unit}
    (h : Transcript (pause span) events result) :
    events = [⟨.pause span, ()⟩] ∧ result = .ok () := by
  obtain _ | _ | _ | ⟨reply, h⟩ := h
  cases h
  exact ⟨rfl, rfl⟩

theorem transcript_begin {restate : Error → ε} {events : List (Event Bus)} {result : Except ε Unit}
    (h : Transcript (begin.mapFailure restate) events result) :
    ∃ reply, events = [⟨.begin, reply⟩] ∧ result = reply.mapError restate := by
  obtain ⟨ending, rfl, _ | _ | _ | ⟨reply, h⟩⟩ := transcript_mapFailure h
  obtain ⟨rfl, rfl⟩ := transcript_ofExcept h
  exact ⟨_, rfl, rfl⟩

theorem transcript_finish {restate : Error → ε} {events : List (Event Bus)}
    {result : Except ε Unit} (h : Transcript (finish.mapFailure restate) events result) :
    ∃ reply, events = [⟨.finish, reply⟩] ∧ result = reply.mapError restate := by
  obtain ⟨ending, rfl, _ | _ | _ | ⟨reply, h⟩⟩ := transcript_mapFailure h
  obtain ⟨rfl, rfl⟩ := transcript_ofExcept h
  exact ⟨_, rfl, rfl⟩

/-! ## Whole transactions -/

theorem transcript_abandon {events : List (Event Bus)} {result : Except ε Unit}
    (h : Transcript (abandon : Dialogue Bus ε Unit) events result) :
    result = .ok () ∧ ∃ reply, events = [⟨.finish, reply⟩] := by
  obtain _ | _ | ⟨_ | _ | _ | ⟨reply, h⟩⟩ := h
  cases reply with
  | ok value =>
    cases h
    exact ⟨rfl, _, rfl⟩
  | error error =>
    obtain _ | _ | h := h
    cases h
    exact ⟨rfl, _, rfl⟩

theorem transcript_close {restate : Error → ε} {value : α} {events : List (Event Bus)}
    {result : Except ε α}
    (h : Transcript (finish.mapFailure restate >>= fun _ => done value) events result) :
    ∃ reply, events = [⟨.finish, reply⟩] ∧
      result = (reply.map fun _ => value).mapError restate := by
  rcases transcript_bind h with ⟨cause, rfl, hf⟩ | ⟨_, before, after, rfl, hf, hd⟩
  · obtain ⟨reply, rfl, hr⟩ := transcript_finish hf
    cases reply with
    | ok _ => cases hr
    | error error =>
      cases hr
      exact ⟨_, rfl, rfl⟩
  · obtain ⟨reply, rfl, hr⟩ := transcript_finish hf
    cases hd
    cases reply with
    | ok _ => exact ⟨_, rfl, rfl⟩
    | error error => cases hr

/-- A bracket is refused, or it is one whole transaction around a conversation of the dialogue in
it. How the end of the transaction is answered matters only if that dialogue ended with a value. -/
theorem transcript_bracket {early : Error → ε} {late : α → Error → ε} {body : Dialogue Bus ε α}
    {events : List (Event Bus)} {result : Except ε α}
    (h : Transcript (bracket early late body) events result) :
    (∃ error, events = [⟨.begin, .error error⟩] ∧ result = .error (early error)) ∨
      ∃ inside reply, events = ⟨.begin, .ok ()⟩ :: (inside ++ [⟨.finish, reply⟩]) ∧
        ((∃ value, Transcript body inside (.ok value) ∧
            result = (reply.map fun _ => value).mapError (late value)) ∨
          ∃ cause, Transcript body inside (.error cause) ∧ result = .error cause) := by
  rcases transcript_bind h with ⟨cause, rfl, hb⟩ | ⟨_, before, after, rfl, hb, ha⟩
  · obtain ⟨reply, rfl, hr⟩ := transcript_begin hb
    cases reply with
    | ok _ => cases hr
    | error error =>
      cases hr
      exact .inl ⟨error, rfl, rfl⟩
  · obtain ⟨reply, rfl, hr⟩ := transcript_begin hb
    cases reply with
    | error error => cases hr
    | ok _ =>
      obtain ⟨ending, inside, close, rfl, hi, hf⟩ := transcript_attempt_bind ha
      -- However the dialogue in between ended, one call ends the transaction.
      cases ending with
      | ok value =>
        obtain ⟨reply, rfl, rfl⟩ := transcript_close hf
        exact .inr ⟨inside, reply, rfl, .inl ⟨value, hi, rfl⟩⟩
      | error cause =>
        rcases transcript_bind hf with ⟨_, rfl, hd⟩ | ⟨_, before, after, rfl, hd, hn⟩
        · cases (transcript_abandon hd).1
        · obtain ⟨-, reply, rfl⟩ := transcript_abandon hd
          cases hn
          exact .inr ⟨inside, reply, rfl, .inr ⟨cause, hi, rfl⟩⟩

/-! ## What operations are made of -/

/-- Calls inside a transaction that begins with a command. -/
def Led (command : Command) (body : List (Event Bus)) : Prop :=
  (∀ event ∈ body, Inner event) ∧ ∃ reply rest, body = ⟨.exchange command.opcode, reply⟩ :: rest

theorem always_led {command : Command} {dialogue : Dialogue Bus ε α}
    {next : Except Error UInt8 → Dialogue Bus ε α} (hc : Confined dialogue)
    (he : dialogue = ask (I := Bus) (.exchange command.opcode) next) :
    Always (Led command) dialogue := by
  intro events result ht
  refine ⟨hc _ _ ht, ?_⟩
  subst he
  obtain _ | _ | _ | ⟨reply, _⟩ := ht
  exact ⟨reply, _, rfl⟩

/-- A property that is kept when calls are put one after the other, and holds of pauses, of polls and
of transactions, save those that hand a chunk of data to the chip. -/
structure Commanding (P : List (Event Bus) → Prop) : Prop extends Concatenative P where
  pause (span : Duration) : P [⟨.pause span, ()⟩]
  poll (reply : Except Error Bool) : P [⟨.poll, reply⟩]
  refused (error : Error) : P [⟨.begin, .error error⟩]
  block {command : Command} {body : List (Event Bus)} (reply : Except Error Unit) :
    command ≠ .writeBuffer → Led command body →
      P (⟨.begin, .ok ()⟩ :: (body ++ [⟨.finish, reply⟩]))

/-- A property that also holds of the other transactions. -/
structure Transferring (P : List (Event Bus) → Prop) : Prop extends Commanding P where
  chunk {body : List (Event Bus)} (reply : Except Error Unit) :
    Led .writeBuffer body → P (⟨.begin, .ok ()⟩ :: (body ++ [⟨.finish, reply⟩]))

theorem transferring_bracketed : Transferring Bracketed where
  toConcatenative := bracketed
  pause span := .pause span .nil
  poll reply := .poll reply .nil
  refused error := .refused error .nil
  block reply _ hl := .block reply hl.1 .nil
  chunk reply hl := .block reply hl.1 .nil

/-- A bracket makes one whole transaction, or fails to begin one. -/
theorem always_enclosed {P : List (Event Bus) → Prop} {command : Command} {early : Error → ε}
    {late : α → Error → ε} {body : Dialogue Bus ε α}
    {next : Except Error UInt8 → Dialogue Bus ε α} (hr : ∀ error, P [⟨.begin, .error error⟩])
    (hb : ∀ {body : List (Event Bus)} (reply : Except Error Unit), Led command body →
      P (⟨.begin, .ok ()⟩ :: (body ++ [⟨.finish, reply⟩])))
    (hc : Confined body) (he : body = ask (I := Bus) (.exchange command.opcode) next) :
    Always P (bracket early late body) := by
  have hl : Always (Led command) body := always_led hc he
  intro events result ht
  rcases transcript_bracket ht with ⟨error, rfl, -⟩ | ⟨inside, reply, rfl, ⟨_, hi, -⟩ | ⟨_, hi, -⟩⟩
  · exact hr error
  · exact hb reply (hl _ _ hi)
  · exact hb reply (hl _ _ hi)

section Commanding

variable {P : List (Event Bus) → Prop} (hP : Commanding P)

include hP

theorem always_bracket (command : Command) {early : Error → ε} {late : α → Error → ε}
    {body : Dialogue Bus ε α} {next : Except Error UInt8 → Dialogue Bus ε α}
    (hn : command ≠ .writeBuffer) (hc : Confined body)
    (he : body = ask (I := Bus) (.exchange command.opcode) next) :
    Always P (bracket early late body) :=
  always_enclosed hP.refused (fun reply => hP.block reply hn) hc he

theorem always_transaction (command : Command) {body : Dialogue Bus Error α}
    {next : Except Error UInt8 → Dialogue Bus Error α} (hn : command ≠ .writeBuffer)
    (hc : Confined body) (he : body = ask (I := Bus) (.exchange command.opcode) next) :
    Always P (transaction body) := by
  unfold transaction
  exact (always_bracket hP command hn hc he).mapFailure _

theorem always_pause (span : Duration) : Always P (pause span : Dialogue Bus ε Unit) :=
  always_ask hP.toConcatenative (fun _ => hP.pause span) fun _ => always_done hP.toConcatenative ()

theorem always_poll : Always P poll :=
  always_ask hP.toConcatenative (fun reply => hP.poll reply) fun reply =>
    always_ofExcept hP.toConcatenative reply

end Commanding

end Bus

/-! ## The operations of a drive -/

namespace Drive

open Bus

section Commanding

variable {P : List (Event Bus) → Prop} (hP : Commanding P)

include hP

theorem always_say_bind {α : Type} (level : Level) (text : String) {next : Operation α}
    (hn : Always P next) : Always P (say level text >>= fun _ => next) :=
  (always_say hP.toConcatenative level text).bind hP.toConcatenative fun _ => hn

theorem always_sendCommand {command : Command} (hn : command ≠ .writeBuffer)
    (arguments : List UInt8) : Always P (sendCommand command arguments) :=
  always_say_bind hP _ _ (always_transaction hP command hn (confined_send _) rfl)

theorem always_pollStatus : Always P pollStatus := by
  refine always_say_bind hP _ _ ?_
  refine Always.bind hP.toConcatenative (always_transaction hP .status (by decide) ?_ rfl) fun byte => ?_
  · exact (confined_send _).bind inner fun _ => confined_exchange _
  · exact always_say_bind hP _ _ (always_done hP.toConcatenative _)

theorem always_awaitInterrupt (patience : Nat) : Always P (awaitInterrupt patience) := by
  induction patience with
  | zero => exact always_failed hP.toConcatenative _
  | succ patience ih =>
    refine ((always_poll hP).mapFailure _).bind hP.toConcatenative fun raised => ?_
    split
    · exact always_done hP.toConcatenative ()
    · exact ih

theorem always_waitStatus (drive : Drive) : Always P drive.waitStatus := by
  refine always_say_bind hP _ _ ?_
  exact (always_awaitInterrupt hP _).bind hP.toConcatenative fun _ => always_pollStatus hP

theorem always_status (drive : Drive) : Always P drive.status := by
  unfold status
  split
  · exact always_waitStatus hP drive
  · exact always_pollStatus hP

theorem always_commandStatus (drive : Drive) {command : Command} (hn : command ≠ .writeBuffer)
    (arguments : List UInt8) : Always P (drive.commandStatus command arguments) := by
  refine (always_sendCommand hP hn arguments).bind hP.toConcatenative fun _ => ?_
  refine (always_status hP drive).bind hP.toConcatenative fun status => ?_
  exact always_say_bind hP _ _ (always_done hP.toConcatenative _)

theorem always_expectStatus (command : Command) (status expected : Status) :
    Always P (expectStatus command status expected) := by
  unfold expectStatus
  split
  · exact always_done hP.toConcatenative ()
  · exact always_say_bind hP _ _ (always_failed hP.toConcatenative _)

theorem always_simpleCommand (drive : Drive) {command : Command} (hn : command ≠ .writeBuffer)
    (arguments : List UInt8) : Always P (drive.simpleCommand command arguments) :=
  (always_commandStatus hP drive hn arguments).bind hP.toConcatenative fun status =>
    always_expectStatus hP command status .success

/-! ### Bring-up -/

theorem always_reset (drive : Drive) : Always P drive.reset := by
  refine always_say_bind hP _ _ ?_
  refine (always_pause hP _).bind hP.toConcatenative fun _ => ?_
  refine (always_sendCommand hP (by decide) []).bind hP.toConcatenative fun _ => ?_
  exact (always_pause hP _).bind hP.toConcatenative fun _ => always_say hP.toConcatenative _ _

theorem always_routeInterrupt : Always P routeInterrupt :=
  always_say_bind hP _ _ (always_sendCommand hP (by decide) _)

theorem always_setUsbMode (drive : Drive) (mode : UsbMode) : Always P (drive.setUsbMode mode) := by
  refine always_say_bind hP _ _ ?_
  refine Always.bind hP.toConcatenative (always_transaction hP .usbMode (by decide) ?_ rfl) fun byte => ?_
  · refine (confined_send _).bind inner fun _ => ?_
    exact (confined_pause _).bind inner fun _ => confined_exchange _
  · exact (always_expectStatus hP _ _ _).bind hP.toConcatenative fun _ =>
      always_say hP.toConcatenative _ _

theorem always_initialise (drive : Drive) : Always P drive.initialise := by
  refine always_say_bind hP _ _ ?_
  refine (always_reset hP drive).bind hP.toConcatenative fun _ => ?_
  exact (always_routeInterrupt hP).bind hP.toConcatenative fun _ => always_setUsbMode hP drive _

theorem always_awaitConnect (drive : Drive) (rounds : Nat) :
    Always P (drive.awaitConnect rounds) := by
  induction rounds with
  | zero => exact always_failed hP.toConcatenative _
  | succ rounds ih =>
    refine (always_waitStatus hP drive).bind hP.toConcatenative fun status => ?_
    split
    · exact always_say hP.toConcatenative _ _
    · exact always_say_bind hP _ _ ih

theorem always_waitForConnect (drive : Drive) : Always P drive.waitForConnect :=
  always_say_bind hP _ _ (always_awaitConnect hP drive _)

theorem always_connectDisk (drive : Drive) : Always P drive.connectDisk := by
  refine always_say_bind hP _ _ ?_
  refine (always_waitForConnect hP drive).bind hP.toConcatenative fun _ => ?_
  refine (always_setUsbMode hP drive _).bind hP.toConcatenative fun _ => ?_
  refine (always_setUsbMode hP drive _).bind hP.toConcatenative fun _ => ?_
  refine (always_waitForConnect hP drive).bind hP.toConcatenative fun _ => ?_
  refine (always_simpleCommand hP drive (by decide) []).bind hP.toConcatenative fun _ => ?_
  exact always_say_bind hP _ _ (always_simpleCommand hP drive (by decide) [])

theorem always_bringUp (drive : Drive) : Always P drive.bringUp := by
  refine always_say_bind hP _ _ ?_
  refine (always_initialise hP drive).bind hP.toConcatenative fun _ => ?_
  exact (always_connectDisk hP drive).bind hP.toConcatenative fun _ =>
    always_say hP.toConcatenative _ _

theorem always_version (drive : Drive) : Always P drive.version := by
  refine Always.bind hP.toConcatenative (always_transaction hP .version (by decide) ?_ rfl) fun _ => ?_
  · refine (confined_send _).bind inner fun _ => ?_
    exact (confined_pause _).bind inner fun _ => confined_exchange _
  · exact always_say_bind hP _ _ (always_done hP.toConcatenative _)

theorem always_selfTest : Always P selfTest := by
  refine Always.bind hP.toConcatenative (always_transaction hP .selfTest (by decide) ?_ rfl) fun _ => ?_
  · exact (confined_send _).bind inner fun _ => confined_exchange _
  · dsimp only
    split
    · exact always_say hP.toConcatenative _ _
    · exact always_say_bind hP _ _ (always_failed hP.toConcatenative _)

/-! ### Files, directories and paths -/

theorem always_openSelected (drive : Drive) : Always P drive.openSelected := by
  refine always_say_bind hP _ _ ?_
  refine (always_commandStatus hP drive (by decide) []).bind hP.toConcatenative fun status => ?_
  split
  · exact always_done hP.toConcatenative _
  · exact always_done hP.toConcatenative _
  · exact always_say_bind hP _ _ (always_failed hP.toConcatenative _)

theorem always_createFile (drive : Drive) : Always P drive.createFile := by
  refine always_say_bind hP _ _ ?_
  refine (always_simpleCommand hP drive (by decide) []).bind hP.toConcatenative fun _ => ?_
  refine (always_openSelected hP drive).bind hP.toConcatenative fun opened => ?_
  split
  · exact always_say hP.toConcatenative _ _
  · exact always_done hP.toConcatenative ()

theorem always_createDirectory (drive : Drive) : Always P drive.createDirectory :=
  always_say_bind hP _ _ (always_simpleCommand hP drive (by decide) [])

theorem always_erase (drive : Drive) : Always P drive.erase :=
  always_say_bind hP _ _ (always_simpleCommand hP drive (by decide) [])

theorem always_close (drive : Drive) : Always P drive.close :=
  always_say_bind hP _ _ (always_simpleCommand hP drive (by decide) _)

theorem always_fileSize : Always P fileSize := by
  refine Always.bind hP.toConcatenative (always_transaction hP .fileSize (by decide) ?_ rfl) fun _ => ?_
  · exact (confined_send _).bind inner fun _ => confined_receiveMany _
  · exact always_say_bind hP _ _ (always_done hP.toConcatenative _)

theorem always_sendName (name : List UInt8) : Always P (sendName name) :=
  always_say_bind hP _ _ (always_transaction hP .fileName (by decide) (confined_send _) rfl)

theorem always_enterDirectory (drive : Drive) (name : List UInt8) :
    Always P (drive.enterDirectory name) := by
  refine (always_sendName hP name).bind hP.toConcatenative fun _ => ?_
  refine (always_openSelected hP drive).attempt.bind hP.toConcatenative fun ending => ?_
  split
  · exact always_say hP.toConcatenative _ _
  · exact always_say_bind hP _ _ (always_failed hP.toConcatenative _)
  · exact always_failed hP.toConcatenative _

theorem always_walk (drive : Drive) (path : String) (name rest : List UInt8) :
    Always P (drive.walk path name rest) := by
  induction rest generalizing name with
  | nil =>
    unfold walk
    split
    · exact always_say_bind hP _ _ (always_failed hP.toConcatenative _)
    · exact always_sendName hP name
  | cons byte rest ih =>
    unfold walk
    split
    · exact (always_enterDirectory hP drive name).bind hP.toConcatenative fun _ => ih []
    · split
      · exact always_say_bind hP _ _ (always_failed hP.toConcatenative _)
      · exact ih _

theorem always_selectPath (drive : Drive) (path : String) : Always P (drive.selectPath path) := by
  refine always_say_bind hP _ _ ?_
  split
  · exact always_failed hP.toConcatenative _
  · split
    · exact always_walk hP drive path _ _
    · exact always_say_bind hP _ _ (always_failed hP.toConcatenative _)

/-! ### Chunked transfers -/

theorem always_checkSize (size : Nat) : Always P (checkSize size) := by
  unfold checkSize
  split
  · exact always_say_bind hP _ _ (always_failed hP.toConcatenative _)
  · exact always_done hP.toConcatenative ()

omit hP in
theorem confined_receiveChunk (count : Nat) (received : List UInt8) :
    Confined (receiveChunk count received) := by
  induction count generalizing received with
  | zero => exact always_done inner _
  | succ count ih =>
    exact ((confined_exchange _).mapFailure _).bind inner fun byte => ih _

theorem always_readChunk (room : Nat) : Always P (readChunk room) := by
  refine Always.bind hP.toConcatenative (always_bracket hP .readBuffer (by decide) ?_ rfl) fun _ => ?_
  · refine ((confined_send _).mapFailure _).bind inner fun _ => ?_
    refine ((confined_exchange _).mapFailure _).bind inner fun length => ?_
    dsimp only
    split
    · exact (always_say inner _ _).bind inner fun _ => always_failed inner _
    · exact confined_receiveChunk _ _
  · exact (always_say hP.toConcatenative _ _).bind hP.toConcatenative fun _ =>
      always_done hP.toConcatenative _

theorem always_readChunks (drive : Drive) (size rounds : Nat) (received : List UInt8)
    (chunks : Nat) : Always P (drive.readChunks size rounds received chunks) := by
  induction rounds generalizing received chunks with
  | zero => exact always_failed hP.toConcatenative _
  | succ rounds ih =>
    refine ((always_readChunk hP _).mapFailure _).bind hP.toConcatenative fun chunk => ?_
    refine (Always.mapFailure ?_ _).bind hP.toConcatenative fun status => ?_
    · exact (always_sendCommand hP (by decide) []).bind hP.toConcatenative fun _ =>
        always_status hP drive
    · split
      · exact always_done hP.toConcatenative _
      · exact ih _ _
      · exact (always_say hP.toConcatenative _ _).bind hP.toConcatenative fun _ =>
          always_failed hP.toConcatenative _

theorem always_read (drive : Drive) (size : Nat) : Always P (drive.read size) := by
  refine (always_say hP.toConcatenative _ _).bind hP.toConcatenative fun _ => ?_
  split
  · exact (always_say hP.toConcatenative _ _).bind hP.toConcatenative fun _ =>
      always_done hP.toConcatenative _
  · refine (Always.mapFailure ?_ _).bind hP.toConcatenative fun _ => ?_
    · refine (always_checkSize hP size).bind hP.toConcatenative fun _ => ?_
      refine (always_commandStatus hP drive (by decide) _).bind hP.toConcatenative fun status => ?_
      exact always_expectStatus hP _ _ _
    · refine (always_readChunks hP drive _ _ _ _).bind hP.toConcatenative fun result => ?_
      dsimp only
      split
      · refine (always_say hP.toConcatenative _ _).bind hP.toConcatenative fun _ => ?_
        exact (always_say hP.toConcatenative _ _).bind hP.toConcatenative fun _ =>
          always_done hP.toConcatenative _
      · exact (always_say hP.toConcatenative _ _).bind hP.toConcatenative fun _ =>
          always_done hP.toConcatenative _

end Commanding

section Transferring

variable {P : List (Event Bus) → Prop} (hP : Transferring P)

include hP

theorem always_writeChunk (data : List UInt8) : Always P (writeChunk data) := by
  refine Always.bind hP.toConcatenative (Always.mapFailure ?_ _) fun length => ?_
  · refine always_enclosed hP.refused hP.chunk ?_ rfl
    refine (confined_send _).bind inner fun _ => ?_
    refine (confined_exchange _).bind inner fun length => ?_
    dsimp only
    split
    · exact (always_say inner _ _).bind inner fun _ => always_failed inner _
    · exact (confined_send _).bind inner fun _ => always_done inner _
  · exact always_say_bind hP.toCommanding _ _ (always_done hP.toConcatenative _)

theorem always_writeChunks (drive : Drive) (rounds : Nat) (data : List UInt8)
    (written chunks : Nat) : Always P (drive.writeChunks rounds data written chunks) := by
  induction rounds generalizing data written chunks with
  | zero => exact always_failed hP.toConcatenative _
  | succ rounds ih =>
    refine (always_writeChunk hP data).bind hP.toConcatenative fun length => ?_
    refine Always.bind hP.toConcatenative (always_sendCommand hP.toCommanding (by decide) []) ?_
    refine fun _ => (always_status hP.toCommanding drive).bind hP.toConcatenative fun status => ?_
    split
    · exact always_done hP.toConcatenative _
    · exact ih _ _ _
    · exact always_say_bind hP.toCommanding _ _ (always_failed hP.toConcatenative _)

theorem always_write (drive : Drive) (data : List UInt8) : Always P (drive.write data) := by
  have hC := hP.toCommanding
  refine always_say_bind hC _ _ ?_
  split
  · exact always_say_bind hC _ _ (always_done hP.toConcatenative _)
  · refine (always_checkSize hC _).bind hP.toConcatenative fun _ => ?_
    refine (always_commandStatus hC drive (by decide) _).bind hP.toConcatenative fun status => ?_
    refine (always_expectStatus hC _ _ _).bind hP.toConcatenative fun _ => ?_
    refine (always_writeChunks hP drive _ _ _ _).bind hP.toConcatenative fun result => ?_
    dsimp only
    split
    · exact always_say_bind hC _ _ (always_say_bind hC _ _ (always_done hP.toConcatenative _))
    · exact always_say_bind hC _ _ (always_done hP.toConcatenative _)

/-! ## Sessions -/

theorem always_report {α ε : Type} {operation : Operation α} {value : α → Value}
    (h : Always P operation) : Always P (report operation value : Dialogue Bus ε Report) :=
  h.attempt.bind hP.toConcatenative fun _ => always_done hP.toConcatenative _

theorem always_perform {ε : Type} (drive : Drive) (action : Action) :
    Always P (drive.perform action : Dialogue Bus ε Report) := by
  have hC := hP.toCommanding
  cases action with
  | bringUp => exact always_report hP (always_bringUp hC drive)
  | initialise => exact always_report hP (always_initialise hC drive)
  | connectDisk => exact always_report hP (always_connectDisk hC drive)
  | reset => exact always_report hP (always_reset hC drive)
  | routeInterrupt => exact always_report hP (always_routeInterrupt hC)
  | setUsbMode mode => exact always_report hP (always_setUsbMode hC drive mode)
  | waitStatus => exact always_report hP (always_waitStatus hC drive)
  | pollStatus => exact always_report hP (always_pollStatus hC)
  | version => exact always_report hP (always_version hC drive)
  | selfTest => exact always_report hP (always_selfTest hC)
  | openSelected => exact always_report hP (always_openSelected hC drive)
  | createFile => exact always_report hP (always_createFile hC drive)
  | createDirectory => exact always_report hP (always_createDirectory hC drive)
  | erase => exact always_report hP (always_erase hC drive)
  | close => exact always_report hP (always_close hC drive)
  | seek =>
    exact always_report hP (always_say_bind hC _ _ (always_simpleCommand hC drive (by decide) _))
  | fileSize => exact always_report hP (always_fileSize hC)
  | read buffer =>
    refine (always_read hC drive _).attempt.bind hP.toConcatenative fun ending => ?_
    split <;> exact always_done hP.toConcatenative _
  | write data => exact always_report hP (always_write hP drive data)
  | selectPath path => exact always_report hP (always_selectPath hC drive path)
  | openPath path =>
    exact always_report hP ((always_selectPath hC drive path).bind hP.toConcatenative fun _ =>
      always_openSelected hC drive)
  | createPath path =>
    exact always_report hP ((always_selectPath hC drive path).bind hP.toConcatenative fun _ =>
      always_createFile hC drive)
  | createDirectoryPath path =>
    exact always_report hP ((always_selectPath hC drive path).bind hP.toConcatenative fun _ =>
      always_createDirectory hC drive)
  | erasePath path =>
    exact always_report hP ((always_selectPath hC drive path).bind hP.toConcatenative fun _ =>
      always_erase hC drive)

end Transferring

/-- One action leaves no transaction open. -/
theorem disciplined_perform {ε : Type} (drive : Drive) (action : Action) :
    Disciplined (drive.perform action : Dialogue Bus ε Report) :=
  always_perform transferring_bracketed drive action

/-- A session divided where one action ends and the next begins: each part of its events belongs to
one action, and is a conversation of that action which ends in its report. -/
def Divided (drive : Drive) (actions : List Action) (reports : List Report)
    (traces : List (List (Event Bus))) : Prop :=
  traces.length = reports.length ∧ reports.length ≤ actions.length ∧
    ∀ part ∈ actions.zip (reports.zip traces),
      Transcript (drive.perform part.1 : Dialogue Bus Empty Report) part.2.2 (.ok part.2.1)

theorem Divided.cons {drive : Drive} {action : Action} {actions : List Action} {report : Report}
    {reports : List Report} {trace : List (Event Bus)} {traces : List (List (Event Bus))}
    (ht : Transcript (drive.perform action : Dialogue Bus Empty Report) trace (.ok report))
    (hc : Divided drive actions reports traces) :
    Divided drive (action :: actions) (report :: reports) (trace :: traces) := by
  obtain ⟨hl, hn, hp⟩ := hc
  refine ⟨congrArg _ hl, Nat.succ_le_succ hn, fun part h => ?_⟩
  rw [List.zip_cons_cons, List.zip_cons_cons, List.mem_cons] at h
  rcases h with rfl | h
  · exact ht
  · exact hp part h

theorem Divided.nil (drive : Drive) (actions : List Action) : Divided drive actions [] [] :=
  ⟨rfl, Nat.zero_le _, by simp⟩

theorem transcript_session (drive : Drive) {actions : List Action} {events : List (Event Bus)}
    {result : Except Empty (List Report)} (h : Transcript (drive.session actions) events result) :
    ∃ reports traces, result = .ok reports ∧ events = traces.flatten ∧
      Divided drive actions reports traces := by
  induction actions generalizing events result with
  | nil =>
    cases h
    exact ⟨[], [], rfl, rfl, .nil drive []⟩
  | cons action rest ih =>
    rcases transcript_bind h with ⟨cause, -, -⟩ | ⟨report, before, after, rfl, hb, ha⟩
    · cases cause
    · split at ha
      · cases ha
        refine ⟨[report], [before], rfl, ?_, (Divided.nil drive rest).cons hb⟩
        rw [List.flatten_cons, List.flatten_nil]
      · rcases transcript_bind ha with ⟨cause, -, -⟩ | ⟨_, _, _, rfl, hs, hd⟩
        · cases cause
        · obtain ⟨_, traces, ⟨⟩, rfl, hc⟩ := ih hs
          cases hd
          refine ⟨report :: _, before :: traces, rfl, ?_, hc.cons hb⟩
          rw [List.flatten_cons, List.append_nil]

theorem Divided.bracketed {drive : Drive} {actions : List Action} {reports : List Report}
    {traces : List (List (Event Bus))} (hc : Divided drive actions reports traces) :
    ∀ trace ∈ traces, Bracketed trace := by
  obtain ⟨hl, hn, hp⟩ := hc
  intro trace ht
  obtain ⟨i, hi, rfl⟩ := List.mem_iff_getElem.1 ht
  have hz : i < (actions.zip (reports.zip traces)).length := by
    rw [List.length_zip, List.length_zip]
    omega
  have := hp _ (List.getElem_mem hz)
  rw [List.getElem_zip, List.getElem_zip] at this
  exact disciplined_perform drive _ _ _ this

/-- **Bracketing.** On every device, the calls of a session are bracketed, and so are those of
each of its actions: whatever fails, an action that ends has no transaction open. -/
theorem session_bracketed {σ : Type} (machine : Machine Bus σ) (drive : Drive)
    (actions : List Action) (state : σ) (journal : Journal) :
    let ran := (drive.session actions : Dialogue Bus Empty (List Report)).run machine.recorded
      (state, []) journal
    Bracketed ran.state.2.reverse ∧
      ∃ reports traces, ran.result = .ok reports ∧ ran.state.2.reverse = traces.flatten ∧
        Divided drive actions reports traces ∧ ∀ trace ∈ traces, Bracketed trace := by
  intro ran
  obtain ⟨events, ht, ha⟩ := transcript_run machine.recorded (drive.session actions) (state, [])
    journal
  obtain ⟨reports, traces, hr, rfl, hc⟩ := transcript_session drive ht
  have he : ran.state.2.reverse = traces.flatten := by
    rw [ha.record, List.append_nil, List.reverse_reverse]
  refine ⟨?_, reports, traces, hr, he, hc, hc.bracketed⟩
  rw [he]
  exact .flatten hc.bracketed

end Drive

end DiskBridge
