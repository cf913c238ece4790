import DiskBridge.Proofs.Halting

/-!
# How commands end

Most operations of a drive send a command and learn its status. They are made of polls and of
transactions that move no chunk, and give up by a stop of their own, which is never a fault of a
chunked transfer (`Ordinary`). A property of conversations that holds of these three holds of every
such operation (`Operational`).

A transaction that begins with a command is told by what stands inside it (`Opened`).
-/

namespace DiskBridge

open Dialogue

namespace Bus

/-- An ending that is not the fault of a chunk. -/
def Ordinary (ending : Option Stop) : Prop := ∀ fault, ending ≠ some (.error (.stream fault))

/-- What stands inside a transaction that begins with a command, and moves no chunk. -/
def Opened (command : Command) (inside : List (Event Bus)) (ending : Option Stop) : Prop :=
  Plain inside ending ∧ Led command inside

theorem Plain.inner {events : List (Event Bus)} {ending : Option Stop} (h : Plain events ending) :
    ∀ event ∈ events, Inner event := by
  cases h with
  | whole hg => exact fun event he => (hg event he).2
  | refused byte error hg =>
    rw [List.forall_mem_append, List.forall_mem_singleton]
    exact ⟨fun event he => (hg event he).2, True.intro⟩

theorem concludes_opened {α : Type} {command : Command} {body : Dialogue Bus Error α}
    {next : Except Error UInt8 → Dialogue Bus Error α} (hp : Concludes .error Plain body)
    (he : body = ask (I := Bus) (.exchange command.opcode) next) :
    Concludes .error (Opened command) body := by
  intro events result ht
  exact ⟨hp _ _ ht, always_led (fun events result ht => (hp events result ht).inner) he _ _ ht⟩

theorem Opened.interior {command : Command} {inside : List (Event Bus)} {ending : Option Stop}
    (hc : ¬MovesChunk command.opcode) (h : Opened command inside ending) :
    Interior inside ending := by
  obtain ⟨hp, -, reply, rest, rfl⟩ := h
  exact hp.interior hc

/-- A property that is kept when a conversation goes on after a value, and holds of what commands
are made of. -/
structure Operational (P : List (Event Bus) → Option Stop → Prop) : Prop extends Sequential P where
  stop {stop : Stop} : Ordinary (some stop) → P [] (some stop)
  poll (reply : Except Error Bool) : P [⟨.poll, reply⟩] (ended .error reply)
  transaction {command : Command} {events : List (Event Bus)} {ending : Option Stop} :
    ¬MovesChunk command.opcode → Enclosing (Opened command) events ending → P events ending

theorem halts : Operational Halted where
  toSequential := halting
  stop _ := halted_nil _
  poll reply := by
    cases reply with
    | ok raised =>
      refine .smooth _ ?_
      rw [List.forall_mem_singleton]
      exact ⟨raised, rfl⟩
    | error error =>
      change Halted ([] ++ _) _
      exact .poll (by simp) (blames_error error)
  transaction hc h := (h.imp fun _ _ ho => ho.interior hc).halted

section Operational

variable {P : List (Event Bus) → Option Stop → Prop} (hP : Operational P)

include hP

theorem concludes_fail {α : Type} {error : Error} (h : Ordinary (some (.error error))) :
    Concludes id P (Operation.fail error : Operation α) :=
  concludes_failed (hP.stop h)

theorem concludes_poll : Concludes id P (Operation.ofBus poll) := by
  intro events result ht
  obtain ⟨reply, rfl, hp⟩ := transcript_mapFailure ht
  cases transcript_poll hp
  rw [ended_mapError fun _ => rfl]
  exact hP.poll reply

theorem concludes_command {α : Type} (command : Command) {body : Dialogue Bus Error α}
    {next : Except Error UInt8 → Dialogue Bus Error α} (hc : ¬MovesChunk command.opcode)
    (hp : Concludes .error Plain body)
    (he : body = ask (I := Bus) (.exchange command.opcode) next) :
    Concludes id P (transaction body) :=
  (concludes_transaction (concludes_opened hp he)).imp fun _ _ h => hP.transaction hc h

end Operational

end Bus

namespace Drive

open Bus

section Operational

variable {P : List (Event Bus) → Option Stop → Prop} (hP : Operational P)

include hP

theorem concludes_sendCommand {command : Command} (hc : ¬MovesChunk command.opcode)
    (arguments : List UInt8) : Concludes id P (sendCommand command arguments) :=
  concludes_say_bind (concludes_command hP command hc (plain_send _) rfl)

theorem concludes_pollStatus : Concludes id P pollStatus := by
  refine concludes_say_bind ?_
  refine Concludes.bind hP.toSequential ?_ fun byte => ?_
  · refine concludes_command hP .status (by decide) ?_ rfl
    exact (plain_send _).bind plain fun _ => plain_exchange _
  · exact concludes_say_bind (concludes_done hP.toSequential _)

theorem concludes_awaitInterrupt (patience : Nat) : Concludes id P (awaitInterrupt patience) := by
  induction patience with
  | zero => exact concludes_failed (hP.stop nofun)
  | succ patience ih =>
    refine (concludes_poll hP).bind hP.toSequential fun raised => ?_
    split
    · exact concludes_done hP.toSequential ()
    · exact ih

theorem concludes_waitStatus (drive : Drive) : Concludes id P drive.waitStatus := by
  refine concludes_say_bind ?_
  exact (concludes_awaitInterrupt hP _).bind hP.toSequential fun _ => concludes_pollStatus hP

theorem concludes_status (drive : Drive) : Concludes id P drive.status := by
  unfold status
  split
  · exact concludes_waitStatus hP drive
  · exact concludes_pollStatus hP

theorem concludes_commandStatus (drive : Drive) {command : Command}
    (hc : ¬MovesChunk command.opcode) (arguments : List UInt8) :
    Concludes id P (drive.commandStatus command arguments) := by
  refine (concludes_sendCommand hP hc arguments).bind hP.toSequential fun _ => ?_
  refine (concludes_status hP drive).bind hP.toSequential fun status => ?_
  exact concludes_say_bind (concludes_done hP.toSequential _)

theorem concludes_expectStatus (command : Command) (status expected : Status) :
    Concludes id P (expectStatus command status expected) := by
  unfold expectStatus
  split
  · exact concludes_done hP.toSequential ()
  · exact concludes_say_bind (concludes_fail hP nofun)

theorem concludes_simpleCommand (drive : Drive) {command : Command}
    (hc : ¬MovesChunk command.opcode) (arguments : List UInt8) :
    Concludes id P (drive.simpleCommand command arguments) :=
  (concludes_commandStatus hP drive hc arguments).bind hP.toSequential fun status =>
    concludes_expectStatus hP command status .success

theorem concludes_checkSize (size : Nat) : Concludes id P (checkSize size) := by
  unfold checkSize
  split
  · exact concludes_say_bind (concludes_fail hP nofun)
  · exact concludes_done hP.toSequential ()

end Operational

end Drive

end DiskBridge
