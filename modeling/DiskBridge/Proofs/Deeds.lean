import DiskBridge.Proofs.BringUpScript
import DiskBridge.Proofs.Endings

/-!
# What a drive does, deed by deed

If no call fails, the calls of every action are a sequence of deeds: a pause, the transaction of a
command that raises no status, an interrupting command with the status learnt for it, a status
waited for or asked for. The last deed of an action that stalls may be unfinished.

1. `Told` gives the calls of a deed, `Recounts` those of deeds in a row.
2. Each operation of a drive is made of deeds (`Recounted`). In all of them but the bare reset, the
   interrupt is routed again as soon as the chip was reset (`Rerouted`), and two operations do so
   before anything else (`Starts`).

`recounted_perform`, `starts_perform` and `recounts_reset` state it for the actions.
-/

namespace DiskBridge.Drive

open Dialogue Bus Script

/-! ## Deeds -/

/-- A part of what a drive does on its bus. -/
inductive Deed where
  | paused
  | reset
  /-- The interrupt is routed to the data line. -/
  | routed
  /-- The USB mode is switched, and the chip answers in the same transaction. -/
  | switched (mode answer : UInt8)
  /-- A command that raises no status has its transaction. -/
  | talked (command : Command)
  /-- An interrupting command is sent and its status learnt. -/
  | commanded (command : Command) (status : UInt8)
  /-- A status is read once the interrupt is raised. -/
  | waited (status : UInt8)
  /-- The status is read, with or without an interrupt. -/
  | asked (status : UInt8)
  /-- The status of a command is not learnt. -/
  | unanswered (command : Command)
  /-- The interrupt is not raised. -/
  | unheard

/-- The deed is one of those that an action can end with unless it stalls. -/
def Deed.finished : Deed → Bool
  | .unanswered _ | .unheard => false
  | _ => true

/-- The other commands that raise no status. -/
def talk : List Command := [.version, .selfTest, .fileSize, .fileName, .readBuffer, .writeBuffer]

/-- The calls of a deed. -/
inductive Told : Deed → List (Event Bus) → Prop
  | paused (span : Duration) : Told .paused [⟨.pause span, ()⟩]
  | reset {body : List (Event Bus)} : Sent [0x05] body → Told .reset (enclosed body)
  | routed {body : List (Event Bus)} : Sent [0x0b, 0x16, 0x90] body → Told .routed (enclosed body)
  | switched {mode answer : UInt8} {body : List (Event Bus)} (span : Duration) :
      Sent [0x15, mode] body →
        Told (.switched mode answer)
          (enclosed (body ++ [⟨.pause span, ()⟩, ⟨.exchange 0x00, .ok answer⟩]))
  | talked {command : Command} {reply : Except Error UInt8} {rest : List (Event Bus)} :
      command ∈ talk → (∀ event ∈ rest, Inner event) →
        Told (.talked command) (enclosed (⟨.exchange command.opcode, reply⟩ :: rest))
  | commanded {command : Command} {arguments : List UInt8} {answer : UInt8} {mode : StatusMode}
      {body events : List (Event Bus)} :
      command.isInterrupting = true → Sent (command.opcode :: arguments) body →
        Learnt answer mode events → Told (.commanded command answer) (enclosed body ++ events)
  | waited {answer : UInt8} {events : List (Event Bus)} :
      Learnt answer .interrupt events → Told (.waited answer) events
  | asked {answer : UInt8} {events : List (Event Bus)} :
      StatusRead answer events → Told (.asked answer) events
  | unanswered {command : Command} {arguments : List UInt8} {body : List (Event Bus)}
      (polls : Nat) : command.isInterrupting = true → Sent (command.opcode :: arguments) body →
        Told (.unanswered command) (enclosed body ++ vain polls)
  | unheard (polls : Nat) : Told .unheard (vain polls)

/-- The calls of deeds in a row. -/
inductive Recounts : List Deed → List (Event Bus) → Prop
  | nil : Recounts [] []
  | cons {deed : Deed} {deeds : List Deed} {part events : List (Event Bus)} :
      Told deed part → Recounts deeds events → Recounts (deed :: deeds) (part ++ events)

theorem Recounts.append {deeds others : List Deed} {before after : List (Event Bus)}
    (hb : Recounts deeds before) (ha : Recounts others after) :
    Recounts (deeds ++ others) (before ++ after) := by
  induction hb with
  | nil => exact ha
  | cons ht _ ih =>
    rw [List.append_assoc]
    exact .cons ht ih

theorem Told.recounts {deed : Deed} {events : List (Event Bus)} (h : Told deed events) :
    Recounts [deed] events := by
  rw [← List.append_nil events]
  exact .cons h .nil

/-- Whenever the chip is reset, its interrupt is routed again before anything but a pause. -/
inductive Rerouted : List Deed → Prop
  | nil : Rerouted []
  | cons {deed : Deed} {deeds : List Deed} :
      deed ≠ .reset → Rerouted deeds → Rerouted (deed :: deeds)
  | reset {deeds : List Deed} : Rerouted deeds → Rerouted (.reset :: .paused :: .routed :: deeds)

theorem Rerouted.append {deeds others : List Deed} (hb : Rerouted deeds) (ha : Rerouted others) :
    Rerouted (deeds ++ others) := by
  induction hb with
  | nil => exact ha
  | cons hn _ ih => exact .cons hn ih
  | reset _ ih => exact .reset ih

/-! ## What operations are made of -/

/-- The deeds of an operation that ended in a certain way. -/
def Tells (deeds : List Deed) (ending : Option Stop) : Prop :=
  Rerouted deeds ∧ (ending ≠ some .stalled → ∀ deed ∈ deeds, deed.finished = true)

/-- If no call failed, the calls are those of deeds. -/
def Recounted (events : List (Event Bus)) (ending : Option Stop) : Prop :=
  (∀ event ∈ events, Granted event) → ∃ deeds, Recounts deeds events ∧ Tells deeds ending

/-- The same, beginning with a reset after which the interrupt is routed. -/
def Starts (events : List (Event Bus)) (ending : Option Stop) : Prop :=
  (∀ event ∈ events, Granted event) →
    ∃ deeds, Recounts (.paused :: .reset :: .paused :: .routed :: deeds) events ∧ Tells deeds ending

theorem Tells.append {deeds others : List Deed} {ending : Option Stop} (hb : Tells deeds none)
    (ha : Tells others ending) : Tells (deeds ++ others) ending := by
  refine ⟨hb.1.append ha.1, fun hs => ?_⟩
  exact List.forall_mem_append.2 ⟨hb.2 nofun, ha.2 hs⟩

theorem Starts.recounted {events : List (Event Bus)} {ending : Option Stop}
    (h : Starts events ending) : Recounted events ending := by
  intro hg
  obtain ⟨deeds, hr, ht, hf⟩ := h hg
  refine ⟨_, hr, .cons nofun (.reset ht), fun hs => ?_⟩
  simpa [Deed.finished] using hf hs

theorem recounting : Sequential Recounted where
  nil _ := ⟨[], .nil, .nil, by simp⟩
  append hb ha hg := by
    obtain ⟨hg, hg'⟩ := List.forall_mem_append.1 hg
    obtain ⟨deeds, hr, ht⟩ := hb hg
    obtain ⟨others, hr', ht'⟩ := ha hg'
    exact ⟨deeds ++ others, hr.append hr', ht.append ht'⟩

theorem Starts.append {before after : List (Event Bus)} {ending : Option Stop}
    (hb : Starts before none) (ha : Recounted after ending) : Starts (before ++ after) ending := by
  intro hg
  obtain ⟨hg, hg'⟩ := List.forall_mem_append.1 hg
  obtain ⟨deeds, hr, ht⟩ := hb hg
  obtain ⟨others, hr', ht'⟩ := ha hg'
  exact ⟨deeds ++ others, hr.append hr', ht.append ht'⟩

/-- What did not stall may be reported as something else. -/
theorem Recounted.restate {events : List (Event Bus)} {ending : Option Stop}
    (h : Recounted events ending) (hs : ending ≠ some .stalled) (other : Option Stop) :
    Recounted events other := by
  intro hg
  obtain ⟨deeds, hr, ht, hf⟩ := h hg
  exact ⟨deeds, hr, ht, fun _ => hf hs⟩

theorem recounted_nil (ending : Option Stop) : Recounted [] ending :=
  fun _ => ⟨[], .nil, .nil, by simp⟩

/-- One deed that is finished and no reset. -/
theorem Told.recounted {deed : Deed} {events : List (Event Bus)} (h : Told deed events)
    (hr : deed ≠ .reset) (hf : deed.finished = true) (ending : Option Stop) :
    Recounted events ending :=
  fun _ => ⟨[deed], h.recounts, .cons hr .nil, by simpa using fun _ => hf⟩

/-- One deed that is not finished and no reset. -/
theorem Told.recounted_stalled {deed : Deed} {events : List (Event Bus)} (h : Told deed events)
    (hr : deed ≠ .reset) : Recounted events (some .stalled) :=
  fun _ => ⟨[deed], h.recounts, .cons hr .nil, fun hs => (hs rfl).elim⟩

section Rules

variable {ε α : Type} {view : ε → Stop}

theorem recounted_of_speaks {dialogue : Dialogue Bus ε α}
    {P : Except ε α → List (Event Bus) → Prop} (h : Speaks dialogue P)
    (hp : ∀ result events, P result events → Recounted events (ended view result)) :
    Concludes view Recounted dialogue :=
  fun events result ht hg => hp result events (h events result ht hg) hg

theorem recounted_failed (cause : ε) : Concludes view Recounted (failed cause : Dialogue Bus ε α) :=
  concludes_failed (recounted_nil _)

theorem recounted_say_failed (level : Level) (text : String) (cause : ε) :
    Concludes view Recounted (say level text >>= fun _ => (failed cause : Dialogue Bus ε α)) :=
  concludes_say_bind (recounted_failed cause)

/-- A transaction of a command that raises no status, however it ends. -/
theorem Enclosing.recounted {command : Command} {events : List (Event Bus)} {ending : Option Stop}
    (h : Enclosing (fun inside _ => Told (.talked command) (enclosed inside)) events ending) :
    Recounted events ending := by
  intro hg
  cases h with
  | refused error => cases hg _ List.mem_cons_self
  | completed ht => exact ht.recounted nofun rfl _ hg
  | unclosed error ht =>
    cases hg ⟨.finish, .error error⟩ (by simp)
  | abandoned reply ht =>
    obtain rfl : reply = .ok () := hg ⟨.finish, reply⟩ (by simp)
    exact ht.recounted nofun rfl _ hg

/-- What may stand in such a transaction: the opcode, then calls that may stand in any. -/
theorem told_talked (command : Command) (hc : command ∈ talk)
    {next : Except Error UInt8 → Dialogue Bus ε α}
    (hn : Confined (ask (.exchange command.opcode) next : Dialogue Bus ε α)) :
    Concludes view (fun inside _ => Told (.talked command) (enclosed inside))
      (ask (.exchange command.opcode) next : Dialogue Bus ε α) := by
  intro inside result ht
  have hi := hn _ _ ht
  obtain _ | _ | _ | ⟨reply, ht⟩ := ht
  exact .talked hc (List.forall_mem_cons.1 hi).2

theorem recounted_bracket {early : Error → ε} {late : α → Error → ε} {body : Dialogue Bus ε α}
    {command : Command} (he : ∀ error, view (early error) = .error error)
    (hl : ∀ value error, view (late value error) = .error error)
    (h : Concludes view (fun inside _ => Told (.talked command) (enclosed inside)) body) :
    Concludes view Recounted (bracket early late body) :=
  (concludes_bracket he hl h).imp fun _ _ => Enclosing.recounted

theorem recounted_transaction {body : Dialogue Bus Error α} {command : Command}
    (h : Concludes .error (fun inside _ => Told (.talked command) (enclosed inside)) body) :
    Concludes id Recounted (transaction body) :=
  (concludes_transaction h).imp fun _ _ => Enclosing.recounted

end Rules

/-! ## The operations of a drive -/

theorem recounted_pollStatus : Concludes id Recounted pollStatus := by
  refine recounted_of_speaks yields_pollStatus ?_
  rintro _ events ⟨_, rfl, answer, -, hr⟩
  exact (Told.asked hr).recounted nofun rfl _

theorem recounted_waitStatus (drive : Drive) : Concludes id Recounted drive.waitStatus := by
  refine recounted_of_speaks (speaks_waitStatus drive) ?_
  rintro _ events (hl | _)
  · exact (Told.waited hl).recounted nofun rfl _
  · exact (Told.unheard _).recounted_stalled nofun

theorem recounted_learn (drive : Drive) {command : Command} (hc : command.isInterrupting = true)
    (arguments : List UInt8) :
    Concludes id Recounted (sendCommand command arguments >>= fun _ => drive.status) := by
  refine recounted_of_speaks (speaks_learn drive command arguments) ?_
  rintro _ _ ⟨body, rest, hs, rfl, hl | _⟩
  · exact (Told.commanded hc hs hl).recounted nofun rfl _
  · exact (Told.unanswered _ hc hs).recounted_stalled nofun

theorem recounted_commandStatus (drive : Drive) {command : Command}
    (hc : command.isInterrupting = true) (arguments : List UInt8) :
    Concludes id Recounted (drive.commandStatus command arguments) := by
  rw [commandStatus, ← bind_bind]
  refine (recounted_learn drive hc arguments).bind recounting fun status => ?_
  exact concludes_say_bind (concludes_done recounting _)

theorem recounted_expectStatus (command : Command) (status expected : Status) :
    Concludes id Recounted (expectStatus command status expected) := by
  unfold expectStatus
  split
  · exact concludes_done recounting ()
  · exact recounted_say_failed _ _ _

theorem recounted_simpleCommand (drive : Drive) {command : Command}
    (hc : command.isInterrupting = true) (arguments : List UInt8) :
    Concludes id Recounted (drive.simpleCommand command arguments) :=
  (recounted_commandStatus drive hc arguments).bind recounting fun status =>
    recounted_expectStatus command status .success

/-! ### Bring-up -/

theorem yields_reset (drive : Drive) :
    Yields drive.reset fun _ events => Recounts [.paused, .reset, .paused] events := by
  refine speaks_say_bind ((yields_pause _).bind_value ?_)
  rintro _ _ rfl
  refine (yields_sendCommand .reset []).bind_value ?_
  rintro _ _ ⟨body, rfl, hs⟩
  refine (yields_pause _).bind_value ?_
  rintro _ _ rfl
  exact speaks_say ⟨(), rfl, .cons (.paused _) (.cons (.reset hs) (.cons (.paused _) .nil))⟩

theorem yields_routeInterrupt : Yields routeInterrupt fun _ events => Told .routed events := by
  refine speaks_say_bind ((yields_sendCommand _ _).imp ?_)
  rintro _ _ ⟨body, rfl, hs⟩
  exact .routed hs

theorem recounted_setUsbMode (drive : Drive) (mode : UsbMode) :
    Concludes id Recounted (drive.setUsbMode mode) := by
  refine recounted_of_speaks (keeps_setUsbMode drive mode) ?_
  rintro result events ⟨answers, h⟩
  -- The answer ends the script here, whether it is the expected one or not.
  obtain ⟨answer, hs⟩ : ∃ answer, Says drive.config (.mode mode.byte) [answer] events := by
    cases h with
    | step hs hn =>
      cases hn
      rw [List.append_nil]
      exact ⟨_, hs⟩
    | mismatch _ hs => exact ⟨_, hs⟩
    | stalled hs => cases hs
  cases hs with
  | mode hs => exact (Told.switched _ hs).recounted nofun rfl _

theorem starts_initialise (drive : Drive) : Concludes id Starts drive.initialise := by
  have hs : Speaks drive.initialise fun result events => ∃ deeds,
      Recounts (.paused :: .reset :: .paused :: .routed :: deeds) events ∧
        Tells deeds (ended id result) := by
    refine speaks_say_bind ((yields_reset drive).bind_value fun _ before hr => ?_)
    refine yields_routeInterrupt.bind_value fun _ middle hm after result ht hg => ?_
    obtain ⟨deeds, hd, ht⟩ := recounted_setUsbMode drive .quiet after result ht hg
    exact ⟨deeds, hr.append (hm.recounts.append hd), ht⟩
  exact hs

theorem recounted_awaitConnect (drive : Drive) (rounds : Nat) :
    Concludes id Recounted (drive.awaitConnect rounds) := by
  induction rounds with
  | zero => exact recounted_failed _
  | succ rounds ih =>
    refine (recounted_waitStatus drive).bind recounting fun status => ?_
    split
    · exact concludes_say recounting _ _
    · exact concludes_say_bind ih

theorem recounted_waitForConnect (drive : Drive) : Concludes id Recounted drive.waitForConnect :=
  concludes_say_bind (recounted_awaitConnect drive _)

theorem recounted_connectDisk (drive : Drive) : Concludes id Recounted drive.connectDisk := by
  refine concludes_say_bind ?_
  refine (recounted_waitForConnect drive).bind recounting fun _ => ?_
  refine (recounted_setUsbMode drive _).bind recounting fun _ => ?_
  refine (recounted_setUsbMode drive _).bind recounting fun _ => ?_
  refine (recounted_waitForConnect drive).bind recounting fun _ => ?_
  refine (recounted_simpleCommand drive rfl _).bind recounting fun _ => ?_
  exact concludes_say_bind (recounted_simpleCommand drive rfl _)

theorem starts_bringUp (drive : Drive) : Concludes id Starts drive.bringUp := by
  refine concludes_say_bind fun events result ht => ?_
  rcases transcript_bind ht with ⟨cause, rfl, hc⟩ | ⟨_, before, after, rfl, hb, ha⟩
  · exact starts_initialise drive _ _ hc
  · refine (starts_initialise drive _ _ hb).append ?_
    refine (recounted_connectDisk drive).bind recounting (fun _ => ?_) _ _ ha
    exact concludes_say recounting _ _

theorem recounted_version (drive : Drive) : Concludes id Recounted drive.version := by
  refine (recounted_transaction (told_talked .version (by decide) ?_)).bind recounting fun _ => ?_
  · refine (confined_send [_]).bind inner fun _ => ?_
    exact (confined_pause _).bind inner fun _ => confined_exchange _
  · exact concludes_say_bind (concludes_done recounting _)

theorem recounted_selfTest : Concludes id Recounted selfTest := by
  refine (recounted_transaction (told_talked .selfTest (by decide) ?_)).bind recounting fun _ => ?_
  · exact (confined_send [_, _]).bind inner fun _ => confined_exchange _
  · dsimp only
    split
    · exact concludes_say recounting _ _
    · exact recounted_say_failed _ _ _

/-! ### Files, directories and paths -/

theorem recounted_fileSize : Concludes id Recounted fileSize := by
  refine (recounted_transaction (told_talked .fileSize (by decide) ?_)).bind recounting fun _ => ?_
  · exact (confined_send [_, _]).bind inner fun _ => confined_receiveMany _
  · exact concludes_say_bind (concludes_done recounting _)

theorem recounted_openSelected (drive : Drive) : Concludes id Recounted drive.openSelected := by
  refine concludes_say_bind ((recounted_commandStatus drive rfl _).bind recounting fun status => ?_)
  split
  · exact concludes_done recounting _
  · exact concludes_done recounting _
  · exact recounted_say_failed _ _ _

theorem recounted_createFile (drive : Drive) : Concludes id Recounted drive.createFile := by
  refine concludes_say_bind ((recounted_simpleCommand drive rfl _).bind recounting fun _ => ?_)
  refine (recounted_openSelected drive).bind recounting fun opened => ?_
  split
  · exact concludes_say recounting _ _
  · exact concludes_done recounting ()

theorem recounted_createDirectory (drive : Drive) :
    Concludes id Recounted drive.createDirectory :=
  concludes_say_bind (recounted_simpleCommand drive rfl _)

theorem recounted_erase (drive : Drive) : Concludes id Recounted drive.erase :=
  concludes_say_bind (recounted_simpleCommand drive rfl _)

theorem recounted_close (drive : Drive) : Concludes id Recounted drive.close :=
  concludes_say_bind (recounted_simpleCommand drive rfl _)

theorem recounted_seek (drive : Drive) (offset : UInt32) :
    Concludes id Recounted (drive.seek offset) :=
  concludes_say_bind (recounted_simpleCommand drive rfl _)

theorem recounted_sendName (name : List UInt8) : Concludes id Recounted (sendName name) :=
  concludes_say_bind (recounted_transaction
    (told_talked .fileName (by decide) (confined_send (_ :: (name ++ [Command.nameEnd])))))

theorem recounted_enterDirectory (drive : Drive) (name : List UInt8) :
    Concludes id Recounted (drive.enterDirectory name) := by
  refine (recounted_sendName name).bind recounting fun _ events result ht => ?_
  obtain ⟨ending, before, after, rfl, ho, hn⟩ := transcript_attempt_bind ht
  have hr := recounted_openSelected drive _ _ ho
  split at hn
  · exact recounting.append hr (concludes_say recounting _ _ _ _ hn)
  · obtain _ | _ | ⟨⟨⟩⟩ := hn
    rw [List.append_nil]
    exact hr.restate nofun _
  · cases hn
    rw [List.append_nil]
    exact hr

theorem recounted_walk (drive : Drive) (path : String) (name rest : List UInt8) :
    Concludes id Recounted (drive.walk path name rest) := by
  induction rest generalizing name with
  | nil =>
    unfold walk
    split
    · exact recounted_say_failed _ _ _
    · exact recounted_sendName name
  | cons byte rest ih =>
    unfold walk
    split
    · exact (recounted_enterDirectory drive name).bind recounting fun _ => ih []
    · split
      · exact recounted_say_failed _ _ _
      · exact ih _

theorem recounted_selectPath (drive : Drive) (path : String) :
    Concludes id Recounted (drive.selectPath path) := by
  refine concludes_say_bind ?_
  split
  · exact recounted_failed _
  · split
    · exact recounted_walk drive path _ _
    · exact recounted_say_failed _ _ _

/-! ### Chunked transfers -/

theorem recounted_checkSize (size : Nat) : Concludes id Recounted (checkSize size) := by
  unfold checkSize
  split
  · exact recounted_say_failed _ _ _
  · exact concludes_done recounting ()

theorem recounted_readChunk (room : Nat) : Concludes Cut.stop Recounted (readChunk room) := by
  refine Concludes.bind recounting ?_ fun chunk => concludes_say_bind (concludes_done recounting _)
  refine recounted_bracket ?_ ?_ (told_talked .readBuffer (by decide) ?_)
  · exact fun _ => rfl
  · exact fun _ _ => rfl
  refine ((confined_send [_]).mapFailure _).bind inner fun _ => ?_
  refine ((confined_exchange _).mapFailure _).bind inner fun length => ?_
  dsimp only
  split
  · exact (always_say inner _ _).bind inner fun _ => always_failed inner _
  · exact confined_receiveChunk _ _

theorem recounted_readChunks (drive : Drive) (size rounds : Nat) (received : List UInt8)
    (chunks : Nat) :
    Concludes Cut.stop Recounted (drive.readChunks size rounds received chunks) := by
  induction rounds generalizing received chunks with
  | zero => exact recounted_failed _
  | succ rounds ih =>
    refine ((recounted_readChunk _).mapFailure ?_).bind recounting fun chunk => ?_
    · exact fun _ => rfl
    refine ((recounted_learn drive ?_ []).mapFailure ?_).bind recounting fun status => ?_
    · rfl
    · exact fun _ => rfl
    split
    · exact concludes_done recounting _
    · exact ih _ _
    · exact recounted_say_failed _ _ _

theorem recounted_read (drive : Drive) (size : Nat) :
    Concludes Cut.stop Recounted (drive.read size) := by
  refine concludes_say_bind ?_
  split
  · exact concludes_say_bind (concludes_done recounting _)
  · have hs : Concludes id Recounted (do
        checkSize size
        let status ← drive.commandStatus .read (littleEndian 2 size)
        expectStatus .read status .readPending) := by
      refine (recounted_checkSize size).bind recounting fun _ => ?_
      exact (recounted_commandStatus drive rfl _).bind recounting fun _ =>
        recounted_expectStatus _ _ _
    refine (hs.mapFailure ?_).bind recounting fun _ => ?_
    · exact fun _ => rfl
    refine (recounted_readChunks drive _ _ _ _).bind recounting fun result => ?_
    dsimp only
    split
    · exact concludes_say_bind (concludes_say_bind (concludes_done recounting _))
    · exact concludes_say_bind (concludes_done recounting _)

theorem recounted_writeChunk (data : List UInt8) : Concludes id Recounted (writeChunk data) := by
  refine (recounted_transaction (told_talked .writeBuffer (by decide) ?_)).bind recounting
    fun length => concludes_say_bind (concludes_done recounting _)
  refine (confined_send [_]).bind inner fun _ => (confined_exchange _).bind inner fun length => ?_
  dsimp only
  split
  · exact (always_say inner _ _).bind inner fun _ => always_failed inner _
  · exact (confined_send _).bind inner fun _ => always_done inner _

theorem recounted_writeChunks (drive : Drive) (rounds : Nat) (data : List UInt8)
    (written chunks : Nat) :
    Concludes id Recounted (drive.writeChunks rounds data written chunks) := by
  induction rounds generalizing data written chunks with
  | zero => exact recounted_failed _
  | succ rounds ih =>
    refine (recounted_writeChunk data).bind recounting fun length => ?_
    dsimp only
    rw [← bind_bind]
    refine (recounted_learn drive rfl []).bind recounting fun status => ?_
    split
    · exact concludes_done recounting _
    · exact ih _ _ _
    · exact recounted_say_failed _ _ _

theorem recounted_write (drive : Drive) (data : List UInt8) :
    Concludes id Recounted (drive.write data) := by
  refine concludes_say_bind ?_
  split
  · exact concludes_say_bind (concludes_done recounting _)
  · refine (recounted_checkSize _).bind recounting fun _ => ?_
    refine (recounted_commandStatus drive rfl _).bind recounting fun status => ?_
    refine (recounted_expectStatus _ _ _).bind recounting fun _ => ?_
    refine (recounted_writeChunks drive _ _ _ _).bind recounting fun result => ?_
    dsimp only
    split
    · exact concludes_say_bind (concludes_say_bind (concludes_done recounting _))
    · exact concludes_say_bind (concludes_done recounting _)

/-! ## Actions -/

variable {ε : Type}

theorem recounts_reset (drive : Drive) :
    Reports (fun events _ => (∀ event ∈ events, Granted event) →
      Recounts [.paused, .reset, .paused] events)
      (drive.perform .reset : Dialogue Bus ε Report) := by
  have hr : Concludes id (fun events _ => (∀ event ∈ events, Granted event) →
      Recounts [.paused, .reset, .paused] events) drive.reset := by
    intro events result ht hg
    obtain ⟨_, -, hr⟩ := yields_reset drive events result ht hg
    exact hr
  exact hr.report _

/-- An action that brings the chip to its first host mode does so after a reset. -/
theorem starts_perform (drive : Drive) {action : Action}
    (h : action = .initialise ∨ action = .bringUp) :
    Reports Starts (drive.perform action : Dialogue Bus ε Report) := by
  rcases h with rfl | rfl
  · exact (starts_initialise drive).report _
  · exact (starts_bringUp drive).report _

/-- Every action but the bare reset is made of deeds that leave the interrupt routed. -/
theorem recounted_perform (drive : Drive) {action : Action} (h : action ≠ .reset) :
    Reports Recounted (drive.perform action : Dialogue Bus ε Report) := by
  have path {α : Type} (path : String) {next : Operation α} (h : Concludes id Recounted next) :
      Concludes id Recounted (drive.selectPath path >>= fun _ => next) :=
    (recounted_selectPath drive path).bind recounting fun _ => h
  cases action with
  | reset => exact (h rfl).elim
  | bringUp =>
    exact ((starts_bringUp drive).imp fun _ _ => Starts.recounted).report _
  | initialise =>
    exact ((starts_initialise drive).imp fun _ _ => Starts.recounted).report _
  | routeInterrupt =>
    refine Concludes.report (recounted_of_speaks yields_routeInterrupt ?_) _
    rintro _ events ⟨_, rfl, ht⟩
    exact ht.recounted nofun rfl _
  | connectDisk => exact (recounted_connectDisk drive).report _
  | setUsbMode mode => exact (recounted_setUsbMode drive mode).report _
  | waitStatus => exact (recounted_waitStatus drive).report _
  | pollStatus => exact recounted_pollStatus.report _
  | version => exact (recounted_version drive).report _
  | selfTest => exact recounted_selfTest.report _
  | openSelected => exact (recounted_openSelected drive).report _
  | createFile => exact (recounted_createFile drive).report _
  | createDirectory => exact (recounted_createDirectory drive).report _
  | erase => exact (recounted_erase drive).report _
  | close => exact (recounted_close drive).report _
  | seek offset => exact (recounted_seek drive offset).report _
  | fileSize => exact recounted_fileSize.report _
  | read buffer => exact (recounted_read drive buffer.length).readInto
  | write data => exact (recounted_write drive data).report _
  | selectPath text => exact (recounted_selectPath drive text).report _
  | openPath text => exact (path text (recounted_openSelected drive)).report _
  | createPath text => exact (path text (recounted_createFile drive)).report _
  | createDirectoryPath text => exact (path text (recounted_createDirectory drive)).report _
  | erasePath text => exact (path text (recounted_erase drive)).report _

end DiskBridge.Drive
