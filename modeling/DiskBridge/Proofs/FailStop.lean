import DiskBridge.Bench.Scripted
import DiskBridge.Proofs.CommandEndings

/-!
# A failed call ends the operation

The operations of a drive are put together from transactions, polls and pauses, so they halt at the
first call that fails. Only the walk along a path puts an error in place of another, and that other
error is an unexpected status (`halting_enterDirectory`).

`perform_fail_stop` states it for every action on every device.
-/

namespace DiskBridge

open Dialogue

/-! ## The operations of a drive -/

namespace Drive

open Bus

/-! ### Bring-up -/

theorem halting_reset (drive : Drive) : Concludes id Halted drive.reset := by
  refine concludes_say_bind ?_
  refine (halting_pause _).bind halting fun _ => ?_
  refine (concludes_sendCommand halts (by decide) _).bind halting fun _ => ?_
  exact (halting_pause _).bind halting fun _ => concludes_say halting _ _

theorem halting_routeInterrupt : Concludes id Halted routeInterrupt :=
  concludes_say_bind (concludes_sendCommand halts (by decide) _)

theorem halting_setUsbMode (drive : Drive) (mode : UsbMode) :
    Concludes id Halted (drive.setUsbMode mode) := by
  refine concludes_say_bind ?_
  refine Concludes.bind halting (concludes_command halts .usbMode (by decide) ?_ rfl) fun byte => ?_
  · refine (plain_send _).bind plain fun _ => ?_
    exact (plain_pause _).bind plain fun _ => plain_exchange _
  · exact (concludes_expectStatus halts _ _ _).bind halting fun _ => concludes_say halting _ _

theorem halting_initialise (drive : Drive) : Concludes id Halted drive.initialise := by
  refine concludes_say_bind ?_
  refine (halting_reset drive).bind halting fun _ => ?_
  exact halting_routeInterrupt.bind halting fun _ => halting_setUsbMode drive _

theorem halting_awaitConnect (drive : Drive) (rounds : Nat) :
    Concludes id Halted (drive.awaitConnect rounds) := by
  induction rounds with
  | zero => exact concludes_failed (halted_nil _)
  | succ rounds ih =>
    refine (concludes_waitStatus halts drive).bind halting fun status => ?_
    split
    · exact concludes_say halting _ _
    · exact concludes_say_bind ih

theorem halting_waitForConnect (drive : Drive) : Concludes id Halted drive.waitForConnect :=
  concludes_say_bind (halting_awaitConnect drive _)

theorem halting_connectDisk (drive : Drive) : Concludes id Halted drive.connectDisk := by
  refine concludes_say_bind ?_
  refine (halting_waitForConnect drive).bind halting fun _ => ?_
  refine (halting_setUsbMode drive _).bind halting fun _ => ?_
  refine (halting_setUsbMode drive _).bind halting fun _ => ?_
  refine (halting_waitForConnect drive).bind halting fun _ => ?_
  refine (concludes_simpleCommand halts drive (by decide) _).bind halting fun _ => ?_
  exact concludes_say_bind (concludes_simpleCommand halts drive (by decide) _)

theorem halting_bringUp (drive : Drive) : Concludes id Halted drive.bringUp := by
  refine concludes_say_bind ?_
  refine (halting_initialise drive).bind halting fun _ => ?_
  exact (halting_connectDisk drive).bind halting fun _ => concludes_say halting _ _

theorem halting_version (drive : Drive) : Concludes id Halted drive.version := by
  refine Concludes.bind halting (concludes_command halts .version (by decide) ?_ rfl) fun version => ?_
  · refine (plain_send _).bind plain fun _ => ?_
    exact (plain_pause _).bind plain fun _ => plain_exchange _
  · exact concludes_say_bind (concludes_done halting _)

theorem halting_selfTest : Concludes id Halted selfTest := by
  refine Concludes.bind halting (concludes_command halts .selfTest (by decide) ?_ rfl) fun actual => ?_
  · exact (plain_send _).bind plain fun _ => plain_exchange _
  · dsimp only
    split
    · exact concludes_say halting _ _
    · exact concludes_say_bind (concludes_fail halts nofun)

/-! ### Files, directories and paths -/

theorem halting_openSelected (drive : Drive) : Concludes id Halted drive.openSelected := by
  refine concludes_say_bind ?_
  refine (concludes_commandStatus halts drive (by decide) _).bind halting fun status => ?_
  split
  · exact concludes_done halting _
  · exact concludes_done halting _
  · exact concludes_say_bind (concludes_fail halts nofun)

theorem halting_createFile (drive : Drive) : Concludes id Halted drive.createFile := by
  refine concludes_say_bind ?_
  refine (concludes_simpleCommand halts drive (by decide) _).bind halting fun _ => ?_
  refine (halting_openSelected drive).bind halting fun opened => ?_
  split
  · exact concludes_say halting _ _
  · exact concludes_done halting ()

theorem halting_createDirectory (drive : Drive) : Concludes id Halted drive.createDirectory :=
  concludes_say_bind (concludes_simpleCommand halts drive (by decide) _)

theorem halting_erase (drive : Drive) : Concludes id Halted drive.erase :=
  concludes_say_bind (concludes_simpleCommand halts drive (by decide) _)

theorem halting_fileSize : Concludes id Halted fileSize := by
  refine Concludes.bind halting (concludes_command halts .fileSize (by decide) ?_ rfl) fun bytes => ?_
  · exact (plain_send _).bind plain fun _ => plain_receiveMany _
  · exact concludes_say_bind (concludes_done halting _)

theorem halting_sendName (name : List UInt8) : Concludes id Halted (sendName name) :=
  concludes_say_bind (concludes_command halts .fileName (by decide) (plain_send _) rfl)

/-- The open of a directory on the way may fail by a status, which is reported as a fault of the
path. What a failed call left is passed on. -/
theorem halting_enterDirectory (drive : Drive) (name : List UInt8) :
    Concludes id Halted (drive.enterDirectory name) := by
  refine (halting_sendName name).bind halting fun _ => ?_
  intro events result ht
  obtain ⟨ending, before, after, rfl, ho, hn⟩ := transcript_attempt_bind ht
  have hh := halting_openSelected drive _ _ ho
  split at hn
  · exact halting.append hh (concludes_say halting _ _ _ _ hn)
  · obtain _ | _ | ⟨⟨⟩⟩ := hn
    rw [List.append_nil]
    exact hh.restate _
  · cases hn
    rw [List.append_nil]
    exact hh

theorem halting_walk (drive : Drive) (path : String) (name rest : List UInt8) :
    Concludes id Halted (drive.walk path name rest) := by
  induction rest generalizing name with
  | nil =>
    unfold walk
    split
    · exact concludes_say_bind (concludes_fail halts (by rintro _ ⟨⟩))
    · exact halting_sendName name
  | cons byte rest ih =>
    unfold walk
    split
    · exact (halting_enterDirectory drive name).bind halting fun _ => ih []
    · split
      · exact concludes_say_bind (concludes_fail halts (by rintro _ ⟨⟩))
      · exact ih _

theorem halting_selectPath (drive : Drive) (path : String) :
    Concludes id Halted (drive.selectPath path) := by
  refine concludes_say_bind ?_
  split
  · exact concludes_fail halts nofun
  · split
    · exact halting_walk drive path _ _
    · exact concludes_say_bind (concludes_fail halts nofun)

/-! ### Chunked transfers -/

theorem plain_receiveChunk (count : Nat) (received : List UInt8) :
    Concludes Cut.stop Plain (receiveChunk count received) := by
  induction count generalizing received with
  | zero => exact concludes_done plain _
  | succ count ih =>
    refine Concludes.bind plain ?_ fun byte => ih _
    exact (plain_exchange _).mapFailure fun _ => rfl

theorem length_receiveChunk {count : Nat} {received chunk : List UInt8}
    {events : List (Event Bus)} (h : Transcript (receiveChunk count received) events (.ok chunk)) :
    events.length = count := by
  induction count generalizing received events with
  | zero =>
    cases h
    rfl
  | succ count ih =>
    rcases transcript_bind h with ⟨_, hr, -⟩ | ⟨byte, before, after, rfl, hb, ha⟩
    · cases hr
    · obtain ⟨reply, -, he⟩ := transcript_mapFailure hb
      cases transcript_exchange he
      rw [List.length_append, ih ha]
      exact Nat.add_comm 1 count

theorem length_send {bytes : List UInt8} {events : List (Event Bus)}
    (h : Transcript (send bytes) events (.ok ())) : events.length = bytes.length := by
  induction bytes generalizing events with
  | nil =>
    cases h
    rfl
  | cons byte rest ih =>
    rcases transcript_bind h with ⟨_, hr, -⟩ | ⟨reply, before, after, rfl, hb, ha⟩
    · cases hr
    · cases transcript_exchange hb
      rw [List.length_append, ih ha]
      exact Nat.add_comm 1 rest.length

/-- A chunk is read in one transaction. -/
theorem concludes_readChunk (room : Nat) :
    Concludes Cut.stop (Enclosing (Chunk 0x27)) (readChunk room) := by
  refine Concludes.bind_quiet ?_ fun chunk => concludes_say_bind (concludes_done quiet _)
  refine concludes_bracket (fun _ => rfl) (fun _ _ => rfl) ?_
  refine concludes_chunk (fun _ => rfl) (asks_send _).mapFailure (asks_exchange _).mapFailure
    fun offered => ?_
  dsimp only
  split
  · rename_i hr
    exact concludes_say_bind (concludes_failed (.overrun hr))
  · intro events result ht
    refine (plain_receiveChunk _ _ _ _ ht).moves fun he => ?_
    cases result with
    | ok chunk => exact length_receiveChunk ht
    | error cut => cases he

theorem halting_readChunk (room : Nat) : Concludes Cut.stop Halted (readChunk room) :=
  (concludes_readChunk room).imp fun _ _ h => (h.imp fun _ _ hc => hc.interior (.inl rfl)).halted

theorem halting_readChunks (drive : Drive) (size rounds : Nat) (received : List UInt8)
    (chunks : Nat) : Concludes Cut.stop Halted (drive.readChunks size rounds received chunks) := by
  induction rounds generalizing received chunks with
  | zero => exact concludes_failed (halted_nil _)
  | succ rounds ih =>
    refine Concludes.bind halting ?_ fun chunk => Concludes.bind halting ?_ fun status => ?_
    · exact (halting_readChunk _).mapFailure fun _ => rfl
    · refine Concludes.mapFailure ?_ fun _ => rfl
      exact (concludes_sendCommand halts (by decide) _).bind halting fun _ => concludes_status halts drive
    · split
      · exact concludes_done halting _
      · exact ih _ _
      · exact concludes_say_bind (concludes_failed (halted_nil _))

theorem halting_read (drive : Drive) (size : Nat) :
    Concludes Cut.stop Halted (drive.read size) := by
  refine concludes_say_bind ?_
  split
  · exact concludes_say_bind (concludes_done halting _)
  · refine Concludes.bind halting ?_ fun _ => ?_
    · refine Concludes.mapFailure ?_ fun _ => rfl
      refine (concludes_checkSize halts size).bind halting fun _ => ?_
      refine (concludes_commandStatus halts drive (by decide) _).bind halting fun status => ?_
      exact concludes_expectStatus halts _ _ _
    · refine (halting_readChunks drive _ _ _ _).bind halting fun result => ?_
      dsimp only
      split
      · exact concludes_say_bind (concludes_say_bind (concludes_done halting _))
      · exact concludes_say_bind (concludes_done halting _)

/-- A chunk is written in one transaction. -/
theorem concludes_writeChunk (data : List UInt8) :
    Concludes id (Enclosing (Chunk 0x2d)) (writeChunk data) := by
  refine Concludes.bind_quiet ?_ fun length => concludes_say_bind (concludes_done quiet _)
  refine concludes_transaction ?_
  refine concludes_chunk (fun _ => rfl) (asks_send _) (asks_exchange _) fun offered => ?_
  dsimp only
  split
  · rename_i hr
    exact concludes_say_bind (concludes_failed (.overrun hr))
  · rename_i hr
    intro events result ht
    have hp := (plain_send _).bind plain (fun _ => concludes_done plain _) _ _ ht
    refine hp.moves fun he => ?_
    rcases transcript_bind ht with ⟨_, rfl, -⟩ | ⟨_, before, after, rfl, hs, hd⟩
    · cases he
    · cases hd
      rw [List.append_nil, length_send hs, List.length_take]
      exact Nat.min_eq_left (Nat.le_of_not_lt hr)

theorem halting_writeChunk (data : List UInt8) : Concludes id Halted (writeChunk data) :=
  (concludes_writeChunk data).imp fun _ _ h => (h.imp fun _ _ hc => hc.interior (.inr rfl)).halted

theorem halting_writeChunks (drive : Drive) (rounds : Nat) (data : List UInt8)
    (written chunks : Nat) :
    Concludes id Halted (drive.writeChunks rounds data written chunks) := by
  induction rounds generalizing data written chunks with
  | zero => exact concludes_failed (halted_nil _)
  | succ rounds ih =>
    refine (halting_writeChunk data).bind halting fun length => ?_
    refine (concludes_sendCommand halts (by decide) _).bind halting fun _ => ?_
    refine (concludes_status halts drive).bind halting fun status => ?_
    split
    · exact concludes_done halting _
    · exact ih _ _ _
    · exact concludes_say_bind (concludes_fail halts nofun)

theorem halting_write (drive : Drive) (data : List UInt8) :
    Concludes id Halted (drive.write data) := by
  refine concludes_say_bind ?_
  split
  · exact concludes_say_bind (concludes_done halting _)
  · refine (concludes_checkSize halts _).bind halting fun _ => ?_
    refine (concludes_commandStatus halts drive (by decide) _).bind halting fun status => ?_
    refine (concludes_expectStatus halts _ _ _).bind halting fun _ => ?_
    refine (halting_writeChunks drive _ _ _ _).bind halting fun result => ?_
    dsimp only
    split
    · exact concludes_say_bind (concludes_say_bind (concludes_done halting _))
    · exact concludes_say_bind (concludes_done halting _)

/-! ## Actions -/

theorem halting_perform {ε : Type} (drive : Drive) (action : Action) :
    Reports Halted (drive.perform action : Dialogue Bus ε Report) := by
  have path {α : Type} (path : String) {next : Operation α} (h : Concludes id Halted next) :
      Concludes id Halted (drive.selectPath path >>= fun _ => next) :=
    (halting_selectPath drive path).bind halting fun _ => h
  cases action with
  | bringUp => exact (halting_bringUp drive).report _
  | initialise => exact (halting_initialise drive).report _
  | connectDisk => exact (halting_connectDisk drive).report _
  | reset => exact (halting_reset drive).report _
  | routeInterrupt => exact halting_routeInterrupt.report _
  | setUsbMode mode => exact (halting_setUsbMode drive mode).report _
  | waitStatus => exact (concludes_waitStatus halts drive).report _
  | pollStatus => exact (concludes_pollStatus halts).report _
  | version => exact (halting_version drive).report _
  | selfTest => exact halting_selfTest.report _
  | openSelected => exact (halting_openSelected drive).report _
  | createFile => exact (halting_createFile drive).report _
  | createDirectory => exact (halting_createDirectory drive).report _
  | erase => exact (halting_erase drive).report _
  | close | seek =>
    exact (concludes_say_bind (concludes_simpleCommand halts drive (by decide) _)).report _
  | fileSize => exact halting_fileSize.report _
  | read buffer => exact (halting_read drive buffer.length).readInto
  | write data => exact (halting_write drive data).report _
  | selectPath text => exact (halting_selectPath drive text).report _
  | openPath text => exact (path text (halting_openSelected drive)).report _
  | createPath text => exact (path text (halting_createFile drive)).report _
  | createDirectoryPath text => exact (path text (halting_createDirectory drive)).report _
  | erasePath text => exact (path text (halting_erase drive)).report _

/-- On every device, the first call of an action that fails ends it: at most the end of the open
transaction follows, and it follows a failed exchange only. The action reports the error of that
call, or the chunk that was too large if the call was the end of the transaction that refused it. -/
theorem perform_fail_stop {σ : Type} (machine : Machine Bus σ) (drive : Drive) (action : Action)
    (state : σ) (journal : Journal) :
    let ran := (drive.perform action : Dialogue Bus Empty Report).run machine.recorded (state, [])
      journal
    ∃ report, ran.result = .ok report ∧
      ∀ before event after error, ran.state.2.reverse = before ++ event :: after →
        (∀ event ∈ before, Granted event) → failure? event = some error →
        (after = [] ∨ ∃ reply, after = [⟨.finish, reply⟩]) ∧
        (after ≠ [] ↔ (∃ byte, event.request = .exchange byte) ∧ Within before) ∧
        (∀ offered, event.request = .finish → Overruns offered before →
          ∃ remaining, remaining < offered.toNat ∧ report.result = .error (.error
            (.stream (.chunkOverrun (UInt64.ofNat offered.toNat) (UInt64.ofNat remaining))))) ∧
        ((∀ offered, event.request = .finish → ¬Overruns offered before) →
          (∀ command status, error ≠ .unexpectedStatus command status) →
          report.result = .error (.error error)) := by
  intro ran
  have ht : Transcript (drive.perform action) ran.state.2.reverse ran.result :=
    (transcript_recorded machine (drive.perform action) state journal).1
  obtain ⟨report, hr, hh⟩ := halting_perform drive action _ _ ht
  refine ⟨report, hr, ?_⟩
  intro before event after error he hb hf
  simp only [← ended_eq_some_iff]
  exact hh.after_failure he hb hf

/-- A read of two bytes is offered three, and the transaction that refuses them cannot be ended. -/
theorem perform_fail_stop_overrun :
    ∃ ran, ran = ((Drive.mk { statusMode := .poll } 1).perform (.read [0x00, 0x00]) :
        Dialogue Bus Empty Report).run Bench.Scripted.device.recorded
        (({ incoming := [0x00, 0x00, 0x00, 0x00, 0x1d, 0x00, 0x03],
            faults := [(.finish, 2, Bench.timeout)] } : Bench.Scripted), []) [] ∧
      ∃ before report, ran.state.2.reverse = before ++ [⟨.finish, .error Bench.timeout⟩] ∧
        (∀ event ∈ before, Granted event) ∧ Overruns 3 before ∧ ran.result = .ok report ∧
        ∃ remaining, remaining < 3 ∧ report.result =
          .error (.error (.stream (.chunkOverrun 3 (UInt64.ofNat remaining)))) := by
  obtain ⟨report, hr, hs⟩ := perform_fail_stop Bench.Scripted.device
    (Drive.mk { statusMode := .poll } 1) (.read [0x00, 0x00])
    { incoming := [0x00, 0x00, 0x00, 0x00, 0x1d, 0x00, 0x03],
      faults := [(.finish, 2, Bench.timeout)] } []
  let sent (byte reply : UInt8) : Event Bus := ⟨.exchange byte, .ok reply⟩
  let before := enclosed [sent 0x3a 0x00, sent 0x02 0x00, sent 0x00 0x00] ++
    enclosed [sent 0x22 0x00, sent 0x00 0x1d] ++
      ⟨.begin, .ok ()⟩ :: [sent 0x27 0x00, sent 0x00 0x03]
  have hg : ∀ event ∈ before, Granted event := by
    simp [before, sent, enclosed, Granted]
  have ho : Overruns 3 before := ⟨_, _, rfl, by decide, 0x27, 0x00, .inl rfl, rfl⟩
  obtain ⟨-, -, hs, -⟩ := hs before ⟨.finish, .error Bench.timeout⟩ [] _ rfl hg rfl
  exact ⟨_, rfl, before, report, rfl, hg, ho, hr, hs 3 rfl ho⟩

end Drive

end DiskBridge
