import DiskBridge.Proofs.Courses
import DiskBridge.Proofs.Endings
import DiskBridge.Proofs.RaisedStatuses

/-!
# Polling and waiting agree on the chip

A drive learns the status of a command by waiting for the interrupt or by polling at once. On the
chip the two come to the same, as does any amount of patience that is enough.

1. A poll may take a queued status or a report of a connection off the chip. But whenever a drive
   that waits polls after a command, the command has left a status pending (`pending_complete`), so
   that the poll changes nothing and the status is the same as without it (`matches_learn`).
2. Every wait that ends with some patience ends the same way with more (`matches_awaitInterrupt`,
   `matches_awaitConnect`, and likewise the loops of a transfer).
3. `Matches` carries both through the operations of a drive: where one of them does not stall, the
   other has the same outcome.

`statusModes_agree` states it for every course.
-/

namespace DiskBridge.Drive

open Dialogue Bus Chip

/-! ## Outcomes that match -/

section Matches

variable {ε δ α β : Type} {view : ε → Stop}

/-- Wherever the first dialogue does not stall on a chip, the second has the same outcome. -/
def Matches (view : ε → Stop) (first second : Dialogue Bus ε α) : Prop :=
  ∀ chip : Chip, ended view (first.outcome device chip).1 ≠ some .stalled →
    second.outcome device chip = first.outcome device chip

theorem Matches.refl (view : ε → Stop) (dialogue : Dialogue Bus ε α) :
    Matches view dialogue dialogue := fun _ _ => rfl

theorem matches_stalled {cause : ε} (h : view cause = .stalled) (dialogue : Dialogue Bus ε α) :
    Matches view (failed cause) dialogue :=
  fun _ hs => (hs (congrArg some h)).elim

theorem matches_say_bind {level : Level} {text : String} {next next' : Unit → Dialogue Bus ε α}
    (h : Matches view (next ()) (next' ())) :
    Matches view (say level text >>= next) (say level text >>= next') := h

theorem Matches.bind {first first' : Dialogue Bus ε α} {next next' : α → Dialogue Bus ε β}
    (hf : Matches view first first') (hn : ∀ value, Matches view (next value) (next' value)) :
    Matches view (first >>= next) (first' >>= next') := by
  intro chip hs
  have hf := hf chip
  rcases ho : first.outcome device chip with ⟨cause | value, middle⟩
  · rw [outcome_bind_error ho] at hs ⊢
    rw [ho] at hf
    exact outcome_bind_error (hf hs)
  · rw [outcome_bind_ok ho] at hs ⊢
    rw [ho] at hf
    rw [outcome_bind_ok (hf nofun)]
    exact hn value middle hs

theorem Matches.mapFailure {first second : Dialogue Bus ε α} {other : δ → Stop} {restate : ε → δ}
    (h : Matches view first second) (hv : ∀ cause, other (restate cause) = view cause) :
    Matches other (first.mapFailure restate) (second.mapFailure restate) := by
  intro chip hs
  rw [outcome_mapFailure, ended_mapError hv] at hs
  rw [outcome_mapFailure, outcome_mapFailure, h chip hs]

/-- An attempt after which a stall is passed on. -/
theorem Matches.attempt_bind {first second : Dialogue Bus ε α} {other : δ → Stop}
    {next : Except ε α → Dialogue Bus δ β} (h : Matches view first second)
    (hn : ∀ ending, ended view ending = some .stalled → ∀ chip,
      ended other ((next ending).outcome device chip).1 = some .stalled) :
    Matches other (first.attempt >>= next) (second.attempt >>= next) := by
  intro chip hs
  simp only [outcome_bind, outcome_attempt] at hs ⊢
  rw [h chip fun he => hs (hn _ he _)]

end Matches

/-! ## The operations of a drive -/

/-- The other drive differs in the way it learns statuses, and has some patience, and no less. -/
inductive Outlasts : Drive → Drive → Prop
  | intro (config : Config) (mode : StatusMode) {patience longer : Nat} : patience ≤ longer →
      0 < longer → Outlasts ⟨config, patience⟩ ⟨{ config with statusMode := mode }, longer⟩

theorem matches_awaitInterrupt {patience longer : Nat} (h : patience ≤ longer) :
    Matches id (awaitInterrupt patience) (awaitInterrupt longer) := by
  induction patience generalizing longer with
  | zero => exact matches_stalled rfl _
  | succ patience ih =>
    obtain ⟨longer, rfl⟩ := Nat.exists_eq_add_of_le' (Nat.zero_lt_of_lt h)
    refine (Matches.refl id (Operation.ofBus poll)).bind fun raised => ?_
    split
    · exact .refl id _
    · exact ih (Nat.le_of_succ_le_succ h)

section Drive

variable {drive other : Drive} (h : Outlasts drive other)

include h

theorem Outlasts.patience_le : drive.patience ≤ other.patience := by
  obtain ⟨config, mode, hl, -⟩ := h
  exact hl

theorem Outlasts.patient : 0 < other.patience := by
  obtain ⟨config, mode, -, hp⟩ := h
  exact hp

theorem matches_waitStatus : Matches id drive.waitStatus other.waitStatus :=
  matches_say_bind ((matches_awaitInterrupt h.patience_le).bind fun _ => .refl id _)

/-- The status of a command is pending when the drive asks for it, so it does not matter how. -/
theorem matches_learn {command : Command} (hc : command.isInterrupting = true)
    (arguments : List UInt8) :
    Matches id (sendCommand command arguments >>= fun _ => drive.status)
      (sendCommand command arguments >>= fun _ => other.status) := by
  intro chip hs
  have ho : (sendCommand command arguments).outcome device chip =
      (.ok (), chip.carryOut (command.opcode :: arguments)) := by
    rw [sendCommand, outcome_say_bind]
    exact outcome_sendCommand (quiet_of_isInterrupting hc) chip arguments
  have hp : (chip.carryOut (command.opcode :: arguments)).pending = some _ :=
    pending_complete hc chip.settled arguments
  rw [outcome_bind_ok ho] at hs ⊢
  rw [outcome_bind_ok ho, outcome_status_pending (fun _ => h.patient) hp]
  refine (outcome_status_pending (fun hm => Nat.pos_of_ne_zero fun hz => hs ?_) hp).symm
  -- A drive that waits without any patience stalls.
  rw [status, hm, waitStatus, outcome_say_bind, hz]
  rfl

theorem matches_commandStatus {command : Command} (hc : command.isInterrupting = true)
    (arguments : List UInt8) :
    Matches id (drive.commandStatus command arguments) (other.commandStatus command arguments) := by
  rw [commandStatus, commandStatus, ← bind_assoc, ← bind_assoc]
  exact (matches_learn h hc arguments).bind fun _ => .refl id _

theorem matches_simpleCommand {command : Command} (hc : command.isInterrupting = true)
    (arguments : List UInt8) :
    Matches id (drive.simpleCommand command arguments) (other.simpleCommand command arguments) :=
  (matches_commandStatus h hc arguments).bind fun _ => .refl id _

/-! ### Bring-up -/

theorem matches_awaitConnect {rounds longer : Nat} (hr : rounds ≤ longer) :
    Matches id (drive.awaitConnect rounds) (other.awaitConnect longer) := by
  induction rounds generalizing longer with
  | zero => exact matches_stalled rfl _
  | succ rounds ih =>
    obtain ⟨longer, rfl⟩ := Nat.exists_eq_add_of_le' (Nat.zero_lt_of_lt hr)
    refine (matches_waitStatus h).bind fun status => ?_
    split
    · exact .refl id _
    · exact matches_say_bind (ih (Nat.le_of_succ_le_succ hr))

theorem matches_waitForConnect : Matches id drive.waitForConnect other.waitForConnect :=
  matches_say_bind (matches_awaitConnect h h.patience_le)

/-- The mode is switched without a wait. -/
theorem setUsbMode_eq (mode : UsbMode) : other.setUsbMode mode = drive.setUsbMode mode := by
  cases h
  rfl

theorem initialise_eq : other.initialise = drive.initialise := by
  cases h
  rfl

theorem matches_connectDisk : Matches id drive.connectDisk other.connectDisk := by
  rw [connectDisk, connectDisk, setUsbMode_eq h, setUsbMode_eq h]
  refine matches_say_bind ((matches_waitForConnect h).bind fun _ => ?_)
  refine (Matches.refl id _).bind fun _ => (Matches.refl id _).bind fun _ => ?_
  refine (matches_waitForConnect h).bind fun _ => ?_
  refine (matches_simpleCommand h rfl []).bind fun _ => ?_
  exact matches_say_bind (matches_simpleCommand h rfl [])

theorem matches_bringUp : Matches id drive.bringUp other.bringUp := by
  rw [bringUp, bringUp, initialise_eq h]
  refine matches_say_bind ((Matches.refl id _).bind fun _ => ?_)
  exact (matches_connectDisk h).bind fun _ => .refl id _

/-! ### Files, directories and paths -/

theorem matches_openSelected : Matches id drive.openSelected other.openSelected :=
  matches_say_bind ((matches_commandStatus h rfl []).bind fun _ => .refl id _)

theorem matches_createFile : Matches id drive.createFile other.createFile := by
  refine matches_say_bind ((matches_simpleCommand h rfl []).bind fun _ => ?_)
  exact (matches_openSelected h).bind fun _ => .refl id _

theorem matches_createDirectory : Matches id drive.createDirectory other.createDirectory :=
  matches_say_bind (matches_simpleCommand h rfl [])

theorem matches_erase : Matches id drive.erase other.erase :=
  matches_say_bind (matches_simpleCommand h rfl [])

theorem matches_close : Matches id drive.close other.close :=
  matches_say_bind (matches_simpleCommand h rfl _)

theorem matches_seek (offset : UInt32) : Matches id (drive.seek offset) (other.seek offset) :=
  matches_say_bind (matches_simpleCommand h rfl _)

theorem matches_enterDirectory (name : List UInt8) :
    Matches id (drive.enterDirectory name) (other.enterDirectory name) := by
  refine (Matches.refl id _).bind fun _ => (matches_openSelected h).attempt_bind ?_
  intro ending he chip
  rw [ended_eq_some_iff.1 he]
  rfl

theorem matches_walk (path : String) (name rest : List UInt8) :
    Matches id (drive.walk path name rest) (other.walk path name rest) := by
  induction rest generalizing name with
  | nil => exact .refl id _
  | cons byte rest ih =>
    unfold walk
    split
    · exact (matches_enterDirectory h name).bind fun _ => ih []
    · split
      · exact .refl id _
      · exact ih _

theorem matches_selectPath (path : String) :
    Matches id (drive.selectPath path) (other.selectPath path) := by
  refine matches_say_bind ?_
  split
  · exact .refl id _
  · split
    · exact matches_walk h path _ _
    · exact .refl id _

/-! ### Chunked transfers -/

theorem matches_readChunks (size : Nat) {rounds longer : Nat} (hr : rounds ≤ longer)
    (received : List UInt8) (chunks : Nat) :
    Matches Cut.stop (drive.readChunks size rounds received chunks)
      (other.readChunks size longer received chunks) := by
  induction rounds generalizing longer received chunks with
  | zero => exact matches_stalled rfl _
  | succ rounds ih =>
    obtain ⟨longer, rfl⟩ := Nat.exists_eq_add_of_le' (Nat.zero_lt_of_lt hr)
    refine (Matches.refl Cut.stop _).bind fun chunk => ?_
    have hl : Matches id (sendCommand .readMore [] >>= fun _ => drive.status) _ :=
      matches_learn h rfl []
    refine Matches.bind (hl.mapFailure ?_) fun status => ?_
    · exact fun _ => rfl
    split
    · exact .refl Cut.stop _
    · exact ih (Nat.le_of_succ_le_succ hr) _ _
    · exact .refl Cut.stop _

theorem matches_read (size : Nat) : Matches Cut.stop (drive.read size) (other.read size) := by
  refine matches_say_bind ?_
  split
  · exact .refl Cut.stop _
  · have hs : Matches id (drive.commandStatus .read (littleEndian 2 size) >>= fun status =>
        expectStatus .read status .readPending) _ :=
      (matches_commandStatus h rfl _).bind fun _ => .refl id _
    refine Matches.bind (((Matches.refl id (checkSize size)).bind fun _ => hs).mapFailure ?_)
      fun _ => ?_
    · exact fun _ => rfl
    · exact (matches_readChunks h size h.patience_le [] 0).bind fun _ => .refl Cut.stop _

theorem matches_writeChunks {rounds longer : Nat} (hr : rounds ≤ longer) (data : List UInt8)
    (written chunks : Nat) :
    Matches id (drive.writeChunks rounds data written chunks)
      (other.writeChunks longer data written chunks) := by
  induction rounds generalizing longer data written chunks with
  | zero => exact matches_stalled rfl _
  | succ rounds ih =>
    obtain ⟨longer, rfl⟩ := Nat.exists_eq_add_of_le' (Nat.zero_lt_of_lt hr)
    refine (Matches.refl id _).bind fun length => ?_
    dsimp only
    rw [← bind_bind, ← bind_bind]
    refine (matches_learn h rfl []).bind fun status => ?_
    split
    · exact .refl id _
    · exact ih (Nat.le_of_succ_le_succ hr) _ _ _
    · exact .refl id _

theorem matches_write (data : List UInt8) : Matches id (drive.write data) (other.write data) := by
  refine matches_say_bind ?_
  split
  · exact .refl id _
  · refine (Matches.refl id _).bind fun _ => ?_
    refine (matches_commandStatus h rfl _).bind fun _ => (Matches.refl id _).bind fun _ => ?_
    exact (matches_writeChunks h h.patience_le data 0 0).bind fun _ => .refl id _

end Drive

/-! ## Actions -/

/-- Wherever the first dialogue reports the end of an action on a chip, the second reports the
same. -/
def Confirms {ε : Type} (first second : Dialogue Bus ε Report) : Prop :=
  ∀ chip report last, first.outcome device chip = (.ok report, last) → report.stalled = false →
    second.outcome device chip = (.ok report, last)

theorem Matches.report {ε α : Type} {first second : Operation α} (h : Matches id first second)
    (value : α → Value) :
    Confirms (Drive.report first value : Dialogue Bus ε Report) (Drive.report second value) := by
  intro chip report last ho hs
  simp only [Drive.report, outcome_bind, outcome_attempt] at ho ⊢
  obtain ⟨⟨⟩, rfl⟩ := Prod.mk.inj ho
  rw [h chip ?_]
  · rfl
  · rw [← ended_map id _ value]
    exact ended_ne_stalled hs

theorem Matches.readInto {ε : Type} {drive other : Drive} {buffer : List UInt8}
    (h : Matches Cut.stop (drive.read buffer.length) (other.read buffer.length)) :
    Confirms (drive.readInto buffer : Dialogue Bus ε Report) (other.readInto buffer) := by
  intro chip report last ho hs
  have h := h chip
  simp only [Drive.readInto, outcome_bind, outcome_attempt] at ho ⊢
  rcases hr : (drive.read buffer.length).outcome device chip with ⟨cut | received, middle⟩
  · rw [hr] at h ho
    obtain ⟨⟨⟩, rfl⟩ := Prod.mk.inj ho
    rw [h (ended_ne_stalled hs)]
    rfl
  · rw [hr] at h ho
    rw [h nofun]
    exact ho

/-- **An action that ends with one drive ends the same way with every drive that outlasts it.** -/
theorem confirms_perform {ε : Type} {drive other : Drive} (h : Outlasts drive other)
    (action : Action) :
    Confirms (drive.perform action : Dialogue Bus ε Report) (other.perform action) := by
  have path {α : Type} (text : String) {next next' : Operation α} (hn : Matches id next next') :
      Matches id (drive.selectPath text >>= fun _ => next)
        (other.selectPath text >>= fun _ => next') :=
    (matches_selectPath h text).bind fun _ => hn
  cases action with
  | bringUp => exact (matches_bringUp h).report _
  | connectDisk => exact (matches_connectDisk h).report _
  | waitStatus => exact (matches_waitStatus h).report _
  | openSelected => exact (matches_openSelected h).report _
  | createFile => exact (matches_createFile h).report _
  | createDirectory => exact (matches_createDirectory h).report _
  | erase => exact (matches_erase h).report _
  | close => exact (matches_close h).report _
  | seek offset => exact (matches_seek h offset).report _
  | read buffer => exact (matches_read h buffer.length).readInto
  | write data => exact (matches_write h data).report _
  | selectPath text => exact (matches_selectPath h text).report _
  | openPath text => exact (path text (matches_openSelected h)).report _
  | createPath text => exact (path text (matches_createFile h)).report _
  | createDirectoryPath text => exact (path text (matches_createDirectory h)).report _
  | erasePath text => exact (path text (matches_erase h)).report _
  | initialise | reset | setUsbMode | version | routeInterrupt | pollStatus | selfTest
  | fileSize =>
    -- What neither learns a status nor waits is the same operation.
    cases h
    exact (Matches.refl id _).report _

/-! ## Courses -/

/-- An action completes if it ends on the chip, whatever is recorded of it. -/
theorem exists_completes_iff {config : Config} {chip last : Chip} {action : Action}
    {report : Report} :
    (∃ events, Completes config chip action report events last) ↔
      ∃ patience, ((Drive.mk config patience).perform action : Dialogue Bus Empty Report).outcome
        device chip = (.ok report, last) ∧ report.stalled = false := by
  constructor
  · rintro ⟨events, patience, hr, hs, hn⟩
    refine ⟨patience, ?_, hn⟩
    have ho := outcome_recorded device
      ((Drive.mk config patience).perform action : Dialogue Bus Empty Report) chip []
    rw [outcome_run _ _ _ [], hr, hs] at ho
    exact ho.symm
  · rintro ⟨patience, ho, hn⟩
    rw [← outcome_recorded device _ chip [], outcome_run _ _ _ []] at ho
    obtain ⟨hr, hs⟩ := Prod.mk.inj ho
    exact ⟨_, patience, hr, Prod.ext hs (List.reverse_reverse _).symm, hn⟩

/-- An action that completes does so whichever way the drive learns statuses. -/
theorem Completes.in_mode {config : Config} {chip last : Chip} {action : Action} {report : Report}
    {events : List (Event Bus)} (h : Completes config chip action report events last)
    (mode : StatusMode) :
    ∃ events, Completes { config with statusMode := mode } chip action report events last := by
  obtain ⟨patience, ho, hs⟩ := exists_completes_iff.1 ⟨events, h⟩
  have hl : Outlasts ⟨config, patience⟩ ⟨{ config with statusMode := mode }, patience + 1⟩ :=
    .intro config mode patience.le_succ patience.succ_pos
  exact exists_completes_iff.2 ⟨patience + 1, confirms_perform hl action _ _ _ ho hs, hs⟩

/-- An action completes in one way only. -/
theorem Completes.unique {config : Config} {chip last last' : Chip} {action : Action}
    {report report' : Report} {events events' : List (Event Bus)} {mode : StatusMode}
    (h : Completes config chip action report events last)
    (h' : Completes { config with statusMode := mode } chip action report' events' last') :
    report = report' ∧ last = last' := by
  obtain ⟨patience, ho, hs⟩ := exists_completes_iff.1 ⟨events, h⟩
  obtain ⟨patience', ho', hs'⟩ := exists_completes_iff.1 ⟨events', h'⟩
  -- Both end the same way with a drive that outlasts both.
  let patient : Drive := ⟨{ config with statusMode := mode }, patience + patience' + 1⟩
  have hl : Outlasts ⟨config, patience⟩ patient := .intro config mode (by omega) (by omega)
  have hl' : Outlasts ⟨{ config with statusMode := mode }, patience'⟩ patient :=
    .intro { config with statusMode := mode } mode (by omega) (by omega)
  have he := (confirms_perform hl action _ _ _ ho hs).symm.trans
    (confirms_perform hl' action _ _ _ ho' hs')
  simpa using he

section Course

variable {config : Config} {mode : StatusMode} {chip last last' : Chip} {turns : List Turn}
  {results results' : List (Report × Chip)} {history history' : List Chip.Entry}

theorem Course.in_mode (h : Course config chip turns results history last) (mode : StatusMode) :
    ∃ history, Course { config with statusMode := mode } chip turns results history last := by
  induction h with
  | nil chip => exact ⟨_, .nil chip⟩
  | act hc _ ih =>
    obtain ⟨events, hc⟩ := hc.in_mode mode
    obtain ⟨history, ih⟩ := ih
    exact ⟨_, .act hc ih⟩
  | prepare _ ih =>
    obtain ⟨history, ih⟩ := ih
    exact ⟨_, .prepare ih⟩

theorem Course.unique (h : Course config chip turns results history last)
    (h' : Course { config with statusMode := mode } chip turns results' history' last') :
    results = results' ∧ last = last' := by
  induction h generalizing results' history' with
  | nil chip =>
    cases h'
    exact ⟨rfl, rfl⟩
  | act hc _ ih =>
    obtain _ | ⟨hc', h'⟩ := h'
    obtain ⟨rfl, rfl⟩ := hc.unique hc'
    obtain ⟨rfl, rfl⟩ := ih h'
    exact ⟨rfl, rfl⟩
  | prepare _ ih =>
    obtain _ | _ | h' := h'
    exact ih h'

end Course

/-- On every chip, a course of actions and preparations comes to its end with a drive that waits for
interrupts exactly if it does with one that polls, and then every action has the same report, with
the same buffer, and leaves the same chip. -/
theorem statusModes_agree (config : Config) (chip : Chip) (turns : List Turn) :
    let waiting := { config with statusMode := .interrupt }
    let polling := { config with statusMode := .poll }
    ((∃ results history last, Course waiting chip turns results history last) ↔
      ∃ results history last, Course polling chip turns results history last) ∧
    ∀ results results' history history' last last',
      Course waiting chip turns results history last →
        Course polling chip turns results' history' last' →
        results = results' ∧ last = last' := by
  intro waiting polling
  refine ⟨⟨?_, ?_⟩, fun _ _ _ _ _ _ h h' => h.unique h'⟩
  · rintro ⟨results, history, last, h⟩
    obtain ⟨history, h⟩ := h.in_mode .poll
    exact ⟨results, history, last, h⟩
  · rintro ⟨results, history, last, h⟩
    obtain ⟨history, h⟩ := h.in_mode .interrupt
    exact ⟨results, history, last, h⟩

/-- A status queued before the bring-up is ignored while the drive waits for the connection, and one
injected for the open is learnt from it, in both modes. -/
theorem statusModes_agree_queued :
    let chip : Chip := { attached := true, queued := [0x42] }
    let turns : List Turn :=
      [.act .bringUp, .prepare (.inject 0x32 0x1f), .prepare (.queueStatus 0x14),
        .act .openSelected]
    ∃ results last,
      results.map (fun result => ended id result.1.result) =
        [none, some (.error (.unexpectedStatus .fileOpen .diskFault))] ∧
      (∃ history, Course {} chip turns results history last) ∧
      ∃ history, Course { statusMode := .poll } chip turns results history last := by
  intro chip turns
  obtain ⟨⟨results, history, last⟩, hp⟩ := Option.isSome_iff_exists.1
    (show ((Drive.mk {} 2).play chip turns).isSome = true by decide +kernel)
  have hr : ((Drive.mk {} 2).play chip turns).map (fun course =>
      course.1.map fun result => ended id result.1.result) =
        some [none, some (.error (.unexpectedStatus .fileOpen .diskFault))] := by decide +kernel
  have hw := course_play hp
  obtain ⟨ht, ha⟩ := statusModes_agree {} chip turns
  obtain ⟨results', history', last', hc⟩ := ht.1 ⟨results, history, last, hw⟩
  obtain ⟨rfl, rfl⟩ := ha _ _ _ _ _ _ hw hc
  rw [hp] at hr
  exact ⟨results, last, Option.some.inj hr, ⟨history, hw⟩, history', hc⟩

end DiskBridge.Drive
