import DiskBridge.Proofs.BringUpScript
import DiskBridge.Proofs.FailStop
import DiskBridge.Proofs.Verdicts

/-!
# An unexpected status ends the operation

On any device whose calls do not fail, a status that its command does not allow is the last thing
that an operation on files reads. The operation ends with an error that names the command and the
status, or the directory that was being opened on the way. Without such a status it ends with
neither of these errors.

1. Commands that have one good status are judged alike (`judges_expectStatus`). An open has two, and
   the loops of a transfer go on with one and end with the other.
2. Walking a path opens one directory after the other, each by the name that stands in the path
   (`judges_enterDirectory`, `judges_walk`).

`perform_unexpected_status` states it for every action on files.
-/

namespace DiskBridge

open Dialogue

/-! ## The operations of a drive -/

namespace Script

open Bus

theorem StatusRead.block {answer : UInt8} {events : List (Event Bus)}
    (h : StatusRead answer events) :
    Bracketed events ∧ ∃ read, transactions events = [read] ∧ status? read = some answer ∧
      read.map Prod.fst = [0x22, 0x00] := by
  obtain @⟨body, hs⟩ := h
  obtain _ | @⟨_, reply, _, _, ⟨⟩⟩ := hs
  have hi : ∀ event ∈ [⟨.exchange 0x22, .ok reply⟩] ++ [⟨.exchange 0x00, .ok answer⟩],
      Bus.Inner event := by simp [Bus.Inner]
  exact ⟨bracketed_enclosed hi, _, transactions_enclosed hi, rfl, rfl⟩

theorem bracketed_vain (polls : Nat) : Bracketed (vain polls) := by
  induction polls with
  | zero => exact .nil
  | succ polls ih => exact .poll _ ih

theorem transactions_vain (polls : Nat) : transactions (vain polls) = [] := by
  induction polls with
  | zero => rfl
  | succ polls ih => exact ih

theorem Learnt.block {answer : UInt8} {mode : StatusMode} {events : List (Event Bus)}
    (h : Learnt answer mode events) :
    Bracketed events ∧ ∃ read, transactions events = [read] ∧ status? read = some answer ∧
      read.map Prod.fst = [0x22, 0x00] := by
  cases h with
  | poll hr => exact hr.block
  | interrupt polls hr =>
    obtain ⟨hb, read, hT, hs⟩ := hr.block
    refine ⟨(bracketed_vain polls).append (.poll _ hb), read, ?_, hs⟩
    rw [transactions_append (bracketed_vain polls), transactions_vain]
    exact hT

theorem Learns.learning {drive : Drive} {command : Command} {arguments : List UInt8}
    {dialogue : Operation Status}
    (h : Speaks dialogue fun result events =>
      ∃ body rest, Sent (command.opcode :: arguments) body ∧ events = enclosed body ++ rest ∧
        Learns drive drive.config.statusMode result rest) : Learning id command dialogue := by
  intro events result ht hg
  obtain ⟨body, rest, hs, rfl, hl⟩ := h _ _ ht hg
  have hb := bracketed_enclosed hs.inner
  have hc := command?_of_sent hs.exchanged
  rw [transactions_append hb, transactions_enclosed hs.inner]
  cases hl with
  | learnt hl =>
    obtain ⟨hd, read, hT, hr, -⟩ := hl.block
    rw [hT]
    exact ⟨hb.append hd, _, hc, .inl ⟨read, _, rfl, hr, rfl⟩⟩
  | stalled =>
    rw [transactions_vain]
    exact ⟨hb.append (bracketed_vain _), _, hc, .inr ⟨rfl, rfl⟩⟩

end Script

namespace Drive

open Bus Script

theorem learning_learn (drive : Drive) (command : Command) (arguments : List UInt8) :
    Learning id command (sendCommand command arguments >>= fun _ => drive.status) :=
  Learns.learning (speaks_learn drive command arguments)

theorem learning_commandStatus (drive : Drive) (command : Command) (arguments : List UInt8) :
    Learning id command (drive.commandStatus command arguments) :=
  Learns.learning (speaks_commandStatus drive command arguments)

/-- A question to which one status is the answer. -/
theorem judges_expectStatus {command : Command} {expected : Status} {question : Operation Status}
    (hq : Learning id command question) (ha : allowed command = [expected.byte])
    (he : Status.ofByte expected.byte = expected) :
    Concludes id (Verdict [] [])
      (question >>= fun status => expectStatus command status expected) := by
  refine judges_question hq (by simp [ha]) (fun answer hm => ?_) fun answer hm => ?_
  · rw [ha, List.mem_singleton] at hm
    rw [expectStatus, hm, if_pos he]
    exact judges_done ()
  · rw [ha, List.mem_singleton] at hm
    rw [expectStatus, if_neg (mt (Status.ofByte_eq_iff he).1 hm)]
    exact concludes_say_bind (concludes_failed ⟨rfl, rfl⟩)

theorem judges_simpleCommand (drive : Drive) {command : Command} (arguments : List UInt8)
    (ha : allowed command = [Status.success.byte]) :
    Concludes id (Verdict [] []) (drive.simpleCommand command arguments) :=
  judges_expectStatus (learning_commandStatus drive command arguments) ha rfl

/-- A status that is not allowed is none of those that are. -/
theorem ofByte_ne {command : Command} {status : Status} {answer : UInt8}
    (hs : Status.ofByte status.byte = status) (ha : status.byte ∈ allowed command)
    (hn : answer ∉ allowed command) : Status.ofByte answer ≠ status := by
  intro h
  rw [(Status.ofByte_eq_iff hs).1 h] at hn
  exact hn ha

/-! ### Files and directories -/

theorem replied_openSelected (drive : Drive) :
    Concludes id (Replied .fileOpen) drive.openSelected := by
  refine concludes_say_bind (replied_question (learning_commandStatus drive _ _) ?_ ?_)
  · intro answer hm
    obtain rfl | rfl : answer = 0x14 ∨ answer = 0x41 := by simpa [allowed] using hm
    · exact concludes_done quiet _
    · exact concludes_done quiet _
  · intro answer hm
    split
    · next h => exact (ofByte_ne rfl (by decide) hm h).elim
    · next h => exact (ofByte_ne rfl (by decide) hm h).elim
    · exact concludes_say_bind (concludes_failed ⟨rfl, rfl⟩)

theorem judges_openSelected (drive : Drive) :
    Concludes id (Verdict [] []) drive.openSelected :=
  (replied_openSelected drive).imp fun _ _ h => h.verdict (by decide)

theorem judges_createFile (drive : Drive) : Concludes id (Verdict [] []) drive.createFile := by
  refine concludes_say_bind ?_
  refine (judges_simpleCommand drive _ rfl).bind judging fun _ => ?_
  refine (judges_openSelected drive).bind judging fun opened => ?_
  split
  · exact judges_say _ _
  · exact judges_done ()

theorem judges_createDirectory (drive : Drive) :
    Concludes id (Verdict [] []) drive.createDirectory :=
  concludes_say_bind (judges_simpleCommand drive _ rfl)

theorem judges_erase (drive : Drive) : Concludes id (Verdict [] []) drive.erase :=
  concludes_say_bind (judges_simpleCommand drive _ rfl)

/-! ### Paths -/

/-- The names of an absolute path that are opened on the way, all but the last. The separator in
front belongs to the first. -/
def directories (path : String) : List (List UInt8) :=
  ((Utf8.encode path).splitOn separator).tail.dropLast.modifyHead (separator :: ·)

/-- The names that are opened while the rest of a path is walked, after the part `name` of one. -/
def onTheWay (name rest : List UInt8) : List (List UInt8) :=
  (rest.splitOn separator).dropLast.modifyHead (name ++ ·)

theorem onTheWay_separator (name rest : List UInt8) :
    onTheWay name (separator :: rest) = name :: onTheWay [] rest := by
  obtain ⟨first, others, hs⟩ :=
    List.exists_cons_of_ne_nil (List.splitOnP_ne_nil (· == separator) rest)
  simp [onTheWay, List.splitOn, List.splitOnP_cons_eq_if_modifyHead, hs]

theorem onTheWay_byte {byte : UInt8} (h : byte ≠ separator) (name rest : List UInt8) :
    onTheWay name (byte :: rest) = onTheWay (name ++ [byte]) rest := by
  obtain ⟨first, others, hs⟩ :=
    List.exists_cons_of_ne_nil (List.splitOnP_ne_nil (· == separator) rest)
  cases others <;>
    simp [onTheWay, List.splitOn, List.splitOnP_cons_eq_if_modifyHead, hs, h]

theorem directories_of_encode {path : String} {rest : List UInt8}
    (h : Utf8.encode path = separator :: rest) : directories path = onTheWay [separator] rest := by
  simp [directories, onTheWay, h, List.splitOn, List.splitOnP_cons_eq_if_modifyHead]

/-- A name is selected in one transaction. -/
theorem yields_sendName (name : List UInt8) :
    Yields (sendName name) fun _ events => Bracketed events ∧ ∃ named,
      transactions events = [named] ∧ named.map Prod.fst = 0x2f :: (name ++ [0x00]) := by
  refine speaks_say_bind ((yields_transaction (yields_send _)).imp ?_)
  rintro _ _ ⟨body, rfl, hs⟩
  exact ⟨bracketed_enclosed hs.inner, _, transactions_enclosed hs.inner, hs.exchanged⟩

theorem status?_of_name {name : List UInt8} {named : Block}
    (h : named.map Prod.fst = 0x2f :: (name ++ [0x00])) : status? named = none := by
  have hc : command? named = some .fileName := command?_of_sent h
  exact status?_of_command hc (by decide)

theorem judges_sendName (name : List UInt8) (left : List (List UInt8)) :
    Concludes id (Verdict left left) (sendName name) := by
  intro events result ht hg
  obtain ⟨_, rfl, hb, named, hT, hn⟩ := yields_sendName name _ _ ht hg
  have hs := status?_of_name hn
  rw [hT]
  refine ⟨hb, .passed (.plain hs .nil) ?_⟩
  rw [answers, List.filterMap_cons_none hs]
  rfl

/-- A directory on the way is selected and opened. Only the status of the open decides. -/
theorem judges_enterDirectory (drive : Drive) (name : List UInt8) (left : List (List UInt8)) :
    Concludes id (Verdict (name :: left) left) (drive.enterDirectory name) := by
  change Speaks (drive.enterDirectory name) fun result events =>
    Bracketed events ∧ Judged (name :: left) left (transactions events) (ended id result)
  refine (yields_sendName name).bind_value ?_
  rintro _ before ⟨hb, named, hT, hn⟩ after result ht hg
  have hp := status?_of_name hn
  have hz : answers [named] = [] := List.filterMap_cons_none hp
  rw [transactions_append hb, hT]
  obtain ⟨ending, opening, rest, rfl, ho, hl⟩ := transcript_attempt_bind ht
  obtain ⟨hgo, -⟩ := List.forall_mem_append.1 hg
  obtain ⟨hd, asked, hc, hr⟩ := replied_openSelected drive _ _ ho hgo
  have hq := status?_of_command hc (by decide)
  obtain ⟨hT, he⟩ | ⟨read, answer, hT, hs, ⟨hm, he⟩ | ⟨hm, he⟩⟩ := hr
  · obtain rfl := ended_eq_some_iff.1 he
    cases hl
    rw [List.append_nil, hT]
    exact ⟨hb.append hd, .stopped (.plain hp (.plain hq .nil)) True.intro⟩
  · obtain ⟨opened, rfl⟩ := ended_eq_none_iff.1 he
    obtain _ | _ | ⟨⟨⟩⟩ := hl
    rw [List.append_nil, hT]
    refine ⟨hb.append hd, .passed (.plain hp (.status hc hs hm .nil)) ?_⟩
    rw [answers_append, hz, answers, List.filterMap_cons_none hq, List.filterMap_cons_some hs]
    rfl
  · obtain rfl := ended_eq_some_iff.1 he
    obtain _ | _ | ⟨⟨⟩⟩ := hl
    rw [List.append_nil, hT]
    refine ⟨hb.append hd, ?_⟩
    have hf : fault (name :: left) (answers [named]).length .fileOpen answer =
        .path (.directoryOpen (Utf8.decodeLossy name) (.ofByte answer)) := by
      rw [hz]
      rfl
    change Judged _ _ _ (some (.error _))
    rw [← hf]
    refine .bad (.plain hp .nil) hc (by decide) hs hm fun other h => ?_
    rw [hz] at h
    cases h
    exact ⟨rfl, [], named, rfl, hn⟩

theorem judges_walk (drive : Drive) (path : String) (name rest : List UInt8) :
    Concludes id (Verdict (onTheWay name rest) []) (drive.walk path name rest) := by
  induction rest generalizing name with
  | nil =>
    unfold walk
    split
    · exact concludes_say_bind (judges_failed True.intro)
    · exact judges_sendName name []
  | cons byte rest ih =>
    unfold walk
    split
    · next hs =>
      rw [hs, onTheWay_separator]
      exact Verdict.bind (judges_enterDirectory drive name _) fun _ => ih []
    · next hs =>
      rw [onTheWay_byte hs]
      split
      · exact concludes_say_bind (judges_failed True.intro)
      · exact ih _

theorem judges_selectPath (drive : Drive) (path : String) :
    Concludes id (Verdict (directories path) []) (drive.selectPath path) := by
  refine concludes_say_bind ?_
  split
  · exact judges_failed True.intro
  · next byte rest he =>
    split
    · next hs =>
      subst hs
      rw [directories_of_encode he]
      exact judges_walk drive path _ _
    · exact concludes_say_bind (judges_failed True.intro)

/-! ### Chunked transfers -/

theorem judges_checkSize (size : Nat) : Concludes id (Verdict [] []) (checkSize size) := by
  unfold checkSize
  split
  · exact concludes_say_bind (judges_failed True.intro)
  · exact judges_done ()

theorem judges_readChunk (room : Nat) : Concludes Cut.stop (Verdict [] []) (readChunk room) := by
  refine (concludes_readChunk room).imp fun events ending h => ?_
  have h : Enclosing (Chunk Command.readBuffer.opcode) events ending := h
  exact h.verdict (by decide)

theorem judges_readChunks (drive : Drive) (size rounds : Nat) (received : List UInt8)
    (chunks : Nat) :
    Concludes Cut.stop (Verdict [] []) (drive.readChunks size rounds received chunks) := by
  induction rounds generalizing received chunks with
  | zero => exact judges_failed True.intro
  | succ rounds ih =>
    refine Concludes.bind judging ((judges_readChunk _).mapFailure fun _ => rfl) fun chunk => ?_
    refine judges_question ((learning_learn drive .readMore []).mapFailure fun _ => rfl) (by decide) ?_ ?_
    · intro answer hm
      obtain rfl | rfl : answer = 0x14 ∨ answer = 0x1d := by simpa [allowed] using hm
      · exact judges_done _
      · exact ih _ _
    · intro answer hm
      split
      · next h => exact (ofByte_ne rfl (by decide) hm h).elim
      · next h => exact (ofByte_ne rfl (by decide) hm h).elim
      · exact concludes_say_bind (concludes_failed ⟨rfl, rfl⟩)

theorem judges_read (drive : Drive) (size : Nat) :
    Concludes Cut.stop (Verdict [] []) (drive.read size) := by
  refine concludes_say_bind ?_
  split
  · exact concludes_say_bind (judges_done _)
  · refine Concludes.bind judging ?_ fun _ => ?_
    · refine Concludes.mapFailure ?_ fun _ => rfl
      refine (judges_checkSize size).bind judging fun _ => ?_
      have ha : allowed .read = [Status.readPending.byte] := rfl
      exact judges_expectStatus (learning_commandStatus drive .read _) ha rfl
    · refine (judges_readChunks drive _ _ _ _).bind judging fun result => ?_
      dsimp only
      split
      · exact concludes_say_bind (concludes_say_bind (judges_done _))
      · exact concludes_say_bind (judges_done _)

theorem judges_writeChunk (data : List UInt8) :
    Concludes id (Verdict [] []) (writeChunk data) := by
  refine (concludes_writeChunk data).imp fun events ending h => ?_
  have h : Enclosing (Chunk Command.writeBuffer.opcode) events ending := h
  exact h.verdict (by decide)

theorem judges_writeChunks (drive : Drive) (rounds : Nat) (data : List UInt8)
    (written chunks : Nat) :
    Concludes id (Verdict [] []) (drive.writeChunks rounds data written chunks) := by
  induction rounds generalizing data written chunks with
  | zero => exact judges_failed True.intro
  | succ rounds ih =>
    refine (judges_writeChunk data).bind judging fun length => ?_
    dsimp only
    rw [← bind_bind]
    refine judges_question (learning_learn drive .writeMore []) (by decide) ?_ ?_
    · intro answer hm
      obtain rfl | rfl : answer = 0x14 ∨ answer = 0x1e := by simpa [allowed] using hm
      · exact judges_done _
      · exact ih _ _ _
    · intro answer hm
      split
      · next h => exact (ofByte_ne rfl (by decide) hm h).elim
      · next h => exact (ofByte_ne rfl (by decide) hm h).elim
      · exact concludes_say_bind (concludes_failed ⟨rfl, rfl⟩)

theorem judges_write (drive : Drive) (data : List UInt8) :
    Concludes id (Verdict [] []) (drive.write data) := by
  refine concludes_say_bind ?_
  split
  · exact concludes_say_bind (judges_done _)
  · refine (judges_checkSize _).bind judging fun _ => ?_
    rw [← bind_bind]
    refine Concludes.bind judging ?_ fun _ => ?_
    · have ha : allowed .write = [Status.writePending.byte] := rfl
      exact judges_expectStatus (learning_commandStatus drive .write _) ha rfl
    · refine (judges_writeChunks drive _ _ _ _).bind judging fun result => ?_
      dsimp only
      split
      · exact concludes_say_bind (concludes_say_bind (judges_done _))
      · exact concludes_say_bind (judges_done _)

/-! ## Actions -/

/-- The actions on the selected name, the open file or a path that the chip answers by a status. -/
def Action.onFiles : Action → Bool
  | .openSelected | .createFile | .createDirectory | .erase | .close | .seek _ | .read _ | .write _
  | .selectPath _ | .openPath _ | .createPath _ | .createDirectoryPath _ | .erasePath _ => true
  | _ => false

/-- The directories that an action opens before anything else. -/
def Action.directories : Action → List (List UInt8)
  | .selectPath path | .openPath path | .createPath path | .createDirectoryPath path
  | .erasePath path => Drive.directories path
  | _ => []

theorem judges_perform {ε : Type} (drive : Drive) {action : Action} (h : action.onFiles = true) :
    Reports (Verdict action.directories []) (drive.perform action : Dialogue Bus ε Report) := by
  have path {α : Type} (path : String) {next : Operation α}
      (h : Concludes id (Verdict [] []) next) :
      Concludes id (Verdict (directories path) []) (drive.selectPath path >>= fun _ => next) :=
    Verdict.bind (judges_selectPath drive path) fun _ => h
  cases action with
  | openSelected => exact (judges_openSelected drive).report _
  | createFile => exact (judges_createFile drive).report _
  | createDirectory => exact (judges_createDirectory drive).report _
  | erase => exact (judges_erase drive).report _
  | close | seek => exact (concludes_say_bind (judges_simpleCommand drive _ rfl)).report _
  | read buffer => exact (judges_read drive buffer.length).readInto
  | write data => exact (judges_write drive data).report _
  | selectPath text => exact (judges_selectPath drive text).report _
  | openPath text => exact (path text (judges_openSelected drive)).report _
  | createPath text => exact (path text (judges_createFile drive)).report _
  | createDirectoryPath text => exact (path text (judges_createDirectory drive)).report _
  | erasePath text => exact (path text (judges_erase drive)).report _
  | bringUp | initialise | connectDisk | reset | routeInterrupt | setUsbMode | waitStatus
  | pollStatus | version | selfTest | fileSize => cases h

/-- On every device whose calls do not fail, every status that an action on files reads belongs to
the command in the transaction before. If that command does not allow it, no transaction follows,
and the action fails by the command and the status, or by the directory that was selected and opened
just before if that is one on the way. If all statuses are allowed, the action does not fail so. -/
theorem perform_unexpected_status {σ : Type} (machine : Machine Bus σ) (drive : Drive)
    (action : Action) (ha : action.onFiles = true) (state : σ) (journal : Journal) :
    let ran := (drive.perform action : Dialogue Bus Empty Report).run machine.recorded (state, [])
      journal
    let made := transactions ran.state.2.reverse
    (∀ event ∈ ran.state.2.reverse, Granted event) →
    ∃ report, ran.result = .ok report ∧
      (∀ before block after answer, made = before ++ block :: after →
        status? block = some answer →
        ∃ earlier asked command, before = earlier ++ [asked] ∧ command? asked = some command ∧
          allowed command ≠ [] ∧
          (answer ∉ allowed command → after = [] ∧
            match action.directories[(answers before).length]? with
            | none => report.result = .error (.error (.unexpectedStatus command (.ofByte answer)))
            | some name => command = .fileOpen ∧ Selects name earlier ∧
              report.result = .error (.error (.path
                (.directoryOpen (Utf8.decodeLossy name) (.ofByte answer)))))) ∧
      ((∀ earlier asked block after command answer, made = earlier ++ asked :: block :: after →
        command? asked = some command → status? block = some answer → answer ∈ allowed command) →
        (∀ command status, report.result ≠ .error (.error (.unexpectedStatus command status))) ∧
        ∀ segment status,
          report.result ≠ .error (.error (.path (.directoryOpen segment status)))) := by
  intro ran made hg
  have ht : Transcript (drive.perform action) ran.state.2.reverse ran.result :=
    (transcript_recorded machine (drive.perform action) state journal).1
  obtain ⟨report, hr, hv⟩ := judges_perform drive ha _ _ ht
  obtain ⟨-, hj⟩ := hv hg
  refine ⟨report, hr, ?_, ?_⟩
  · intro before block after answer hm hs
    obtain ⟨earlier, asked, command, he, hc, hn, hb⟩ := hj.found hm hs
    refine ⟨earlier, asked, command, he, hc, hn, fun hbad => ?_⟩
    obtain ⟨hl, hf, hd⟩ := hb hbad
    refine ⟨hl, ?_⟩
    rw [ended_eq_some_iff, fault] at hf
    split
    · next h => rwa [h] at hf
    · next name h =>
      obtain ⟨ho, hsel⟩ := hd name h
      rw [h] at hf
      exact ⟨ho, hsel, hf⟩
  · intro hall
    have hi (stop : Stop) (h : report.result = .error stop) : Innocent stop := by
      rw [h] at hj
      exact hj.innocent hall
    exact ⟨fun command status h => hi _ h, fun segment status h => hi _ h⟩

/-- On the way along the path `/A/B/C` the chip finds no directory `B`. The status that says so is
the last thing read. -/
theorem perform_unexpected_status_on_the_way :
    ∃ ran, ran = ((Drive.mk {} 1).perform
        (.openPath (String.ofList ['/', 'A', '/', 'B', '/', 'C'])) :
          Dialogue Bus Empty Report).run Chip.device.recorded
        (({ attached := true, volume := ⟨[(['/', 'A'], .directory)]⟩ } : Chip), []) [] ∧
      (∀ event ∈ ran.state.2.reverse, Granted event) ∧
      ran.result = .ok { result := .error (.error (.path (.directoryOpen "B" .missing))) } ∧
      ∃ earlier asked block, transactions ran.state.2.reverse = earlier ++ [asked, block] ∧
        command? asked = some .fileOpen ∧ status? block = some 0x42 := by
  -- The argument for any chip; only the result is computed.
  have hm (chip : Chip) (ran : Ran Empty Report (Chip × List (Event Bus)))
      (hran : ran = ((Drive.mk {} 1).perform
        (.openPath (String.ofList ['/', 'A', '/', 'B', '/', 'C']))).run Chip.device.recorded
          (chip, []) [])
      (hr : ran.result = .ok
        { result := .error (.error (.path (.directoryOpen "B" .missing))) }) :
      ∃ earlier asked block, transactions ran.state.2.reverse = earlier ++ [asked, block] ∧
        command? asked = some .fileOpen ∧ status? block = some 0x42 := by
    obtain ⟨report, hk, hs, hi⟩ := perform_unexpected_status Chip.device (Drive.mk {} 1)
      (.openPath (String.ofList ['/', 'A', '/', 'B', '/', 'C'])) rfl chip []
      (Chip.granted_recorded _ chip [])
    rw [← hran] at hk hs hi
    rw [hr] at hk
    cases hk
    -- One status is not allowed, or the result were another.
    have hall : ¬_ := fun hall => (hi hall).2 _ _ rfl
    simp only [Classical.not_forall] at hall
    obtain ⟨earlier, asked, block, after, command, answer, hmade, hc, hb, hn⟩ := hall
    have hsplit : transactions ran.state.2.reverse = (earlier ++ [asked]) ++ block :: after := by
      rw [hmade, List.append_assoc]
      rfl
    obtain ⟨others, other, name, he, hc', -, hbad⟩ := hs _ _ _ _ hsplit hb
    obtain ⟨-, he⟩ := List.append_inj' he rfl
    cases he
    rw [hc] at hc'
    cases hc'
    obtain ⟨rfl, hf⟩ := hbad hn
    split at hf
    · cases hf
    · obtain ⟨rfl, -, hf⟩ := hf
      simp only [Except.error.injEq, Stop.error.injEq, Error.path.injEq,
        PathError.directoryOpen.injEq] at hf
      obtain rfl := (Status.ofByte_eq_iff rfl).1 hf.2.symm
      exact ⟨earlier, asked, block, hmade, hc, hb⟩
  exact ⟨_, rfl, Chip.granted_recorded _ _ _, rfl, hm _ _ rfl rfl⟩

end Drive

end DiskBridge
