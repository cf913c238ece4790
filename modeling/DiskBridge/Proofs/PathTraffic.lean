import DiskBridge.Proofs.PathResolution
import DiskBridge.Proofs.UnexpectedStatus

/-!
# What is sent to select a path

The names of an absolute path are sent one by one as they are read. All but the last are opened, and
the first fault ends the walk with nothing sent beyond it.

1. The names are the pieces between the separators, the first with the separator before it
   (`namesAfter`). A name that is too long is found so before anything of it is sent (`walk_long`).
2. An open is a command and the status that answers it (`speaks_openSelected`), and a directory is
   entered by three transactions (`speaks_enterDirectory`).
3. By induction over the names, a walk enters some of them and then ends at one (`Tours`,
   `speaks_walk`).

`selectPath_traffic` states it for every path on every device whose calls do not fail.
-/

namespace DiskBridge

open Dialogue Utf8

/-! ## Names -/

/-- The names of a path that has `rest` after its first separator, which belongs to the first. -/
def namesAfter (rest : List Char) : List (List Char) := (rest.splitOn '/').modifyHead ('/' :: ·)

theorem splitOn_separator (rest : List Char) :
    pathOf (rest.splitOn '/') = '/' :: rest ∧ ∀ name ∈ rest.splitOn '/', '/' ∉ name := by
  induction rest with
  | nil => exact ⟨rfl, by simp⟩
  | cons c rest ih =>
    obtain ⟨first, others, hs⟩ :=
      List.exists_cons_of_ne_nil (List.splitOnP_ne_nil (· == '/') rest)
    simp only [List.splitOn_eq_splitOnP, List.splitOnP_cons_eq_if_modifyHead, hs,
      List.forall_mem_cons] at ih ⊢
    obtain ⟨hp, hf, ho⟩ := ih
    by_cases hc : c = '/'
    · subst hc
      rw [if_pos (beq_self_eq_true _), pathOf_cons, hp]
      refine ⟨rfl, ?_⟩
      rw [List.forall_mem_cons, List.forall_mem_cons]
      exact ⟨List.not_mem_nil, hf, ho⟩
    · rw [if_neg (by simpa using hc), List.modifyHead_cons, pathOf_cons]
      rw [pathOf_cons] at hp
      refine ⟨by rw [List.cons_append, (List.cons.inj hp).2], ?_⟩
      rw [List.forall_mem_cons, List.mem_cons, not_or]
      exact ⟨⟨Ne.symm hc, hf⟩, ho⟩

namespace Drive

open Bus Script

/-- How a name that is too long is reported: up to the byte that is one too many. -/
def overlong (name : List UInt8) : String :=
  (decodeLossy (name.take Command.maxName)).push (Char.ofNat (name.getD Command.maxName 0).toNat)

/-- A name that is too long ends the walk. -/
theorem walk_long (drive : Drive) (path : String) {name part : List UInt8}
    (hs : separator ∉ part) (hn : name.length ≤ Command.maxName)
    (hl : Command.maxName < name.length + part.length) (rest : List UInt8) :
    drive.walk path name (part ++ rest) = (do
      let error := PathError.nameTooLong (overlong (name ++ part)) (UInt64.ofNat Command.maxName)
      say .warn error.message
      Operation.fail (.path error)) := by
  induction part generalizing name with
  | nil =>
    rw [List.length_nil] at hl
    omega
  | cons byte part ih =>
    obtain ⟨hb, hp⟩ := not_or.1 (mt List.mem_cons.2 hs)
    rw [List.length_cons] at hl
    rw [List.cons_append, walk, if_neg (Ne.symm hb)]
    by_cases hm : name.length = Command.maxName
    · have ho : overlong (name ++ byte :: part) =
          (decodeLossy name).push (Char.ofNat byte.toNat) := by
        rw [overlong, ← hm, List.take_left, List.getD_eq_getElem?_getD,
          List.getElem?_append_right (Nat.le_refl _), Nat.sub_self]
        rfl
      rw [if_pos hm, ho]
    · have hl' : (name ++ [byte]).length = name.length + 1 := by simp
      rw [if_neg hm, ih hp (by omega) (by omega), List.append_assoc]
      rfl

/-! ## Entering a directory -/

/-- The bytes sent in some transactions. -/
def sentIn (blocks : List Block) : List (List UInt8) := blocks.map (·.map Prod.fst)

theorem sentIn_append (before after : List Block) :
    sentIn (before ++ after) = sentIn before ++ sentIn after := List.map_append

/-- The statuses by which a file or a directory was opened. -/
abbrev Opening (answer : UInt8) : Prop := answer = 0x14 ∨ answer = 0x41

/-- How an open ends: `sent` is what it sends before the status is read, and `fault` what it makes
of a status by which nothing was opened. -/
inductive Answered {α : Type} (mode : StatusMode) (sent : List (List UInt8))
    (fault : UInt8 → Error) : List Block → Except Stop α → Prop
  | opened {blocks : List Block} {answer : UInt8} (value : α) :
      sentIn blocks = sent ++ [[0x22, 0x00]] → answers blocks = [answer] → Opening answer →
        Answered mode sent fault blocks (.ok value)
  | refused {blocks : List Block} {answer : UInt8} :
      sentIn blocks = sent ++ [[0x22, 0x00]] → answers blocks = [answer] → ¬Opening answer →
        Answered mode sent fault blocks (.error (.error (fault answer)))
  | stalled {blocks : List Block} : mode = .interrupt → sentIn blocks = sent →
      answers blocks = [] → Answered mode sent fault blocks (.error .stalled)

/-- A command is sent and answered. -/
theorem asked_answered {command : Command} {arguments : List UInt8} {answer : UInt8}
    {mode : StatusMode} {body rest : List (Event Bus)} (hc : command ≠ .status)
    (hs : Sent (command.opcode :: arguments) body) (hl : Learnt answer mode rest) :
    Bracketed (enclosed body ++ rest) ∧
      sentIn (transactions (enclosed body ++ rest)) =
        [command.opcode :: arguments, [0x22, 0x00]] ∧
      answers (transactions (enclosed body ++ rest)) = [answer] := by
  have hb := bracketed_enclosed hs.inner
  have hn := status?_of_command (command?_of_sent hs.exchanged) hc
  obtain ⟨hr, read, hT, ha, hm⟩ := hl.block
  rw [transactions_append hb, transactions_enclosed hs.inner, hT]
  refine ⟨hb.append hr, ?_, ?_⟩
  · rw [sentIn, List.map_append, List.map_singleton, List.map_singleton, hs.exchanged, hm]
    rfl
  · rw [answers_append, answers, List.filterMap_cons_none hn, answers,
      List.filterMap_cons_some ha]
    rfl

/-- A command is sent, and the interrupt does not come. -/
theorem asked_stalled {command : Command} {arguments : List UInt8} {body : List (Event Bus)}
    (hc : command ≠ .status) (hs : Sent (command.opcode :: arguments) body) (polls : Nat) :
    Bracketed (enclosed body ++ vain polls) ∧
      sentIn (transactions (enclosed body ++ vain polls)) = [command.opcode :: arguments] ∧
      answers (transactions (enclosed body ++ vain polls)) = [] := by
  have hb := bracketed_enclosed hs.inner
  have hn := status?_of_command (command?_of_sent hs.exchanged) hc
  rw [transactions_append hb, transactions_enclosed hs.inner, transactions_vain, List.append_nil]
  refine ⟨hb.append (bracketed_vain polls), ?_, List.filterMap_cons_none hn⟩
  rw [sentIn, List.map_singleton, hs.exchanged]

theorem speaks_openSelected (drive : Drive) :
    Speaks drive.openSelected fun result events => Bracketed events ∧
      Answered drive.config.statusMode [[0x32]]
        (fun answer => .unexpectedStatus .fileOpen (.ofByte answer)) (transactions events)
        result := by
  refine speaks_say_bind ((speaks_commandStatus drive .fileOpen []).bind ?_ ?_)
  · rintro stop _ ⟨body, rest, hs, rfl, _ | hm⟩
    obtain ⟨hb, hT, ha⟩ := asked_stalled (by decide) hs drive.patience
    exact ⟨hb, .stalled hm hT ha⟩
  · rintro status _ ⟨body, rest, hs, rfl, @⟨answer, _, hl⟩ | _⟩
    obtain ⟨hb, hT, ha⟩ := asked_answered (by decide) hs hl
    by_cases h : Opening answer
    · obtain rfl | rfl := h
      · refine speaks_done ?_
        rw [List.append_nil]
        exact ⟨hb, .opened _ hT ha (.inl rfl)⟩
      · refine speaks_done ?_
        rw [List.append_nil]
        exact ⟨hb, .opened _ hT ha (.inr rfl)⟩
    · have hm : answer ∉ allowed .fileOpen := by simpa [allowed] using h
      split
      · next hs => exact (ofByte_ne rfl (by decide) hm hs).elim
      · next hs => exact (ofByte_ne rfl (by decide) hm hs).elim
      · refine speaks_say_bind (speaks_failed ?_)
        rw [List.append_nil]
        exact ⟨hb, .refused hT ha h⟩

/-- The bytes that select a name. -/
def selection (name : List Char) : List UInt8 := 0x2f :: (encodeChars name ++ [0x00])

/-- What is sent to enter a directory: its name, the command to open it, and that to read the
status. -/
def entry (name : List Char) : List (List UInt8) := [selection name, [0x32], [0x22, 0x00]]

theorem decodeLossy_encodeChars (name : List Char) :
    decodeLossy (encodeChars name) = String.ofList name := by
  rw [decodeLossy, decodeLossyChars_encodeChars]

theorem speaks_enterDirectory (drive : Drive) (name : List Char) :
    Speaks (drive.enterDirectory (encodeChars name)) fun result events => Bracketed events ∧
      Answered drive.config.statusMode [selection name, [0x32]]
        (fun answer => .path (.directoryOpen (String.ofList name) (.ofByte answer)))
        (transactions events) result := by
  refine (yields_sendName (encodeChars name)).bind_value ?_
  rintro _ before ⟨hb, named, hT, hn⟩ after result ht hg
  obtain ⟨ending, opening, rest, rfl, ho, hl⟩ := transcript_attempt_bind ht
  obtain ⟨hgo, -⟩ := List.forall_mem_append.1 hg
  obtain ⟨hd, ha⟩ := speaks_openSelected drive _ _ ho hgo
  -- The name comes first, and reads no status.
  have hS : sentIn ([named] ++ transactions opening) =
      selection name :: sentIn (transactions opening) := congrArg (· :: _) hn
  have hA : answers ([named] ++ transactions opening) = answers (transactions opening) :=
    List.filterMap_cons_none (status?_of_name hn)
  cases ha with
  | opened _ hs ha hv =>
    obtain _ | _ | ⟨⟨⟩⟩ := hl
    rw [List.append_nil, transactions_append hb, hT]
    exact ⟨hb.append hd, .opened () (by rw [hS, hs]; rfl) (hA.trans ha) hv⟩
  | refused hs ha hv =>
    obtain _ | _ | ⟨⟨⟩⟩ := hl
    rw [List.append_nil, transactions_append hb, hT, decodeLossy_encodeChars]
    exact ⟨hb.append hd, .refused (by rw [hS, hs]; rfl) (hA.trans ha) hv⟩
  | stalled hm hs ha =>
    cases hl
    rw [List.append_nil, transactions_append hb, hT]
    exact ⟨hb.append hd, .stalled hm (by rw [hS, hs]) (hA.trans ha)⟩

/-! ## Walking -/

/-- A name that is short enough to be sent. -/
abbrev Short (name : List Char) : Prop := (encodeChars name).length ≤ 13

/-- How a walk ends at the names that are left: what it sends, the statuses it reads, and the
result. -/
inductive Closes (mode : StatusMode) (path : String) :
    List (List Char) → List (List UInt8) → List UInt8 → Except Stop Unit → Prop
  | selected {name : List Char} : name ≠ [] → Short name →
      Closes mode path [name] [selection name] [] (.ok ())
  | leafless : Closes mode path [[]] [] [] (.error (.error (.path (.missingLeaf path))))
  | overlong {name : List Char} {rest : List (List Char)} : ¬Short name →
      Closes mode path (name :: rest) [] []
        (.error (.error (.path (.nameTooLong (overlong (encodeChars name)) 13))))
  | refused {name next : List Char} {rest : List (List Char)} {answer : UInt8} : Short name →
      ¬Opening answer → Closes mode path (name :: next :: rest) (entry name) [answer]
        (.error (.error (.path (.directoryOpen (String.ofList name) (.ofByte answer)))))
  | stalled {name next : List Char} {rest : List (List Char)} : Short name → mode = .interrupt →
      Closes mode path (name :: next :: rest) [selection name, [0x32]] [] (.error .stalled)

/-- A walk enters some of the names, each with a status by which it was opened, and ends at those
that are left. -/
def Tours (mode : StatusMode) (path : String) (names : List (List Char)) (blocks : List Block)
    (result : Except Stop Unit) : Prop :=
  ∃ entered left tail opened last, names = entered ++ left ∧ (∀ name ∈ entered, Short name) ∧
    sentIn blocks = entered.flatMap entry ++ tail ∧ answers blocks = opened ++ last ∧
    opened.length = entered.length ∧ (∀ answer ∈ opened, Opening answer) ∧
    Closes mode path left tail last result

theorem Closes.tours {mode : StatusMode} {path : String} {names : List (List Char)}
    {blocks : List Block} {result : Except Stop Unit}
    (h : Closes mode path names (sentIn blocks) (answers blocks) result) :
    Tours mode path names blocks result :=
  ⟨[], names, sentIn blocks, [], answers blocks, rfl, nofun, rfl, rfl, rfl, nofun, h⟩

theorem Tours.enter {mode : StatusMode} {path : String} {name : List Char}
    {names : List (List Char)} {before after : List Block} {answer : UInt8}
    {result : Except Stop Unit} (hn : Short name) (hs : sentIn before = entry name)
    (ha : answers before = [answer]) (ho : Opening answer)
    (h : Tours mode path names after result) :
    Tours mode path (name :: names) (before ++ after) result := by
  obtain ⟨entered, left, tail, opened, last, rfl, he, hS, hA, hl, hO, hc⟩ := h
  refine ⟨name :: entered, left, tail, answer :: opened, last, rfl, ?_, ?_, ?_, ?_, ?_, hc⟩
  · exact List.forall_mem_cons.2 ⟨hn, he⟩
  · rw [sentIn_append, hs, hS, List.flatMap_cons, List.append_assoc]
  · rw [answers_append, ha, hA]
    rfl
  · rw [List.length_cons, List.length_cons, hl]
  · exact List.forall_mem_cons.2 ⟨ho, hO⟩

theorem separator_not_mem {name : List Char} (h : '/' ∉ name) : separator ∉ encodeChars name :=
  not_mem_encodeChars rfl (by decide) h

section Walk

variable (drive : Drive) (path : String) {lead name : List Char}

theorem speaks_overlong (hl : Short lead) (hs : '/' ∉ name) (hn : ¬Short (lead ++ name))
    (names : List (List Char)) (rest : List UInt8) :
    Speaks (drive.walk path (encodeChars lead) (encodeChars name ++ rest)) fun result events =>
      Bracketed events ∧ Tours drive.config.statusMode path ((lead ++ name) :: names)
        (transactions events) result := by
  have hm : Command.maxName < (encodeChars lead).length + (encodeChars name).length := by
    rw [← List.length_append, ← encodeChars_append]
    exact Nat.not_le.1 hn
  rw [walk_long drive path (separator_not_mem hs) hl hm, ← encodeChars_append]
  exact speaks_say_bind (speaks_failed ⟨.nil, Closes.tours (.overlong hn)⟩)

theorem walk_short (hs : '/' ∉ name) (hn : Short (lead ++ name)) (rest : List UInt8) :
    drive.walk path (encodeChars lead) (encodeChars name ++ rest) =
      drive.walk path (encodeChars (lead ++ name)) rest := by
  rw [Short, encodeChars_append, List.length_append] at hn
  rw [walk_name drive path (separator_not_mem hs) hn, encodeChars_append]

/-- The last name is selected, unless there is none. -/
theorem speaks_leaf (hn : Short name) :
    Speaks (drive.walk path (encodeChars name) []) fun result events => Bracketed events ∧
      Tours drive.config.statusMode path [name] (transactions events) result := by
  by_cases he : name = []
  · subst he
    exact speaks_say_bind (speaks_failed ⟨.nil, Closes.tours .leafless⟩)
  · rw [walk_end drive path (encodeChars_ne_nil he)]
    refine Speaks.imp (yields_sendName _) ?_
    rintro _ events ⟨_, rfl, hb, named, hT, hs⟩
    have hS : sentIn [named] = [selection name] := congrArg (· :: []) hs
    have hA : answers [named] = [] := List.filterMap_cons_none (status?_of_name hs)
    rw [hT]
    refine ⟨hb, Closes.tours ?_⟩
    rw [hS, hA]
    exact .selected he hn

/-- A walk along the names that are left, `lead` being what was read of the first. -/
theorem speaks_walk {rest : List (List Char)} (hl : Short lead)
    (hs : ∀ part ∈ name :: rest, '/' ∉ part) :
    Speaks (drive.walk path (encodeChars lead) (encodeChars name ++ encodeChars (pathOf rest)))
      fun result events => Bracketed events ∧
        Tours drive.config.statusMode path ((lead ++ name) :: rest) (transactions events)
          result := by
  induction rest generalizing lead name with
  | nil =>
    obtain ⟨hs, -⟩ := List.forall_mem_cons.1 hs
    by_cases hn : Short (lead ++ name)
    · rw [walk_short drive path hs hn]
      exact speaks_leaf drive path hn
    · exact speaks_overlong drive path hl hs hn [] _
  | cons next rest ih =>
    obtain ⟨hs, hr⟩ := List.forall_mem_cons.1 hs
    by_cases hn : Short (lead ++ name)
    · rw [walk_short drive path hs hn, encodeChars_pathOf_cons, walk_separator]
      refine (speaks_enterDirectory drive (lead ++ name)).bind ?_ ?_
      · rintro stop events ⟨hb, ha⟩
        refine ⟨hb, Closes.tours ?_⟩
        cases ha with
        | refused hS hA ho =>
          rw [hS, hA]
          exact .refused hn ho
        | stalled hm hS hA =>
          rw [hS, hA]
          exact .stalled hn hm
      · rintro _ before ⟨hb, ha⟩
        cases ha with
        | opened _ hS hA ho =>
          refine (ih (show Short [] from Nat.zero_le _) hr).imp fun result after h => ?_
          rw [transactions_append hb]
          exact ⟨hb.append h.1, h.2.enter hn hS hA ho⟩
    · exact speaks_overlong drive path hl hs hn _ _

end Walk

/-- A walk succeeds exactly if it meets no fault. -/
theorem Tours.ok_iff {mode : StatusMode} {path : String} {names : List (List Char)}
    {blocks : List Block} {result : Except Stop Unit} (h : Tours mode path names blocks result)
    (hr : result ≠ .error .stalled) :
    result = .ok () ↔ (∀ name ∈ names, Short name) ∧ names.getLast? ≠ some [] ∧
      ∀ answer ∈ answers blocks, Opening answer := by
  obtain ⟨entered, left, tail, opened, last, rfl, he, -, hA, -, hO, hc⟩ := h
  rw [hA]
  cases hc with
  | selected hn hs =>
    refine iff_of_true rfl ⟨?_, ?_, ?_⟩
    · exact List.forall_mem_append.2 ⟨he, List.forall_mem_singleton.2 hs⟩
    · rw [List.getLast?_concat]
      exact fun h => hn (Option.some.inj h)
    · rwa [List.append_nil]
  | leafless =>
    refine iff_of_false nofun fun h => h.2.1 ?_
    rw [List.getLast?_concat]
  | overlong hn =>
    refine iff_of_false nofun fun h => hn (h.1 _ ?_)
    exact List.mem_append_right _ List.mem_cons_self
  | refused _ ho =>
    refine iff_of_false nofun fun h => ho (h.2.2 _ ?_)
    exact List.mem_append_right _ List.mem_cons_self
  | stalled => exact (hr rfl).elim

/-! ## Paths -/

theorem transcript_selectPath_empty {drive : Drive} {events : List (Event Bus)}
    {result : Except Stop Unit} (h : Transcript (drive.selectPath "") events result) :
    events = [] ∧ result = .error (.error (.path .empty)) := by
  obtain _ | _ | ⟨⟨⟩⟩ := h
  exact ⟨rfl, rfl⟩

theorem transcript_selectPath_relative {drive : Drive} {path : String} {events : List (Event Bus)}
    {result : Except Stop Unit} (hn : path ≠ "") (hr : ∀ rest, path.toList ≠ '/' :: rest)
    (h : Transcript (drive.selectPath path) events result) :
    events = [] ∧ result = .error (.error (.path (.notAbsolute path))) := by
  have hc : path.toList ≠ [] := fun he => hn (String.toList_eq_nil_iff.1 he)
  obtain ⟨c, rest, hp⟩ := List.exists_cons_of_ne_nil hc
  obtain ⟨byte, more, hb⟩ := List.exists_cons_of_ne_nil (encodeChars_ne_nil (List.cons_ne_nil c []))
  have hs : byte ≠ separator := by
    rintro rfl
    have hc : '/' ∉ [c] := by
      rw [List.mem_singleton]
      rintro rfl
      exact hr rest hp
    refine separator_not_mem hc ?_
    rw [hb]
    exact List.mem_cons_self
  have he : encode path = byte :: (more ++ encodeChars rest) := by
    rw [encode, hp, ← List.singleton_append, encodeChars_append, hb, List.cons_append]
  obtain _ | _ | h := h
  rw [he] at h
  dsimp only at h
  rw [if_neg hs] at h
  obtain _ | _ | ⟨⟨⟩⟩ := h
  exact ⟨rfl, rfl⟩

theorem speaks_selectPath (drive : Drive) {path : String} {rest : List Char}
    (hp : path.toList = '/' :: rest) :
    Speaks (drive.selectPath path) fun result events => Bracketed events ∧
      Tours drive.config.statusMode path (namesAfter rest) (transactions events) result := by
  obtain ⟨hj, hs⟩ := splitOn_separator rest
  obtain ⟨first, others, hf⟩ := List.exists_cons_of_ne_nil (List.splitOn_ne_nil '/' rest)
  rw [hf] at hj hs
  have hr : encode path = separator :: (encodeChars first ++ encodeChars (pathOf others)) := by
    rw [encode, hp, ← hj, encodeChars_pathOf_cons]
  rw [namesAfter, hf, List.modifyHead_cons]
  refine speaks_say_bind ?_
  rw [hr]
  dsimp only
  rw [if_pos rfl]
  exact speaks_walk drive path (show Short ['/'] from by decide) hs

/-- **Traffic of a path.** On every device whose calls do not fail, an empty path and one that is
not absolute are refused without a call. Of an absolute path some names are entered, left to right,
each by three transactions and with a status by which it was opened. The walk ends at the next name:
it is the last and is selected, or is missing; it is too long, and nothing of it is sent; or it has
another status. If the drive does not wait for ever, the path is selected exactly if no name is too
long, the last is not empty, and all statuses are good. -/
theorem selectPath_traffic {σ : Type} (machine : Machine Bus σ) (drive : Drive) (path : String)
    (state : σ) (journal : Journal) :
    let ran := (drive.selectPath path).run machine.recorded (state, []) journal
    let events := ran.state.2.reverse
    (∀ event ∈ events, Granted event) →
      (path = "" → events = [] ∧ ran.result = .error (.error (.path .empty))) ∧
      (path ≠ "" → (∀ rest, path.toList ≠ '/' :: rest) →
        events = [] ∧ ran.result = .error (.error (.path (.notAbsolute path)))) ∧
      ∀ rest, path.toList = '/' :: rest →
        Tours drive.config.statusMode path (namesAfter rest) (transactions events) ran.result ∧
        (ran.result ≠ .error .stalled →
          (ran.result = .ok () ↔ (∀ name ∈ namesAfter rest, Short name) ∧
            (namesAfter rest).getLast? ≠ some [] ∧
            ∀ answer ∈ answers (transactions events), Opening answer)) := by
  intro ran events hg
  have ht : Transcript (drive.selectPath path) events ran.result :=
    (transcript_recorded machine (drive.selectPath path) state journal).1
  refine ⟨?_, ?_, ?_⟩
  · rintro rfl
    exact transcript_selectPath_empty ht
  · intro hn hr
    exact transcript_selectPath_relative hn hr ht
  · intro rest hp
    obtain ⟨-, hT⟩ := speaks_selectPath drive hp _ _ ht hg
    exact ⟨hT, fun hs => hT.ok_iff hs⟩

/-- Along the path `/A/B/` two directories are entered before it turns out to have no last name. -/
theorem selectPath_traffic_leafless :
    ∃ ran, ran = ((Drive.mk { statusMode := .poll } 1).selectPath
        (String.ofList ['/', 'A', '/', 'B', '/'])).run Chip.device.recorded
        (({ attached := true, volume :=
            ⟨[(['/', 'A'], .directory), (['/', 'A', '/', 'B'], .directory)]⟩ } : Chip), []) [] ∧
      (∀ event ∈ ran.state.2.reverse, Granted event) ∧
      ran.result =
        .error (.error (.path (.missingLeaf (String.ofList ['/', 'A', '/', 'B', '/'])))) ∧
      Tours .poll (String.ofList ['/', 'A', '/', 'B', '/']) [['/', 'A'], ['B'], []]
        (transactions ran.state.2.reverse) ran.result ∧
      sentIn (transactions ran.state.2.reverse) = entry ['/', 'A'] ++ entry ['B'] := by
  obtain ⟨-, -, h⟩ := selectPath_traffic Chip.device (Drive.mk { statusMode := .poll } 1)
    (String.ofList ['/', 'A', '/', 'B', '/'])
    { attached := true, volume :=
      ⟨[(['/', 'A'], .directory), (['/', 'A', '/', 'B'], .directory)]⟩ } []
    (Chip.granted_recorded _ _ _)
  obtain ⟨hT, -⟩ := h ['A', '/', 'B', '/'] String.toList_ofList
  exact ⟨_, rfl, Chip.granted_recorded _ _ _, rfl, hT, rfl⟩

end Drive

end DiskBridge
