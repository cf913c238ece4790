import DiskBridge.Proofs.Halting
import DiskBridge.Proofs.Transactions

/-!
# Statuses that are allowed, and those that are not

A command on files allows some statuses (`allowed`). `Judged` says how an operation ends, given the
transactions it made: all statuses were allowed, or the last one was not and is to blame. The
operation may have `directories` to open first, and what it leaves of them is part of the verdict.

1. Whatever status was read, the command before it decides on it (`Judged.found`), and without one
   that is not allowed the operation ends in another way (`Judged.innocent`).
2. Operations in sequence are judged one after the other (`Judged.append`, `Verdict.bind`).
3. An operation that asks for a status and goes on only if it is allowed is judged by what it does
   then (`judges_question`). A chunk is moved without a status (`Enclosing.verdict`).
-/

namespace DiskBridge.Bus

open Dialogue

/-! ## Statuses -/

/-- The statuses that a command on files may be answered by. -/
def allowed : Command → List UInt8
  | .fileOpen => [0x14, 0x41]
  | .fileCreate | .dirCreate | .fileErase | .fileClose | .locate => [0x14]
  | .read => [0x1d]
  | .write => [0x1e]
  | .readMore => [0x14, 0x1d]
  | .writeMore => [0x14, 0x1e]
  | _ => []

theorem status?_of_allowed {command : Command} {block : Block} (h : command? block = some command)
    (ha : allowed command ≠ []) : status? block = none := by
  refine status?_of_command h ?_
  rintro rfl
  exact ha rfl

/-! ## How an operation ends -/

/-- Every status that was read is allowed by the command before it. -/
inductive Smooth : List Block → Prop
  | nil : Smooth []
  | plain {block : Block} {rest : List Block} :
      status? block = none → Smooth rest → Smooth (block :: rest)
  | status {asked read : Block} {command : Command} {answer : UInt8} {rest : List Block} :
      command? asked = some command → status? read = some answer → answer ∈ allowed command →
        Smooth rest → Smooth (asked :: read :: rest)

theorem Smooth.append {before after : List Block} (hb : Smooth before) (ha : Smooth after) :
    Smooth (before ++ after) := by
  induction hb with
  | nil => exact ha
  | plain hs _ ih => exact .plain hs ih
  | status hc hs hm _ ih => exact .status hc hs hm ih

theorem Smooth.found {blocks before after : List Block} {block : Block} {answer : UInt8}
    (h : Smooth blocks) (hb : blocks = before ++ block :: after)
    (hs : status? block = some answer) :
    ∃ earlier asked command, before = earlier ++ [asked] ∧ command? asked = some command ∧
      answer ∈ allowed command := by
  induction h generalizing before with
  | nil => simp at hb
  | @plain first rest hn _ ih =>
    cases before with
    | nil =>
      cases hb
      rw [hn] at hs
      cases hs
    | cons _ before =>
      obtain ⟨rfl, ht⟩ := List.cons.inj hb
      obtain ⟨earlier, asked, command, rfl, hc⟩ := ih ht
      exact ⟨first :: earlier, asked, command, rfl, hc⟩
  | @status asked read command _ rest hc hr hm _ ih =>
    match before with
    | [] =>
      cases hb
      rw [status?_of_allowed hc (List.ne_nil_of_mem hm)] at hs
      cases hs
    | [first] =>
      cases hb
      rw [hr] at hs
      cases hs
      exact ⟨[], asked, command, rfl, hc, hm⟩
    | first :: second :: before =>
      have ht := (List.cons.inj (List.cons.inj hb).2).2
      obtain ⟨earlier, asked, command, rfl, hc⟩ := ih ht
      exact ⟨first :: second :: earlier, asked, command, rfl, hc⟩

/-- Neither an unexpected status nor a directory that could not be opened. -/
def Innocent : Stop → Prop
  | .error (.unexpectedStatus _ _) | .error (.path (.directoryOpen _ _)) => False
  | _ => True

/-- The error for the status `answer` of a command, after `index` statuses. The first statuses are
those of the directories on the way. -/
def fault (directories : List (List UInt8)) (index : Nat) (command : Command) (answer : UInt8) :
    Error :=
  match directories[index]? with
  | some name => .path (.directoryOpen (Utf8.decodeLossy name) (.ofByte answer))
  | none => .unexpectedStatus command (.ofByte answer)

/-- The last of these transactions selects a name. -/
def Selects (name : List UInt8) (blocks : List Block) : Prop :=
  ∃ earlier named, blocks = earlier ++ [named] ∧ named.map Prod.fst = 0x2f :: (name ++ [0x00])

/-- How an operation ends that has to open some `directories` first: all statuses were allowed, and
with a value the directories that are `left` are still to be opened, or the last one was not and is
to blame. -/
inductive Judged (directories left : List (List UInt8)) : List Block → Option Stop → Prop
  | passed {blocks : List Block} : Smooth blocks →
      directories.drop (answers blocks).length = left → Judged directories left blocks none
  | stopped {blocks : List Block} {stop : Stop} : Smooth blocks → Innocent stop →
      Judged directories left blocks (some stop)
  | bad {before : List Block} {asked read : Block} {command : Command} {answer : UInt8} :
      Smooth before → command? asked = some command → allowed command ≠ [] →
      status? read = some answer → answer ∉ allowed command →
      (∀ name, directories[(answers before).length]? = some name →
        command = .fileOpen ∧ Selects name before) →
      Judged directories left (before ++ [asked, read])
        (some (.error (fault directories (answers before).length command answer)))

section Judged

variable {directories middle left : List (List UInt8)}

theorem Judged.append {before after : List Block} {ending : Option Stop}
    (hb : Judged directories middle before none) (ha : Judged middle left after ending) :
    Judged directories left (before ++ after) ending := by
  obtain ⟨hs, rfl⟩ | _ | _ := hb
  cases ha with
  | passed ht hl =>
    refine .passed (hs.append ht) ?_
    rwa [answers_append, List.length_append, ← List.drop_drop]
  | stopped ht hi => exact .stopped (hs.append ht) hi
  | @bad between asked read command answer ht hc hn hr hm hd =>
    have hi : (answers (before ++ between)).length =
        (answers before).length + (answers between).length := by
      rw [answers_append, List.length_append]
    have hf : fault (directories.drop (answers before).length) (answers between).length command
        answer = fault directories (answers (before ++ between)).length command answer := by
      rw [fault, fault, List.getElem?_drop, hi]
    rw [hf, ← List.append_assoc]
    refine .bad (hs.append ht) hc hn hr hm fun name h => ?_
    rw [hi, ← List.getElem?_drop] at h
    obtain ⟨ho, earlier, named, rfl, hs⟩ := hd name h
    exact ⟨ho, before ++ earlier, named, (List.append_assoc ..).symm, hs⟩

theorem Judged.fails {blocks : List Block} {stop : Stop}
    (h : Judged directories middle blocks (some stop)) :
    Judged directories left blocks (some stop) := by
  cases h with
  | stopped hs hi => exact .stopped hs hi
  | bad hs hc hn hr hm hd => exact .bad hs hc hn hr hm hd

/-- A status that was read has a command before it. If it is not allowed, nothing follows it and
the operation ends with its error. -/
theorem Judged.found {blocks before after : List Block} {block : Block} {answer : UInt8}
    {ending : Option Stop} (h : Judged directories left blocks ending)
    (hb : blocks = before ++ block :: after) (hs : status? block = some answer) :
    ∃ earlier asked command, before = earlier ++ [asked] ∧ command? asked = some command ∧
      allowed command ≠ [] ∧
      (answer ∉ allowed command → after = [] ∧
        ending = some (.error (fault directories (answers before).length command answer)) ∧
        ∀ name, directories[(answers before).length]? = some name →
          command = .fileOpen ∧ Selects name earlier) := by
  have hf {blocks after : List Block} (ht : Smooth blocks)
      (hb : blocks = before ++ block :: after) :
      ∃ earlier asked command, before = earlier ++ [asked] ∧ command? asked = some command ∧
        answer ∈ allowed command := ht.found hb hs
  cases h with
  | passed ht =>
    obtain ⟨earlier, asked, command, he, hc, hm⟩ := hf ht hb
    exact ⟨earlier, asked, command, he, hc, List.ne_nil_of_mem hm, fun hn => (hn hm).elim⟩
  | stopped ht =>
    obtain ⟨earlier, asked, command, he, hc, hm⟩ := hf ht hb
    exact ⟨earlier, asked, command, he, hc, List.ne_nil_of_mem hm, fun hn => (hn hm).elim⟩
  | @bad first asked read command other ht hc hn hr hm hd =>
    have ha := status?_of_allowed hc hn
    rcases List.eq_nil_or_concat after with rfl | ⟨rest, last, rfl⟩
    · have hl : (first ++ [asked]) ++ [read] = before ++ [block] := by
        rw [List.append_assoc]
        exact hb
      obtain ⟨rfl, he⟩ := List.append_inj' hl rfl
      cases he
      rw [hr] at hs
      cases hs
      have hi : answers (first ++ [asked]) = answers first := by
        rw [answers_append, answers, answers, List.filterMap_cons_none ha, List.filterMap_nil,
          List.append_nil]
      rw [hi]
      exact ⟨first, asked, command, rfl, hc, hn, fun _ => ⟨rfl, rfl, hd⟩⟩
    · have hl : (first ++ [asked]) ++ [read] = (before ++ block :: rest) ++ [last] := by
        rw [List.concat_eq_append] at hb
        rw [List.append_assoc, List.append_assoc]
        exact hb
      have hp : Smooth (first ++ [asked]) := ht.append (.plain ha .nil)
      obtain ⟨earlier, asked, command, he, hc, hm⟩ := hf hp (List.append_inj' hl rfl).1
      exact ⟨earlier, asked, command, he, hc, List.ne_nil_of_mem hm, fun hn => (hn hm).elim⟩

/-- Without a status that is not allowed, the operation ends in another way. -/
theorem Judged.innocent {blocks : List Block} {stop : Stop}
    (h : Judged directories left blocks (some stop))
    (ha : ∀ earlier asked block after command answer,
      blocks = earlier ++ asked :: block :: after → command? asked = some command →
      status? block = some answer → answer ∈ allowed command) : Innocent stop := by
  cases h with
  | stopped _ hi => exact hi
  | bad _ hc _ hr hm _ => exact (hm (ha _ _ _ [] _ _ rfl hc hr)).elim

end Judged

/-! ## Operations in sequence -/

/-- How a conversation ends in which no call fails. -/
def Verdict (directories left : List (List UInt8)) (events : List (Event Bus))
    (ending : Option Stop) : Prop :=
  (∀ event ∈ events, Granted event) →
    Bracketed events ∧ Judged directories left (transactions events) ending

section Verdict

variable {ε α β : Type} {view : ε → Stop} {directories middle left : List (List UInt8)}

theorem judging : Sequential (Verdict [] []) where
  nil _ := ⟨.nil, .passed .nil rfl⟩
  append hb ha hg := by
    obtain ⟨hgb, hga⟩ := List.forall_mem_append.1 hg
    obtain ⟨hd, hj⟩ := hb hgb
    obtain ⟨hd', hj'⟩ := ha hga
    rw [transactions_append hd]
    exact ⟨hd.append hd', hj.append hj'⟩

theorem judges_done (value : α) :
    Concludes view (Verdict directories directories) (done value : Dialogue Bus ε α) := by
  rintro _ _ ⟨⟩ _
  exact ⟨.nil, .passed .nil rfl⟩

theorem judges_say (level : Level) (text : String) :
    Concludes view (Verdict directories directories) (say level text : Dialogue Bus ε Unit) :=
  concludes_say_bind (judges_done ())

theorem judges_failed {cause : ε} (h : Innocent (view cause)) :
    Concludes view (Verdict directories left) (failed cause : Dialogue Bus ε α) :=
  concludes_failed fun _ => ⟨.nil, .stopped .nil h⟩

theorem Verdict.bind {first : Dialogue Bus ε α} {next : α → Dialogue Bus ε β}
    (hf : Concludes view (Verdict directories middle) first)
    (hn : ∀ value, Concludes view (Verdict middle left) (next value)) :
    Concludes view (Verdict directories left) (first >>= next) := by
  intro events result ht hg
  rcases transcript_bind ht with ⟨cause, rfl, hc⟩ | ⟨value, before, after, rfl, hb, ha⟩
  · obtain ⟨hd, hj⟩ := hf _ _ hc hg
    exact ⟨hd, hj.fails⟩
  · obtain ⟨hgb, hga⟩ := List.forall_mem_append.1 hg
    obtain ⟨hd, hj⟩ := hf _ _ hb hgb
    obtain ⟨hd', hj'⟩ := hn value _ _ ha hga
    rw [transactions_append hd]
    exact ⟨hd.append hd', hj.append hj'⟩

end Verdict

/-! ## Questions -/

section Learning

variable {ε δ α : Type} {view : ε → Stop} {command : Command}

/-- A dialogue that sends a command and learns its status, or waits for it in vain. -/
def Learning (view : ε → Stop) (command : Command) (dialogue : Dialogue Bus ε Status) : Prop :=
  Speaks dialogue fun result events => Bracketed events ∧ ∃ asked, command? asked = some command ∧
    ((∃ read answer, transactions events = [asked, read] ∧ status? read = some answer ∧
        result = .ok (.ofByte answer)) ∨
      transactions events = [asked] ∧ ended view result = some .stalled)

theorem Learning.mapFailure {other : δ → Stop} {restate : ε → δ}
    {dialogue : Dialogue Bus ε Status} (h : Learning view command dialogue)
    (hv : ∀ cause, other (restate cause) = view cause) :
    Learning other command (dialogue.mapFailure restate) := by
  intro events result ht hg
  obtain ⟨ending, rfl, hd⟩ := transcript_mapFailure ht
  obtain ⟨hb, asked, hc, ⟨read, answer, hT, hs, rfl⟩ | ⟨hT, he⟩⟩ := h _ _ hd hg
  · exact ⟨hb, asked, hc, .inl ⟨read, answer, hT, hs, rfl⟩⟩
  · refine ⟨hb, asked, hc, .inr ⟨hT, ?_⟩⟩
    rw [ended_mapError hv, he]

/-- What follows a question follows its answer. -/
theorem Learning.transcript_bind {question : Dialogue Bus ε Status}
    {next : Status → Dialogue Bus ε α} {events : List (Event Bus)} {result : Except ε α}
    (h : Learning view command question) (ht : Transcript (question >>= next) events result)
    (hg : ∀ event ∈ events, Granted event) :
    ∃ asked, command? asked = some command ∧
      ((Bracketed events ∧ transactions events = [asked] ∧ ended view result = some .stalled) ∨
        ∃ read answer before after, events = before ++ after ∧ Bracketed before ∧
          transactions before = [asked, read] ∧ status? read = some answer ∧
          (∀ event ∈ after, Granted event) ∧ Transcript (next (.ofByte answer)) after result) := by
  rcases Dialogue.transcript_bind ht with ⟨cause, rfl, hq⟩ | ⟨status, before, after, rfl, hq, hn⟩
  · obtain ⟨hb, asked, hc, ⟨_, _, _, _, hr⟩ | ⟨hT, he⟩⟩ := h _ _ hq hg
    · cases hr
    · exact ⟨asked, hc, .inl ⟨hb, hT, he⟩⟩
  · obtain ⟨hgb, hga⟩ := List.forall_mem_append.1 hg
    obtain ⟨hb, asked, hc, ⟨read, answer, hT, hs, hr⟩ | ⟨_, he⟩⟩ := h _ _ hq hgb
    · cases hr
      exact ⟨asked, hc, .inr ⟨read, answer, before, after, rfl, hb, hT, hs, hga, hn⟩⟩
    · cases he

/-- Nothing is done but to report an unexpected status. -/
def Reported (command : Command) (answer : UInt8) (events : List (Event Bus))
    (ending : Option Stop) : Prop :=
  events = [] ∧ ending = some (.error (.unexpectedStatus command (.ofByte answer)))

/-- A question after which an operation goes on exactly if the answer is allowed. -/
theorem judges_question {question : Dialogue Bus ε Status} {next : Status → Dialogue Bus ε α}
    (hq : Learning view command question) (hc : allowed command ≠ [])
    (hn : ∀ answer ∈ allowed command, Concludes view (Verdict [] []) (next (.ofByte answer)))
    (hb : ∀ answer, answer ∉ allowed command →
      Concludes view (Reported command answer) (next (.ofByte answer))) :
    Concludes view (Verdict [] []) (question >>= next) := by
  intro events result ht hg
  obtain ⟨asked, ha, ⟨hd, hT, he⟩ | ⟨read, answer, before, after, rfl, hd, hT, hs, hga, hl⟩⟩ :=
    hq.transcript_bind ht hg
  · rw [hT, he]
    exact ⟨hd, .stopped (.plain (status?_of_allowed ha hc) .nil) True.intro⟩
  · by_cases hm : answer ∈ allowed command
    · obtain ⟨hd', hj⟩ := hn answer hm _ _ hl hga
      have hp : Judged [] [] [asked, read] none := .passed (.status ha hs hm .nil) List.drop_nil
      rw [transactions_append hd, hT]
      exact ⟨hd.append hd', hp.append hj⟩
    · obtain ⟨rfl, he⟩ := hb answer hm _ _ hl
      rw [List.append_nil, hT, he]
      exact ⟨hd, .bad .nil ha hc hs hm nofun⟩

/-- The conversation of a single question. -/
def Replied (command : Command) (events : List (Event Bus)) (ending : Option Stop) : Prop :=
  (∀ event ∈ events, Granted event) →
    Bracketed events ∧ ∃ asked, command? asked = some command ∧
      ((transactions events = [asked] ∧ ending = some .stalled) ∨
        ∃ read answer, transactions events = [asked, read] ∧ status? read = some answer ∧
          ((answer ∈ allowed command ∧ ending = none) ∨
            (answer ∉ allowed command ∧
              ending = some (.error (.unexpectedStatus command (.ofByte answer))))))

theorem replied_question {question : Dialogue Bus ε Status} {next : Status → Dialogue Bus ε α}
    (hq : Learning view command question)
    (hn : ∀ answer ∈ allowed command, Concludes view Quiet (next (.ofByte answer)))
    (hb : ∀ answer, answer ∉ allowed command →
      Concludes view (Reported command answer) (next (.ofByte answer))) :
    Concludes view (Replied command) (question >>= next) := by
  intro events result ht hg
  obtain ⟨asked, ha, ⟨hd, hT, he⟩ | ⟨read, answer, before, after, rfl, hd, hT, hs, -, hl⟩⟩ :=
    hq.transcript_bind ht hg
  · exact ⟨hd, asked, ha, .inl ⟨hT, he⟩⟩
  · by_cases hm : answer ∈ allowed command
    · obtain ⟨rfl, he⟩ := hn answer hm _ _ hl
      rw [List.append_nil]
      exact ⟨hd, asked, ha, .inr ⟨read, answer, hT, hs, .inl ⟨hm, he⟩⟩⟩
    · obtain ⟨rfl, he⟩ := hb answer hm _ _ hl
      rw [List.append_nil]
      exact ⟨hd, asked, ha, .inr ⟨read, answer, hT, hs, .inr ⟨hm, he⟩⟩⟩

theorem Replied.verdict {events : List (Event Bus)} {ending : Option Stop}
    (h : Replied command events ending) (hc : allowed command ≠ []) :
    Verdict [] [] events ending := by
  intro hg
  obtain ⟨hd, asked, ha, ⟨hT, rfl⟩ | ⟨read, answer, hT, hs, ⟨hm, rfl⟩ | ⟨hm, rfl⟩⟩⟩ := h hg
  · rw [hT]
    exact ⟨hd, .stopped (.plain (status?_of_allowed ha hc) .nil) True.intro⟩
  · rw [hT]
    exact ⟨hd, .passed (.status ha hs hm .nil) List.drop_nil⟩
  · rw [hT]
    exact ⟨hd, .bad .nil ha hc hs hm nofun⟩

end Learning

/-! ## Chunks -/

/-- Without a failed call, a transaction that moves a chunk exchanges bytes only and ends with a
value, or refuses the chunk. -/
theorem Chunk.granted {opcode : UInt8} {inside : List (Event Bus)} {ending : Option Stop}
    (h : Chunk opcode inside ending) (hg : ∀ event ∈ inside, Granted event) :
    (∀ event ∈ inside, Inner event) ∧
      (∃ bytes, (inside.filterMap exchanged?).map Prod.fst = opcode :: bytes) ∧
      ∀ stop, ending = some stop → Innocent stop := by
  cases h with
  | unasked error =>
    exact (not_granted rfl (hg ⟨.exchange opcode, .error error⟩ (by simp))).elim
  | unannounced reply error =>
    exact (not_granted rfl (hg ⟨.exchange 0x00, .error error⟩ (by simp))).elim
  | announced reply hm =>
    rw [List.forall_mem_cons, List.forall_mem_cons]
    cases hm with
    | whole hi => exact ⟨⟨True.intro, True.intro, fun e h => (hi e h).2⟩, ⟨_, rfl⟩, nofun⟩
    | refused byte error =>
      exact (not_granted rfl (hg ⟨.exchange byte, .error error⟩ (by simp))).elim
    | overrun =>
      refine ⟨⟨True.intro, True.intro, by simp⟩, ⟨_, rfl⟩, ?_⟩
      rintro _ ⟨⟩
      exact True.intro

/-- A chunk is moved without a status. -/
theorem Enclosing.verdict {command : Command} {events : List (Event Bus)} {ending : Option Stop}
    (h : Enclosing (Chunk command.opcode) events ending) (hc : command ≠ .status) :
    Verdict [] [] events ending := by
  intro hg
  have hb {inside : List (Event Bus)} {ending : Option Stop}
      (hp : Chunk command.opcode inside ending) (hi : ∀ event ∈ inside, Granted event) :
      Bracketed (enclosed inside) ∧ Smooth (transactions (enclosed inside)) := by
    obtain ⟨hn, ⟨bytes, hs⟩, -⟩ := hp.granted hi
    rw [transactions_enclosed hn]
    exact ⟨bracketed_enclosed hn, .plain (status?_of_command (command?_of_sent hs) hc) .nil⟩
  cases h with
  | refused error => exact (not_granted rfl (hg ⟨.begin, .error error⟩ (by simp))).elim
  | completed hp =>
    obtain ⟨hi, -⟩ := List.forall_mem_append.1 (List.forall_mem_cons.1 hg).2
    obtain ⟨hd, hs⟩ := hb hp hi
    exact ⟨hd, .passed hs List.drop_nil⟩
  | unclosed error => exact (not_granted rfl (hg ⟨.finish, .error error⟩ (by simp))).elim
  | abandoned reply hp =>
    obtain ⟨hi, hf⟩ := List.forall_mem_append.1 (List.forall_mem_cons.1 hg).2
    obtain rfl : reply = .ok () := hf _ List.mem_cons_self
    obtain ⟨hd, hs⟩ := hb hp hi
    exact ⟨hd, .stopped hs ((hp.granted hi).2.2 _ rfl)⟩

end DiskBridge.Bus
