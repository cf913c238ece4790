import DiskBridge.Drive.BringUp
import DiskBridge.Proofs.ChipTransactions
import DiskBridge.Proofs.GrantedCalls

/-!
# Bring-up follows its script

On any device whose calls do not fail, a bring-up goes through the steps of a fixed script. Some of
them have the chip answer, and the first answer that is not the expected one ends the bring-up with
an error, before a byte of the next step is sent.

1. `Says` gives the conversations of a step, `Follows` those of a script with the way they end.
2. What follows a script is the beginning of a conversation that goes through all of it
   (`Follows.exists_whole`), and its answers tell how it ended (`Follows.ended`).
3. Each operation of the bring-up keeps to its steps (`keeps_setUsbMode`, `keeps_waitForConnect`,
   `keeps_simpleCommand`), and operations in sequence keep to their steps in sequence
   (`Keeps.bind`).
4. A chip without a disk never raises the interrupt (`outcome_awaitInterrupt_bare`), so that the
   first wait is as far as a bring-up comes.

`bringUp_follows_script` states it for every device, and for a chip without a disk which
transactions that leaves.
-/

namespace DiskBridge

open Dialogue Bus

/-- A byte stands for a documented status only if it is the byte of it. -/
theorem Status.ofByte_eq_iff {status : Status} (h : ofByte status.byte = status) {byte : UInt8} :
    ofByte byte = status ↔ byte = status.byte := by
  constructor
  · rintro rfl
    exact (byte_ofByte byte).symm
  · rintro rfl
    exact h

/-! ## The script -/

namespace Script

/-- What a drive does in one step. -/
inductive Step where
  | settle (span : Duration)
  /-- Sends bytes in a transaction. -/
  | send (bytes : List UInt8)
  /-- Switches the USB mode and reads the answer in the same transaction. -/
  | mode (byte : UInt8)
  /-- Waits for the report of a connection. -/
  | connect
  /-- Sends a command of one byte and learns its status. -/
  | command (name : Command) (byte : UInt8)

/-- The command that a step has answered, and the byte that is expected. -/
def Step.questions : Step → List (Command × UInt8)
  | .mode _ => [(.usbMode, 0x51)]
  | .command name _ => [(name, 0x14)]
  | .settle _ | .send _ | .connect => []

/-- The steps of a bring-up. -/
def bringUp (config : Config) : List Step :=
  [.settle config.beforeReset, .send [0x05], .settle config.afterReset, .send [0x0b, 0x16, 0x90],
    .mode 0x05, .connect, .mode 0x07, .mode 0x06, .connect, .command .diskConnect 0x30,
    .command .diskMount 0x31]

/-! ## Conversations -/

/-- The pending status is read. -/
inductive StatusRead (answer : UInt8) : List (Event Bus) → Prop
  | intro {body : List (Event Bus)} : Sent [0x22] body →
      StatusRead answer (enclosed (body ++ [⟨.exchange 0x00, .ok answer⟩]))

/-- The interrupt is polled in vain some times. -/
def vain (polls : Nat) : List (Event Bus) := List.replicate polls ⟨.poll, .ok false⟩

/-- A status is learnt, in interrupt mode once the interrupt is raised. -/
inductive Learnt (answer : UInt8) : StatusMode → List (Event Bus) → Prop
  | poll {events : List (Event Bus)} : StatusRead answer events → Learnt answer .poll events
  | interrupt (polls : Nat) {events : List (Event Bus)} : StatusRead answer events →
      Learnt answer .interrupt (vain polls ++ ⟨.poll, .ok true⟩ :: events)

/-- Statuses are learnt up to the first that reports a connection. -/
inductive Connects : List (Event Bus) → Prop
  | connected {events : List (Event Bus)} : Learnt 0x15 .interrupt events → Connects events
  | ignored {answer : UInt8} {before after : List (Event Bus)} :
      Learnt answer .interrupt before → answer ≠ 0x15 → Connects after → Connects (before ++ after)

/-- The conversations of a step, with the answer to its question. -/
inductive Says (config : Config) : Step → List UInt8 → List (Event Bus) → Prop
  | settle (span : Duration) : Says config (.settle span) [] [⟨.pause span, ()⟩]
  | send {bytes : List UInt8} {body : List (Event Bus)} :
      Sent bytes body → Says config (.send bytes) [] (enclosed body)
  | mode {byte answer : UInt8} {body : List (Event Bus)} : Sent [0x15, byte] body →
      Says config (.mode byte) [answer]
        (enclosed (body ++ [⟨.pause config.modeSwitch, ()⟩, ⟨.exchange 0x00, .ok answer⟩]))
  | connect {events : List (Event Bus)} : Connects events → Says config .connect [] events
  | command {name : Command} {byte answer : UInt8} {body events : List (Event Bus)} :
      Sent [byte] body → Learnt answer config.statusMode events →
        Says config (.command name byte) [answer] (enclosed body ++ events)

/-- The conversations that go through all steps, whatever the answers. -/
inductive Whole (config : Config) : List Step → List UInt8 → List (Event Bus) → Prop
  | nil : Whole config [] [] []
  | cons {step : Step} {steps : List Step} {answers more : List UInt8}
      {part word : List (Event Bus)} :
      Says config step answers part → Whole config steps more word →
        Whole config (step :: steps) (answers ++ more) (part ++ word)

/-- So many statuses are learnt of which none reports a connection. -/
inductive Ignored : Nat → List (Event Bus) → Prop
  | zero : Ignored 0 []
  | succ {rounds : Nat} {answer : UInt8} {before after : List (Event Bus)} :
      Learnt answer .interrupt before → answer ≠ 0x15 → Ignored rounds after →
        Ignored (rounds + 1) (before ++ after)

/-- The beginnings of a step at which the drive loses its patience: so many polls in vain, or so
many statuses that report no connection. -/
inductive Stalls (drive : Drive) : Step → List (Event Bus) → Prop
  | connect {rounds : Nat} {events : List (Event Bus)} : Ignored rounds events →
      rounds < drive.patience → Stalls drive .connect (events ++ vain drive.patience)
  | rounds {events : List (Event Bus)} : Ignored drive.patience events →
      Stalls drive .connect events
  | command {name : Command} {byte : UInt8} {body : List (Event Bus)} : Sent [byte] body →
      drive.config.statusMode = .interrupt →
        Stalls drive (.command name byte) (enclosed body ++ vain drive.patience)

/-- The conversations that keep to a script, with the answers that were given and the result. They
go on to the next step only if the answer is the expected one, and end early where it is not or
where a wait outlasts the patience of the drive. -/
inductive Follows (drive : Drive) :
    List Step → List UInt8 → List (Event Bus) → Except Stop Unit → Prop
  | finished : Follows drive [] [] [] (.ok ())
  | step {step : Step} {steps : List Step} {answers : List UInt8} {part events : List (Event Bus)}
      {result : Except Stop Unit} :
      Says drive.config step (step.questions.map Prod.snd) part →
        Follows drive steps answers events result →
        Follows drive (step :: steps) (step.questions.map Prod.snd ++ answers) (part ++ events)
          result
  | mismatch {step : Step} {steps : List Step} {command : Command} {expected answer : UInt8}
      {part : List (Event Bus)} :
      step.questions = [(command, expected)] → Says drive.config step [answer] part →
        answer ≠ expected →
        Follows drive (step :: steps) [answer] part
          (.error (.error (.unexpectedStatus command (.ofByte answer))))
  | stalled {step : Step} {steps : List Step} {part : List (Event Bus)} :
      Stalls drive step part → Follows drive (step :: steps) [] part (.error .stalled)

section Follows

variable {drive : Drive} {steps : List Step} {answers : List UInt8} {events : List (Event Bus)}
  {result : Except Stop Unit}

/-- One script after another. -/
theorem Follows.append {others : List Step} {more : List UInt8} {after : List (Event Bus)}
    (hf : Follows drive steps answers events (.ok ()))
    (hl : Follows drive others more after result) :
    Follows drive (steps ++ others) (answers ++ more) (events ++ after) result := by
  generalize hr : (.ok () : Except Stop Unit) = ending at hf
  induction hf with
  | finished => exact hl
  | step hs _ ih =>
    rw [List.append_assoc, List.append_assoc]
    exact .step hs (ih hr)
  | mismatch | stalled => cases hr

/-- A script that ended early does not reach what stands after it. -/
theorem Follows.extend {stop : Stop} (h : Follows drive steps answers events (.error stop))
    (others : List Step) : Follows drive (steps ++ others) answers events (.error stop) := by
  generalize hr : (.error stop : Except Stop Unit) = ending at h ⊢
  induction h with
  | finished => cases hr
  | step hs _ ih => exact .step hs (ih hr)
  | mismatch hq hs hn => exact .mismatch hq hs hn
  | stalled hs => exact .stalled hs

theorem exists_statusRead (answer : UInt8) : ∃ events, StatusRead answer events := by
  obtain ⟨body, h⟩ := exists_sent [0x22]
  exact ⟨_, .intro h⟩

theorem exists_learnt (answer : UInt8) (mode : StatusMode) :
    ∃ events, Learnt answer mode events := by
  obtain ⟨events, h⟩ := exists_statusRead answer
  cases mode with
  | interrupt => exact ⟨_, .interrupt 0 h⟩
  | poll => exact ⟨_, .poll h⟩

theorem exists_says (config : Config) (step : Step) :
    ∃ answers part, Says config step answers part := by
  cases step with
  | settle span => exact ⟨[], _, .settle span⟩
  | send bytes =>
    obtain ⟨body, h⟩ := exists_sent bytes
    exact ⟨[], _, .send h⟩
  | mode byte =>
    obtain ⟨body, h⟩ := exists_sent [0x15, byte]
    exact ⟨[0x51], _, .mode h⟩
  | connect =>
    obtain ⟨events, h⟩ := exists_learnt 0x15 .interrupt
    exact ⟨[], _, .connect (.connected h)⟩
  | command name byte =>
    obtain ⟨body, hs⟩ := exists_sent [byte]
    obtain ⟨events, hl⟩ := exists_learnt 0x14 config.statusMode
    exact ⟨[0x14], _, .command hs hl⟩

theorem Ignored.connects {rounds : Nat} {before after : List (Event Bus)}
    (hi : Ignored rounds before) (hc : Connects after) : Connects (before ++ after) := by
  induction hi with
  | zero => exact hc
  | succ hl hn _ ih =>
    rw [List.append_assoc]
    exact .ignored hl hn ih

/-- Where the drive loses its patience, the step might have gone on. -/
theorem Stalls.exists_says {step : Step} {part : List (Event Bus)} (h : Stalls drive step part) :
    ∃ answers missing, Says drive.config step answers (part ++ missing) := by
  obtain ⟨status, hr⟩ := exists_statusRead 0x15
  have hl := Learnt.interrupt drive.patience hr
  cases h with
  | connect hi =>
    refine ⟨[], ⟨.poll, .ok true⟩ :: status, .connect ?_⟩
    rw [List.append_assoc]
    exact hi.connects (.connected hl)
  | rounds hi => exact ⟨[], _, .connect (hi.connects (.connected hl))⟩
  | command hs hm =>
    refine ⟨[0x15], ⟨.poll, .ok true⟩ :: status, ?_⟩
    rw [List.append_assoc]
    exact .command hs (by rwa [hm])

theorem exists_whole (config : Config) (steps : List Step) :
    ∃ answers word, Whole config steps answers word := by
  induction steps with
  | nil => exact ⟨[], [], .nil⟩
  | cons step steps ih =>
    obtain ⟨answers, part, hs⟩ := exists_says config step
    obtain ⟨more, word, hw⟩ := ih
    exact ⟨_, _, .cons hs hw⟩

/-- What follows a script is the beginning of a conversation that goes through all of it. -/
theorem Follows.exists_whole (h : Follows drive steps answers events result) :
    ∃ all word, Whole drive.config steps all word ∧ events <+: word := by
  induction h with
  | finished => exact ⟨[], [], .nil, List.prefix_rfl⟩
  | step hs _ ih =>
    obtain ⟨all, word, hw, hp⟩ := ih
    exact ⟨_, _, .cons hs hw, (List.prefix_append_right_inj _).2 hp⟩
  | @mismatch step steps _ _ _ part _ hs _ =>
    obtain ⟨more, word, hw⟩ := Script.exists_whole drive.config steps
    exact ⟨_, _, .cons hs hw, List.prefix_append part word⟩
  | @stalled step steps part hs =>
    obtain ⟨answers, missing, hs⟩ := hs.exists_says
    obtain ⟨more, word, hw⟩ := Script.exists_whole drive.config steps
    refine ⟨_, _, .cons hs hw, ?_⟩
    rw [List.append_assoc]
    exact List.prefix_append part _

/-- A script that was finished was gone through with the expected answers. -/
theorem Follows.whole_of_ok (h : Follows drive steps answers events (.ok ())) :
    Whole drive.config steps answers events ∧
      answers = (steps.flatMap Step.questions).map Prod.snd := by
  generalize hr : (.ok () : Except Stop Unit) = ending at h
  induction h with
  | finished => exact ⟨.nil, rfl⟩
  | step hs _ ih =>
    obtain ⟨hw, ha⟩ := ih hr
    exact ⟨.cons hs hw, by rw [List.flatMap_cons, List.map_append, ← ha]⟩
  | mismatch | stalled => cases hr

/-- An error names the first question whose answer was not the expected one. The script was gone
through up to that question. -/
theorem Follows.whole_of_error {error : Error}
    (h : Follows drive steps answers events (.error (.error error))) :
    ∃ taken before command expected answer,
      taken <+: steps ∧ Whole drive.config taken answers events ∧
      taken.flatMap Step.questions = before ++ [(command, expected)] ∧
      answers = before.map Prod.snd ++ [answer] ∧ answer ≠ expected ∧
      error = .unexpectedStatus command (.ofByte answer) := by
  generalize hr : (.error (.error error) : Except Stop Unit) = ending at h
  induction h with
  | finished | stalled => cases hr
  | @step step _ _ _ _ _ hs _ ih =>
    obtain ⟨taken, before, command, expected, answer, hp, hw, hq, ha, hn, he⟩ := ih hr
    refine ⟨step :: taken, step.questions ++ before, command, expected, answer,
      (List.prefix_cons_inj step).2 hp, .cons hs hw, ?_, ?_, hn, he⟩
    · rw [List.flatMap_cons, hq, List.append_assoc]
    · rw [ha, List.map_append, List.append_assoc]
  | @mismatch step steps command expected answer part hq hs hn =>
    cases hr
    have hw : Whole drive.config [step] ([answer] ++ []) (part ++ []) := .cons hs .nil
    rw [List.append_nil, List.append_nil] at hw
    refine ⟨[step], [], command, expected, answer, ⟨steps, rfl⟩, hw, ?_, rfl, hn, rfl⟩
    rw [List.flatMap_singleton, hq]
    rfl

/-- How a script ended that was not cut short by a wait. -/
theorem Follows.ended (h : Follows drive steps answers events result)
    (hn : result ≠ .error .stalled) :
    (result = .ok () ↔ answers = (steps.flatMap Step.questions).map Prod.snd) ∧
    (result = .ok () → Whole drive.config steps answers events) ∧
    (result ≠ .ok () → ∃ taken before command expected answer,
      taken <+: steps ∧ Whole drive.config taken answers events ∧
      taken.flatMap Step.questions = before ++ [(command, expected)] ∧
      answers = before.map Prod.snd ++ [answer] ∧ answer ≠ expected ∧
      result = .error (.error (.unexpectedStatus command (.ofByte answer)))) := by
  match result with
  | .ok () =>
    obtain ⟨hw, ha⟩ := h.whole_of_ok
    exact ⟨iff_of_true rfl ha, fun _ => hw, fun hr => (hr rfl).elim⟩
  | .error .stalled => exact (hn rfl).elim
  | .error (.error error) =>
    obtain ⟨taken, before, command, expected, answer, hp, hw, hq, ha, hd, rfl⟩ := h.whole_of_error
    refine ⟨iff_of_false nofun fun he => ?_, nofun, fun _ => ⟨taken, before, command, expected,
      answer, hp, hw, hq, ha, hd, rfl⟩⟩
    obtain ⟨left, rfl⟩ := hp
    rw [ha, List.flatMap_append, hq] at he
    simp [hd] at he

end Follows

/-! ## The waits of a drive -/

/-- How learning a status ends: with one, or without the interrupt. -/
inductive Learns (drive : Drive) (mode : StatusMode) : Except Stop Status → List (Event Bus) → Prop
  | learnt {answer : UInt8} {events : List (Event Bus)} :
      Learnt answer mode events → Learns drive mode (.ok (.ofByte answer)) events
  | stalled : mode = .interrupt → Learns drive mode (.error .stalled) (vain drive.patience)

/-- How a wait for a connection ends: with its report, without the interrupt, or with so many other
statuses. -/
inductive Waits (drive : Drive) : Nat → Except Stop Unit → List (Event Bus) → Prop
  | connected {rounds : Nat} {events : List (Event Bus)} :
      Connects events → Waits drive rounds (.ok ()) events
  | stalled {ignored rounds : Nat} {events : List (Event Bus)} : Ignored ignored events →
      ignored < rounds → Waits drive rounds (.error .stalled) (events ++ vain drive.patience)
  | ended {rounds : Nat} {events : List (Event Bus)} :
      Ignored rounds events → Waits drive rounds (.error .stalled) events

section Waits

theorem yields_pollStatus :
    Yields Drive.pollStatus fun status events =>
      ∃ answer, status = .ofByte answer ∧ StatusRead answer events := by
  have hb : Yields (Bus.send [Command.status.opcode] >>= fun _ => Bus.receive) fun answer inner =>
      ∃ body, Sent [0x22] body ∧ inner = body ++ [⟨.exchange 0x00, .ok answer⟩] := by
    refine (yields_send _).bind_value fun _ body hs => (yields_exchange _).imp ?_
    rintro answer _ rfl
    exact ⟨body, hs, rfl⟩
  refine speaks_say_bind ((yields_transaction hb).bind_value ?_)
  rintro answer _ ⟨_, rfl, body, hs, rfl⟩
  refine speaks_say_bind (speaks_done ⟨_, rfl, answer, rfl, ?_⟩)
  rw [List.append_nil]
  exact .intro hs

/-- The interrupt is polled in vain until it is raised or the patience is at an end. -/
theorem speaks_awaitInterrupt (patience : Nat) :
    Speaks (Drive.awaitInterrupt patience) fun result events =>
      (result = .ok () ∧ ∃ polls, events = vain polls ++ [⟨.poll, .ok true⟩]) ∨
        (result = .error .stalled ∧ events = vain patience) := by
  induction patience with
  | zero => exact speaks_failed (.inr ⟨rfl, rfl⟩)
  | succ patience ih =>
    refine yields_poll.bind_value ?_
    rintro raised _ rfl
    cases raised with
    | true => exact speaks_done (.inl ⟨rfl, 0, rfl⟩)
    | false =>
      refine ih.imp ?_
      rintro result events (⟨hr, polls, rfl⟩ | ⟨hr, rfl⟩)
      · exact .inl ⟨hr, polls + 1, rfl⟩
      · exact .inr ⟨hr, rfl⟩

variable (drive : Drive)

theorem speaks_waitStatus : Speaks drive.waitStatus (Learns drive .interrupt) := by
  refine speaks_say_bind ((speaks_awaitInterrupt _).bind ?_ ?_)
  · rintro cause _ (⟨hr, -⟩ | ⟨hr, rfl⟩)
    · cases hr
    · cases hr
      exact .stalled rfl
  · rintro _ _ (⟨-, polls, rfl⟩ | ⟨hr, -⟩)
    · refine Speaks.imp yields_pollStatus ?_
      rintro _ events ⟨_, rfl, answer, rfl, h⟩
      rw [List.append_assoc]
      exact .learnt (.interrupt polls h)
    · cases hr

theorem speaks_status : Speaks drive.status (Learns drive drive.config.statusMode) := by
  unfold Drive.status
  split
  · next hm =>
    rw [hm]
    exact speaks_waitStatus drive
  · next hm =>
    rw [hm]
    refine Speaks.imp yields_pollStatus ?_
    rintro _ events ⟨_, rfl, answer, rfl, h⟩
    exact .learnt (.poll h)

/-- A status other than a connection leaves the wait where it was, with one round less. -/
theorem Waits.ignored {drive : Drive} {rounds : Nat} {answer : UInt8}
    {before after : List (Event Bus)} {result : Except Stop Unit}
    (hl : Learnt answer .interrupt before) (hn : answer ≠ 0x15)
    (hw : Waits drive rounds result after) :
    Waits drive (rounds + 1) result (before ++ after) := by
  cases hw with
  | connected hc => exact .connected (.ignored hl hn hc)
  | stalled hi hr =>
    rw [← List.append_assoc]
    exact .stalled (.succ hl hn hi) (Nat.succ_lt_succ hr)
  | ended hi => exact .ended (.succ hl hn hi)

theorem speaks_awaitConnect (rounds : Nat) :
    Speaks (drive.awaitConnect rounds) (Waits drive rounds) := by
  induction rounds with
  | zero => exact speaks_failed (.ended .zero)
  | succ rounds ih =>
    refine (speaks_waitStatus drive).bind ?_ ?_
    · intro cause events hl
      obtain _ | _ := hl
      exact .stalled .zero rounds.succ_pos
    · intro status before hl
      obtain hl | _ := hl
      split
      · next ha =>
        obtain rfl := (Status.ofByte_eq_iff rfl).1 ha
        refine speaks_say ?_
        rw [List.append_nil]
        exact .connected (.connected hl)
      · next ha =>
        refine speaks_say_bind (ih.imp fun result after hw => hw.ignored hl ?_)
        exact fun h => ha ((Status.ofByte_eq_iff rfl).2 h)

end Waits

/-! ## The operations of a bring-up -/

/-- The conversations of an operation, if no call fails, keep to a script. -/
def Keeps (drive : Drive) (operation : Operation Unit) (steps : List Step) : Prop :=
  Speaks operation fun result events => ∃ answers, Follows drive steps answers events result

section Keeps

variable {drive : Drive}

/-- Operations one after the other keep to one script after the other. -/
theorem Keeps.bind {first : Operation Unit} {next : Unit → Operation Unit}
    {steps others : List Step} (hf : Keeps drive first steps) (hn : Keeps drive (next ()) others) :
    Keeps drive (first >>= next) (steps ++ others) := by
  refine Speaks.bind hf ?_ ?_
  · rintro cause events ⟨answers, h⟩
    exact ⟨answers, h.extend others⟩
  · rintro _ before ⟨answers, h⟩
    refine Speaks.imp hn ?_
    rintro result after ⟨more, hl⟩
    exact ⟨answers ++ more, h.append hl⟩

theorem keeps_say (level : Level) (text : String) : Keeps drive (say level text) [] :=
  speaks_say ⟨[], .finished⟩

/-- A step without a question. -/
theorem follows_single {step : Step} {part : List (Event Bus)} (hq : step.questions = [])
    (hs : Says drive.config step [] part) : Follows drive [step] [] part (.ok ()) := by
  have h : Follows drive [step] _ (part ++ []) (.ok ()) := .step (by rwa [hq]) .finished
  simpa only [hq, List.map_nil, List.append_nil] using h

theorem keeps_pause (span : Duration) : Keeps drive (Bus.pause span) [.settle span] := by
  refine Speaks.imp (yields_pause span) ?_
  rintro _ _ ⟨_, rfl, rfl⟩
  exact ⟨[], follows_single rfl (.settle span)⟩

theorem yields_sendCommand (command : Command) (arguments : List UInt8) :
    Yields (Drive.sendCommand command arguments) fun _ events =>
      ∃ body, events = enclosed body ∧ Sent (command.opcode :: arguments) body :=
  speaks_say_bind (yields_transaction (yields_send _))

theorem keeps_sendCommand (command : Command) (arguments : List UInt8) :
    Keeps drive (Drive.sendCommand command arguments) [.send (command.opcode :: arguments)] := by
  refine Speaks.imp (yields_sendCommand command arguments) ?_
  rintro _ _ ⟨_, rfl, body, rfl, hs⟩
  exact ⟨[], follows_single rfl (.send hs)⟩

/-- A question is answered, and the answer compared with the expected one. -/
theorem speaks_expectStatus {step : Step} {command : Command} {answer : UInt8} {expected : Status}
    {part : List (Event Bus)} (hq : step.questions = [(command, expected.byte)])
    (he : Status.ofByte expected.byte = expected) (hs : Says drive.config step [answer] part) :
    Speaks (Drive.expectStatus command (.ofByte answer) expected) fun result events =>
      ∃ answers, Follows drive [step] answers (part ++ events) result := by
  unfold Drive.expectStatus
  split
  · next ha =>
    obtain rfl := (Status.ofByte_eq_iff he).1 ha
    refine speaks_done ⟨_, .step ?_ .finished⟩
    rwa [hq]
  · next ha =>
    refine speaks_say_bind (speaks_failed ⟨[answer], ?_⟩)
    rw [List.append_nil]
    exact .mismatch hq hs fun h => ha ((Status.ofByte_eq_iff he).2 h)

variable (drive)

theorem keeps_setUsbMode (mode : UsbMode) :
    Keeps drive (drive.setUsbMode mode) [.mode mode.byte] := by
  let asked := Bus.send [Command.usbMode.opcode, mode.byte] >>= fun _ =>
    Bus.pause drive.config.modeSwitch >>= fun _ => Bus.receive
  have hb : Yields asked fun answer inner => ∃ body, Sent [0x15, mode.byte] body ∧
      inner = body ++ [⟨.pause drive.config.modeSwitch, ()⟩, ⟨.exchange 0x00, .ok answer⟩] := by
    refine (yields_send _).bind_value fun _ body hs => (yields_pause _).bind_value ?_
    rintro _ _ rfl
    refine (yields_exchange _).imp ?_
    rintro answer _ rfl
    exact ⟨body, hs, rfl⟩
  refine speaks_say_bind ((yields_transaction hb).bind_value ?_)
  rintro answer _ ⟨_, rfl, body, hs, rfl⟩
  refine (speaks_expectStatus rfl rfl (.mode hs)).bind (fun _ _ h => h) fun _ before h => ?_
  refine speaks_say ?_
  rwa [List.append_nil]

/-- A command is sent and its status learnt. -/
theorem speaks_learn (command : Command) (arguments : List UInt8) :
    Speaks (Drive.sendCommand command arguments >>= fun _ => drive.status) fun result events =>
      ∃ body rest, Sent (command.opcode :: arguments) body ∧ events = enclosed body ++ rest ∧
        Learns drive drive.config.statusMode result rest := by
  refine (yields_sendCommand command arguments).bind_value ?_
  rintro _ _ ⟨body, rfl, hs⟩
  exact (speaks_status drive).imp fun result rest hl => ⟨body, rest, hs, rfl, hl⟩

theorem speaks_commandStatus (command : Command) (arguments : List UInt8) :
    Speaks (drive.commandStatus command arguments) fun result events =>
      ∃ body rest, Sent (command.opcode :: arguments) body ∧ events = enclosed body ++ rest ∧
        Learns drive drive.config.statusMode result rest := by
  rw [Drive.commandStatus, ← bind_bind]
  refine (speaks_learn drive command arguments).bind (fun _ _ h => h) fun status before h => ?_
  refine speaks_say_bind (speaks_done ?_)
  rwa [List.append_nil]

theorem keeps_simpleCommand (command : Command) :
    Keeps drive (drive.simpleCommand command []) [.command command command.opcode] := by
  refine (speaks_commandStatus drive command []).bind ?_ ?_
  · rintro _ _ ⟨body, rest, hs, rfl, _ | hm⟩
    exact ⟨[], .stalled (.command hs hm)⟩
  · rintro _ _ ⟨body, rest, hs, rfl, hl | _⟩
    exact speaks_expectStatus rfl rfl (.command hs hl)

theorem keeps_waitForConnect : Keeps drive drive.waitForConnect [.connect] := by
  refine speaks_say_bind ((speaks_awaitConnect drive _).imp ?_)
  rintro _ events (hc | ⟨hi, hr⟩ | hi)
  · exact ⟨[], follows_single rfl (.connect hc)⟩
  · exact ⟨[], .stalled (.connect hi hr)⟩
  · exact ⟨[], .stalled (.rounds hi)⟩

theorem keeps_initialise :
    Keeps drive drive.initialise
      [.settle drive.config.beforeReset, .send [0x05], .settle drive.config.afterReset,
        .send [0x0b, 0x16, 0x90], .mode 0x05] := by
  have hr : Keeps drive drive.reset
      [.settle drive.config.beforeReset, .send [0x05], .settle drive.config.afterReset] :=
    (keeps_say _ _).bind ((keeps_pause _).bind ((keeps_sendCommand _ _).bind
      ((keeps_pause _).bind (keeps_say _ _))))
  have hi : Keeps drive Drive.routeInterrupt [.send [0x0b, 0x16, 0x90]] :=
    (keeps_say _ _).bind (keeps_sendCommand _ _)
  exact (keeps_say _ _).bind (hr.bind (hi.bind (keeps_setUsbMode drive .quiet)))

theorem keeps_connectDisk :
    Keeps drive drive.connectDisk
      [.connect, .mode 0x07, .mode 0x06, .connect, .command .diskConnect 0x30,
        .command .diskMount 0x31] :=
  (keeps_say _ _).bind ((keeps_waitForConnect drive).bind ((keeps_setUsbMode drive .active).bind
    ((keeps_setUsbMode drive .busReset).bind ((keeps_waitForConnect drive).bind
      ((keeps_simpleCommand drive .diskConnect).bind ((keeps_say _ _).bind
        (keeps_simpleCommand drive .diskMount)))))))

theorem keeps_bringUp : Keeps drive drive.bringUp (bringUp drive.config) :=
  (keeps_say _ _).bind ((keeps_initialise drive).bind ((keeps_connectDisk drive).bind
    (keeps_say _ _)))

end Keeps

end Script

/-! ## A chip without a disk -/

namespace Chip

/-- The chip has no disk and nothing to report, after the given transactions. -/
structure Bare (chip : Chip) (transactions : List (List UInt8)) : Prop where
  unplugged : chip.attached = false
  idle : chip.pending = none
  record : chip.transactions = transactions

/-- A reset leaves nothing to report. -/
theorem bare_reset {chip : Chip} (h : chip.attached = false) :
    Bare (chip.carryOut [Command.reset.opcode]) ([0x05] :: chip.transactions) := by
  rw [carryOut_eq, complete, List.head?_cons, Option.bind_some, Command.ofOpcode?_opcode]
  exact ⟨h, rfl, rfl⟩

theorem Bare.route {chip : Chip} {transactions : List (List UInt8)} (h : Bare chip transactions) :
    Bare (chip.carryOut [Command.routeInterrupt.opcode, Command.routeSelector, Command.routeEnable])
      ([0x0b, 0x16, 0x90] :: transactions) := by
  rw [carryOut_eq, complete, List.head?_cons, Option.bind_some, Command.ofOpcode?_opcode,
    ← h.record]
  exact ⟨h.unplugged, h.idle, rfl⟩

theorem outcome_expectStatus (command : Command) (status expected : Status) (chip : Chip) :
    ∃ result,
      (Drive.expectStatus command status expected).outcome device chip = (result, chip) := by
  unfold Drive.expectStatus
  split
  · exact ⟨_, rfl⟩
  · exact ⟨_, rfl⟩

/-- The chip answers a mode while it is sent. -/
theorem outcome_switch (drive : Drive) (chip : Chip) (mode : UsbMode) :
    let asked := (chip.addressed [Command.usbMode.opcode, mode.byte]).switchMode mode.byte
    (Bus.transaction (Bus.send [Command.usbMode.opcode, mode.byte] >>= fun _ =>
        Bus.pause drive.config.modeSwitch >>= fun _ => Bus.receive)).outcome device chip =
      (.ok (asked.responses.head?.getD 0), (asked.heard [Command.filler]).finish) := by
  intro asked
  have hz : (chip.addressed [Command.usbMode.opcode]).react Command.usbMode.opcode 0
      Command.usbMode.opcode = chip.addressed [Command.usbMode.opcode] := by
    unfold react
    rw [Command.ofOpcode?_opcode]
    rfl
  have hs : (chip.addressed [Command.usbMode.opcode, mode.byte]).react Command.usbMode.opcode 1
      mode.byte = asked := by
    unfold react
    rw [Command.ofOpcode?_opcode]
    rfl
  have ho := outcome_send_argument hz mode.byte
  rw [hs] at ho
  have hr : Bus.receive.outcome device asked =
      (.ok (asked.responses.head?.getD 0), asked.heard [Command.filler]) :=
    outcome_exchange_silent (silent_two Command.usbMode.opcode) asked rfl Command.filler rfl
      (Nat.le_refl 2)
  exact outcome_transaction ((outcome_bind_ok ho).trans hr)

section Bare

variable (drive : Drive) {chip : Chip} {transactions : List (List UInt8)}
  (h : Bare chip transactions)

include h

theorem outcome_setUsbMode (mode : UsbMode) :
    ∃ result last, (drive.setUsbMode mode).outcome device chip = (result, last) ∧
      Bare last ([0x15, mode.byte, 0x00] :: transactions) := by
  let asked := (chip.addressed [Command.usbMode.opcode, mode.byte]).switchMode mode.byte
  have hb : Bare (asked.heard [Command.filler]).finish
      ([0x15, mode.byte, 0x00] :: transactions) := by
    rw [← h.record]
    exact ⟨h.unplugged, h.idle, rfl⟩
  obtain ⟨result, hx⟩ := outcome_expectStatus .usbMode (.ofByte (asked.responses.head?.getD 0))
    .accepted (asked.heard [Command.filler]).finish
  rw [Drive.setUsbMode, outcome_say_bind, outcome_bind_ok (outcome_switch drive chip mode)]
  cases result with
  | ok value => exact ⟨_, _, outcome_bind_ok hx, hb⟩
  | error cause => exact ⟨_, _, outcome_bind_error hx, hb⟩

/-- Without a disk the interrupt is never raised. -/
theorem outcome_awaitInterrupt_bare (patience : Nat) :
    (Drive.awaitInterrupt patience).outcome device chip = (.error .stalled, chip) := by
  have hp : chip.poll = (false, chip) := by
    simp only [poll, h.unplugged, h.idle, Bool.and_false, Bool.false_eq_true, if_false,
      Option.isSome_none]
  induction patience with
  | zero => rfl
  | succ patience ih =>
    have ho : (Operation.ofBus Bus.poll).outcome device chip = (.ok false, chip) := by
      rw [Operation.ofBus, outcome_mapFailure, Bus.poll, outcome_ask]
      simp only [device, hp]
      rfl
    rw [Drive.awaitInterrupt, outcome_bind_ok ho]
    exact ih

theorem outcome_waitForConnect :
    drive.waitForConnect.outcome device chip = (.error .stalled, chip) := by
  have hw : drive.waitStatus.outcome device chip = (.error .stalled, chip) := by
    rw [Drive.waitStatus, outcome_say_bind,
      outcome_bind_error (outcome_awaitInterrupt_bare h drive.patience)]
  rw [Drive.waitForConnect, outcome_say_bind]
  cases drive.patience with
  | zero => rfl
  | succ rounds => exact outcome_bind_error hw

end Bare

/-- No call on the chip fails. -/
theorem granted_recorded {ε α : Type} (dialogue : Dialogue Bus ε α) (chip : Chip)
    (journal : Journal) :
    ∀ event ∈ (dialogue.run device.recorded (chip, []) journal).state.2.reverse, Granted event := by
  have hg (request : Bus.Call) (state : Chip × List (Event Bus)) :
      Granted ⟨request, (device.recorded request state).reply⟩ := by
    cases request with
    | begin | finish => rfl
    | exchange | poll => exact ⟨_, rfl⟩
    | pause => exact True.intro
  exact granted_of_answers hg (transcript_recorded device dialogue chip journal).2

/-- Without a disk a bring-up sends the first mode and nothing after it. -/
theorem outcome_bringUp (drive : Drive) {chip : Chip} (h : chip.attached = false) :
    ∃ result last, drive.bringUp.outcome device chip = (result, last) ∧
      Bare last ([0x15, 0x05, 0x00] :: [0x0b, 0x16, 0x90] :: [0x05] :: chip.transactions) := by
  have hb := bare_reset h
  have hr : drive.reset.outcome device chip = (.ok (), chip.carryOut [Command.reset.opcode]) :=
    outcome_bind_ok (outcome_sendCommand (quiet_of_unanswered (by decide)) chip [])
  have hq : Quiet Command.routeInterrupt.opcode := quiet_of_unanswered (by decide)
  have hi : Drive.routeInterrupt.outcome device (chip.carryOut [Command.reset.opcode]) = _ :=
    outcome_sendCommand hq _ [Command.routeSelector, Command.routeEnable]
  obtain ⟨result, last, hm, hl⟩ := outcome_setUsbMode drive hb.route .quiet
  have hn : drive.initialise.outcome device chip = (result, last) := by
    rw [Drive.initialise, outcome_say_bind, outcome_bind_ok hr, outcome_bind_ok hi, hm]
  rw [Drive.bringUp, outcome_say_bind]
  cases result with
  | error cause => exact ⟨_, last, outcome_bind_error hn, hl⟩
  | ok value =>
    have hc : drive.connectDisk.outcome device last = (.error .stalled, last) := by
      rw [Drive.connectDisk, outcome_say_bind, outcome_bind_error (outcome_waitForConnect drive hl)]
    rw [outcome_bind_ok hn]
    exact ⟨_, last, outcome_bind_error hc, hl⟩

end Chip

/-! ## Every bring-up -/

namespace Drive

open Script

/-- **The script of a bring-up.** On any device whose calls do not fail, what a bring-up does is the
beginning of a conversation along its script. Unless a wait outlasts its patience, it succeeds if
all answers are the expected ones, and otherwise has gone through the script up to the first that is
not and fails with the command and status of that one. On a chip without a disk it makes three
transactions, however long it waits. -/
theorem bringUp_follows_script (drive : Drive) :
    (∀ (σ : Type) (machine : Machine Bus σ) (state : σ) (journal : Journal),
      let ran := drive.bringUp.run machine.recorded (state, []) journal
      let events := ran.state.2.reverse
      (∀ event ∈ events, Granted event) →
        (∃ all word, Whole drive.config (Script.bringUp drive.config) all word ∧
          events <+: word) ∧
        ∃ answers, Follows drive (Script.bringUp drive.config) answers events ran.result ∧
          (ran.result ≠ .error .stalled →
            (ran.result = .ok () ↔ answers = [0x51, 0x51, 0x51, 0x14, 0x14]) ∧
            (ran.result = .ok () →
              Whole drive.config (Script.bringUp drive.config) answers events) ∧
            (ran.result ≠ .ok () → ∃ taken before command expected answer,
              taken <+: Script.bringUp drive.config ∧ Whole drive.config taken answers events ∧
              taken.flatMap Step.questions = before ++ [(command, expected)] ∧
              answers = before.map Prod.snd ++ [answer] ∧ answer ≠ expected ∧
              ran.result = .error (.error (.unexpectedStatus command (.ofByte answer)))))) ∧
    ∀ (chip : Chip) (journal : Journal), chip.attached = false →
      (drive.bringUp.run Chip.device chip journal).state.transactions =
        [0x15, 0x05, 0x00] :: [0x0b, 0x16, 0x90] :: [0x05] :: chip.transactions := by
  refine ⟨?_, ?_⟩
  · intro σ machine state journal ran events hg
    have ht := (transcript_recorded machine drive.bringUp state journal).1
    obtain ⟨answers, hf⟩ := keeps_bringUp drive events ran.result ht hg
    exact ⟨hf.exists_whole, answers, hf, hf.ended⟩
  · intro chip journal h
    obtain ⟨result, last, ho, hb⟩ := Chip.outcome_bringUp drive h
    rw [(run_of_outcome ho journal).2, hb.record]

/-- A chip with a disk refuses the second mode. Another chip has no disk. -/
theorem bringUp_follows_script_refused :
    (∃ ran, ran = (Drive.mk {} 2).bringUp.run Chip.device.recorded
        (({ attached := true, injected := [(0x15, 0x51), (0x15, 0x5f)] } : Chip), []) [] ∧
      (∀ event ∈ ran.state.2.reverse, Granted event) ∧
      ran.result = .error (.error (.unexpectedStatus .usbMode .refused)) ∧
      ∃ taken before expected, taken <+: Script.bringUp {} ∧
        Whole {} taken (before.map Prod.snd ++ [0x5f]) ran.state.2.reverse ∧
        taken.flatMap Step.questions = before ++ [(.usbMode, expected)] ∧ 0x5f ≠ expected) ∧
    ((Drive.mk {} 2).bringUp.run Chip.device { attached := false } []).state.transactions =
      [[0x15, 0x05, 0x00], [0x0b, 0x16, 0x90], [0x05]] := by
  obtain ⟨hs, hb⟩ := bringUp_follows_script (Drive.mk {} 2)
  -- The argument for any chip that refuses a mode; only the result is computed.
  have hm (chip : Chip) (ran : Ran Stop Unit (Chip × List (Event Bus)))
      (hran : ran = (Drive.mk {} 2).bringUp.run Chip.device.recorded (chip, []) [])
      (hr : ran.result = .error (.error (.unexpectedStatus .usbMode .refused))) :
      ∃ taken before expected, taken <+: Script.bringUp {} ∧
        Whole {} taken (before.map Prod.snd ++ [0x5f]) ran.state.2.reverse ∧
        taken.flatMap Step.questions = before ++ [(.usbMode, expected)] ∧ 0x5f ≠ expected := by
    obtain ⟨-, answers, -, he⟩ := hs Chip Chip.device chip [] (Chip.granted_recorded _ chip [])
    rw [← hran, hr] at he
    obtain ⟨-, -, hm⟩ := he nofun
    obtain ⟨taken, before, command, expected, answer, hp, hw, hq, rfl, hn, hu⟩ := hm nofun
    simp only [Except.error.injEq, Stop.error.injEq, Error.unexpectedStatus.injEq] at hu
    obtain ⟨rfl, ha⟩ := hu
    obtain rfl := (Status.ofByte_eq_iff rfl).1 ha.symm
    exact ⟨taken, before, expected, hp, hw, hq, hn⟩
  exact ⟨⟨_, rfl, Chip.granted_recorded _ _ _, rfl, hm _ _ rfl rfl⟩, hb _ [] rfl⟩

end Drive

end DiskBridge
