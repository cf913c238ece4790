import DiskBridge.Dialogue

/-!
# Transcripts of dialogues

`Transcript dialogue events result`: the questions and answers `events`, the oldest first, take
the dialogue along one of its branches, which ends in `result`. Nothing is said of the device, so
what holds of every transcript holds for every device (`transcript_run`). `Answers` says which
events a given device makes, and a transcript of such events is a run (`run_of_transcript`).

`Always P` says that `P` holds of the events of every transcript. A property that is kept when
lists of events are put one after the other (`Concatenative`) passes from the parts of a dialogue
to the whole.
-/

namespace DiskBridge.Dialogue

variable {I : Interface} {ε δ α β σ : Type}

/-- One conversation that a dialogue can have, and how it ends. -/
inductive Transcript : Dialogue I ε α → List (Event I) → Except ε α → Prop
  | done (value : α) : Transcript (done value) [] (.ok value)
  | failed (cause : ε) : Transcript (failed cause) [] (.error cause)
  | note {entry : Note} {next : Dialogue I ε α} {events : List (Event I)} {result : Except ε α} :
      Transcript next events result → Transcript (note entry next) events result
  | ask {request : I.Request} {next : I.Reply request → Dialogue I ε α}
      {events : List (Event I)} {result : Except ε α} (reply : I.Reply request) :
      Transcript (next reply) events result →
        Transcript (ask request next) (⟨request, reply⟩ :: events) result

/-- A transcript of a sequence is one of its first part, which failed, or one of each part. -/
theorem transcript_bind {first : Dialogue I ε α} {next : α → Dialogue I ε β}
    {events : List (Event I)} {result : Except ε β}
    (h : Transcript (first >>= next) events result) :
    (∃ cause, result = .error cause ∧ Transcript first events (.error cause)) ∨
      ∃ value before after, events = before ++ after ∧ Transcript first before (.ok value) ∧
        Transcript (next value) after result := by
  induction first generalizing events with
  | done value => exact .inr ⟨value, [], events, rfl, .done value, h⟩
  | failed cause =>
    cases h
    exact .inl ⟨cause, rfl, .failed cause⟩
  | note entry rest ih =>
    obtain _ | _ | h := h
    rcases ih h with ⟨cause, hr, hf⟩ | ⟨value, before, after, he, hf, hn⟩
    · exact .inl ⟨cause, hr, hf.note⟩
    · exact .inr ⟨value, before, after, he, hf.note, hn⟩
  | ask request rest ih =>
    obtain _ | _ | _ | ⟨reply, h⟩ := h
    rcases ih reply h with ⟨cause, hr, hf⟩ | ⟨value, before, after, rfl, hf, hn⟩
    · exact .inl ⟨cause, hr, hf.ask reply⟩
    · exact .inr ⟨value, _ :: before, after, rfl, hf.ask reply, hn⟩

/-- Transcripts of two parts are one of the sequence. -/
theorem Transcript.bind {first : Dialogue I ε α} {next : α → Dialogue I ε β}
    {before after : List (Event I)} {value : α} {result : Except ε β}
    (hf : Transcript first before (.ok value)) (hn : Transcript (next value) after result) :
    Transcript (first >>= next) (before ++ after) result := by
  induction first generalizing before with
  | done value =>
    cases hf
    exact hn
  | failed cause => cases hf
  | note entry rest ih =>
    obtain _ | _ | hf := hf
    exact (ih hf).note
  | ask request rest ih =>
    obtain _ | _ | _ | ⟨reply, hf⟩ := hf
    exact (ih reply hf).ask reply

theorem transcript_ofExcept {ending result : Except ε α} {events : List (Event I)}
    (h : Transcript (ofExcept ending) events result) : events = [] ∧ result = ending := by
  cases ending <;> cases h <;> exact ⟨rfl, rfl⟩

theorem transcript_attempt {dialogue : Dialogue I ε α} {events : List (Event I)}
    {result : Except δ (Except ε α)} (h : Transcript dialogue.attempt events result) :
    ∃ ending, result = .ok ending ∧ Transcript dialogue events ending := by
  induction dialogue generalizing events with
  | done value =>
    cases h
    exact ⟨_, rfl, .done value⟩
  | failed cause =>
    cases h
    exact ⟨_, rfl, .failed cause⟩
  | note entry rest ih =>
    obtain _ | _ | h := h
    obtain ⟨ending, hr, ht⟩ := ih h
    exact ⟨ending, hr, ht.note⟩
  | ask request rest ih =>
    obtain _ | _ | _ | ⟨reply, h⟩ := h
    obtain ⟨ending, hr, ht⟩ := ih reply h
    exact ⟨ending, hr, ht.ask reply⟩

theorem Transcript.attempt {dialogue : Dialogue I ε α} {events : List (Event I)}
    {result : Except ε α} (h : Transcript dialogue events result) :
    Transcript (dialogue.attempt : Dialogue I δ (Except ε α)) events (.ok result) := by
  induction h with
  | done value => exact .done _
  | failed cause => exact .done _
  | note _ ih => exact ih.note
  | ask reply _ ih => exact ih.ask reply

/-- What follows an attempt follows it however it ended. -/
theorem transcript_attempt_bind {dialogue : Dialogue I ε α}
    {next : Except ε α → Dialogue I δ β} {events : List (Event I)} {result : Except δ β}
    (h : Transcript (dialogue.attempt >>= next) events result) :
    ∃ ending before after, events = before ++ after ∧ Transcript dialogue before ending ∧
      Transcript (next ending) after result := by
  rcases transcript_bind h with ⟨cause, -, hf⟩ | ⟨ending, before, after, he, hf, hn⟩
  · obtain ⟨_, hr, -⟩ := transcript_attempt hf
    cases hr
  · obtain ⟨_, hr, ht⟩ := transcript_attempt hf
    cases hr
    exact ⟨ending, before, after, he, ht, hn⟩

theorem transcript_mapFailure {restate : ε → δ} {dialogue : Dialogue I ε α}
    {events : List (Event I)} {result : Except δ α}
    (h : Transcript (dialogue.mapFailure restate) events result) :
    ∃ ending, result = ending.mapError restate ∧ Transcript dialogue events ending := by
  induction dialogue generalizing events with
  | done value =>
    cases h
    exact ⟨_, rfl, .done value⟩
  | failed cause =>
    cases h
    exact ⟨_, rfl, .failed cause⟩
  | note entry rest ih =>
    obtain _ | _ | h := h
    obtain ⟨ending, hr, ht⟩ := ih h
    exact ⟨ending, hr, ht.note⟩
  | ask request rest ih =>
    obtain _ | _ | _ | ⟨reply, h⟩ := h
    obtain ⟨ending, hr, ht⟩ := ih reply h
    exact ⟨ending, hr, ht.ask reply⟩

/-! ## Runs -/

/-- The machine answers questions one after the other as the events say, on its way from one state
to another. -/
inductive Answers (machine : Machine I σ) : σ → List (Event I) → σ → Prop
  | nil (state : σ) : Answers machine state [] state
  | cons (request : I.Request) {state last : σ} {events : List (Event I)} :
      Answers machine (machine request state).state events last →
        Answers machine state (⟨request, (machine request state).reply⟩ :: events) last

theorem Answers.step {machine : Machine I σ} {request : I.Request} {state last : σ}
    {reaction : Reaction σ (I.Reply request)} {events : List (Event I)}
    (h : machine request state = reaction) (ha : Answers machine reaction.state events last) :
    Answers machine state (⟨request, reaction.reply⟩ :: events) last := by
  subst h
  exact .cons request ha

/-- Whatever device a dialogue is played against, the result is that of one of its transcripts,
and the device gave the answers in it. -/
theorem transcript_run (machine : Machine I σ) (dialogue : Dialogue I ε α) (state : σ)
    (journal : Journal) :
    ∃ events, Transcript dialogue events (dialogue.run machine state journal).result ∧
      Answers machine state events (dialogue.run machine state journal).state := by
  induction dialogue generalizing state journal with
  | done value => exact ⟨[], .done value, .nil state⟩
  | failed cause => exact ⟨[], .failed cause, .nil state⟩
  | note entry rest ih =>
    obtain ⟨events, ht, ha⟩ := ih state (entry :: journal)
    exact ⟨events, ht.note, ha⟩
  | ask request rest ih =>
    obtain ⟨events, ht, ha⟩ := ih (machine request state).reply (machine request state).state
      ((machine request state).journal ++ journal)
    exact ⟨_ :: events, ht.ask _, ha.cons request⟩

/-- A device that gives the answers of a transcript makes the dialogue end as it does. -/
theorem run_of_transcript {machine : Machine I σ} {dialogue : Dialogue I ε α} {state last : σ}
    {events : List (Event I)} {result : Except ε α} (ht : Transcript dialogue events result)
    (ha : Answers machine state events last) (journal : Journal) :
    (dialogue.run machine state journal).result = result ∧
      (dialogue.run machine state journal).state = last := by
  induction ht generalizing state journal with
  | done | failed =>
    cases ha
    exact ⟨rfl, rfl⟩
  | note _ ih => exact ih ha _
  | ask reply _ ih =>
    obtain _ | ⟨_, ha⟩ := ha
    exact ih ha _

/-- The answers a device gave stand in its record, the newest first. -/
theorem Answers.record {machine : Machine I σ} {first last : σ × List (Event I)}
    {events : List (Event I)} (h : Answers machine.recorded first events last) :
    last.2 = events.reverse ++ first.2 := by
  induction h with
  | nil state => rfl
  | cons request _ ih =>
    rw [ih, List.reverse_cons, List.append_assoc]
    rfl

/-- The record of a run is a transcript of the dialogue, with the answers of the device. -/
theorem transcript_recorded (machine : Machine I σ) (dialogue : Dialogue I ε α) (state : σ)
    (journal : Journal) :
    let ran := dialogue.run machine.recorded (state, []) journal
    Transcript dialogue ran.state.2.reverse ran.result ∧
      Answers machine.recorded (state, []) ran.state.2.reverse ran.state := by
  intro ran
  obtain ⟨events, ht, ha⟩ := transcript_run machine.recorded dialogue (state, []) journal
  have he : ran.state.2.reverse = events := by
    rw [show ran.state.2 = _ from ha.record, List.append_nil, List.reverse_reverse]
  rw [he]
  exact ⟨ht, ha⟩

/-! ## What all transcripts share -/

/-- A property of lists of events that is kept when they are put one after the other. -/
structure Concatenative (P : List (Event I) → Prop) : Prop where
  nil : P []
  append {before after : List (Event I)} : P before → P after → P (before ++ after)

/-- `P` holds of the events of every conversation that the dialogue can have. -/
def Always (P : List (Event I) → Prop) (dialogue : Dialogue I ε α) : Prop :=
  ∀ events result, Transcript dialogue events result → P events

section Always

variable {P : List (Event I) → Prop} (hP : Concatenative P)

include hP

theorem always_done (value : α) : Always P (done value : Dialogue I ε α) := by
  rintro _ _ ⟨⟩
  exact hP.nil

theorem always_failed (cause : ε) : Always P (failed cause : Dialogue I ε α) := by
  rintro _ _ ⟨⟩
  exact hP.nil

theorem always_ofExcept (result : Except ε α) : Always P (ofExcept result : Dialogue I ε α) := by
  cases result with
  | ok value => exact always_done hP value
  | error cause => exact always_failed hP cause

theorem always_say (level : Level) (text : String) :
    Always P (say level text : Dialogue I ε Unit) := by
  intro events result h
  obtain _ | _ | h := h
  exact always_done hP () events result h

theorem Always.bind {first : Dialogue I ε α} {next : α → Dialogue I ε β} (hf : Always P first)
    (hn : ∀ value, Always P (next value)) : Always P (first >>= next) := by
  intro events result h
  rcases transcript_bind h with ⟨cause, -, ht⟩ | ⟨value, before, after, rfl, hb, ha⟩
  · exact hf _ _ ht
  · exact hP.append (hf _ _ hb) (hn value _ _ ha)

theorem always_ask {request : I.Request} {next : I.Reply request → Dialogue I ε α}
    (hr : ∀ reply, P [⟨request, reply⟩]) (hn : ∀ reply, Always P (next reply)) :
    Always P (ask request next) := by
  intro events result h
  obtain _ | _ | _ | ⟨reply, h⟩ := h
  exact hP.append (hr reply) (hn reply _ _ h)

end Always

theorem Always.attempt {P : List (Event I) → Prop} {dialogue : Dialogue I ε α}
    (h : Always P dialogue) : Always P (dialogue.attempt : Dialogue I δ (Except ε α)) := by
  intro events result ht
  obtain ⟨ending, -, ht⟩ := transcript_attempt ht
  exact h _ _ ht

theorem Always.mapFailure {P : List (Event I) → Prop} {dialogue : Dialogue I ε α}
    (h : Always P dialogue) (restate : ε → δ) : Always P (dialogue.mapFailure restate) := by
  intro events result ht
  obtain ⟨ending, -, ht⟩ := transcript_mapFailure ht
  exact h _ _ ht

end DiskBridge.Dialogue
