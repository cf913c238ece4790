import DiskBridge.Proofs.Bracketing

/-!
# Calls that do not fail

On a device whose calls do not fail (`Granted`), a dialogue has fewer conversations. `Speaks` says
how all of them end, and `Yields` that each ends with a value. The rules for dialogues in sequence
(`Speaks.bind`, `Speaks.bind_value`) reduce a dialogue to its calls, and a transaction to what
stands inside it (`yields_transaction`).
-/

namespace DiskBridge.Bus

open Dialogue

/-- A call that did not fail. -/
def Granted : Event Bus → Prop
  | ⟨.begin, reply⟩ => reply = .ok ()
  | ⟨.finish, reply⟩ => reply = .ok ()
  | ⟨.exchange _, reply⟩ => ∃ byte, reply = .ok byte
  | ⟨.poll, reply⟩ => ∃ raised, reply = .ok raised
  | ⟨.pause _, _⟩ => True

/-- How the conversations of a dialogue end in which no call fails. -/
def Speaks {ε α : Type} (dialogue : Dialogue Bus ε α)
    (P : Except ε α → List (Event Bus) → Prop) : Prop :=
  ∀ events result, Transcript dialogue events result → (∀ event ∈ events, Granted event) →
    P result events

/-- A dialogue that ends with a value if no call fails. -/
abbrev Yields {ε α : Type} (dialogue : Dialogue Bus ε α) (P : α → List (Event Bus) → Prop) : Prop :=
  Speaks dialogue fun result events => ∃ value, result = .ok value ∧ P value events

theorem granted_of_answers {σ : Type} {machine : Machine Bus σ}
    (h : ∀ request state, Granted ⟨request, (machine request state).reply⟩) {first last : σ}
    {events : List (Event Bus)} (ha : Answers machine first events last) :
    ∀ event ∈ events, Granted event := by
  induction ha with
  | nil state => simp
  | cons request _ ih =>
    rw [List.forall_mem_cons]
    exact ⟨h request _, ih⟩

section Speaks

variable {ε α β : Type}

theorem Speaks.bind {first : Dialogue Bus ε α} {next : α → Dialogue Bus ε β}
    {P : Except ε α → List (Event Bus) → Prop} {Q : Except ε β → List (Event Bus) → Prop}
    (hf : Speaks first P) (he : ∀ cause events, P (.error cause) events → Q (.error cause) events)
    (hn : ∀ value before, P (.ok value) before →
      Speaks (next value) fun result after => Q result (before ++ after)) :
    Speaks (first >>= next) Q := by
  intro events result ht hg
  rcases transcript_bind ht with ⟨cause, rfl, hb⟩ | ⟨value, before, after, rfl, hb, ha⟩
  · exact he cause events (hf _ _ hb hg)
  · obtain ⟨hg, hg'⟩ := List.forall_mem_append.1 hg
    exact hn value before (hf _ _ hb hg) _ _ ha hg'

/-- The same for a first part that ends with a value. -/
theorem Speaks.bind_value {first : Dialogue Bus ε α} {next : α → Dialogue Bus ε β}
    {P : α → List (Event Bus) → Prop} {Q : Except ε β → List (Event Bus) → Prop}
    (hf : Yields first P)
    (hn : ∀ value before, P value before →
      Speaks (next value) fun result after => Q result (before ++ after)) :
    Speaks (first >>= next) Q := by
  refine hf.bind ?_ ?_
  · rintro _ _ ⟨_, hr, _⟩
    cases hr
  · rintro value before ⟨_, hr, hp⟩
    cases hr
    exact hn value before hp

theorem Speaks.imp {dialogue : Dialogue Bus ε α} {P Q : Except ε α → List (Event Bus) → Prop}
    (h : Speaks dialogue P) (hi : ∀ result events, P result events → Q result events) :
    Speaks dialogue Q :=
  fun events result ht hg => hi result events (h events result ht hg)

theorem Yields.imp {dialogue : Dialogue Bus ε α} {P Q : α → List (Event Bus) → Prop}
    (h : Yields dialogue P) (hi : ∀ value events, P value events → Q value events) :
    Yields dialogue Q :=
  Speaks.imp h fun _ events ⟨value, hr, hp⟩ => ⟨value, hr, hi value events hp⟩

theorem speaks_done {P : Except ε α → List (Event Bus) → Prop} {value : α} (h : P (.ok value) []) :
    Speaks (done value) P := by
  rintro _ _ ⟨⟩ _
  exact h

theorem speaks_failed {P : Except ε α → List (Event Bus) → Prop} {cause : ε}
    (h : P (.error cause) []) : Speaks (failed cause) P := by
  rintro _ _ ⟨⟩ _
  exact h

theorem speaks_say_bind {P : Except ε α → List (Event Bus) → Prop} {level : Level} {text : String}
    {next : Unit → Dialogue Bus ε α} (h : Speaks (next ()) P) :
    Speaks (say level text >>= next) P := by
  intro events result ht
  obtain _ | _ | ht := ht
  exact h events result ht

theorem speaks_say {P : Except ε Unit → List (Event Bus) → Prop} {level : Level} {text : String}
    (h : P (.ok ()) []) : Speaks (say level text) P := by
  rintro _ _ (_ | _ | ⟨⟨⟩⟩) _
  exact h

end Speaks

/-! ## Calls -/

/-- The calls of a transaction. -/
def enclosed (body : List (Event Bus)) : List (Event Bus) :=
  ⟨.begin, .ok ()⟩ :: (body ++ [⟨.finish, .ok ()⟩])

/-- Bytes are sent, whatever comes back. -/
inductive Sent : List UInt8 → List (Event Bus) → Prop
  | nil : Sent [] []
  | cons {byte reply : UInt8} {bytes : List UInt8} {events : List (Event Bus)} :
      Sent bytes events → Sent (byte :: bytes) (⟨.exchange byte, .ok reply⟩ :: events)

theorem exists_sent (bytes : List UInt8) : ∃ events, Sent bytes events := by
  induction bytes with
  | nil => exact ⟨[], .nil⟩
  | cons byte rest ih =>
    obtain ⟨events, h⟩ := ih
    exact ⟨⟨.exchange byte, .ok 0⟩ :: events, h.cons⟩

variable {ε α : Type}

theorem yields_exchange (byte : UInt8) :
    Yields (exchange byte) fun reply events => events = [⟨.exchange byte, .ok reply⟩] := by
  intro events result ht hg
  cases transcript_exchange ht
  obtain ⟨reply, rfl⟩ := hg _ List.mem_cons_self
  exact ⟨reply, rfl, rfl⟩

theorem yields_poll :
    Yields (Operation.ofBus poll) fun raised events => events = [⟨.poll, .ok raised⟩] := by
  intro events result ht hg
  obtain ⟨reply, rfl, hp⟩ := transcript_mapFailure ht
  cases transcript_poll hp
  obtain ⟨raised, rfl⟩ := hg _ List.mem_cons_self
  exact ⟨raised, rfl, rfl⟩

theorem yields_pause (span : Duration) :
    Yields (pause span : Dialogue Bus ε Unit) fun _ events => events = [⟨.pause span, ()⟩] := by
  intro events result ht _
  obtain ⟨rfl, rfl⟩ := transcript_pause ht
  exact ⟨(), rfl, rfl⟩

theorem yields_send (bytes : List UInt8) :
    Yields (send bytes) fun _ events => Sent bytes events := by
  induction bytes with
  | nil => exact speaks_done ⟨(), rfl, .nil⟩
  | cons byte rest ih =>
    refine (yields_exchange byte).bind_value ?_
    rintro reply _ rfl events result ht hg
    obtain ⟨value, hr, hs⟩ := ih events result ht hg
    exact ⟨value, hr, hs.cons⟩

/-- A transaction whose body does not fail is completed. -/
theorem yields_transaction {body : Dialogue Bus Error α} {P : α → List (Event Bus) → Prop}
    (h : Yields body P) :
    Yields (transaction body) fun value events =>
      ∃ inner, events = enclosed inner ∧ P value inner := by
  intro events result ht hg
  rw [transaction] at ht
  obtain ⟨ending, rfl, hm⟩ := transcript_mapFailure ht
  rcases transcript_bracket hm with ⟨error, rfl, -⟩ | ⟨inside, reply, rfl, hb⟩
  · cases hg _ List.mem_cons_self
  · obtain ⟨hn, hf⟩ := List.forall_mem_append.1 (List.forall_mem_cons.1 hg).2
    obtain rfl : reply = .ok () := hf _ List.mem_cons_self
    rcases hb with ⟨value, hi, rfl⟩ | ⟨cause, hi, rfl⟩
    · obtain ⟨_, hr, hp⟩ := h _ _ hi hn
      cases hr
      exact ⟨value, rfl, inside, rfl, hp⟩
    · obtain ⟨_, hr, -⟩ := h _ _ hi hn
      cases hr

end DiskBridge.Bus
