import DiskBridge.Proofs.GrantedCalls

/-!
# How conversations end

`Concludes view P dialogue`: `P` holds of the calls of every conversation that the dialogue can
have, together with the way it ends. That is the stop the drive would report, as `view` reads it off
the failure, or nothing if the dialogue ends with a value. Dialogues on the chip fail by an error, a
stop or a cut read, so there are three views.

A property that is kept when a conversation goes on after a value (`Sequential`) passes from the
parts of a dialogue to the whole (`Concludes.bind`). What holds inside a transaction tells what the
transaction can be (`Enclosing`, `concludes_bracket`), and what holds of an operation holds of the
report of the action that performs it (`Concludes.report`, `Concludes.readInto`).
-/

namespace DiskBridge.Bus

open Dialogue Drive

variable {ε δ α β : Type}

/-- Why a dialogue ended without a value, if it did. -/
def ended (view : ε → Stop) : Except ε α → Option Stop
  | .ok _ => none
  | .error cause => some (view cause)

theorem ended_map {γ : Type} (view : ε → Stop) (result : Except ε α) (value : α → γ) :
    ended view (result.map value) = ended view result := by
  cases result <;> rfl

theorem ended_mapError {view : ε → Stop} {other : δ → Stop} {restate : ε → δ}
    (h : ∀ cause, other (restate cause) = view cause) (result : Except ε α) :
    ended other (result.mapError restate) = ended view result := by
  cases result with
  | ok value => rfl
  | error cause => exact congrArg some (h cause)

theorem ended_eq_none_iff {view : ε → Stop} {result : Except ε α} :
    ended view result = none ↔ ∃ value, result = .ok value := by
  cases result <;> simp [ended]

theorem ended_eq_some_iff {result : Except Stop α} {stop : Stop} :
    ended id result = some stop ↔ result = .error stop := by
  cases result <;> simp [ended]

/-- `P` holds of the calls of every conversation and of the way it ends. -/
def Concludes (view : ε → Stop) (P : List (Event Bus) → Option Stop → Prop)
    (dialogue : Dialogue Bus ε α) : Prop :=
  ∀ events result, Transcript dialogue events result → P events (ended view result)

/-- A property that is kept when a conversation goes on after a value. -/
structure Sequential (P : List (Event Bus) → Option Stop → Prop) : Prop where
  nil : P [] none
  append {before after : List (Event Bus)} {ending : Option Stop} :
    P before none → P after ending → P (before ++ after) ending

section Rules

variable {view : ε → Stop} {P : List (Event Bus) → Option Stop → Prop}

theorem Concludes.imp {Q : List (Event Bus) → Option Stop → Prop} {dialogue : Dialogue Bus ε α}
    (h : Concludes view P dialogue) (hi : ∀ events ending, P events ending → Q events ending) :
    Concludes view Q dialogue :=
  fun events result ht => hi events _ (h events result ht)

theorem concludes_failed {cause : ε} (h : P [] (some (view cause))) :
    Concludes view P (failed cause : Dialogue Bus ε α) := by
  rintro _ _ ⟨⟩
  exact h

theorem concludes_say_bind {level : Level} {text : String} {next : Unit → Dialogue Bus ε α}
    (h : Concludes view P (next ())) : Concludes view P (say level text >>= next) := by
  intro events result ht
  obtain _ | _ | ht := ht
  exact h events result ht

theorem Concludes.mapFailure {dialogue : Dialogue Bus ε α} {other : δ → Stop} {restate : ε → δ}
    (h : Concludes view P dialogue) (hv : ∀ cause, other (restate cause) = view cause) :
    Concludes other P (dialogue.mapFailure restate) := by
  intro events result ht
  obtain ⟨ending, rfl, hd⟩ := transcript_mapFailure ht
  rw [ended_mapError hv]
  exact h events ending hd

variable (hP : Sequential P)

include hP

theorem concludes_done (value : α) : Concludes view P (done value : Dialogue Bus ε α) := by
  rintro _ _ ⟨⟩
  exact hP.nil

theorem concludes_say (level : Level) (text : String) :
    Concludes view P (say level text : Dialogue Bus ε Unit) :=
  concludes_say_bind (concludes_done hP ())

theorem Concludes.bind {first : Dialogue Bus ε α} {next : α → Dialogue Bus ε β}
    (hf : Concludes view P first) (hn : ∀ value, Concludes view P (next value)) :
    Concludes view P (first >>= next) := by
  intro events result ht
  rcases transcript_bind ht with ⟨cause, rfl, hc⟩ | ⟨value, before, after, rfl, hb, ha⟩
  · exact hf _ _ hc
  · exact hP.append (hf _ _ hb) (hn value _ _ ha)

end Rules

/-- What makes no call and ends with a value. -/
def Quiet (events : List (Event Bus)) (ending : Option Stop) : Prop := events = [] ∧ ending = none

theorem quiet : Sequential Quiet where
  nil := ⟨rfl, rfl⟩
  append := by
    rintro _ _ _ ⟨rfl, -⟩ ⟨rfl, rfl⟩
    exact ⟨rfl, rfl⟩

theorem Concludes.bind_quiet {view : ε → Stop} {P : List (Event Bus) → Option Stop → Prop}
    {first : Dialogue Bus ε α} {next : α → Dialogue Bus ε β} (hf : Concludes view P first)
    (hn : ∀ value, Concludes view Quiet (next value)) : Concludes view P (first >>= next) := by
  intro events result ht
  rcases transcript_bind ht with ⟨cause, rfl, hc⟩ | ⟨value, before, after, rfl, hb, ha⟩
  · exact hf _ _ hc
  · obtain ⟨rfl, hr⟩ := hn value _ _ ha
    rw [List.append_nil, hr]
    exact hf _ _ hb

/-! ## Transactions -/

/-- A transaction around a conversation of which `P` holds: it is refused, completed, not closed
after a value, or abandoned. -/
inductive Enclosing (P : List (Event Bus) → Option Stop → Prop) :
    List (Event Bus) → Option Stop → Prop
  | refused (error : Error) : Enclosing P [⟨.begin, .error error⟩] (some (.error error))
  | completed {inside : List (Event Bus)} : P inside none → Enclosing P (enclosed inside) none
  | unclosed {inside : List (Event Bus)} (error : Error) : P inside none →
      Enclosing P (⟨.begin, .ok ()⟩ :: (inside ++ [⟨.finish, .error error⟩]))
        (some (.error error))
  | abandoned {inside : List (Event Bus)} {stop : Stop} (reply : Except Error Unit) :
      P inside (some stop) →
      Enclosing P (⟨.begin, .ok ()⟩ :: (inside ++ [⟨.finish, reply⟩])) (some stop)

theorem Enclosing.imp {P Q : List (Event Bus) → Option Stop → Prop} {events : List (Event Bus)}
    {ending : Option Stop} (h : Enclosing P events ending)
    (hi : ∀ events ending, P events ending → Q events ending) : Enclosing Q events ending := by
  cases h with
  | refused error => exact .refused error
  | completed hp => exact .completed (hi _ _ hp)
  | unclosed error hp => exact .unclosed error (hi _ _ hp)
  | abandoned reply hp => exact .abandoned reply (hi _ _ hp)

theorem concludes_bracket {view : ε → Stop} {P : List (Event Bus) → Option Stop → Prop}
    {early : Error → ε} {late : α → Error → ε} {body : Dialogue Bus ε α}
    (he : ∀ error, view (early error) = .error error)
    (hl : ∀ value error, view (late value error) = .error error) (hb : Concludes view P body) :
    Concludes view (Enclosing P) (bracket early late body) := by
  intro events result ht
  rcases transcript_bracket ht with
    ⟨error, rfl, rfl⟩ | ⟨inside, reply, rfl, ⟨value, hi, rfl⟩ | ⟨cause, hi, rfl⟩⟩
  · change Enclosing P _ (some (view (early error)))
    rw [he]
    exact .refused error
  · cases reply with
    | ok _ => exact .completed (hb _ _ hi)
    | error error =>
      change Enclosing P _ (some (view (late value error)))
      rw [hl]
      exact .unclosed error (hb _ _ hi)
  · exact .abandoned reply (hb _ _ hi)

theorem concludes_transaction {P : List (Event Bus) → Option Stop → Prop}
    {body : Dialogue Bus Error α} (hb : Concludes .error P body) :
    Concludes id (Enclosing P) (transaction body) := by
  unfold transaction
  exact (concludes_bracket (fun _ => rfl) (fun _ _ => rfl) hb).mapFailure fun _ => rfl

/-! ## Reports -/

/-- Every conversation ends with a report, of which `P` holds. -/
def Reports (P : List (Event Bus) → Option Stop → Prop) (dialogue : Dialogue Bus ε Report) : Prop :=
  ∀ events result, Transcript dialogue events result →
    ∃ report, result = .ok report ∧ P events (ended id report.result)

theorem ended_ne_stalled {report : Report} (h : report.stalled = false) :
    ended id report.result ≠ some .stalled := by
  rw [Ne, ended_eq_some_iff]
  intro he
  rw [Report.stalled, he] at h
  cases h

theorem Concludes.report {P : List (Event Bus) → Option Stop → Prop} {operation : Operation α}
    (h : Concludes id P operation) (value : α → Value) :
    Reports P (Drive.report operation value : Dialogue Bus ε Report) := by
  intro events result ht
  obtain ⟨ending, before, after, rfl, ho, hd⟩ := transcript_attempt_bind ht
  cases hd
  refine ⟨_, rfl, ?_⟩
  rw [List.append_nil, ended_map]
  exact h _ _ ho

/-- If no call fails, what is reported is how the operation ends. -/
theorem Speaks.report {P : Except Stop α → List (Event Bus) → Prop} {operation : Operation α}
    (h : Speaks operation P) (value : α → Value) :
    Speaks (Drive.report operation value : Dialogue Bus ε Report) fun result events =>
      ∃ ending, result = .ok { result := ending.map value } ∧ P ending events := by
  intro events result ht hg
  obtain ⟨ending, before, after, rfl, ho, hd⟩ := transcript_attempt_bind ht
  cases hd
  rw [List.append_nil] at hg ⊢
  exact ⟨ending, rfl, h _ _ ho hg⟩

theorem Concludes.readInto {P : List (Event Bus) → Option Stop → Prop} {drive : Drive}
    {buffer : List UInt8} (h : Concludes Cut.stop P (drive.read buffer.length)) :
    Reports P (drive.readInto buffer : Dialogue Bus ε Report) := by
  intro events result ht
  obtain ⟨ending, before, after, rfl, ho, hd⟩ := transcript_attempt_bind ht
  have hp := h _ _ ho
  cases ending with
  | ok received =>
    cases hd
    rw [List.append_nil]
    exact ⟨_, rfl, hp⟩
  | error cut =>
    cases hd
    rw [List.append_nil]
    exact ⟨_, rfl, hp⟩

end DiskBridge.Bus
