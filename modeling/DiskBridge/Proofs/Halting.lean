import DiskBridge.Proofs.Endings

/-!
# Conversations that halt at a failed call

`Halted events ending`: no call failed, or the first that did was the last, but for the end of the
transaction it left open, and `ending` is the error of that call. There is one exception: a
transaction that is ended because the chip offered too large a chunk reports that chunk, also if the
end fails.

1. Inside a transaction only exchanges fail (`Plain`), and a transaction that was abandoned without
   a failed exchange is one that refused a chunk (`Interior`).
2. So a transaction halts as required (`Enclosing.halted`): the cases of `Halted` are the calls that
   can fail first.
3. `Halted` is kept along sequences (`halting`), and an unexpected status may be reported as
   something else (`Halted.restate`).

`Halted.after_failure` reads off what follows the first failed call.
-/

namespace DiskBridge

open Dialogue

namespace Bus

/-- The error of a call that failed. -/
def failure? : Event Bus → Option Error
  | ⟨.begin, .error error⟩ | ⟨.finish, .error error⟩ => some error
  | ⟨.exchange _, .error error⟩ => some error
  | ⟨.poll, .error error⟩ => some error
  | _ => none

theorem Granted.failure?_eq_none {event : Event Bus} (h : Granted event) :
    failure? event = none := by
  obtain ⟨request, reply⟩ := event
  cases request with
  | begin | finish =>
    obtain rfl : reply = .ok () := h
    rfl
  | exchange | poll =>
    obtain ⟨_, rfl⟩ := h
    rfl
  | pause => rfl

/-- The commands that move a chunk. -/
abbrev MovesChunk (opcode : UInt8) : Prop := opcode = 0x27 ∨ opcode = 0x2d

/-- Inside a transaction, a chunk of `offered` bytes was announced, and none of them was moved. -/
def Announced (offered : UInt8) (inside : List (Event Bus)) : Prop :=
  offered ≠ 0 ∧ ∃ opcode reply, MovesChunk opcode ∧
    inside = [⟨.exchange opcode, .ok reply⟩, ⟨.exchange 0x00, .ok offered⟩]

/-- An operation that ends with `stop` passes on the error of a call. -/
def Blames (error : Error) (stop : Stop) : Prop :=
  (∀ command status, error ≠ .unexpectedStatus command status) → stop = .error error

theorem blames_error (error : Error) : Blames error (.error error) := fun _ => rfl

/-- No call failed, or the first that did was the last but for the end of an open transaction. -/
inductive Halted : List (Event Bus) → Option Stop → Prop
  | smooth {events : List (Event Bus)} (ending : Option Stop) :
      (∀ event ∈ events, Granted event) → Halted events ending
  | begin {before : List (Event Bus)} {error : Error} {stop : Stop} :
      (∀ event ∈ before, Granted event) → Blames error stop →
        Halted (before ++ [⟨.begin, .error error⟩]) (some stop)
  | poll {before : List (Event Bus)} {error : Error} {stop : Stop} :
      (∀ event ∈ before, Granted event) → Blames error stop →
        Halted (before ++ [⟨.poll, .error error⟩]) (some stop)
  | exchange {before inside : List (Event Bus)} {byte : UInt8} {error : Error} {stop : Stop}
      (reply : Except Error Unit) :
      (∀ event ∈ before, Granted event) → (∀ event ∈ inside, Granted event ∧ Inner event) →
        Blames error stop →
        Halted (before ++ ⟨.begin, .ok ()⟩ ::
          (inside ++ [⟨.exchange byte, .error error⟩, ⟨.finish, reply⟩])) (some stop)
  | finish {before inside : List (Event Bus)} {error : Error} {stop : Stop} :
      (∀ event ∈ before, Granted event) → (∀ event ∈ inside, Granted event ∧ Inner event) →
        (∀ offered, ¬Announced offered inside) → Blames error stop →
        Halted (before ++ ⟨.begin, .ok ()⟩ :: (inside ++ [⟨.finish, .error error⟩])) (some stop)
  | overrun {before inside : List (Event Bus)} {error : Error} {offered : UInt8} {remaining : Nat} :
      (∀ event ∈ before, Granted event) → Announced offered inside → remaining < offered.toNat →
        Halted (before ++ ⟨.begin, .ok ()⟩ :: (inside ++ [⟨.finish, .error error⟩]))
          (some (.error (Drive.overrun offered.toNat remaining)))

theorem halted_nil (ending : Option Stop) : Halted [] ending := .smooth ending (by simp)

/-- An operation that ended with a value had no failed call. -/
theorem Halted.granted {events : List (Event Bus)} (h : Halted events none) :
    ∀ event ∈ events, Granted event := by
  cases h with
  | smooth _ hg => exact hg

theorem Halted.prepend {before after : List (Event Bus)} {ending : Option Stop}
    (hb : ∀ event ∈ before, Granted event) (h : Halted after ending) :
    Halted (before ++ after) ending := by
  cases h with
  | smooth ending hg => exact .smooth ending (List.forall_mem_append.2 ⟨hb, hg⟩)
  | begin hg he =>
    rw [← List.append_assoc]
    exact .begin (List.forall_mem_append.2 ⟨hb, hg⟩) he
  | poll hg he =>
    rw [← List.append_assoc]
    exact .poll (List.forall_mem_append.2 ⟨hb, hg⟩) he
  | exchange reply hg hi he =>
    rw [← List.append_assoc]
    exact .exchange reply (List.forall_mem_append.2 ⟨hb, hg⟩) hi he
  | finish hg hi hn he =>
    rw [← List.append_assoc]
    exact .finish (List.forall_mem_append.2 ⟨hb, hg⟩) hi hn he
  | overrun hg ha hr =>
    rw [← List.append_assoc]
    exact .overrun (List.forall_mem_append.2 ⟨hb, hg⟩) ha hr

theorem halting : Sequential Halted where
  nil := halted_nil none
  append hb ha := ha.prepend hb.granted

theorem Blames.restate {error : Error} {command : Command} {status : Status}
    (h : Blames error (.error (.unexpectedStatus command status))) (stop : Stop) :
    Blames error stop := by
  intro hn
  cases h hn
  exact (hn _ _ rfl).elim

/-- An unexpected status may be reported as something else: no failed call is behind it, or one
whose error need not be passed on. -/
theorem Halted.restate {events : List (Event Bus)} {command : Command} {status : Status}
    (h : Halted events (some (.error (.unexpectedStatus command status)))) (stop : Stop) :
    Halted events (some stop) := by
  cases h with
  | smooth _ hg => exact .smooth _ hg
  | begin hg he => exact .begin hg (he.restate stop)
  | poll hg he => exact .poll hg (he.restate stop)
  | exchange reply hg hi he => exact .exchange reply hg hi (he.restate stop)
  | finish hg hi hn he => exact .finish hg hi hn (he.restate stop)

/-! ## Inside a transaction -/

/-- No call failed, or the last one, an exchange, whose error is passed on. -/
inductive Plain : List (Event Bus) → Option Stop → Prop
  | whole {events : List (Event Bus)} :
      (∀ event ∈ events, Granted event ∧ Inner event) → Plain events none
  | refused {before : List (Event Bus)} (byte : UInt8) (error : Error) :
      (∀ event ∈ before, Granted event ∧ Inner event) →
        Plain (before ++ [⟨.exchange byte, .error error⟩]) (some (.error error))

theorem Plain.granted {events : List (Event Bus)} (h : Plain events none) :
    ∀ event ∈ events, Granted event ∧ Inner event := by
  cases h with
  | whole hg => exact hg

theorem plain : Sequential Plain where
  nil := .whole (by simp)
  append hb ha := by
    cases ha with
    | whole hg => exact .whole (List.forall_mem_append.2 ⟨hb.granted, hg⟩)
    | refused byte error hg =>
      rw [← List.append_assoc]
      exact .refused byte error (List.forall_mem_append.2 ⟨hb.granted, hg⟩)

theorem exchanged (byte reply : UInt8) :
    Granted ⟨.exchange byte, .ok reply⟩ ∧ Inner ⟨.exchange byte, .ok reply⟩ :=
  ⟨⟨reply, rfl⟩, True.intro⟩

theorem plain_exchange (byte : UInt8) : Concludes .error Plain (exchange byte) := by
  intro events result ht
  cases transcript_exchange ht
  cases result with
  | ok reply =>
    refine .whole ?_
    rw [List.forall_mem_singleton]
    exact exchanged byte reply
  | error error =>
    change Plain ([] ++ _) _
    exact .refused byte error (by simp)

variable {ε α : Type} {view : ε → Stop}

theorem plain_pause (span : Duration) :
    Concludes view Plain (pause span : Dialogue Bus ε Unit) := by
  intro events result ht
  obtain ⟨rfl, rfl⟩ := transcript_pause ht
  refine .whole ?_
  rw [List.forall_mem_singleton]
  exact ⟨True.intro, True.intro⟩

theorem plain_send (bytes : List UInt8) : Concludes .error Plain (send bytes) := by
  induction bytes with
  | nil => exact concludes_done plain ()
  | cons byte rest ih => exact (plain_exchange byte).bind plain fun _ => ih

theorem plain_receiveMany (count : Nat) : Concludes .error Plain (receiveMany count) := by
  induction count with
  | zero => exact concludes_done plain []
  | succ count ih =>
    exact (plain_exchange _).bind plain fun _ => ih.bind plain fun _ => concludes_done plain _

/-- What a transaction may hold: it ends with a value, with a failed exchange, or by refusing a
chunk. -/
inductive Interior : List (Event Bus) → Option Stop → Prop
  | whole {events : List (Event Bus)} : (∀ event ∈ events, Granted event ∧ Inner event) →
      (∀ offered, ¬Announced offered events) → Interior events none
  | refused {before : List (Event Bus)} (byte : UInt8) (error : Error) :
      (∀ event ∈ before, Granted event ∧ Inner event) →
        Interior (before ++ [⟨.exchange byte, .error error⟩]) (some (.error error))
  | overrun {events : List (Event Bus)} {offered : UInt8} {remaining : Nat} :
      Announced offered events → remaining < offered.toNat →
        Interior events (some (.error (Drive.overrun offered.toNat remaining)))

/-- A conversation that did not begin with a command to move a chunk announces none. -/
theorem Plain.interior {opcode : UInt8} {reply : Except Error UInt8} {events : List (Event Bus)}
    {ending : Option Stop} (ho : ¬MovesChunk opcode)
    (h : Plain (⟨.exchange opcode, reply⟩ :: events) ending) :
    Interior (⟨.exchange opcode, reply⟩ :: events) ending := by
  generalize hs : (⟨.exchange opcode, reply⟩ :: events : List (Event Bus)) = all at h ⊢
  cases h with
  | whole hg =>
    refine .whole hg ?_
    rintro offered ⟨-, other, _, hm, rfl⟩
    cases hs
    exact ho hm
  | refused byte error hg => exact .refused byte error hg

/-! ### Chunks -/

/-- A dialogue that exchanges one byte. -/
def Asks (restate : Error → ε) (byte : UInt8) (value : UInt8 → α) (dialogue : Dialogue Bus ε α) :
    Prop :=
  ∀ events result, Transcript dialogue events result → ∃ reply,
    events = [⟨.exchange byte, reply⟩] ∧ result = (reply.map value).mapError restate

theorem asks_exchange (byte : UInt8) : Asks id byte id (exchange byte) := by
  intro events result ht
  refine ⟨result, transcript_exchange ht, ?_⟩
  cases result <;> rfl

theorem asks_send (byte : UInt8) : Asks id byte (fun _ => ()) (send [byte]) := by
  intro events result ht
  rcases transcript_bind ht with ⟨error, rfl, he⟩ | ⟨reply, before, after, rfl, he, hd⟩
  · exact ⟨_, transcript_exchange he, rfl⟩
  · cases transcript_exchange he
    cases hd
    exact ⟨.ok reply, rfl, rfl⟩

theorem Asks.mapFailure {restate : Error → ε} {byte : UInt8} {value : UInt8 → α}
    {dialogue : Dialogue Bus Error α} (h : Asks id byte value dialogue) :
    Asks restate byte value (dialogue.mapFailure restate) := by
  intro events result ht
  obtain ⟨ending, rfl, hd⟩ := transcript_mapFailure ht
  obtain ⟨reply, rfl, rfl⟩ := h _ _ hd
  refine ⟨reply, rfl, ?_⟩
  cases reply <;> rfl

/-- What moves a chunk fails at the command or at the announcement, or goes on with what the chip
announced. -/
theorem transcript_chunk {restate : Error → ε} {opcode : UInt8} {asked : Dialogue Bus ε Unit}
    {answered : Dialogue Bus ε UInt8} {next : UInt8 → Dialogue Bus ε α}
    {events : List (Event Bus)} {result : Except ε α}
    (ha : Asks restate opcode (fun _ => ()) asked) (hb : Asks restate 0x00 id answered)
    (ht : Transcript (asked >>= fun _ => answered >>= next) events result) :
    (∃ error, result = .error (restate error) ∧
      (events = [⟨.exchange opcode, .error error⟩] ∨ ∃ reply,
        events = [⟨.exchange opcode, .ok reply⟩, ⟨.exchange 0x00, .error error⟩])) ∨
    ∃ reply offered rest,
      events = ⟨.exchange opcode, .ok reply⟩ :: ⟨.exchange 0x00, .ok offered⟩ :: rest ∧
        Transcript (next offered) rest result := by
  rcases transcript_bind ht with ⟨cause, rfl, hf⟩ | ⟨_, before, after, rfl, hf, hl⟩
  · obtain ⟨reply, rfl, hr⟩ := ha _ _ hf
    cases reply with
    | ok answer => cases hr
    | error error =>
      cases hr
      exact .inl ⟨error, rfl, .inl rfl⟩
  · obtain ⟨reply, rfl, hr⟩ := ha _ _ hf
    cases reply with
    | error error => cases hr
    | ok answer =>
      rcases transcript_bind hl with ⟨cause, rfl, hs⟩ | ⟨_, before, rest, rfl, hs, hd⟩
      · obtain ⟨reply, rfl, hr⟩ := hb _ _ hs
        cases reply with
        | ok answer => cases hr
        | error error =>
          cases hr
          exact .inl ⟨error, rfl, .inr ⟨answer, rfl⟩⟩
      · obtain ⟨reply, rfl, hr⟩ := hb _ _ hs
        cases reply with
        | error error => cases hr
        | ok offered =>
          cases hr
          exact .inr ⟨answer, offered, rest, rfl, hd⟩

/-- The bytes of an announced chunk are moved, all of them or up to a failed exchange, or the chunk
is too large and none is. -/
inductive Moves (offered : UInt8) : List (Event Bus) → Option Stop → Prop
  | whole {events : List (Event Bus)} : (∀ event ∈ events, Granted event ∧ Inner event) →
      events.length = offered.toNat → Moves offered events none
  | refused {before : List (Event Bus)} (byte : UInt8) (error : Error) :
      (∀ event ∈ before, Granted event ∧ Inner event) →
        Moves offered (before ++ [⟨.exchange byte, .error error⟩]) (some (.error error))
  | overrun {remaining : Nat} : remaining < offered.toNat →
      Moves offered [] (some (.error (Drive.overrun offered.toNat remaining)))

theorem Plain.moves {offered : UInt8} {events : List (Event Bus)} {ending : Option Stop}
    (h : Plain events ending) (hl : ending = none → events.length = offered.toNat) :
    Moves offered events ending := by
  cases h with
  | whole hg => exact .whole hg (hl rfl)
  | refused byte error hg => exact .refused byte error hg

/-- What stands inside a transaction that moves a chunk: the command, the announcement, and the
bytes. -/
inductive Chunk (opcode : UInt8) : List (Event Bus) → Option Stop → Prop
  | unasked (error : Error) :
      Chunk opcode [⟨.exchange opcode, .error error⟩] (some (.error error))
  | unannounced (reply : UInt8) (error : Error) :
      Chunk opcode [⟨.exchange opcode, .ok reply⟩, ⟨.exchange 0x00, .error error⟩]
        (some (.error error))
  | announced (reply : UInt8) {offered : UInt8} {events : List (Event Bus)}
      {ending : Option Stop} : Moves offered events ending →
      Chunk opcode (⟨.exchange opcode, .ok reply⟩ :: ⟨.exchange 0x00, .ok offered⟩ :: events) ending

theorem concludes_chunk {restate : Error → ε} {opcode : UInt8} {asked : Dialogue Bus ε Unit}
    {answered : Dialogue Bus ε UInt8} {next : UInt8 → Dialogue Bus ε α}
    (hv : ∀ error, view (restate error) = .error error)
    (ha : Asks restate opcode (fun _ => ()) asked) (hb : Asks restate 0x00 id answered)
    (hn : ∀ offered, Concludes view (Moves offered) (next offered)) :
    Concludes view (Chunk opcode) (asked >>= fun _ => answered >>= next) := by
  intro events result ht
  rcases transcript_chunk ha hb ht with
    ⟨error, rfl, rfl | ⟨reply, rfl⟩⟩ | ⟨reply, offered, rest, rfl, hd⟩
  · rw [ended, hv]
    exact .unasked error
  · rw [ended, hv]
    exact .unannounced reply error
  · exact .announced reply (hn offered _ _ hd)

/-- A transaction that moves a chunk moves all of it up to a failed exchange, or refuses it. -/
theorem Chunk.interior {opcode : UInt8} {events : List (Event Bus)} {ending : Option Stop}
    (ho : MovesChunk opcode) (h : Chunk opcode events ending) : Interior events ending := by
  cases h with
  | unasked error =>
    change Interior ([] ++ _) _
    exact .refused opcode error (by simp)
  | unannounced reply error =>
    change Interior ([⟨.exchange opcode, .ok reply⟩] ++ _) _
    refine .refused 0x00 error ?_
    rw [List.forall_mem_singleton]
    exact exchanged _ _
  | @announced reply offered rest ending hm =>
    have hg {rest : List (Event Bus)} (hr : ∀ event ∈ rest, Granted event ∧ Inner event) :
        ∀ event ∈ ⟨.exchange opcode, .ok reply⟩ :: ⟨.exchange 0x00, .ok offered⟩ :: rest,
          Granted event ∧ Inner event := by
      rw [List.forall_mem_cons, List.forall_mem_cons]
      exact ⟨exchanged _ _, exchanged _ _, hr⟩
    cases hm with
    | whole hi hl =>
      refine .whole (hg hi) ?_
      -- Without a byte moved the announced chunk was empty.
      rintro other ⟨hz, _, _, -, he⟩
      cases he
      exact hz (UInt8.toNat_inj.1 hl.symm)
    | refused byte error hi => exact .refused byte error (hg hi)
    | overrun hr =>
      refine .overrun ⟨?_, opcode, reply, ho, rfl⟩ hr
      rintro rfl
      exact Nat.not_lt_zero _ hr

/-! ## Whole transactions -/

theorem halted_enclosed {inside : List (Event Bus)} (ending : Option Stop)
    (h : ∀ event ∈ inside, Granted event) : Halted (enclosed inside) ending := by
  refine .smooth ending ?_
  rw [enclosed, List.forall_mem_cons, List.forall_mem_append, List.forall_mem_singleton]
  exact ⟨rfl, h, rfl⟩

theorem Announced.granted {offered : UInt8} {inside : List (Event Bus)}
    (h : Announced offered inside) : ∀ event ∈ inside, Granted event := by
  obtain ⟨-, opcode, reply, -, rfl⟩ := h
  rw [List.forall_mem_cons, List.forall_mem_singleton]
  exact ⟨(exchanged _ _).1, (exchanged _ _).1⟩

theorem Enclosing.halted {events : List (Event Bus)} {ending : Option Stop}
    (h : Enclosing Interior events ending) : Halted events ending := by
  cases h with
  | refused error =>
    change Halted ([] ++ _) _
    exact .begin (by simp) (blames_error error)
  | completed hi =>
    obtain ⟨hg, -⟩ | _ | _ := hi
    exact halted_enclosed none fun event h => (hg event h).1
  | unclosed error hi =>
    obtain ⟨hg, hn⟩ | _ | _ := hi
    change Halted ([] ++ _) _
    exact .finish (by simp) hg hn (blames_error error)
  | abandoned reply hi =>
    cases hi with
    | refused byte error hg =>
      rw [List.append_assoc]
      change Halted ([] ++ _) _
      exact .exchange reply (by simp) hg (blames_error error)
    | overrun ha hr =>
      cases reply with
      | ok _ => exact halted_enclosed _ ha.granted
      | error error =>
        change Halted ([] ++ _) _
        exact .overrun (by simp) ha hr

theorem halting_pause (span : Duration) :
    Concludes view Halted (pause span : Dialogue Bus ε Unit) := by
  intro events result ht
  obtain ⟨rfl, rfl⟩ := transcript_pause ht
  refine .smooth _ ?_
  rw [List.forall_mem_singleton]
  exact True.intro

/-! ## The first failed call -/

theorem not_granted {event : Event Bus} {error : Error} (h : failure? event = some error) :
    ¬Granted event := by
  intro hg
  rw [hg.failure?_eq_none] at h
  cases h

/-- A list of calls has one first call that failed. -/
theorem first_failure {before others after rest : List (Event Bus)} {event other : Event Bus}
    (hb : ∀ event ∈ before, Granted event) (ho : ∀ event ∈ others, Granted event)
    (he : ¬Granted event) (hf : ¬Granted other)
    (h : before ++ event :: after = others ++ other :: rest) :
    before = others ∧ event = other ∧ after = rest := by
  induction before generalizing others with
  | nil =>
    cases others with
    | nil =>
      cases h
      exact ⟨rfl, rfl, rfl⟩
    | cons call others =>
      cases h
      exact (he (ho event List.mem_cons_self)).elim
  | cons call before ih =>
    obtain ⟨hc, hb⟩ := List.forall_mem_cons.1 hb
    cases others with
    | nil =>
      cases h
      exact (hf hc).elim
    | cons call others =>
      obtain ⟨rfl, ht⟩ := List.cons.inj h
      obtain ⟨rfl, hr⟩ := ih hb (List.forall_mem_cons.1 ho).2 ht
      exact ⟨rfl, hr⟩

/-- A transaction is open after these calls. -/
def Within (events : List (Event Bus)) : Prop :=
  ∃ earlier inside, events = earlier ++ ⟨.begin, .ok ()⟩ :: inside ∧ ∀ event ∈ inside, Inner event

/-- The open transaction was announced a chunk of `offered` bytes, of which none was moved. -/
def Overruns (offered : UInt8) (events : List (Event Bus)) : Prop :=
  ∃ earlier inside, events = earlier ++ ⟨.begin, .ok ()⟩ :: inside ∧ Announced offered inside

theorem Announced.inner {offered : UInt8} {inside : List (Event Bus)}
    (h : Announced offered inside) : ∀ event ∈ inside, Inner event := by
  obtain ⟨-, opcode, reply, -, rfl⟩ := h
  rw [List.forall_mem_cons, List.forall_mem_singleton]
  exact ⟨(exchanged _ _).2, (exchanged _ _).2⟩

/-- What stands inside the open transaction is all that follows the last begin. -/
theorem inside_unique {earlier others inside rest : List (Event Bus)}
    (hi : ∀ event ∈ inside, Inner event) (hr : ∀ event ∈ rest, Inner event)
    (h : earlier ++ ⟨.begin, .ok ()⟩ :: inside = others ++ ⟨.begin, .ok ()⟩ :: rest) :
    inside = rest := by
  rcases List.append_eq_append_iff.1 h with ⟨gap, -, hg⟩ | ⟨gap, -, hg⟩
  · cases gap with
    | nil => exact (List.cons.inj hg).2
    | cons call gap =>
      obtain ⟨-, rfl⟩ := List.cons.inj hg
      exact (hi ⟨.begin, .ok ()⟩ (by simp)).elim
  · cases gap with
    | nil => exact (List.cons.inj hg).2.symm
    | cons call gap =>
      obtain ⟨-, rfl⟩ := List.cons.inj hg
      exact (hr ⟨.begin, .ok ()⟩ (by simp)).elim

theorem Overruns.announced {offered : UInt8} {earlier inside : List (Event Bus)}
    (h : Overruns offered (earlier ++ ⟨.begin, .ok ()⟩ :: inside))
    (hi : ∀ event ∈ inside, Inner event) : Announced offered inside := by
  obtain ⟨others, rest, he, ha⟩ := h
  rw [inside_unique hi ha.inner he]
  exact ha

theorem Announced.unique {offered other : UInt8} {inside : List (Event Bus)}
    (h : Announced offered inside) (ho : Announced other inside) : offered = other := by
  obtain ⟨-, _, _, -, rfl⟩ := h
  obtain ⟨-, _, _, -, he⟩ := ho
  cases he
  rfl

theorem granted_open {earlier inside : List (Event Bus)} (he : ∀ event ∈ earlier, Granted event)
    (hi : ∀ event ∈ inside, Granted event) :
    ∀ event ∈ earlier ++ ⟨.begin, .ok ()⟩ :: inside, Granted event := by
  rw [List.forall_mem_append, List.forall_mem_cons]
  exact ⟨he, rfl, hi⟩

theorem open_append (earlier inside : List (Event Bus)) (event : Event Bus)
    (after : List (Event Bus)) :
    earlier ++ ⟨.begin, .ok ()⟩ :: (inside ++ event :: after) =
      (earlier ++ ⟨.begin, .ok ()⟩ :: inside) ++ event :: after := by
  rw [List.append_assoc, List.cons_append]

/-- What follows the first failed call, and how the operation ends. -/
theorem Halted.after_failure {events before after : List (Event Bus)} {event : Event Bus}
    {error : Error} {ending : Option Stop} (h : Halted events ending)
    (he : events = before ++ event :: after) (hb : ∀ event ∈ before, Granted event)
    (hf : failure? event = some error) :
    (after = [] ∨ ∃ reply, after = [⟨.finish, reply⟩]) ∧
    (after ≠ [] ↔ (∃ byte, event.request = .exchange byte) ∧ Within before) ∧
    (∀ offered, event.request = .finish → Overruns offered before →
      ∃ remaining, remaining < offered.toNat ∧
        ending = some (.error (Drive.overrun offered.toNat remaining))) ∧
    ((∀ offered, event.request = .finish → ¬Overruns offered before) →
      (∀ command status, error ≠ .unexpectedStatus command status) →
      ending = some (.error error)) := by
  have hn := not_granted hf
  cases h with
  | smooth _ hg =>
    subst he
    exact (hn (hg event (by simp))).elim
  | begin hg hs =>
    obtain ⟨rfl, rfl, rfl⟩ := first_failure hg hb (not_granted rfl) hn he
    cases hf
    exact ⟨.inl rfl, by simp, nofun, fun _ hu => congrArg some (hs hu)⟩
  | poll hg hs =>
    obtain ⟨rfl, rfl, rfl⟩ := first_failure hg hb (not_granted rfl) hn he
    cases hf
    exact ⟨.inl rfl, by simp, nofun, fun _ hu => congrArg some (hs hu)⟩
  | exchange reply hg hi hs =>
    rw [open_append] at he
    obtain ⟨rfl, rfl, rfl⟩ :=
      first_failure (granted_open hg fun e h => (hi e h).1) hb (not_granted rfl) hn he
    cases hf
    refine ⟨.inr ⟨reply, rfl⟩, iff_of_true nofun ⟨⟨_, rfl⟩, ?_⟩, nofun,
      fun _ hu => congrArg some (hs hu)⟩
    exact ⟨_, _, rfl, fun e h => (hi e h).2⟩
  | finish hg hi ha hs =>
    rw [open_append] at he
    obtain ⟨rfl, rfl, rfl⟩ :=
      first_failure (granted_open hg fun e h => (hi e h).1) hb (not_granted rfl) hn he
    cases hf
    refine ⟨.inl rfl, by simp, ?_, fun _ hu => congrArg some (hs hu)⟩
    intro offered _ ho
    exact (ha offered (ho.announced fun e h => (hi e h).2)).elim
  | overrun hg ha hr =>
    rw [open_append] at he
    obtain ⟨rfl, rfl, rfl⟩ := first_failure (granted_open hg ha.granted) hb (not_granted rfl) hn he
    cases hf
    refine ⟨.inl rfl, by simp, ?_, ?_⟩
    · intro offered _ ho
      obtain rfl := ha.unique (ho.announced ha.inner)
      exact ⟨_, hr, rfl⟩
    · intro ho
      exact (ho _ rfl ⟨_, _, rfl, ha⟩).elim

end Bus

end DiskBridge
