import DiskBridge.Proofs.CommandEndings
import DiskBridge.Proofs.Transactions
import Mathlib.Algebra.GroupWithZero.Nat

/-!
# Chunks among the transactions

A chunked transfer is read off its transactions. Each that moves a chunk shows a length, which the
chip announced, and the bytes that followed it (`Parcel`). The bytes of a transfer are those of its
parcels, in order (`cargo`).

1. What a drive does between the chunks moves none, and does not blame one (`Idle`).
2. `Conveys` says how a transfer of at most `room` bytes goes, whatever the chip announces: chunks
   are moved whole, one after the other, until the transfer ends, is cut short by a failure, or
   refuses a chunk that is larger than what is left.
3. It is kept along sequences (`Conveys.append`, `Conveying.bind`), so it is enough to look at
   single transactions (`conveying_bracket`).

`Conveys.handled` reads off what became of any one chunk, and `Conveys.overrun_iff` when a transfer
is ended by one.
-/

namespace DiskBridge.Bus

open Dialogue

/-! ## Parcels -/

/-- A chunk as its transaction shows it. -/
structure Parcel where
  announced : UInt8
  moved : List UInt8
  deriving DecidableEq

/-- The chunk in a transaction of `command` whose length was announced. Its bytes stand on one side
of the exchanges that follow. -/
def parcel? (command : Command) (side : UInt8 × UInt8 → UInt8) : Block → Option Parcel
  | (opcode, _) :: (_, announced) :: data =>
    if opcode = command.opcode then some ⟨announced, data.map side⟩ else none
  | _ => none

/-- The chunk that a transaction brings from the chip. -/
abbrev fetched? : Block → Option Parcel := parcel? .readBuffer Prod.snd

/-- The chunk that a transaction hands to the chip. -/
abbrev handed? : Block → Option Parcel := parcel? .writeBuffer Prod.fst

/-- The bytes of some chunks. -/
def cargo (parcels : List Parcel) : List UInt8 := parcels.flatMap Parcel.moved

theorem cargo_append (before after : List Parcel) :
    cargo (before ++ after) = cargo before ++ cargo after := List.flatMap_append

theorem parcel?_of_command {command : Command} {side : UInt8 × UInt8 → UInt8} {block : Block}
    (h : command? block ≠ some command) : parcel? command side block = none := by
  unfold parcel?
  split
  · rw [if_neg]
    rintro rfl
    exact h (Command.ofOpcode?_opcode command)
  · rfl

theorem command?_of_parcel? {command : Command} {side : UInt8 × UInt8 → UInt8} {block : Block}
    {parcel : Parcel} (h : parcel? command side block = some parcel) :
    command? block = some command := by
  refine Decidable.byContradiction fun hc => ?_
  rw [parcel?_of_command hc] at h
  cases h

theorem parcel?_announced (command : Command) (side : UInt8 × UInt8 → UInt8)
    (reply announced : UInt8) (rest : List (Event Bus)) :
    parcel? command side (List.filterMap exchanged?
      (⟨.exchange command.opcode, .ok reply⟩ :: ⟨.exchange 0x00, .ok announced⟩ :: rest)) =
      some ⟨announced, (rest.filterMap exchanged?).map side⟩ := by
  change (if command.opcode = command.opcode then _ else none) = _
  rw [if_pos rfl]

/-! ## Between the chunks -/

/-- No call failed by the fault of a chunk. -/
def Calm (events : List (Event Bus)) : Prop :=
  ∀ event ∈ events, ∀ fault, failure? event ≠ some (.stream fault)

/-- Whether an error is the fault of a chunk. -/
def isFault : Error → Bool
  | .stream _ => true
  | _ => false

instance (events : List (Event Bus)) : Decidable (Calm events) :=
  decidable_of_iff (∀ event ∈ events, (failure? event).all fun error => !isFault error) <| by
    refine forall₂_congr fun event _ => ?_
    cases hf : failure? event with
    | none => simp
    | some error => cases error <;> simp [isFault]

theorem calm_append_iff {before after : List (Event Bus)} :
    Calm (before ++ after) ↔ Calm before ∧ Calm after := List.forall_mem_append

theorem Calm.ordinary {events : List (Event Bus)} (h : Calm events) {event : Event Bus}
    {error : Error} (he : event ∈ events) (hf : failure? event = some error) :
    Ordinary (some (.error error)) := by
  rintro fault ⟨⟩
  exact h event he fault hf

theorem Plain.ordinary {events : List (Event Bus)} {ending : Option Stop} (h : Plain events ending)
    (hc : Calm events) : Ordinary ending := by
  cases h with
  | whole => exact nofun
  | @refused before byte error =>
    have he : ⟨.exchange byte, .error error⟩ ∈ before ++ [⟨.exchange byte, .error error⟩] :=
      List.mem_append_right _ List.mem_cons_self
    exact hc.ordinary he rfl

/-- A conversation that moves no chunk, and does not end by the fault of one. -/
def Idle (events : List (Event Bus)) (ending : Option Stop) : Prop :=
  Calm events → Bracketed events ∧
    (∀ block ∈ transactions events, ∀ command, command? block = some command →
      ¬MovesChunk command.opcode) ∧ Ordinary ending

theorem Plain.eq_nil_of_error {byte : UInt8} {error : Error} {rest : List (Event Bus)}
    {ending : Option Stop} (h : Plain (⟨.exchange byte, .error error⟩ :: rest) ending) :
    rest = [] := by
  generalize hs : (⟨.exchange byte, .error error⟩ :: rest : List (Event Bus)) = all at h
  have hn : ¬Granted ⟨.exchange byte, .error error⟩ := not_granted rfl
  cases h with
  | whole hg =>
    subst hs
    exact (hn (hg _ List.mem_cons_self).1).elim
  | @refused before _ _ hg =>
    cases before with
    | nil => exact (List.cons.inj hs).2
    | cons event before =>
      cases hs
      exact (hn (hg _ List.mem_cons_self).1).elim

/-- A transaction that begins with a command is one of that command, if of any. -/
theorem Opened.command?_eq {command other : Command} {inside : List (Event Bus)}
    {ending : Option Stop} (h : Opened command inside ending)
    (hc : command? (inside.filterMap exchanged?) = some other) : other = command := by
  obtain ⟨hp, -, reply, rest, rfl⟩ := h
  cases reply with
  | error error =>
    cases hp.eq_nil_of_error
    cases hc
  | ok answer =>
    have ho : command? ((command.opcode, answer) :: rest.filterMap exchanged?) = some command :=
      Command.ofOpcode?_opcode command
    exact Option.some.inj (hc.symm.trans ho)

/-- A whole transaction that begins with a command, however it ends. -/
theorem Opened.idle {command : Command} {inside : List (Event Bus)} {ending : Option Stop}
    (h : Opened command inside ending) (hm : ¬MovesChunk command.opcode)
    (reply : Except Error Unit) :
    let events := ⟨.begin, .ok ()⟩ :: (inside ++ [⟨.finish, reply⟩])
    Bracketed events ∧ ∀ block ∈ transactions events, ∀ command, command? block = some command →
      ¬MovesChunk command.opcode := by
  intro events
  refine ⟨.block reply h.2.1 .nil, ?_⟩
  rw [transactions_block h.2.1, List.forall_mem_singleton]
  intro other ho
  rwa [h.command?_eq ho]

theorem idles : Operational Idle where
  nil _ := ⟨.nil, nofun, nofun⟩
  append := by
    intro before after ending hb ha hc
    obtain ⟨hcb, hca⟩ := calm_append_iff.1 hc
    obtain ⟨hb, hbc, -⟩ := hb hcb
    obtain ⟨ha, hac, ho⟩ := ha hca
    rw [transactions_append hb, List.forall_mem_append]
    exact ⟨hb.append ha, ⟨hbc, hac⟩, ho⟩
  stop ho _ := ⟨.nil, nofun, ho⟩
  poll reply hc := by
    refine ⟨.poll reply .nil, nofun, ?_⟩
    cases reply with
    | ok raised => exact nofun
    | error error => exact hc.ordinary List.mem_cons_self rfl
  transaction := by
    intro command events ending hm h hc
    cases h with
    | refused error =>
      exact ⟨.refused error .nil, nofun, hc.ordinary List.mem_cons_self rfl⟩
    | completed ho =>
      obtain ⟨hb, hn⟩ := ho.idle hm (.ok ())
      exact ⟨hb, hn, nofun⟩
    | @unclosed inside error ho =>
      obtain ⟨hb, hn⟩ := ho.idle hm (.error error)
      have he : ⟨.finish, .error error⟩ ∈
          (⟨.begin, .ok ()⟩ : Event Bus) :: (inside ++ [⟨.finish, .error error⟩]) := by simp
      exact ⟨hb, hn, hc.ordinary he rfl⟩
    | @abandoned inside _ reply ho =>
      obtain ⟨hb, hn⟩ := ho.idle hm reply
      refine ⟨hb, hn, ho.1.ordinary fun event he => hc event ?_⟩
      exact List.mem_cons_of_mem _ (List.mem_append_left _ he)

/-! ## Chunk after chunk -/

section Conveys

variable {command : Command} {side : UInt8 × UInt8 → UInt8}

/-- How a transfer of at most `room` bytes goes and ends. -/
inductive Conveys (command : Command) (side : UInt8 × UInt8 → UInt8) :
    Nat → List Block → Option Stop → Prop
  | ended {room : Nat} {ending : Option Stop} :
      Ordinary ending → Conveys command side room [] ending
  | other {room : Nat} {block : Block} {blocks : List Block} {ending : Option Stop} :
      command? block ≠ some command → Conveys command side room blocks ending →
        Conveys command side room (block :: blocks) ending
  | whole {room : Nat} {block : Block} {blocks : List Block} {ending : Option Stop}
      {parcel : Parcel} :
      parcel? command side block = some parcel →
        parcel.moved.length = parcel.announced.toNat → parcel.announced.toNat ≤ room →
        Conveys command side (room - parcel.moved.length) blocks ending →
        Conveys command side room (block :: blocks) ending
  | cut {room : Nat} {block : Block} {stop : Stop} :
      (∀ parcel, parcel? command side block = some parcel →
        parcel.announced.toNat ≤ room ∧ parcel.moved.length ≤ parcel.announced.toNat) →
        Ordinary (some stop) → Conveys command side room [block] (some stop)
  | overrun {room : Nat} {block : Block} {announced : UInt8} :
      parcel? command side block = some ⟨announced, []⟩ → room < announced.toNat →
        Conveys command side room [block]
          (some (.error (Drive.overrun announced.toNat room)))

theorem conveys_of_others {room : Nat} {blocks : List Block} {ending : Option Stop}
    (h : ∀ block ∈ blocks, command? block ≠ some command) (ho : Ordinary ending) :
    Conveys command side room blocks ending := by
  induction blocks with
  | nil => exact .ended ho
  | cons block blocks ih =>
    obtain ⟨hb, h⟩ := List.forall_mem_cons.1 h
    exact .other hb (ih h)

/-- A transfer goes on with the room that the chunks so far have left. -/
theorem Conveys.append {room : Nat} {before after : List Block} {ending : Option Stop}
    (hb : Conveys command side room before none)
    (ha : Conveys command side (room - (cargo (before.filterMap (parcel? command side))).length)
      after ending) :
    Conveys command side room (before ++ after) ending := by
  generalize hn : (none : Option Stop) = first at hb
  induction hb with
  | ended => exact ha
  | other hc _ ih =>
    rw [List.filterMap_cons_none (parcel?_of_command hc)] at ha
    exact .other hc (ih ha hn)
  | whole hp hl hr _ ih =>
    rw [List.filterMap_cons_some hp, cargo, List.flatMap_cons, List.length_append,
      ← Nat.sub_sub] at ha
    exact .whole hp hl hr (ih ha hn)
  | cut | overrun => cases hn

theorem Conveys.length_le {room : Nat} {blocks : List Block} {ending : Option Stop}
    (h : Conveys command side room blocks ending) :
    (cargo (blocks.filterMap (parcel? command side))).length ≤ room := by
  induction h with
  | ended => exact Nat.zero_le _
  | other hc _ ih => rwa [List.filterMap_cons_none (parcel?_of_command hc)]
  | @whole room _ _ _ parcel hp hl hr _ ih =>
    rw [List.filterMap_cons_some hp, cargo, List.flatMap_cons, List.length_append]
    unfold cargo at ih
    omega
  | @cut room block _ hp _ =>
    cases hb : parcel? command side block with
    | none =>
      rw [List.filterMap_cons_none hb]
      exact Nat.zero_le _
    | some parcel =>
      obtain ⟨hr, hl⟩ := hp parcel hb
      rw [List.filterMap_cons_some hb, cargo, List.flatMap_cons]
      simpa using Nat.le_trans hl hr
  | overrun hp _ =>
    rw [List.filterMap_cons_some hp]
    exact Nat.zero_le _

/-- What becomes of a chunk when `left` bytes are to go: it is moved, whole unless the transfer ends
with it, or it is refused and ends the transfer. -/
inductive Handled (left : Nat) (parcel : Parcel) (after : List Block) (ending : Option Stop) : Prop
  | accepted : parcel.announced.toNat ≤ left → parcel.moved.length ≤ parcel.announced.toNat →
      (after ≠ [] ∨ ending = none → parcel.moved.length = parcel.announced.toNat) →
      (after = [] → Ordinary ending) → Handled left parcel after ending
  | refused : left < parcel.announced.toNat → parcel.moved = [] → after = [] →
      ending = some (.error (Drive.overrun parcel.announced.toNat left)) →
      Handled left parcel after ending

theorem Conveys.ordinary {room : Nat} {ending : Option Stop}
    (h : Conveys command side room [] ending) : Ordinary ending := by
  cases h with
  | ended ho => exact ho

/-- A transfer of one chunk. -/
theorem Handled.conveys {room : Nat} {block : Block} {parcel : Parcel} {ending : Option Stop}
    (h : Handled room parcel [] ending) (hp : parcel? command side block = some parcel) :
    Conveys command side room [block] ending := by
  obtain ⟨announced, moved⟩ := parcel
  cases h with
  | accepted hr hl hw ho =>
    cases ending with
    | none => exact .whole hp (hw (.inr rfl)) hr (.ended nofun)
    | some stop =>
      refine .cut (fun parcel h => ?_) (ho rfl)
      cases hp.symm.trans h
      exact ⟨hr, hl⟩
  | refused hr hm _ he =>
    cases hm
    rw [he]
    exact .overrun hp hr

theorem Conveys.handled {room : Nat} {before after : List Block} {block : Block}
    {ending : Option Stop} {parcel : Parcel}
    (h : Conveys command side room (before ++ block :: after) ending)
    (hp : parcel? command side block = some parcel) :
    (cargo (before.filterMap (parcel? command side))).length ≤ room ∧
      Handled (room - (cargo (before.filterMap (parcel? command side))).length) parcel after
        ending := by
  generalize hs : before ++ block :: after = blocks at h
  induction h generalizing before with
  | ended => cases (List.append_eq_nil_iff.1 hs).2
  | other hc _ ih =>
    cases before with
    | nil =>
      cases hs
      exact (hc (command?_of_parcel? hp)).elim
    | cons first before =>
      cases hs
      rw [List.filterMap_cons_none (parcel?_of_command hc)]
      exact ih rfl
  | @whole room _ _ _ moved hm hl hr hc ih =>
    cases before with
    | nil =>
      cases hs
      cases hp.symm.trans hm
      refine ⟨Nat.zero_le _, .accepted hr (Nat.le_of_eq hl) (fun _ => hl) ?_⟩
      rintro rfl
      exact hc.ordinary
    | cons first before =>
      cases hs
      obtain ⟨hg, hh⟩ := ih rfl
      rw [List.filterMap_cons_some hm, cargo, List.flatMap_cons, List.length_append,
        ← Nat.sub_sub]
      refine ⟨?_, hh⟩
      unfold cargo at hg
      omega
  | cut hc ho =>
    obtain ⟨rfl, he⟩ | ⟨first, rfl, he⟩ := List.append_eq_cons_iff.1 hs
    · cases he
      obtain ⟨hr, hl⟩ := hc parcel hp
      exact ⟨Nat.zero_le _, .accepted hr hl nofun fun _ => ho⟩
    · cases (List.append_eq_nil_iff.1 he.symm).2
  | overrun hc hr =>
    obtain ⟨rfl, he⟩ | ⟨first, rfl, he⟩ := List.append_eq_cons_iff.1 hs
    · cases he
      cases hp.symm.trans hc
      exact ⟨Nat.zero_le _, .refused hr rfl rfl rfl⟩
    · cases (List.append_eq_nil_iff.1 he.symm).2

theorem Conveys.exists_overrun {room : Nat} {blocks : List Block} {fault : StreamError}
    (h : Conveys command side room blocks (some (.error (.stream fault)))) :
    ∃ before block announced, blocks = before ++ [block] ∧
      parcel? command side block = some ⟨announced, []⟩ ∧
      room - (cargo (before.filterMap (parcel? command side))).length < announced.toNat ∧
      Error.stream fault = Drive.overrun announced.toNat
        (room - (cargo (before.filterMap (parcel? command side))).length) := by
  generalize he : some (Stop.error (.stream fault)) = ending at h
  induction h with
  | ended ho => exact (ho fault he.symm).elim
  | @other _ first _ _ hc _ ih =>
    obtain ⟨before, block, announced, rfl, hp, hr, hf⟩ := ih he
    refine ⟨first :: before, block, announced, rfl, hp, ?_⟩
    rw [List.filterMap_cons_none (parcel?_of_command hc)]
    exact ⟨hr, hf⟩
  | @whole _ first _ _ _ hm hl _ _ ih =>
    obtain ⟨before, block, announced, rfl, hp, hr, hf⟩ := ih he
    refine ⟨first :: before, block, announced, rfl, hp, ?_⟩
    rw [List.filterMap_cons_some hm, cargo, List.flatMap_cons, List.length_append, ← Nat.sub_sub]
    exact ⟨hr, hf⟩
  | cut _ ho => exact (ho fault he.symm).elim
  | @overrun _ block announced hp hr =>
    cases he
    exact ⟨[], block, announced, rfl, hp, hr, rfl⟩

theorem overrun_eq_iff {announced : UInt8} {left : Nat} (h : left < announced.toNat)
    (offered remaining : UInt64) :
    Drive.overrun announced.toNat left = .stream (.chunkOverrun offered remaining) ↔
      offered.toNat = announced.toNat ∧ remaining.toNat = left := by
  have ha := announced.toNat_lt
  have ho : (UInt64.ofNat announced.toNat).toNat = announced.toNat := by
    rw [UInt64.toNat_ofNat']
    omega
  have hl : (UInt64.ofNat left).toNat = left := by
    rw [UInt64.toNat_ofNat']
    omega
  simp only [Drive.overrun, Error.stream.injEq, StreamError.chunkOverrun.injEq,
    ← UInt64.toNat_inj, ho, hl]
  exact and_congr eq_comm eq_comm

/-- A transfer is ended by a chunk exactly if one was announced that is larger than what was left,
and it reports the two numbers. -/
theorem Conveys.overrun_iff {room : Nat} {blocks : List Block} {ending : Option Stop}
    (h : Conveys command side room blocks ending) (offered remaining : UInt64) :
    ending = some (.error (.stream (.chunkOverrun offered remaining))) ↔
      ∃ before block after parcel, blocks = before ++ block :: after ∧
        parcel? command side block = some parcel ∧
        room - (cargo (before.filterMap (parcel? command side))).length <
          parcel.announced.toNat ∧
        offered.toNat = parcel.announced.toNat ∧
        remaining.toNat = room - (cargo (before.filterMap (parcel? command side))).length := by
  constructor
  · rintro rfl
    obtain ⟨before, block, announced, rfl, hp, hr, he⟩ := h.exists_overrun
    exact ⟨before, block, [], _, rfl, hp, hr, (overrun_eq_iff hr _ _).1 he.symm⟩
  · rintro ⟨before, block, after, parcel, rfl, hp, hr, he⟩
    obtain ⟨-, hh⟩ := h.handled hp
    cases hh with
    | accepted ha => exact (Nat.not_lt.2 ha hr).elim
    | refused _ _ _ hs => rw [hs, (overrun_eq_iff hr _ _).2 he]

/-- The chunks of a transfer that ended with a value are as long as they were announced. -/
theorem Conveys.sum_announced {room : Nat} {blocks : List Block}
    (h : Conveys command side room blocks none) :
    ((blocks.filterMap (parcel? command side)).map (·.announced.toNat)).sum =
      (cargo (blocks.filterMap (parcel? command side))).length := by
  rw [cargo, List.length_flatMap]
  refine congrArg List.sum (List.map_congr_left fun parcel hm => ?_)
  obtain ⟨block, hb, hp⟩ := List.mem_filterMap.1 hm
  obtain ⟨before, after, rfl⟩ := List.append_of_mem hb
  obtain ⟨-, hh⟩ := h.handled hp
  cases hh with
  | accepted _ _ hl => exact (hl (.inr rfl)).symm
  | refused _ _ _ hs => cases hs

/-- Each transaction of the command moved a chunk then. -/
theorem Conveys.countP_command {room : Nat} {blocks : List Block}
    (h : Conveys command side room blocks none) :
    blocks.countP (fun block => command? block = some command) =
      (blocks.filterMap (parcel? command side)).length := by
  generalize hn : (none : Option Stop) = ending at h
  induction h with
  | ended => rfl
  | other hc _ ih =>
    rw [List.filterMap_cons_none (parcel?_of_command hc),
      List.countP_cons_of_neg (by simpa using hc)]
    exact ih hn
  | whole hp _ _ _ ih =>
    rw [List.filterMap_cons_some hp,
      List.countP_cons_of_pos (by simpa using command?_of_parcel? hp), ih hn, List.length_cons]
  | cut | overrun => cases hn

end Conveys

/-! ## Dialogues that move chunks -/

section Conveying

variable {command : Command} {side : UInt8 × UInt8 → UInt8} {ε δ α β : Type} {view : ε → Stop}

/-- Each conversation conveys at most `room` bytes, and `P` holds of how it ends and of its
chunks. -/
def Conveying (command : Command) (side : UInt8 × UInt8 → UInt8) (view : ε → Stop) (room : Nat)
    (P : Except ε α → List Parcel → Prop) (dialogue : Dialogue Bus ε α) : Prop :=
  ∀ events result, Transcript dialogue events result → Calm events →
    Bracketed events ∧ Conveys command side room (transactions events) (ended view result) ∧
      P result ((transactions events).filterMap (parcel? command side))

variable {room : Nat} {P : Except ε α → List Parcel → Prop} {Q : Except ε β → List Parcel → Prop}

theorem Conveying.imp {Q : Except ε α → List Parcel → Prop} {dialogue : Dialogue Bus ε α}
    (h : Conveying command side view room P dialogue)
    (hi : ∀ result parcels, P result parcels → Q result parcels) :
    Conveying command side view room Q dialogue := by
  intro events result ht hc
  obtain ⟨hb, hv, hp⟩ := h events result ht hc
  exact ⟨hb, hv, hi result _ hp⟩

theorem conveying_done {value : α} (h : P (.ok value) []) :
    Conveying command side view room P (done value) := by
  rintro _ _ ⟨⟩ _
  exact ⟨.nil, .ended nofun, h⟩

theorem conveying_failed {cause : ε} (ho : Ordinary (some (view cause))) (h : P (.error cause) []) :
    Conveying command side view room P (failed cause) := by
  rintro _ _ ⟨⟩ _
  exact ⟨.nil, .ended ho, h⟩

theorem conveying_say_bind {level : Level} {text : String} {next : Unit → Dialogue Bus ε α}
    (h : Conveying command side view room P (next ())) :
    Conveying command side view room P (say level text >>= next) := by
  intro events result ht
  obtain _ | _ | ht := ht
  exact h events result ht

theorem Conveying.mapFailure {other : δ → Stop} {restate : ε → δ}
    {Q : Except δ α → List Parcel → Prop} {dialogue : Dialogue Bus ε α}
    (h : Conveying command side view room P dialogue)
    (hv : ∀ cause, other (restate cause) = view cause)
    (hq : ∀ result parcels, P result parcels → Q (result.mapError restate) parcels) :
    Conveying command side other room Q (dialogue.mapFailure restate) := by
  intro events result ht hc
  obtain ⟨ending, rfl, hd⟩ := transcript_mapFailure ht
  obtain ⟨hb, hs, hp⟩ := h events ending hd hc
  rw [ended_mapError hv]
  exact ⟨hb, hs, hq ending _ hp⟩

/-- What follows some chunks conveys what they have left. -/
theorem Conveying.bind {first : Dialogue Bus ε α} {next : α → Dialogue Bus ε β}
    (hf : Conveying command side view room P first)
    (he : ∀ cause parcels, P (.error cause) parcels → Q (.error cause) parcels)
    (hn : ∀ value parcels, P (.ok value) parcels →
      Conveying command side view (room - (cargo parcels).length)
        (fun result more => Q result (parcels ++ more)) (next value)) :
    Conveying command side view room Q (first >>= next) := by
  intro events result ht hc
  rcases transcript_bind ht with ⟨cause, rfl, hb⟩ | ⟨value, before, after, rfl, hb, ha⟩
  · obtain ⟨hb, hs, hp⟩ := hf _ _ hb hc
    exact ⟨hb, hs, he cause _ hp⟩
  · obtain ⟨hcb, hca⟩ := calm_append_iff.1 hc
    obtain ⟨hb, hs, hp⟩ := hf _ _ hb hcb
    obtain ⟨ha, hs', hq⟩ := hn value _ hp _ _ ha hca
    rw [transactions_append hb, List.filterMap_append]
    exact ⟨hb.append ha, hs.append hs', hq⟩

theorem conveying_of_idle (hm : MovesChunk command.opcode) {dialogue : Dialogue Bus ε α}
    (h : Concludes view Idle dialogue) :
    Conveying command side view room (fun _ parcels => parcels = []) dialogue := by
  intro events result ht hc
  obtain ⟨hb, hn, ho⟩ := h events result ht hc
  have hn : ∀ block ∈ transactions events, command? block ≠ some command :=
    fun block hb he => hn block hb command he hm
  refine ⟨hb, conveys_of_others hn ho, List.filterMap_eq_nil_iff.2 fun block hb => ?_⟩
  exact parcel?_of_command (hn block hb)

/-- What moves no chunk leaves the room as it is. -/
theorem Conveying.after (hm : MovesChunk command.opcode) {first : Dialogue Bus ε α}
    {next : α → Dialogue Bus ε β} (hf : Concludes view Idle first)
    (he : ∀ cause, Q (.error cause) [])
    (hn : ∀ value, Conveying command side view room Q (next value)) :
    Conveying command side view room Q (first >>= next) := by
  refine (conveying_of_idle hm hf).bind ?_ ?_
  · rintro cause _ rfl
    exact he cause
  · rintro value _ rfl
    exact hn value

/-- Inside a transaction that moves a chunk, what follows the announcement handles it. -/
theorem conveys_chunk {restate : Error → ε} {asked : Dialogue Bus ε Unit}
    {answered : Dialogue Bus ε UInt8} {next : UInt8 → Dialogue Bus ε α} {inside : List (Event Bus)}
    {result : Except ε α} (ha : Asks restate command.opcode (fun _ => ()) asked)
    (hb : Asks restate 0x00 id answered) (hv : ∀ error, view (restate error) = .error error)
    (he : ∀ error, P (.error (restate error)) [])
    (hn : ∀ announced rest result, Transcript (next announced) rest result → Calm rest →
      Handled room ⟨announced, (rest.filterMap exchanged?).map side⟩ [] (ended view result) ∧
        P result [⟨announced, (rest.filterMap exchanged?).map side⟩])
    (ht : Transcript (asked >>= fun _ => answered >>= next) inside result) (hc : Calm inside) :
    Conveys command side room [inside.filterMap exchanged?] (ended view result) ∧
      P result ([inside.filterMap exchanged?].filterMap (parcel? command side)) := by
  rcases transcript_chunk ha hb ht with
    ⟨error, rfl, rfl | ⟨reply, rfl⟩⟩ | ⟨reply, announced, rest, rfl, hd⟩
  · refine ⟨.cut nofun ?_, he error⟩
    rw [hv]
    exact hc.ordinary List.mem_cons_self rfl
  · refine ⟨.cut nofun ?_, he error⟩
    rw [hv]
    exact hc.ordinary (List.mem_cons_of_mem _ List.mem_cons_self) rfl
  · have hp := parcel?_announced command side reply announced rest
    obtain ⟨hh, hq⟩ := hn announced rest result hd fun event h =>
      hc event (List.mem_cons_of_mem _ (List.mem_cons_of_mem _ h))
    refine ⟨hh.conveys hp, ?_⟩
    rw [List.filterMap_cons_some hp]
    exact hq

/-- A transaction conveys what the dialogue in it does. Its end may fail after that. -/
theorem conveying_bracket {early : Error → ε} {late : α → Error → ε} {body : Dialogue Bus ε α}
    (hc : Confined body) (he : ∀ error, view (early error) = .error error)
    (hl : ∀ value error, view (late value error) = .error error)
    (hb : ∀ inside result, Transcript body inside result → Calm inside →
      Conveys command side room [inside.filterMap exchanged?] (ended view result) ∧
        P result ([inside.filterMap exchanged?].filterMap (parcel? command side)))
    (hr : ∀ error, P (.error (early error)) [])
    (hp : ∀ value error parcels, P (.ok value) parcels → P (.error (late value error)) parcels) :
    Conveying command side view room P (bracket early late body) := by
  intro events result ht hcalm
  rcases transcript_bracket ht with
    ⟨error, rfl, rfl⟩ | ⟨inside, reply, rfl, ⟨value, hi, rfl⟩ | ⟨cause, hi, rfl⟩⟩
  · refine ⟨.refused error .nil, .ended ?_, hr error⟩
    rw [ended, he]
    exact hcalm.ordinary List.mem_cons_self rfl
  · have hinner := hc _ _ hi
    obtain ⟨-, hcalm⟩ := List.forall_mem_cons.1 hcalm
    obtain ⟨hcalm, hfin⟩ := calm_append_iff.1 hcalm
    obtain ⟨hs, hv⟩ := hb _ _ hi hcalm
    rw [transactions_block hinner]
    cases reply with
    | ok _ => exact ⟨.block _ hinner .nil, hs, hv⟩
    | error error =>
      refine ⟨.block _ hinner .nil, ?_, hp value error _ hv⟩
      change Conveys command side room _ (some (view (late value error)))
      rw [hl, ← List.append_nil [inside.filterMap exchanged?]]
      exact hs.append (.ended (hfin.ordinary List.mem_cons_self rfl))
  · have hinner := hc _ _ hi
    obtain ⟨-, hcalm⟩ := List.forall_mem_cons.1 hcalm
    rw [transactions_block hinner]
    exact ⟨.block _ hinner .nil, hb _ _ hi (calm_append_iff.1 hcalm).1⟩

end Conveying

end DiskBridge.Bus
