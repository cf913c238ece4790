import DiskBridge.Proofs.GrantedCalls

/-!
# Transactions as bytes

`transactions` reads the transactions off the calls on a bus, as the bytes that went both ways. Over
calls that are bracketed it goes piece by piece (`transactions_append`). A transaction names its
command by the first byte (`command?`), and one kind of transaction reads a status (`status?`).
-/

namespace DiskBridge.Bus

/-- The bytes of a transaction, each with the byte received for it. -/
abbrev Block := List (UInt8 × UInt8)

def exchanged? : Event Bus → Option (UInt8 × UInt8)
  | ⟨.exchange byte, .ok reply⟩ => some (byte, reply)
  | _ => none

/-- The transactions that are ended, `block` being what was exchanged in the open one. -/
def transactionsFrom (block : Block) : List (Event Bus) → List Block
  | [] => []
  | ⟨.begin, _⟩ :: rest => transactionsFrom [] rest
  | ⟨.finish, _⟩ :: rest => block :: transactionsFrom [] rest
  | ⟨.exchange byte, reply⟩ :: rest =>
    transactionsFrom (block ++ (exchanged? ⟨.exchange byte, reply⟩).toList) rest
  | ⟨.poll, _⟩ :: rest | ⟨.pause _, _⟩ :: rest => transactionsFrom block rest

/-- The transactions among some calls. -/
def transactions (events : List (Event Bus)) : List Block := transactionsFrom [] events

theorem transactionsFrom_inner {body : List (Event Bus)} (hi : ∀ event ∈ body, Inner event)
    (block : Block) (rest : List (Event Bus)) :
    transactionsFrom block (body ++ rest) =
      transactionsFrom (block ++ body.filterMap exchanged?) rest := by
  induction body generalizing block with
  | nil => rw [List.filterMap_nil, List.append_nil, List.nil_append]
  | cons event body ih =>
    obtain ⟨he, hb⟩ := List.forall_mem_cons.1 hi
    obtain ⟨request, reply⟩ := event
    cases request with
    | begin | finish | poll => exact he.elim
    | exchange byte =>
      rw [List.cons_append, transactionsFrom, ih hb, List.append_assoc]
      cases reply <;> rfl
    | pause span =>
      rw [List.cons_append, transactionsFrom, ih hb]
      rfl

theorem transactions_append {before : List (Event Bus)} (h : Bracketed before)
    (after : List (Event Bus)) :
    transactions (before ++ after) = transactions before ++ transactions after := by
  induction h with
  | nil => rfl
  | pause span _ ih => exact ih
  | poll reply _ ih => exact ih
  | refused error _ ih => exact ih
  | @block reply body rest hi _ ih =>
    rw [transactions, transactions, List.cons_append, List.append_assoc, List.cons_append]
    simp only [transactionsFrom, transactionsFrom_inner hi]
    exact congrArg _ ih

theorem bracketed_enclosed {body : List (Event Bus)} (hi : ∀ event ∈ body, Inner event) :
    Bracketed (enclosed body) :=
  .block (.ok ()) hi .nil

theorem transactions_block {body : List (Event Bus)} (hi : ∀ event ∈ body, Inner event)
    (reply : Except Error Unit) :
    transactions (⟨.begin, .ok ()⟩ :: (body ++ [⟨.finish, reply⟩])) =
      [body.filterMap exchanged?] := by
  simp only [transactions, transactionsFrom, transactionsFrom_inner hi, List.nil_append]

theorem transactions_enclosed {body : List (Event Bus)} (hi : ∀ event ∈ body, Inner event) :
    transactions (enclosed body) = [body.filterMap exchanged?] :=
  transactions_block hi (.ok ())

theorem Sent.inner {bytes : List UInt8} {events : List (Event Bus)} (h : Sent bytes events) :
    ∀ event ∈ events, Inner event := by
  induction h with
  | nil => simp
  | cons _ ih => exact List.forall_mem_cons.2 ⟨True.intro, ih⟩

theorem Sent.exchanged {bytes : List UInt8} {events : List (Event Bus)} (h : Sent bytes events) :
    (events.filterMap exchanged?).map Prod.fst = bytes := by
  induction h with
  | nil => rfl
  | cons _ ih => exact congrArg _ ih

/-! ## Commands and statuses -/

/-- The command that a transaction begins with. -/
def command? (block : Block) : Option Command :=
  block.head?.bind fun pair => Command.ofOpcode? pair.1

/-- The status that a transaction reads, if that is what it does. -/
def status? : Block → Option UInt8
  | [(opcode, _), (_, answer)] => if opcode = 0x22 then some answer else none
  | _ => none

/-- The statuses that some transactions read. -/
def answers (blocks : List Block) : List UInt8 := blocks.filterMap status?

theorem answers_append (before after : List Block) :
    answers (before ++ after) = answers before ++ answers after := List.filterMap_append

theorem command?_of_sent {command : Command} {arguments : List UInt8} {block : Block}
    (h : block.map Prod.fst = command.opcode :: arguments) : command? block = some command := by
  obtain ⟨pair, rest, rfl, hp, -⟩ := List.map_eq_cons_iff.1 h
  change Command.ofOpcode? pair.1 = some command
  rw [hp]
  exact Command.ofOpcode?_opcode command

/-- A transaction that begins with another command reads no status. -/
theorem status?_of_command {command : Command} {block : Block} (h : command? block = some command)
    (hc : command ≠ .status) : status? block = none := by
  unfold status?
  split
  · split
    · next ho =>
      subst ho
      cases h
      exact (hc rfl).elim
    · rfl
  · rfl

end DiskBridge.Bus
