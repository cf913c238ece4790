import DiskBridge.Usb

/-!
# A scripted USB bus

A USB host whose devices, return codes and answers are written down beforehand. It keeps a log
of what was asked of it. Hardware can stand behind it: a function of the bytes written that says
what there is to read next.
-/

namespace DiskBridge.Bench

/-- The calls that can be given a return code. -/
inductive UsbPoint where
  | prepare
  | list
  | descriptor (index : Nat)
  | openDevice
  | detachDriver
  | claim
  | release
  deriving DecidableEq

/-- A call by its name; that of a descriptor ends in the number of the device. -/
def UsbPoint.ofName? : String → Option UsbPoint
  | "init" => some prepare
  | "list" => some list
  | "open" => some openDevice
  | "detach" => some detachDriver
  | "claim" => some claim
  | "release" => some release
  | name => do
    let digits ← name.dropPrefix? "descriptor"
    descriptor <$> digits.toNat?

/-- A prescribed outcome of a bulk transfer. -/
structure BulkOutcome where
  /-- The number of the transfer, from zero. -/
  index : Nat
  code : Int
  count : Nat

/-- What the log keeps. A `code` of zero is success. -/
inductive UsbEntry where
  | opened (index : Nat) (code : Int)
  | detached (code : Int)
  | claimed (code : Int)
  | released (code : Int)
  | closed
  | logLevel (level : Nat)
  /-- A transfer that asked for `asked` bytes and moved `moved`. -/
  | bulk (outgoing : Bool) (bytes : List UInt8) (code : Int) (asked moved : Nat)

structure UsbScript where
  devices : List (Usb.Identity × Usb.Location) := []
  codes : List (UsbPoint × Int) := []
  outcomes : List BulkOutcome := []
  /-- What there is to read. -/
  incoming : List (List UInt8) := []
  transfers : Nat := 0
  /-- The newest entry first. -/
  log : List UsbEntry := []

namespace UsbScript

/-- The return code of a call. -/
def code (script : UsbScript) (point : UsbPoint) : Int :=
  ((script.codes.find? (·.1 = point)).map Prod.snd).getD 0

def verdict (code : Int) : Except Usb.Fault Unit :=
  if code = 0 then .ok () else .error (.ofCode code)

/-- How the host reports a transfer: a timeout or an interruption counts as success if some bytes
were moved. -/
def transferVerdict (code : Int) (moved : Nat) : Except Usb.Fault Nat :=
  if code = 0 || (0 < moved && (code = -7 || code = -10)) then .ok moved
  else .error (.ofCode code)

def record (script : UsbScript) (entry : UsbEntry) : UsbScript :=
  { script with log := entry :: script.log }

/-- The outcome of the next transfer, unless one is prescribed: its code and bytes moved. -/
def settle (script : UsbScript) (asked : Nat) (code : Int) (moved : Nat) :
    (Int × Nat) × UsbScript :=
  let outcome :=
    match script.outcomes.find? (·.index = script.transfers) with
    | some prescribed => (prescribed.code, min prescribed.count asked)
    | none => (code, moved)
  (outcome, { script with transfers := script.transfers + 1 })

/-- The host, with hardware behind it. -/
def host (hardware : List UInt8 → σ → List (List UInt8) × σ) : Machine Usb (UsbScript × σ)
  | .prepare, (script, behind) =>
    { reply := verdict (script.code .prepare), state := (script, behind) }
  | .logLevel level, (script, behind) =>
    { reply := (), state := (script.record (.logLevel level), behind) }
  | .list, (script, behind) =>
    { reply := (verdict (script.code .list)).map fun _ => script.devices.map Prod.snd
      state := (script, behind) }
  | .descriptor index, (script, behind) =>
    let identity := match script.devices[index]? with
      | some (identity, _) => .ok identity
      | none => .error .notFound
    { reply := verdict (script.code (.descriptor index)) >>= fun _ => identity
      state := (script, behind) }
  | .openDevice index, (script, behind) =>
    let code := script.code .openDevice
    { reply := verdict code, state := (script.record (.opened index code), behind) }
  | .detachDriver, (script, behind) =>
    let code := script.code .detachDriver
    { reply := verdict code, state := (script.record (.detached code), behind) }
  | .claim, (script, behind) =>
    let code := script.code .claim
    { reply := verdict code, state := (script.record (.claimed code), behind) }
  | .release, (script, behind) =>
    let code := script.code .release
    { reply := verdict code, state := (script.record (.released code), behind) }
  | .close, (script, behind) => { reply := (), state := (script.record .closed, behind) }
  | .bulkWrite bytes, (script, behind) =>
    let ((code, moved), script) := script.settle bytes.length 0 bytes.length
    let (answers, behind) := hardware bytes behind
    let script := { script with incoming := script.incoming ++ answers }
    { reply := transferVerdict code moved
      state := (script.record (.bulk true bytes code bytes.length moved), behind) }
  | .bulkRead count, (script, behind) =>
    let (bytes, code) : List UInt8 × Int := match script.incoming with
      | bytes :: _ => (bytes.take count, 0)
      | [] => ([], -7)
    let script := { script with incoming := script.incoming.tail }
    let ((code, moved), script) := script.settle count code bytes.length
    let bytes := (bytes ++ List.replicate (moved - bytes.length) 0).take moved
    { reply := (transferVerdict code moved).map fun _ => bytes
      state := (script.record (.bulk false bytes code count moved), behind) }

/-- No hardware: nothing is ever answered. -/
def noHardware : List UInt8 → Unit → List (List UInt8) × Unit := fun _ _ => ([], ())

end UsbScript

end DiskBridge.Bench
