import DiskBridge.Duration
import DiskBridge.Text.Utf8

/-!
# Binary form

Values as bytes: fixed-width little-endian numbers, a variant as its 32-bit index, a text as its
64-bit length and its bytes. A reader takes what it needs from the front and leaves the rest.
-/

namespace DiskBridge

/-- The low `width` bytes of a number, least significant first. -/
def littleEndian : (width value : Nat) → List UInt8
  | 0, _ => []
  | width + 1, value => UInt8.ofNat value :: littleEndian width (value / 256)

/-- The number whose bytes are given, least significant first. -/
def ofLittleEndian : List UInt8 → Nat
  | [] => 0
  | byte :: rest => byte.toNat + 256 * ofLittleEndian rest

theorem length_littleEndian (width value : Nat) : (littleEndian width value).length = width := by
  induction width generalizing value with
  | zero => rfl
  | succ width ih => simp [littleEndian, ih]

/-- Why bytes are no value of the type asked for. -/
inductive DecodeError where
  /-- A number was cut short. -/
  | cutShort
  /-- A text is longer than what is left. -/
  | longText
  | badText (fault : Utf8.Fault)
  | badVariant (index : UInt32) (count : Nat)
  /-- A variant index that is neither of two named ones. -/
  | badChoice (index : UInt32) (first second : String)
  | badFlag (byte : UInt8)
  | badOption (byte : UInt8)
  | longDuration
  deriving DecidableEq

def DecodeError.message : DecodeError → String
  | cutShort => "io error: unexpected end of file"
  | longText => "io error: "
  | badText fault => "string is not valid utf8: " ++ fault.message
  | badVariant index count =>
    s!"invalid value: integer `{index}`, expected variant index 0 <= i < {count}"
  | badChoice index first second =>
    s!"invalid value: integer `{index}`, expected `{first}` or `{second}`"
  | badFlag byte => s!"invalid u8 while decoding bool, expected 0 or 1, found {byte}"
  | badOption byte => s!"tag for enum is not valid, found {byte}"
  | longDuration => "overflow deserializing Duration"

/-- Takes a value from the front of some bytes. -/
abbrev Reader := StateT (List UInt8) (Except DecodeError)

/-- Types with a binary form. -/
class Codec (α : Type) where
  write : α → List UInt8
  read : Reader α

namespace Codec

/-- The bytes of a value. -/
def encode [Codec α] (value : α) : List UInt8 := write value

/-- The value at the front of some bytes; what follows it is ignored. -/
def decode (α : Type) [Codec α] (bytes : List UInt8) : Except DecodeError α :=
  ((read : Reader α).run bytes).map Prod.fst

/-! ## Numbers -/

/-- Takes `count` bytes. -/
def take (count : Nat) : Reader (List UInt8) := fun bytes =>
  if bytes.length < count then .error .cutShort
  else .ok (bytes.take count, bytes.drop count)

/-- Takes a number of `width` bytes. -/
def number (width : Nat) : Reader Nat := ofLittleEndian <$> take width

instance : Codec UInt8 where
  write value := littleEndian 1 value.toNat
  read := UInt8.ofNat <$> number 1

instance : Codec UInt16 where
  write value := littleEndian 2 value.toNat
  read := UInt16.ofNat <$> number 2

instance : Codec UInt32 where
  write value := littleEndian 4 value.toNat
  read := UInt32.ofNat <$> number 4

instance : Codec UInt64 where
  write value := littleEndian 8 value.toNat
  read := UInt64.ofNat <$> number 8

instance : Codec Int32 where
  write value := littleEndian 4 value.toUInt32.toNat
  read := (fun n => (UInt32.ofNat n).toInt32) <$> number 4

/-! ## Texts, flags, durations -/

instance : Codec Unit where
  write _ := []
  read := pure ()

instance : Codec Bool where
  write value := [if value then 1 else 0]
  read := do
    let byte ← (read : Reader UInt8)
    if byte = 0 then return false
    else if byte = 1 then return true
    else throw (.badFlag byte)

instance : Codec String where
  write text := littleEndian 8 (Utf8.encode text).length ++ Utf8.encode text
  read := do
    let length ← number 8
    let rest ← get
    if rest.length < length then throw .longText
    let bytes ← take length
    match Utf8.decode bytes with
    | .ok text => return text
    | .error fault => throw (.badText fault)

instance : Codec Duration where
  write span := littleEndian 8 span.secs.toNat ++ littleEndian 4 span.nanos.toNat
  read := do
    let secs ← (read : Reader UInt64)
    let nanos ← (read : Reader UInt32)
    match Duration.ofParts? secs nanos with
    | some span => return span
    | none => throw .longDuration

/-! ## Variants -/

/-- The index of a variant. -/
def writeIndex (index : Nat) : List UInt8 := littleEndian 4 index

/-- The index of a variant among `count`. -/
def readIndex (count : Nat) : Reader Nat := do
  let index ← (read : Reader UInt32)
  if index.toNat < count then return index.toNat else throw (.badVariant index count)

/-- One of the listed values, by its index. -/
def readListed (values : List α) : Reader α := do
  let index ← (read : Reader UInt32)
  match values[index.toNat]? with
  | some value => return value
  | none => throw (.badVariant index values.length)

instance [Codec α] : Codec (Option α) where
  write
    | none => [0]
    | some value => 1 :: write value
  read := do
    let tag ← (read : Reader UInt8)
    if tag = 0 then return none
    else if tag = 1 then return some (← read)
    else throw (.badOption tag)

instance [Codec ε] [Codec α] : Codec (Except ε α) where
  write
    | .ok value => writeIndex 0 ++ write value
    | .error error => writeIndex 1 ++ write error
  read := do
    let index ← (read : Reader UInt32)
    if index = 0 then return .ok (← read)
    else if index = 1 then return .error (← read)
    else throw (.badChoice index "Ok" "Err")

end Codec

end DiskBridge
