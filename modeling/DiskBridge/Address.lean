import DiskBridge.Codec.Basic
import DiskBridge.Text.Digits
import DiskBridge.Text.Inspect

/-!
# Socket addresses

A host address and a port, printed and read in the usual notation: `a.b.c.d:port`, or
`[groups]:port` with the longest run of zero groups written `::` and an optional `%scope`.
A text that is no such address may still be a host and a port, with the host given by numbers.
-/

namespace DiskBridge

inductive Address where
  | v4 (a b c d : UInt8) (port : UInt16)
  /-- Eight groups; a scope of zero is no scope. -/
  | v6 (groups : Vector UInt16 8) (port : UInt16) (scope : UInt32)
  deriving DecidableEq

namespace Address

/-- The port a bridge listens on. -/
def standardPort : UInt16 := 3760

/-- The address of a bridge on this machine, at its usual port. -/
def standard : Address := .v4 127 0 0 1 standardPort

/-! ## Printing -/

/-- Four bytes with points between them. -/
def dotted (a b c d : UInt8) : String := s!"{a}.{b}.{c}.{d}"

/-- The host of the usual address. -/
def standardHost : String := dotted 127 0 0 1

/-- The leftmost longest run of zero groups, as its position and length. -/
def longestZeros (groups : List UInt16) : Nat × Nat :=
  let step := fun (state : (Nat × Nat) × Nat × Nat) (group : UInt16) =>
    let (best, index, run) := state
    if group = 0 then
      let run := run + 1
      (if best.2 < run then (index + 1 - run, run) else best, index + 1, run)
    else (best, index + 1, 0)
  (groups.foldl step ((0, 0), 0, 0)).1

def hexGroups (groups : List UInt16) : String :=
  ":".intercalate (groups.map fun group => paddedDigits 16 1 group.toNat)

/-- The text of eight groups. An embedded four-byte address keeps its points; otherwise the first
longest run of two or more zero groups is left out. -/
def groupsText (groups : List UInt16) : String :=
  match groups with
  | [0, 0, 0, 0, 0, 0xffff, high, low] =>
    "::ffff:" ++ dotted (high >>> 8).toUInt8 high.toUInt8 (low >>> 8).toUInt8 low.toUInt8
  | _ =>
    let (start, length) := longestZeros groups
    if 1 < length then
      hexGroups (groups.take start) ++ "::" ++ hexGroups (groups.drop (start + length))
    else hexGroups groups

def text : Address → String
  | .v4 a b c d port => s!"{dotted a b c d}:{port}"
  | .v6 groups port scope =>
    let scopeText := if scope = 0 then "" else s!"%{scope}"
    s!"[{groupsText groups.toList}{scopeText}]:{port}"

/-! ## Reading -/

/-- Takes something from the front of some characters. -/
abbrev Scanner := StateT (List Char) Option

/-- Takes the given character. -/
def char (c : Char) : Scanner Unit
  | d :: rest => if d = c then some ((), rest) else none
  | [] => none

/-- The value of a digit in a base up to sixteen. -/
def digitValue? (base : Nat) (c : Char) : Option Nat :=
  let value :=
    if '0' ≤ c && c ≤ '9' then c.toNat - '0'.toNat
    else if 'a' ≤ c && c ≤ 'f' then c.toNat - 'a'.toNat + 10
    else if 'A' ≤ c && c ≤ 'F' then c.toNat - 'A'.toNat + 10
    else 16
  if value < base then some value else none

/-- Takes all digits that follow, as their count and value. -/
def digits (base : Nat) : Nat → Nat → List Char → (Nat × Nat) × List Char
  | count, value, [] => ((count, value), [])
  | count, value, c :: rest =>
    match digitValue? base c with
    | some digit => digits base (count + 1) (value * base + digit) rest
    | none => ((count, value), c :: rest)

/-- Takes a number of at least one digit below `limit`. With `maxDigits` it has no more digits
than that, and unless `zeros` it has no leading zero. -/
def number (base : Nat) (maxDigits : Option Nat) (zeros : Bool) (limit : Nat) : Scanner Nat :=
  fun chars =>
    let ((count, value), rest) := digits base 0 0 chars
    if count = 0 || maxDigits.any (· < count) || limit ≤ value then none
    else if !zeros && chars.head? = some '0' && 1 < count then none
    else some (value, rest)

def byteNumber : Scanner UInt8 := UInt8.ofNat <$> number 10 (some 3) false 256

/-- Takes four bytes with points between them. -/
def quad : Scanner (UInt8 × UInt8 × UInt8 × UInt8) := do
  let a ← byteNumber
  char '.'
  let b ← byteNumber
  char '.'
  let c ← byteNumber
  char '.'
  let d ← byteNumber
  return (a, b, c, d)

def port : Scanner UInt16 := do
  char ':'
  UInt16.ofNat <$> number 10 none true 65536

/-- Two bytes as one group. -/
def pair (high low : UInt8) : UInt16 := high.toUInt16 * 256 + low.toUInt16

/-- Takes up to `limit` groups with colons between them, as many as there are. The last two may
be written as four bytes with points, which ends the run. -/
def groups : (limit : Nat) → (first : Bool) → List Char → (List UInt16 × Bool) × List Char
  | 0, _, chars => (([], false), chars)
  | limit + 1, first, chars =>
    let separator : Scanner Unit := if first then pure () else char ':'
    let embedded : Scanner (UInt8 × UInt8 × UInt8 × UInt8) := do
      separator
      quad
    let single : Scanner UInt16 := do
      separator
      UInt16.ofNat <$> number 16 (some 4) true 65536
    match if 0 < limit then embedded chars else none with
    | some ((a, b, c, d), rest) => (([pair a b, pair c d], true), rest)
    | none =>
      match single chars with
      | some (group, rest) =>
        let ((more, dotted), rest) := groups limit false rest
        ((group :: more, dotted), rest)
      | none => (([], false), chars)

/-- Takes eight groups, or fewer around one `::`. -/
def hostGroups : Scanner (Vector UInt16 8) := fun chars =>
  let ((head, dotted), rest) := groups 8 true chars
  if full : head.length = 8 then some (⟨head.toArray, by simpa using full⟩, rest)
  else if dotted then none
  else
    match (do char ':'; char ':' : Scanner Unit) rest with
    | none => none
    | some ((), rest) =>
      let ((tail, _), rest) := groups (8 - (head.length + 1)) true rest
      let all := head ++ List.replicate (8 - head.length - tail.length) 0 ++ tail
      if full : all.length = 8 then some (⟨all.toArray, by simpa using full⟩, rest) else none

def scope : Scanner UInt32 := do
  char '%'
  UInt32.ofNat <$> number 10 none true 4294967296

def addressV4 : Scanner Address := do
  let (a, b, c, d) ← quad
  return .v4 a b c d (← port)

def addressV6 : Scanner Address := do
  char '['
  let groups ← hostGroups
  let scope ← (some <$> scope) <|> pure none
  char ']'
  return .v6 groups (← port) (scope.getD 0)

/-- Reads an address that takes up the whole text. -/
def ofText? (text : String) : Option Address :=
  match (addressV4 <|> addressV6) text.toList with
  | some (address, []) => some address
  | _ => none

/-! ## Hosts -/

/-- Takes a number: hexadecimal after `0x`, octal after `0`, else decimal. -/
def looseNumber : Scanner Nat
  | '0' :: 'x' :: rest | '0' :: 'X' :: rest => number 16 none true 4294967296 rest
  | '0' :: rest => number 8 none true 4294967296 ('0' :: rest)
  | chars => number 10 none true 4294967296 chars

/-- Reads numbers with points between them, after `before`, as one number of four bytes: each but
the last is a byte, and the last fills the bytes left, `room` of them besides its own. -/
def looseQuad? : (room before : Nat) → List Char → Option Nat
  | room, before, chars => do
    let (value, rest) ← looseNumber chars
    match room, rest with
    | room, [] =>
      let unit := 256 ^ (room + 1)
      if value < unit then some (before * unit + value) else none
    | room + 1, '.' :: rest =>
      if value < 256 then looseQuad? room (before * 256 + value) rest else none
    | _, _ => none

/-- A host given by numbers: one to four of them with points between, or groups without
brackets. -/
def ofHost? (host : List Char) (port : UInt16) : Option Address :=
  match looseQuad? 3 0 host with
  | some value =>
    let byte := fun place => UInt8.ofNat (value >>> (8 * place))
    some (.v4 (byte 3) (byte 2) (byte 1) (byte 0) port)
  | none =>
    match hostGroups host with
    | some (groups, []) => some (.v6 groups port 0)
    | some (groups, rest) =>
      match scope rest with
      | some (scope, []) => some (.v6 groups port scope)
      | _ => none
    | none => none

/-- Why a text leads to no address. -/
inductive ResolveError where
  /-- Nothing separates a host from a port. -/
  | noPort
  | badPort
  /-- The host holds the character that ends a text for the system. -/
  | cutHost
  /-- The host is a name, and no address is known for it. -/
  | unknownHost
  deriving DecidableEq

/-- A decimal port number with an optional plus sign. -/
def portNumber? (chars : List Char) : Option UInt16 :=
  let digits := if chars.head? = some '+' then chars.tail else chars
  match number 10 none true 65536 digits with
  | some (value, []) => some (UInt16.ofNat value)
  | _ => none

/-- The address a text stands for: an address as it is written, or a host and a port. Only hosts
given by numbers are known. -/
def resolve (text : String) : Except ResolveError Address :=
  match ofText? text with
  | some address => .ok address
  | none =>
    let reversed := text.toList.reverse
    match (reversed.dropWhile (· != ':')) with
    | [] => .error .noPort
    | _ :: host =>
      match portNumber? (reversed.takeWhile (· != ':')).reverse with
      | none => .error .badPort
      | some port =>
        if host.contains '\x00' then .error .cutHost
        else
          match ofHost? host.reverse port with
          | some address => .ok address
          | none => .error .unknownHost

/-! ## Binary form -/

instance : Codec Address where
  write
    | .v4 a b c d port => Codec.writeIndex 0 ++ [a, b, c, d] ++ Codec.write port
    | .v6 groups port _ =>
      Codec.writeIndex 1
        ++ groups.toList.flatMap (fun group : UInt16 => [(group >>> 8).toUInt8, group.toUInt8])
        ++ Codec.write port
  read := do
    let index ← (Codec.read : Reader UInt32)
    if index = 0 then
      return .v4 (← Codec.read) (← Codec.read) (← Codec.read) (← Codec.read) (← Codec.read)
    else if index = 1 then
      let bytes ← Codec.take 16
      let groups := Vector.ofFn fun i : Fin 8 =>
        pair (bytes.getD (2 * i.val) 0) (bytes.getD (2 * i.val + 1) 0)
      return .v6 groups (← Codec.read) 0
    else throw (.badChoice index "V4" "V6")

end Address

/-- Where a client looks for a bridge: an address, or the usual one. -/
structure RemoteConfig where
  address : Option Address := none
  deriving DecidableEq

namespace RemoteConfig

def inspect (config : RemoteConfig) : String :=
  Inspect.record "RemoteDeviceConfig"
    [("remote_addr", Inspect.option Address.text config.address)]

instance : Codec RemoteConfig where
  write config := Codec.write config.address
  read := return { address := ← Codec.read }

end RemoteConfig

end DiskBridge
