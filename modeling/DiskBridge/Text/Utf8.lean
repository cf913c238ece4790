/-!
# UTF-8

Text as bytes and back. `scan` cuts any bytes into pieces: a character, a broken sequence, or a
sequence that the end cuts off. Two readings share it: `decode` refuses the first piece that is
not a character, `decodeLossy` puts a replacement character in its place.
-/

namespace DiskBridge.Utf8

/-- The bytes of a list of characters. -/
def encodeChars (chars : List Char) : List UInt8 := chars.flatMap String.utf8EncodeChar

/-- The bytes of a text. -/
def encode (text : String) : List UInt8 := encodeChars text.toList

/-- What stands at some position of a byte string. -/
inductive Piece where
  | char (c : Char)
  /-- `count` bytes that begin no character. -/
  | broken (count : Nat)
  /-- The bytes up to the end begin a character and stop inside it. -/
  | cut
  deriving DecidableEq, Repr

/-- Bytes `80` to `bf`, which continue a character. -/
def isTail (byte : UInt8) : Bool := 0x80 ≤ byte && byte ≤ 0xbf

/-- The bytes that may follow `lead`. The limits keep out overlong forms, surrogates and
everything above the last code point. -/
def isSecond (lead byte : UInt8) : Bool :=
  if lead = 0xe0 then 0xa0 ≤ byte && byte ≤ 0xbf
  else if lead = 0xed then 0x80 ≤ byte && byte ≤ 0x9f
  else if lead = 0xf0 then 0x90 ≤ byte && byte ≤ 0xbf
  else if lead = 0xf4 then 0x80 ≤ byte && byte ≤ 0x8f
  else isTail byte

/-- The number whose base-64 digits are the payload bits of the bytes: `lead` less its mark,
then each tail byte less `80`. -/
def assemble (mark : Nat) (lead : UInt8) (tails : List UInt8) : Char :=
  Char.ofNat (tails.foldl (fun acc byte => acc * 64 + (byte.toNat - 0x80)) (lead.toNat - mark))

/-- Cuts bytes into pieces. After a broken sequence it goes on with the first byte outside it. -/
def scan : List UInt8 → List Piece
  | [] => []
  | a :: rest =>
    if a < 0x80 then .char (Char.ofNat a.toNat) :: scan rest
    else if a < 0xc2 || 0xf4 < a then .broken 1 :: scan rest
    else match rest with
      | [] => [.cut]
      | b :: rest =>
        if !isSecond a b then .broken 1 :: scan (b :: rest)
        else if a < 0xe0 then .char (assemble 0xc0 a [b]) :: scan rest
        else match rest with
          | [] => [.cut]
          | c :: rest =>
            if !isTail c then .broken 2 :: scan (c :: rest)
            else if a < 0xf0 then .char (assemble 0xe0 a [b, c]) :: scan rest
            else match rest with
              | [] => [.cut]
              | d :: rest =>
                if !isTail d then .broken 3 :: scan (d :: rest)
                else .char (assemble 0xf0 a [b, c, d]) :: scan rest

/-- The first place where bytes are no text: `width` counts the bytes of the broken sequence, and
is absent when the end cut a character off. -/
structure Fault where
  offset : Nat
  width : Option Nat
  deriving DecidableEq, Repr

def Fault.message (fault : Fault) : String :=
  match fault.width with
  | some width =>
    s!"invalid utf-8 sequence of {width} bytes from index " ++ toString fault.offset
  | none => "incomplete utf-8 byte sequence from index " ++ toString fault.offset

/-- The characters of the pieces, if all are characters; `offset` is where the first begins. -/
def charsOf (offset : Nat) : List Piece → Except Fault (List Char)
  | [] => .ok []
  | .char c :: rest => (charsOf (offset + c.utf8Size) rest).map (c :: ·)
  | .broken count :: _ => .error ⟨offset, some count⟩
  | .cut :: _ => .error ⟨offset, none⟩

/-- Reads bytes as text, or says where they stop being text. -/
def decode (bytes : List UInt8) : Except Fault String :=
  (charsOf 0 (scan bytes)).map String.ofList

/-- The character a piece is shown as. -/
def Piece.shown : Piece → Char
  | .char c => c
  | .broken _ | .cut => Char.ofNat 0xfffd

/-- Reads bytes as characters, one replacement character for each piece that is none. -/
def decodeLossyChars (bytes : List UInt8) : List Char := (scan bytes).map Piece.shown

def decodeLossy (bytes : List UInt8) : String := String.ofList (decodeLossyChars bytes)

end DiskBridge.Utf8
