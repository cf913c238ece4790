/-!
# Digits

Numbers as text: hexadecimal of a fixed width, zero-padded decimals, and exact decimal fractions.
All digits are lower case.
-/

namespace DiskBridge

/-- The digits of `n` in `base`, most significant first, padded with zeros to at least `width`. -/
def paddedDigits (base width n : Nat) : String :=
  let digits := Nat.toDigits base n
  String.ofList (List.replicate (width - digits.length) '0' ++ digits)

/-- One byte as two hexadecimal digits. -/
def hexByte (byte : UInt8) : String := paddedDigits 16 2 byte.toNat

/-- Bytes as hexadecimal text, two digits each. -/
def hexBytes (bytes : List UInt8) : String := String.join (bytes.map hexByte)

/-- The value of a hexadecimal digit of either case. -/
def hexDigit? (c : Char) : Option Nat :=
  if '0' ≤ c && c ≤ '9' then some (c.toNat - '0'.toNat)
  else if 'a' ≤ c && c ≤ 'f' then some (c.toNat - 'a'.toNat + 10)
  else if 'A' ≤ c && c ≤ 'F' then some (c.toNat - 'A'.toNat + 10)
  else none

/-- Reads bytes of two hexadecimal digits each, after those in `bytes`, the last one first. -/
def ofHexPairs? : List Char → (bytes : List UInt8) → Option (List UInt8)
  | [], bytes => some bytes.reverse
  | [_], _ => none
  | high :: low :: rest, bytes => do
    let byte := UInt8.ofNat ((← hexDigit? high) * 16 + (← hexDigit? low))
    ofHexPairs? rest (byte :: bytes)

/-- Bytes from hexadecimal text. -/
def ofHexBytes? (text : String) : Option (List UInt8) := ofHexPairs? text.toList []

/-- `frac` units of the last of `places` decimal places after `whole`. The fraction is exact:
trailing zeros are dropped, and the point with them when nothing is left. -/
def decimalFraction (whole frac places : Nat) : String :=
  if frac = 0 then toString whole
  else
    let digits := (paddedDigits 10 places frac).toList.reverse.dropWhile (· == '0')
    toString whole ++ "." ++ String.ofList digits.reverse

end DiskBridge
