import Bootflash.Text.Hex

namespace Bootflash

abbrev Bytes := List UInt8

namespace Ascii

/-- The byte of an ASCII character. -/
def byte (c : Char) : UInt8 :=
  UInt8.ofNat c.toNat

def isLetter (b : UInt8) : Bool :=
  (byte 'a' ≤ b && b ≤ byte 'z') || (byte 'A' ≤ b && b ≤ byte 'Z')

def isDigit (b : UInt8) : Bool :=
  byte '0' ≤ b && b ≤ byte '9'

def isControl (b : UInt8) : Bool :=
  b < 0x20 || b = 0x7f

/-- Whether a byte is one of the characters of an ASCII text. -/
def isOneOf (text : String) (b : UInt8) : Bool :=
  text.toList.any fun c => byte c == b

/-- The value of a hexadecimal digit. -/
def hexValue? (b : UInt8) : Option Nat :=
  if b < 0x80 then Text.hexValue? (Char.ofNat b.toNat) else none

def lower (b : UInt8) : UInt8 :=
  if byte 'A' ≤ b && b ≤ byte 'Z' then b + 32 else b

/-- Whether all of a byte string is ASCII. -/
def isPlain (bytes : Bytes) : Bool :=
  bytes.all (· < 0x80)

/-- Splits at the first occurrence of a byte, which belongs to neither part. Without one, the second
part is missing. -/
def cut (sep : UInt8) : Bytes → Bytes × Option Bytes
  | [] => ([], none)
  | b :: rest =>
    if b = sep then ([], some rest)
    else
      let (before, after) := cut sep rest
      (b :: before, after)

/-- Splits at the last occurrence of a byte, which belongs to neither part. Without one, the first
part is missing. -/
def cutLast (sep : UInt8) (bytes : Bytes) : Option Bytes × Bytes :=
  match cut sep bytes.reverse with
  | (_, none) => (none, bytes)
  | (after, some before) => (some before.reverse, after.reverse)

/-- Splits at every occurrence of a byte. -/
def splitAll (sep : UInt8) : Bytes → List Bytes
  | [] => [[]]
  | b :: rest =>
    if b = sep then [] :: splitAll sep rest
    else match splitAll sep rest with
      | part :: parts => (b :: part) :: parts
      | [] => [[b]]

end Ascii

end Bootflash
