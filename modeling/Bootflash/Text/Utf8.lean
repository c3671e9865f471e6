namespace Bootflash.Text

/-- Whether a byte continues a sequence. -/
def isContinuation (b : UInt8) : Bool :=
  0x80 ≤ b && b ≤ 0xbf

/-- The bytes that may follow a leading byte, which exclude overlong forms, surrogates and numbers
past the last character, and how many bytes the sequence has after the leading one. -/
def leading? (b : UInt8) : Option (UInt8 × UInt8 × Nat) :=
  if 0xc2 ≤ b && b ≤ 0xdf then some (0x80, 0xbf, 1)
  else if b = 0xe0 then some (0xa0, 0xbf, 2)
  else if b = 0xed then some (0x80, 0x9f, 2)
  else if 0xe1 ≤ b && b ≤ 0xef then some (0x80, 0xbf, 2)
  else if b = 0xf0 then some (0x90, 0xbf, 3)
  else if b = 0xf4 then some (0x80, 0x8f, 3)
  else if 0xf1 ≤ b && b ≤ 0xf3 then some (0x80, 0xbf, 3)
  else none

/-- The value of a sequence: what the leading byte contributes, then six bits for each byte after it. -/
def sequenceValue (head : Nat) (tail : List UInt8) : Nat :=
  tail.foldl (fun acc b => acc * 64 + b.toNat % 64) head

/-- What stands at the front of a byte string: a character and the number of bytes it has after the
first, or a byte that begins no well-formed sequence. -/
def decodeFirst (b : UInt8) (rest : List UInt8) : Except UInt8 Char × Nat :=
  if b < 0x80 then (.ok (Char.ofNat b.toNat), 0)
  else match leading? b with
    | none => (.error b, 0)
    | some (low, high, more) =>
      let tail := rest.take more
      if tail.length = more ∧ tail.all isContinuation ∧ tail.head?.any (fun t => low ≤ t && t ≤ high) then
        (.ok (Char.ofNat (sequenceValue (b.toNat % (1 <<< (6 - more))) tail)), more)
      else (.error b, 0)

/-- Decodes a byte string whose first `skip` bytes have been accounted for. -/
def decodeFrom : Nat → List UInt8 → List (Except UInt8 Char)
  | _, [] => []
  | 0, b :: rest =>
    let (unit, more) := decodeFirst b rest
    unit :: decodeFrom more rest
  | skip + 1, _ :: rest => decodeFrom skip rest

/-- The characters of a byte string and the bytes that belong to none of them, in order. -/
def decode (bytes : List UInt8) : List (Except UInt8 Char) :=
  decodeFrom 0 bytes

/-- A byte string as text, with U+FFFD for every byte that belongs to no character. -/
def utf8 (bytes : List UInt8) : String :=
  String.ofList ((decode bytes).map fun
    | .ok c => c
    | .error _ => '�')

/-- The bytes of a text. -/
def utf8Bytes (text : String) : List UInt8 :=
  text.toUTF8.toList

end Bootflash.Text
