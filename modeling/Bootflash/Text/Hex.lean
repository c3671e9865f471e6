namespace Bootflash.Text

/-- Fills a text on the left until it is `width` characters long. A longer text stays as it is. -/
def padLeft (width : Nat) (fill : Char) (text : String) : String :=
  String.ofList (List.replicate (width - text.length) fill) ++ text

/-- Fills a text with spaces on the right until it is `width` characters long. -/
def padRight (width : Nat) (text : String) : String :=
  text ++ String.ofList (List.replicate (width - text.length) ' ')

/-- Lower case hexadecimal without leading zeros; zero is `0`. -/
def hexNat (n : Nat) : String :=
  String.ofList (Nat.toDigits 16 n)

/-- Upper case hexadecimal with at least `digits` digits. -/
def hexUpper (digits n : Nat) : String :=
  padLeft digits '0' (String.ofList ((Nat.toDigits 16 n).map Char.toUpper))

/-- An address as diagnostics name it: `0x` and at least four upper case digits. -/
def address (addr : UInt32) : String :=
  "0x" ++ hexUpper 4 addr.toNat

/-- An address with no more digits than it needs. -/
def shortAddress (addr : UInt32) : String :=
  "0x" ++ hexUpper 1 addr.toNat

/-- The lower case digit of a value below sixteen. -/
def hexDigit (n : Nat) : Char :=
  if n < 10 then Char.ofNat (48 + n) else Char.ofNat (87 + n)

/-- The two digits of a byte, high half first. -/
def hexPair (b : UInt8) : List Char :=
  [hexDigit (b.toNat / 16), hexDigit (b.toNat % 16)]

/-- A byte string as hexadecimal, two digits per byte. -/
def hex (bytes : List UInt8) : String :=
  String.ofList (bytes.flatMap hexPair)

/-- The value of a hexadecimal digit of either case. -/
def hexValue? (c : Char) : Option Nat :=
  if '0' ≤ c ∧ c ≤ '9' then some (c.toNat - 48)
  else if 'a' ≤ c ∧ c ≤ 'f' then some (c.toNat - 87)
  else if 'A' ≤ c ∧ c ≤ 'F' then some (c.toNat - 55)
  else none

/-- Reads pairs of digits as bytes. An odd digit at the end is refused. -/
def unhexList : List Char → Option (List UInt8)
  | [] => some []
  | high :: low :: rest => do
    let h ← hexValue? high
    let l ← hexValue? low
    let bytes ← unhexList rest
    return UInt8.ofNat (16 * h + l) :: bytes
  | [_] => none

/-- Reads a byte string written as hexadecimal. -/
def unhex (text : String) : Option (List UInt8) :=
  unhexList text.toList

end Bootflash.Text
