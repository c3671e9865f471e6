import Bootflash.Text.Hex
import Bootflash.Text.Printable
import Bootflash.Text.Utf8

namespace Bootflash.Text

/-- A backslash, a letter and a number with a fixed count of digits. -/
def numericEscape (letter : Char) (digits n : Nat) : List Char :=
  '\\' :: letter :: (padLeft digits '0' (hexNat n)).toList

/-- The control characters that have a letter of their own. -/
def letterEscape? (c : Char) : Option Char :=
  match c.toNat with
  | 7 => some 'a'
  | 8 => some 'b'
  | 9 => some 't'
  | 10 => some 'n'
  | 11 => some 'v'
  | 12 => some 'f'
  | 13 => some 'r'
  | _ => none

/-- A character as it stands between quotes. -/
def escapeChar (quote c : Char) : List Char :=
  if c = quote ∨ c = '\\' then ['\\', c]
  else if isPrintable c then [c]
  else match letterEscape? c with
    | some letter => ['\\', letter]
    | none =>
      if c.toNat < 0x80 then numericEscape 'x' 2 c.toNat
      else if c.toNat < 0x10000 then numericEscape 'u' 4 c.toNat
      else numericEscape 'U' 8 c.toNat

/-- A byte string between double quotes. -/
def quote (bytes : List UInt8) : String :=
  let inner := (decode bytes).flatMap fun
    | .ok c => escapeChar '"' c
    | .error b => numericEscape 'x' 2 b.toNat
  String.ofList ('"' :: inner ++ ['"'])

/-- A text between double quotes. -/
def quoteText (text : String) : String :=
  quote (utf8Bytes text)

/-- A character between single quotes. -/
def quoteChar (c : Char) : String :=
  String.ofList ('\'' :: escapeChar '\'' c ++ ['\''])

end Bootflash.Text
