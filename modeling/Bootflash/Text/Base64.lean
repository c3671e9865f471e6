namespace Bootflash.Text

/-- The sign for six bits: upper case letters, lower case letters, digits, plus and slash. -/
def base64Sign (n : Nat) : Char :=
  if n < 26 then Char.ofNat (65 + n)
  else if n < 52 then Char.ofNat (71 + n)
  else if n < 62 then Char.ofNat (n - 4)
  else if n = 62 then '+' else '/'

/-- Four signs for three bytes; one or two bytes at the end are padded. -/
def base64List : List UInt8 → List Char
  | a :: b :: c :: rest =>
    base64Sign (a.toNat / 4) :: base64Sign (a.toNat % 4 * 16 + b.toNat / 16) ::
      base64Sign (b.toNat % 16 * 4 + c.toNat / 64) :: base64Sign (c.toNat % 64) :: base64List rest
  | [a, b] =>
    [base64Sign (a.toNat / 4), base64Sign (a.toNat % 4 * 16 + b.toNat / 16),
      base64Sign (b.toNat % 16 * 4), '=']
  | [a] => [base64Sign (a.toNat / 4), base64Sign (a.toNat % 4 * 16), '=', '=']
  | [] => []

def base64 (bytes : List UInt8) : String :=
  String.ofList (base64List bytes)

end Bootflash.Text
