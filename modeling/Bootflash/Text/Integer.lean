namespace Bootflash.Text

/-- Why a text is not taken for a number. -/
inductive NumberRefusal where
  | malformed
  | outOfRange
deriving DecidableEq, Repr, Inhabited

def NumberRefusal.message : NumberRefusal → String
  | malformed => "invalid syntax"
  | outOfRange => "value out of range"

/-- The value of a digit, letters counting on from ten in either case. -/
def digitValue? (c : Char) : Option Nat :=
  if '0' ≤ c ∧ c ≤ '9' then some (c.toNat - 48)
  else if 'a' ≤ c ∧ c ≤ 'z' then some (c.toNat - 87)
  else if 'A' ≤ c ∧ c ≤ 'Z' then some (c.toNat - 55)
  else none

/-- Reads digits behind a number already read, passing over underscores. A number that no longer
fits is refused at once, whatever follows. -/
def readDigits (base : Nat) : List Char → Nat → Except NumberRefusal Nat
  | [], n => .ok n
  | c :: rest, n =>
    if c = '_' then readDigits base rest n
    else match digitValue? c with
      | none => .error .malformed
      | some d =>
        if base ≤ d then .error .malformed
        else if 2 ^ 64 ≤ n * base + d then .error .outOfRange
        else readDigits base rest (n * base + d)

/-- Splits off what tells the base. A lone zero is an octal number without further digits. -/
def splitBase : List Char → Nat × List Char
  | '0' :: 'b' :: c :: rest => (2, c :: rest)
  | '0' :: 'B' :: c :: rest => (2, c :: rest)
  | '0' :: 'o' :: c :: rest => (8, c :: rest)
  | '0' :: 'O' :: c :: rest => (8, c :: rest)
  | '0' :: 'x' :: c :: rest => (16, c :: rest)
  | '0' :: 'X' :: c :: rest => (16, c :: rest)
  | '0' :: rest => (8, rest)
  | digits => (10, digits)

/-- Whether each underscore stands behind a digit and before another. The first argument tells
whether a digit came last. -/
def wellSeparated : Bool → List Char → Bool
  | afterDigit, [] => afterDigit
  | afterDigit, c :: rest =>
    if c = '_' then afterDigit && wellSeparated false rest else wellSeparated true rest

/-- Reads a number without a sign. -/
def readUnsigned (digits : List Char) : Except NumberRefusal Nat := do
  if digits.isEmpty then throw .malformed
  let (base, rest) := splitBase digits
  let n ← readDigits base rest 0
  if digits.contains '_' && !wellSeparated (digits.head? == some '0') rest then throw .malformed
  return n

/-- Gives a number its sign and holds it to 64 bits. -/
def signed (negative : Bool) (n : Nat) : Except NumberRefusal Int :=
  if negative then if n ≤ 0x8000000000000000 then .ok (-n) else .error .outOfRange
  else if n < 0x8000000000000000 then .ok n
  else .error .outOfRange

/-- Reads a number with an optional sign. -/
def readInt (text : String) : Except NumberRefusal Int := do
  match text.toList with
  | '-' :: digits => signed true (← readUnsigned digits)
  | '+' :: digits => signed false (← readUnsigned digits)
  | digits => signed false (← readUnsigned digits)

/-- Reads a yes or no. -/
def readSwitch? (text : String) : Option Bool :=
  if ["1", "t", "T", "true", "TRUE", "True"].contains text then some true
  else if ["0", "f", "F", "false", "FALSE", "False"].contains text then some false
  else none

end Bootflash.Text
