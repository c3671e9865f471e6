import Bootflash.Text.Ascii
import Bootflash.Text.Quoted

namespace Bootflash

inductive IpAddress where
  | four
  /-- With the zone; empty if there is none. -/
  | six (zone : Bytes)
deriving DecidableEq, Repr

namespace IpAddress

/-- What is wrong with an address. -/
inductive Fault where
  | neither
  | zoneOnly
  | emptyZone
  | leadingZero
  | largeField
  | emptyField
  | tooManyFields
  | tooFewFields
  | strangeInField
  | longGroup
  | emptyGroup
  | misplacedFour
  | noRoomForFour
  | strangeInGroup
  | colonAtEnd
  | secondGap
  | trailing
  | tooFewGroups
  | gapOfNothing
deriving DecidableEq, Repr

def Fault.message : Fault → String
  | neither => "unable to parse IP"
  | zoneOnly => "missing IPv6 address"
  | emptyZone => "zone must be a non-empty string"
  | leadingZero => "IPv4 field has octet with leading zero"
  | largeField => "IPv4 field has value >255"
  | emptyField => "IPv4 field must have at least one digit"
  | tooManyFields => "IPv4 address too long"
  | tooFewFields => "IPv4 address too short"
  | strangeInField => "unexpected character"
  | longGroup => "each group must have 4 or less digits"
  | emptyGroup => "each colon-separated field must have at least one digit"
  | misplacedFour => "embedded IPv4 address must replace the final 2 fields of the address"
  | noRoomForFour => "too many hex fields to fit an embedded IPv4 at the end of the address"
  | strangeInGroup => "unexpected character, want colon"
  | colonAtEnd => "colon must be followed by more characters"
  | secondGap => "multiple :: in address"
  | trailing => "trailing garbage after address"
  | tooFewGroups => "address string too short"
  | gapOfNothing => "the :: must expand to at least one field of zeros"

/-- A fault and the text from it on, where that is told. -/
structure Refusal where
  fault : Fault
  rest : Bytes
deriving DecidableEq, Repr

/-- What is said of a text that is no address. -/
def Refusal.message (text : Bytes) (refusal : Refusal) : String :=
  let place := if refusal.rest.isEmpty then "" else s!" (at {Text.quote refusal.rest})"
  s!"ParseAddr({Text.quote text}): {refusal.fault.message}" ++ place

/-- A fault whose place is not told. -/
def fault {α : Type} (fault : Fault) : Except Refusal α :=
  .error ⟨fault, []⟩

def faultAt {α : Type} (fault : Fault) (rest : Bytes) : Except Refusal α :=
  .error ⟨fault, rest⟩

/-- Reads decimal fields, so many of them complete, with so many digits of the next one giving a
value so far. -/
def readFields : (complete digits value : Nat) → Bytes → Except Refusal Unit
  | complete, _, _, [] => if complete < 3 then fault .tooFewFields else .ok ()
  | complete, digits, value, b :: rest =>
    if Ascii.isDigit b then
      let value' := 10 * value + (b - Ascii.byte '0').toNat
      if digits = 1 ∧ value = 0 then fault .leadingZero
      else if value' > 255 then fault .largeField
      else readFields complete (digits + 1) value' rest
    else if b = Ascii.byte '.' then
      if digits = 0 ∨ rest = [] then faultAt .emptyField (b :: rest)
      else if complete = 3 then fault .tooManyFields
      else readFields (complete + 1) 0 0 rest
    else faultAt .strangeInField (b :: rest)

/-- Reads an address of four decimal fields. -/
def readFour (text : Bytes) : Except Refusal Unit :=
  readFields 0 0 0 text

/-- Checks the number of groups at the end: groups may be missing exactly where a gap stands for them. -/
def finish (missing : Nat) (gap : Bool) (rest : Bytes) : Except Refusal Unit :=
  if rest ≠ [] then faultAt .trailing rest
  else if missing > 0 then if gap then .ok () else fault .tooFewGroups
  else if gap then fault .gapOfNothing
  else .ok ()

/-- Reads hexadecimal groups, at most so many. `gap` tells whether groups have been left out already. -/
def readGroups (gap : Bool) : (missing : Nat) → Bytes → Except Refusal Unit
  | 0, text => finish 0 gap text
  | missing + 1, text =>
    let isDigit (b : UInt8) := (Ascii.hexValue? b).isSome
    let digits := text.takeWhile isDigit
    let rest := text.dropWhile isDigit
    if digits.length > 4 then faultAt .longGroup text
    else if digits = [] then faultAt .emptyGroup text
    else match rest with
      | [] => finish missing gap []
      | b :: more =>
        if b = Ascii.byte '.' then
          if !gap && missing != 1 then faultAt .misplacedFour text
          else if missing = 0 then faultAt .noRoomForFour text
          else do
            readFour text
            finish (missing - 1) gap []
        else if b ≠ Ascii.byte ':' then faultAt .strangeInGroup rest
        else match more with
          | [] => faultAt .colonAtEnd rest
          | c :: others =>
            if c = Ascii.byte ':' then
              if gap then faultAt .secondGap more
              else if others = [] then finish missing true []
              else readGroups true missing others
            else readGroups gap missing more

/-- Reads an address of hexadecimal groups. -/
def readSix (text : Bytes) : Except Refusal Unit :=
  match text with
  | a :: b :: rest =>
    if a = Ascii.byte ':' ∧ b = Ascii.byte ':' then if rest = [] then .ok () else readGroups true 8 rest
    else readGroups false 8 text
  | _ => readGroups false 8 text

/-- Reads an address. Its first point, colon or percent sign tells which kind it is. -/
def read (text : Bytes) : Except Refusal IpAddress :=
  match text.find? (Ascii.isOneOf ".:%") with
  | none => fault .neither
  | some b =>
    if b = Ascii.byte '%' then fault .zoneOnly
    else if b = Ascii.byte '.' then do
      readFour text
      return .four
    else match Ascii.cut (Ascii.byte '%') text with
      | (_, some []) => fault .emptyZone
      | (groups, zone) => do
        readSix groups
        return .six (zone.getD [])

end IpAddress

end Bootflash
