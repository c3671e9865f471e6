import Bootflash.Session.Command

namespace Bootflash

/-- What a bootloader says about itself. -/
structure Discovery where
  /-- The identifier the board answers with. -/
  board : List UInt8
  /-- Every device type the bootloader reported, in its order. -/
  supported : List UInt8
  /-- The last reported type, the one the flash is programmed as. -/
  selected : UInt8
deriving DecidableEq, Repr, Inhabited

namespace Session

variable {ω : Type} [Link ω]

/-- How long each sync frame waits for the board. -/
def syncTimeout : Int := 500

/-- How many sync frames are sent before the board is given up. -/
def syncAttempts : Nat := 3

/-- The length of a board's identifier. -/
def boardIdLength : Nat := 7

/-- Cancels whatever the bootloader is in the middle of and asks for its identifier. -/
def syncFrame : List UInt8 :=
  List.replicate 4 Opcode.cancel.byte ++ [Opcode.sync.byte]

/-- Sends sync frames until one is answered, `left` at most. The answer is empty if none was. -/
def awaitBoard : (left : Nat) → SessionM ω (List UInt8)
  | 0 => return []
  | left + 1 => do
    send syncFrame
    match ← receive 100 with
    | [] =>
      lift (note (.syncUnanswered (syncAttempts - left)))
      awaitBoard left
    | answer => return answer

/-- Looks for a bootloader on the link and returns the identifier it answers with. -/
def findBoard : SessionM ω (List UInt8) := do
  let answer ← withTimeout syncTimeout (awaitBoard syncAttempts)
  if answer.length = boardIdLength then
    lift (note (.boardFound answer))
    return answer
  else
    throw (.context s!"got {answer.length} bytes" .boardNotFound)

/-- The device types the bootloader reports, in the order it lists them. -/
def supportedDevices : SessionM ω (List UInt8) := do
  send [Opcode.listDevices.byte]
  let answer ← receive 500
  if answer.getLast? = some 0 then
    let ids := answer.dropLast
    lift (ids.forM fun id => note (.deviceSupported id))
    return ids
  else
    throw (.command "listDevices" answer)

/-- Finds the bootloader and picks the device type to program: the last one it reports. -/
def discover : SessionM ω Discovery := do
  let board ← findBoard
  let supported ← within "could not list supported devices" supportedDevices
  match supported.getLast? with
  | none => throw (.context "bootloader reported no devices" .unknownDeviceType)
  | some selected =>
    if supported.length > 1 then
      lift (note (.severalDevices supported.length selected))
    return { board, supported, selected }

end Session

end Bootflash
