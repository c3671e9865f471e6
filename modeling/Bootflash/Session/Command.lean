import Bootflash.Session.Basic

namespace Bootflash.Session

variable {ω : Type} [Link ω]

/-- How long a chip erase may take. -/
def eraseTimeout : Int := 3000

/-- How long the two bytes of a word read may take. -/
def readWordTimeout : Int := 1000

/-- How long the link is drained after a fault. -/
def resyncTimeout : Int := 1000

/-- Whether an address can be sent: the wire carries its word address in sixteen bits. -/
def reachable (addr : UInt32) : Bool :=
  addr % 2 = 0 && addr / 2 ≤ 0xffff

/-- The address command. The word address goes high byte first. -/
def addressFrame (addr : UInt32) : List UInt8 :=
  let word := addr / 2
  [Opcode.setAddress.byte, (word >>> 8).toUInt8, word.toUInt8]

/-- Moves the device's address pointer to a byte address. -/
def setAddress (addr : UInt32) : SessionM ω Unit := do
  if reachable addr then
    execMoving "setAddress" (addressFrame addr)
    lift (update (Host.trust addr))
  else
    throw (.addressOutOfReach addr)

/-- Turns the indicator on. -/
def lightLed : SessionM ω Unit := do
  exec "setLED" [Opcode.ledOn.byte, 0]
  lift (update fun host => { host with led := true })

/-- Turns the indicator off. -/
def dimLed : SessionM ω Unit := do
  exec "clearLED" [Opcode.ledOff.byte, 0]
  lift (update fun host => { host with led := false })

/-- Erases the whole application section, with the indicator lit meanwhile. -/
def eraseChip : SessionM ω Unit := do
  lightLed
  withTimeout eraseTimeout (exec "erase" [Opcode.eraseChip.byte])
  dimLed

/-- Reads the fuse that an opcode asks for. -/
def readFuse (op : Opcode) : SessionM ω UInt8 := do
  send [op.byte]
  match ← receiveByte with
  | some fuse => return fuse
  | none => throw .noDevice

def fuseHigh : SessionM ω UInt8 :=
  readFuse .readFuseHigh

def fuseLow : SessionM ω UInt8 :=
  readFuse .readFuseLow

/-- Reads the flash word at a byte address, high byte first as the device sends it. The device moves
its pointer past the word. -/
def readWord (addr : UInt32) : SessionM ω UInt16 := do
  setAddress addr
  send [Opcode.readWord.byte]
  lift (update Host.forget)
  match ← withTimeout readWordTimeout (receive 2) with
  | [high, low] => return high.toUInt16 * 256 + low.toUInt16
  | bytes => throw (.command "readWord" bytes)

/-- Makes sure that the device advances its pointer on its own after writes. Any other answer, and
none, means that the chip cannot be programmed. -/
def requireAutoIncrement : SessionM ω Unit := do
  send [Opcode.autoIncrement.byte]
  tryCatch (expect "autoIncrement" yes) fun failure =>
    if failure.isCommand then throw (.context failure.message .unsupportedDevice) else throw failure

def enterProgramming : SessionM ω Unit :=
  exec "enterProgramming" [Opcode.enterProgramming.byte]

def leaveProgramming : SessionM ω Unit :=
  exec "leaveProgramming" [Opcode.leaveProgramming.byte]

/-- Announces a block write. The page data follows. -/
def announceBlock : SessionM ω Unit :=
  sendMoving [Opcode.writeBlock.byte]

/-- Reads what a bootloader answers to a block write it has not yet taken one of: false if it
refuses. No answer is not a refusal. -/
def blockAccepted : SessionM ω Bool := do
  match ← receiveByte with
  | none => return true
  | some b =>
    if b = reject then
      return false
    else
      lift (note (.blockProbe b))
      return true

/-- Sends the data of a block write and waits for the acknowledgement. -/
def sendBlock (page : List UInt8) : SessionM ω Unit := do
  send page
  expect "fastWrite" ack

/-- Waits for the acknowledgement of a high byte, over fewer than `reads` fillers. -/
def awaitHighByte : (reads : Nat) → SessionM ω Unit
  | 0 => throw (.command "writeHigh" [filler])
  | reads + 1 => do
    match ← receiveByte with
    | none => throw (.command "writeHigh" [])
    | some b =>
      if b = ack then return ()
      else if b = filler then awaitHighByte reads
      else throw (.command "writeHigh" [b])

/-- Loads one word into the page buffer, low byte first. -/
def loadWord (low high : UInt8) : SessionM ω Unit := do
  execMoving "writeLow" [Opcode.loadLow.byte, low]
  send [Opcode.loadHigh.byte, high]
  awaitHighByte 5

/-- Commits the page buffer to the page under the pointer. -/
def commitPage : SessionM ω Unit :=
  exec "writePage" [Opcode.writePage.byte]

/-- Erases the page under the pointer. Some bootloaders do not answer this, so an answer other than
the acknowledgement is only noted. -/
def erasePage : SessionM ω Unit := do
  sendMoving [Opcode.erasePage.byte]
  let answer ← receiveByte
  if answer ≠ some ack then
    lift do
      let host ← host?
      note (.eraseUnconfirmed host.addr (answer.getD 0))

/-- How many cancel bytes are sent to flush a device that may still wait for `missing` bytes. -/
def flushLength (missing : Nat) : Nat :=
  missing + 9

/-- Reads what is left on the link and drops it. -/
def drain (limit : Nat) : SessionM ω Unit := do
  let reading ← lift (read limit)
  unless reading.bytes.isEmpty do
    lift (note (.drained reading.bytes.length))
  check reading.failure

/-- Sends enough cancel bytes to end any command that waits for `missing` bytes or fewer, drains the
link, and puts the device's pointer back at `addr`. -/
def resync (addr : UInt32) (missing : Nat) : SessionM ω Unit := do
  lift (note (.resyncing addr))
  within "could not flush bootloader" (sendMoving (List.replicate (flushLength missing) Opcode.cancel.byte))
  within "could not drain bootloader" (withTimeout resyncTimeout (drain (flushLength missing)))
  setAddress addr

end Bootflash.Session
