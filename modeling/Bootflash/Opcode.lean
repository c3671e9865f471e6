namespace Bootflash

/-- What a command acknowledges with. -/
def ack : UInt8 := 0x0d

/-- What the bootloader answers when it advances its address pointer on its own. -/
def yes : UInt8 := 0x59

/-- What the bootloader answers to a command it refuses. -/
def reject : UInt8 := 0x3f

/-- What some bootloaders send ahead of the acknowledgement of a high byte. It has the same code as
a refusal. -/
def filler : UInt8 := 0x3f

/-- The content of an erased flash cell. -/
def erased : UInt8 := 0xff

inductive Opcode where
  | cancel
  | setAddress
  | ledOn
  | ledOff
  | eraseChip
  | readFuseHigh
  | readFuseLow
  | readWord
  | autoIncrement
  | enterProgramming
  | leaveProgramming
  | writeBlock
  | loadLow
  | loadHigh
  | writePage
  | erasePage
  | sync
  | listDevices
deriving DecidableEq, Repr

namespace Opcode

/-- The byte that stands for a command on the wire. -/
def byte : Opcode → UInt8
  | cancel => 0x1b
  | setAddress => 0x41
  | ledOn => 0x78
  | ledOff => 0x79
  | eraseChip => 0x65
  | readFuseHigh => 0x4e
  | readFuseLow => 0x46
  | readWord => 0x52
  | autoIncrement => 0x61
  | enterProgramming => 0x50
  | leaveProgramming => 0x4c
  | writeBlock => 0x5a
  | loadLow => 0x63
  | loadHigh => 0x43
  | writePage => 0x6d
  | erasePage => 0x45
  | sync => 0x53
  | listDevices => 0x74

/-- How many argument bytes follow the opcode. -/
def arity : Opcode → Nat
  | setAddress => 2
  | ledOn | ledOff | loadLow | loadHigh => 1
  | _ => 0

def all : List Opcode :=
  [cancel, setAddress, ledOn, ledOff, eraseChip, readFuseHigh, readFuseLow, readWord, autoIncrement,
    enterProgramming, leaveProgramming, writeBlock, loadLow, loadHigh, writePage, erasePage, sync, listDevices]

/-- The command a byte stands for. -/
def ofByte? (b : UInt8) : Option Opcode :=
  all.find? fun op => op.byte == b

/-- No two commands share a byte. -/
@[simp]
theorem ofByte?_byte (op : Opcode) : ofByte? op.byte = some op := by
  cases op <;> rfl

theorem eq_of_byte_eq {op op' : Opcode} (h : op.byte = op'.byte) : op = op' := by
  simpa using congrArg ofByte? h

end Opcode

end Bootflash
