import Bootflash.Device
import Bootflash.Text.Utf8

namespace Bootflash

/-- How page data is sent. -/
inductive WriteMode where
  /-- Not settled yet. -/
  | unknown
  /-- A whole page with one command. -/
  | fast
  /-- One byte per command. -/
  | slow
deriving DecidableEq, Repr, Inhabited

namespace WriteMode

/-- The mode with this number. Numbers nobody assigned stand for a mode that is not settled. -/
def ofNumber (n : Int) : WriteMode :=
  if n = 1 then fast else if n = 2 then slow else unknown

def name : WriteMode → String
  | unknown => "unknown"
  | fast => "fast"
  | slow => "slow"

end WriteMode

/-- How much a notice matters. -/
inductive Level where
  | debug
  | info
  | warning
  | error
deriving DecidableEq, Repr

def Level.name : Level → String
  | debug => "debug"
  | info => "info"
  | warning => "warning"
  | error => "error"

inductive Notice where
  /-- A command was sent but not acknowledged. -/
  | commandFailed (name : String) (failure : Failure)
  /-- The bootloader's answer to the first block write. -/
  | blockProbe (answer : UInt8)
  /-- A page erase was answered with something else, or not at all (`0`). -/
  | eraseUnconfirmed (addr : UInt32) (answer : UInt8)
  | resyncing (addr : UInt32)
  | drained (count : Nat)
  | syncUnanswered (attempt : Nat)
  | boardFound (id : List UInt8)
  | deviceSupported (id : UInt8)
  | severalDevices (count : Nat) (chosen : UInt8)
  | bootloaderAt (device : String) (boot : UInt32)
  | programming (start stop : UInt32) (device : String)
  /-- The bootloader takes no block writes. -/
  | blocksRefused
  | pageFailed (mode : WriteMode) (addr : UInt32) (failure : Failure)
  | programmed (written skipped : Nat) (mode : WriteMode)
  | ledStuck (failure : Failure)
  | exitUnconfirmed (failure : Failure)
deriving DecidableEq

namespace Notice

def level : Notice → Level
  | commandFailed .. | blockProbe .. | drained .. | syncUnanswered .. | deviceSupported .. => .debug
  | boardFound .. | bootloaderAt .. | programming .. | blocksRefused | programmed .. => .info
  | eraseUnconfirmed .. | resyncing .. | severalDevices .. | pageFailed .. | ledStuck ..
  | exitUnconfirmed .. => .warning

def text : Notice → String
  | commandFailed name failure => s!"{name}: {failure.message}"
  | blockProbe answer => s!"fast write probe: {Text.hexNat answer.toNat}"
  | eraseUnconfirmed addr answer =>
    s!"erase page at {Text.address addr}: unexpected response {Text.hexNat answer.toNat}"
  | resyncing addr => s!"resyncing at {Text.address addr}"
  | drained count => s!"resync drained {count} bytes"
  | syncUnanswered attempt => s!"no answer to sync (attempt {attempt})"
  | boardFound id => s!"found {Text.utf8 id}"
  | deviceSupported id => s!"bootloader supports {Device.nameOf id}"
  | severalDevices count chosen =>
    s!"bootloader reports {count} device types, using the last one ({Device.nameOf chosen})"
  | bootloaderAt device boot => s!"{device} bootloader is at {Text.address boot}"
  | programming start stop device => s!"writing {Text.address start}-{Text.address stop} to {device}"
  | blocksRefused => "bootloader refused block writes, using byte writes"
  | pageFailed mode addr failure =>
    s!"{mode.name} write failed at {Text.address addr}, retrying: {failure.message}"
  | programmed written skipped mode =>
    s!"upload complete: {written} written, {skipped} blank, {mode.name} mode"
  | ledStuck failure => s!"could not clear led: {failure.message}"
  | exitUnconfirmed failure => s!"could not leave programming mode: {failure.message}"

end Notice

end Bootflash
