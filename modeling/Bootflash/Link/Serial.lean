import Bootflash.Link.Line

namespace Bootflash

inductive PortState where
  | connected
  | closed
  /-- The far end has gone away. -/
  | hungUp
deriving DecidableEq, Repr

structure SerialPort where
  line : Line
  state : PortState
deriving DecidableEq

namespace SerialPort

/-- A port that has not been opened. -/
def unopened (device : Bootloader) : SerialPort :=
  ⟨.toDevice device, .closed⟩

/-- Opens the port. -/
def connect (port : SerialPort) : SerialPort :=
  ⟨port.line.reopen, .connected⟩

/-- The far end goes away. -/
def hangUp (port : SerialPort) : SerialPort :=
  { port with state := .hungUp }

def write (bytes : List UInt8) (port : SerialPort) : Option Failure × SerialPort :=
  match port with
  | ⟨line, .connected⟩ => (none, ⟨line.carry bytes, .connected⟩)
  | ⟨line, .closed⟩ => (some (.transport "write" .closed), ⟨line, .closed⟩)
  | ⟨line, .hungUp⟩ => (some (.transport "write" (.other "input/output error")), ⟨line, .hungUp⟩)

def close (port : SerialPort) : SerialPort :=
  match port with
  | ⟨line, .closed⟩ => ⟨line, .closed⟩
  | ⟨line, _⟩ => ⟨line.fail (.transport "read" .closed), .closed⟩

instance : Link SerialPort where
  write := write
  read limit port :=
    let ⟨line, state⟩ := port
    let (reading, line) := line.read limit
    (reading, ⟨line, state⟩)
  setTimeout _ port := port
  close port := (none, port.close)

end SerialPort

end Bootflash
