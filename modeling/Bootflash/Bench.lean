import Bootflash.Link.Faulty
import Bootflash.Link.Scripted
import Bootflash.Link.Serial
import Bootflash.Microcontroller
import Bootflash.Pins

namespace Bootflash

/-- The far end of a link in memory. -/
inductive FarEnd where
  | script (script : Script)
  | device (bootloader : Bootloader)

namespace FarEnd

instance : Link FarEnd where
  write bytes
    | .script s => let (failure, s) := Link.write bytes s; (failure, .script s)
    | .device b => let (failure, b) := Link.write bytes b; (failure, .device b)
  read limit
    | .script s => let (reading, s) := Link.read limit s; (reading, .script s)
    | .device b => let (reading, b) := Link.read limit b; (reading, .device b)
  setTimeout ms
    | .script s => .script (Link.setTimeout ms s)
    | .device b => .device (Link.setTimeout ms b)
  close
    | .script s => let (failure, s) := Link.close s; (failure, .script s)
    | .device b => let (failure, b) := Link.close b; (failure, .device b)

/-- Puts bytes behind what the far end has to say. -/
def feed (data : List UInt8) : FarEnd → FarEnd
  | .script s => .script (s.feed data)
  | .device b => .device { b with output := b.output ++ data }

end FarEnd

/-- Where the chip is. -/
inductive Port where
  | nowhere
  | attached (link : Faulty FarEnd)
  | serial (path : String) (port : SerialPort)
  | bridge (link : BridgeLink)

namespace Port

/-- The failure of a link that is not there. -/
def absent (call : String) : Failure :=
  .transport call .closed

instance : Link Port where
  write bytes
    | .nowhere => (some (absent "write"), .nowhere)
    | .attached link => let (failure, link) := Link.write bytes link; (failure, .attached link)
    | .serial path port => let (failure, port) := Link.write bytes port; (failure, .serial path port)
    | .bridge link => let (failure, link) := Link.write bytes link; (failure, .bridge link)
  read limit
    | .nowhere => (⟨[], some (absent "read")⟩, .nowhere)
    | .attached link => let (reading, link) := Link.read limit link; (reading, .attached link)
    | .serial path port => let (reading, port) := Link.read limit port; (reading, .serial path port)
    | .bridge link => let (reading, link) := Link.read limit link; (reading, .bridge link)
  setTimeout ms
    | .nowhere => .nowhere
    | .attached link => .attached (Link.setTimeout ms link)
    | .serial path port => .serial path (Link.setTimeout ms port)
    | .bridge link => .bridge (Link.setTimeout ms link)
  close
    | .nowhere => (none, .nowhere)
    | .attached link => let (failure, link) := Link.close link; (failure, .attached link)
    | .serial path port => let (failure, port) := Link.close port; (failure, .serial path port)
    | .bridge link => let (failure, link) := Link.close link; (failure, .bridge link)

/-- The chip, if it is a simulated bootloader. -/
def device? : Port → Option Bootloader
  | .nowhere => none
  | .attached link =>
    match link.link with
    | .script _ => none
    | .device b => some b
  | .serial _ port => some port.line.device
  | .bridge link => some link.line.device

end Port

structure Bench where
  port : Port
  pins : Pins
  /-- Files that exist and are no serial ports. -/
  otherFiles : List String

namespace Bench

/-- A bench with nothing on it. -/
def bare : Bench :=
  ⟨.nowhere, ⟨[]⟩, []⟩

/-- Opens the serial port at a path. -/
def openPort (path : String) (bench : Bench) : Option Failure × Bench :=
  let failed (text : String) : Failure := .context "could not open serial" (.other text)
  let missing := failed <|
    if bench.otherFiles.contains path then
      "Invalid serial port: error getting term settings: inappropriate ioctl for device"
    else "no such file or directory"
  match bench.port with
  | .serial name port =>
    if name = path then (none, { bench with port := .serial name port.connect }) else (some missing, bench)
  | _ => (some missing, bench)

/-- What an address leads to that nobody listens at. -/
def nobody : Bridge :=
  { demands := none, status := none, closesOn := none, certificate := none, unreachable := some "connection refused" }

/-- Connects to the bridge, if there is one. -/
def dial (address : String) (login : Login) (bench : Bench) : Option Failure × Bench :=
  match bench.port with
  | .bridge link =>
    let (failure, link) := link.dial address login
    (failure, { bench with port := .bridge link })
  | _ =>
    match BridgeLink.checkAddress address with
    | .error failure => (some failure, bench)
    | .ok url => (BridgeLink.obstacle? nobody url login, bench)

instance : Station Bench where
  write bytes bench :=
    let ⟨port, pins, files⟩ := bench
    let (failure, port) := Link.write bytes port
    (failure, ⟨port, pins, files⟩)
  read limit bench :=
    let ⟨port, pins, files⟩ := bench
    let (reading, port) := Link.read limit port
    (reading, ⟨port, pins, files⟩)
  setTimeout ms bench :=
    let ⟨port, pins, files⟩ := bench
    ⟨Link.setTimeout ms port, pins, files⟩
  close bench :=
    let ⟨port, pins, files⟩ := bench
    let (failure, port) := Link.close port
    (failure, ⟨port, pins, files⟩)
  openPort path _ := openPort path
  dial := dial
  claimReset pin bench :=
    let (failure, pins) := bench.pins.claim pin
    (failure, { bench with pins })
  pulseReset pin bench := { bench with pins := bench.pins.pulse pin }
  releaseReset pin bench := { bench with pins := bench.pins.release pin }

end Bench

end Bootflash
