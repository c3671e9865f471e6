import Bootflash.Link.Bridge
import Bootflash.Programming.Pass
import Bootflash.Session.Discovery

namespace Bootflash

/-- The place a chip is reached from: something that can open a link and operate the reset pin. -/
class Station (ω : Type) extends Link ω where
  /-- Opens a serial port at a speed. -/
  openPort : String → Int → ω → Option Failure × ω
  /-- Connects to a bridge. -/
  dial : String → Login → ω → Option Failure × ω
  claimReset : Nat → ω → Option Failure × ω
  pulseReset : Nat → ω → ω
  releaseReset : Nat → ω → ω

/-- How to reach and program a chip. -/
structure Config where
  /-- The pin wired to the reset line; none unless positive. -/
  resetPin : Int
  /-- The speed of the port; the default unless positive. -/
  baud : Int
  /-- The port; the default if empty. -/
  tty : String
  /-- The bridge to use instead of a port, unless empty. -/
  bridgeUrl : String
  login : Login
  maxRetries : Int
deriving DecidableEq, Repr, Inhabited

namespace Config

def defaultBaud : Int := 19200

def defaultTty : String := "/dev/ttyUSB0"

/-- Everything at its default. -/
def empty : Config :=
  { resetPin := 0, baud := 0, tty := "", bridgeUrl := "", login := ⟨"", "", false⟩, maxRetries := 0 }

/-- The port that is used. -/
def port (config : Config) : String :=
  if config.tty = "" then defaultTty else config.tty

/-- The speed that is used. -/
def speed (config : Config) : Int :=
  if config.baud > 0 then config.baud else defaultBaud

/-- The reset pin, if one is wired. -/
def pin? (config : Config) : Option Nat :=
  if config.resetPin > 0 then some config.resetPin.toNat else none

end Config

structure Microcontroller (ω : Type) where
  config : Config
  station : ω
  /-- What the host keeps of the open session. -/
  session : Option Host
  /-- What the bootloader said when the chip was last opened. It outlives the session. -/
  discovery : Option Discovery
  /-- The reset pin, while it is claimed. -/
  resetPin : Option Nat
  journal : Journal

/-- The fuses as far as they could be read, zero where not. -/
structure Fuses where
  low : UInt8
  high : UInt8
deriving DecidableEq, Repr, Inhabited

namespace Microcontroller

variable {ω : Type}

/-- A chip nobody has tried to reach yet. -/
def new (config : Config) (station : ω) : Microcontroller ω :=
  { config, station, session := none, discovery := none, resetPin := none, journal := .empty }

def isOpen (mcu : Microcontroller ω) : Bool :=
  mcu.session.isSome

/-- Runs an operation on the open session. -/
def inSession {α : Type} (host : Host) (operation : StateM (Session ω) α) : StateM (Microcontroller ω) α :=
  modifyGet fun ⟨config, station, _, discovery, resetPin, journal⟩ =>
    let (a, ⟨station, host, journal⟩) := operation.run ⟨station, host, journal⟩
    (a, ⟨config, station, some host, discovery, resetPin, journal⟩)

/-- Writes an event into the journal of a chip that has no session. -/
def record (event : Event) : StateM (Microcontroller ω) Unit :=
  modify fun mcu => { mcu with journal := mcu.journal.push ⟨.initial, .initial, event⟩ }

variable [Station ω]

/-- Does something at the station. -/
def atStation {α : Type} (act : ω → α × ω) : StateM (Microcontroller ω) α :=
  modifyGet fun ⟨config, station, session, discovery, resetPin, journal⟩ =>
    let (a, station) := act station
    (a, ⟨config, station, session, discovery, resetPin, journal⟩)

/-- Claims the reset pin, if one is wired. -/
def claimReset : StateM (Microcontroller ω) (Option Failure) := do
  match (← get).config.pin? with
  | none => return none
  | some pin =>
    match ← atStation (Station.claimReset pin) with
    | some failure => return some (.context "could not setup pins" failure)
    | none =>
      modify fun mcu => { mcu with resetPin := some pin }
      return none

/-- Does something with the reset pin if it is claimed. -/
def withReset (act : Nat → ω → ω) : StateM (Microcontroller ω) Unit := do
  match (← get).resetPin with
  | none => return ()
  | some pin => atStation fun station => ((), act pin station)

/-- Resets the chip so that it starts into its bootloader. -/
def enterBootloader : StateM (Microcontroller ω) Unit :=
  withReset Station.pulseReset

/-- Gives the reset pin back. -/
def releaseReset : StateM (Microcontroller ω) Unit := do
  withReset Station.releaseReset
  modify fun mcu => { mcu with resetPin := none }

/-- Opens a link in one way or another. -/
def openBy (act : ω → Option Failure × ω) : StateM (Microcontroller ω) (Option Failure) := do
  match ← atStation act with
  | some failure => return some failure
  | none =>
    record .opened
    return none

/-- Opens the link the configuration asks for. -/
def openLink : StateM (Microcontroller ω) (Option Failure) := do
  let config := (← get).config
  if config.bridgeUrl = "" then
    openBy (Station.openPort config.port config.speed)
  else
    openBy (Station.dial config.bridgeUrl config.login)

/-- Closes the link, if it is open, and gives the reset pin back. -/
def close : StateM (Microcontroller ω) (Option Failure) := do
  let failure ← match (← get).session with
    | none => pure none
    | some host => inSession host (Session.failureOf Session.close)
  modify fun mcu => { mcu with session := none }
  releaseReset
  return failure

/-- Starts a session on a link that was just opened and identifies the bootloader. -/
def identifyBootloader : StateM (Microcontroller ω) (Except Failure Host) := do
  let (outcome, host) ← inSession .initial do
    Session.setTimeout Session.responseTimeout
    let outcome ← Session.discover.run
    return (outcome, ← Session.host?)
  match outcome with
  | .ok discovery =>
    modify fun mcu => { mcu with discovery := some discovery }
    return .ok host
  | .error failure =>
    modify fun mcu => { mcu with discovery := none }
    let _ ← close
    return .error (.context "could not find bootloader" failure)

/-- Connects to the bootloader and identifies the chip. Does nothing when the chip is open. Returns
what the host keeps of the session. -/
def connect : StateM (Microcontroller ω) (Except Failure Host) := do
  match (← get).session with
  | some host => return .ok host
  | none =>
    match ← claimReset with
    | some failure => return .error failure
    | none =>
      enterBootloader
      match ← openLink with
      | some failure =>
        releaseReset
        return .error failure
      | none => identifyBootloader

/-- Runs something on the open chip. A chip found closed is opened for it and closed again. -/
def whileOpen {α : Type} (act : Host → StateM (Microcontroller ω) α) (otherwise : Failure → α) :
    StateM (Microcontroller ω) α := do
  match (← get).session with
  | some host => act host
  | none =>
    match ← connect with
    | .error failure => return otherwise failure
    | .ok host =>
      let a ← act host
      let _ ← close
      return a

/-- What the bootloader says about itself. The answer of the last opening is kept. -/
def identify : StateM (Microcontroller ω) (Except Failure (Option Discovery)) := do
  match (← get).discovery with
  | some discovery => return .ok (some discovery)
  | none => whileOpen (fun _ => do return .ok (← get).discovery) .error

/-- Reads the low fuse and then the high fuse. -/
def fuses : StateM (Microcontroller ω) (Fuses × Option Failure) :=
  whileOpen
    (fun host => inSession host do
      match ← Session.fuseLow.run with
      | .error failure => return (⟨0, 0⟩, some failure)
      | .ok low =>
        match ← Session.fuseHigh.run with
        | .error failure => return (⟨low, 0⟩, some failure)
        | .ok high => return (⟨low, high⟩, none))
    fun failure => (⟨0, 0⟩, some failure)

/-- Programs a payload into the open chip, as the device its bootloader selected. -/
def programAs (payload : Image) (selected : UInt8) (host : Host) : StateM (Microcontroller ω) Pass := do
  match Device.lookup selected with
  | .error failure => return .refused failure
  | .ok device =>
    let flashSize := device.geometry.flashSize
    if payload.length32 > flashSize then
      return .refused (.oversizedPayload payload.size device.name flashSize)
    let options : Options := ⟨(← get).config.maxRetries⟩
    inSession host (Session.programChip (payload.pad flashSize.toNat) device.id options)

/-- Erases the chip and programs a payload, starting at address zero. There is no answer when the
chip is open and its bootloader was never identified. -/
def program (payload : Image) : StateM (Microcontroller ω) (Option Pass) :=
  whileOpen
    (fun host => do
      match (← get).discovery with
      | none => return none
      | some discovery => return some (← programAs payload discovery.selected host))
    fun failure => some (.refused failure)

/-- The failure to read a file that is not there. -/
def missingFile (path : String) : Failure :=
  .other s!"open {path}: no such file or directory"

/-- Programs the payload in a file, which is read before anything else happens. -/
def programFile (contents : Except Failure Image) : StateM (Microcontroller ω) (Option Pass) :=
  match contents with
  | .error failure => return some (.refused failure)
  | .ok payload => program payload

end Microcontroller

end Bootflash
