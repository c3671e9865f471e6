import Bootflash.Cli.Help
import Bootflash.Cli.Request
import Bootflash.Progress
import Bootflash.Text.Utf8

namespace Bootflash.Cli

/-- A serial port of the computer. -/
structure PortListing where
  name : String
  /-- The vendor, the product and its name, for a port on the bus. -/
  usb : Option (String × String × String)
deriving DecidableEq, Repr

/-- What the program finds around it. -/
structure Surroundings where
  password : String
  /-- How wide the terminal is, if the output goes to one. -/
  columns : Option Nat
  /-- The contents of files. -/
  file : String → Except Failure Image
  ports : List PortListing

/-- What a run prints, and why it failed. -/
structure Report where
  output : String
  diagnostics : String
  failure : Option String
deriving DecidableEq, Repr

/-- The bar leaves the last column of a terminal free; it has its own width anywhere else. -/
def barWidth (columns : Option Nat) : Int :=
  match columns with
  | some columns => if columns > 10 then columns - 1 else 79
  | none => 79

/-- The line about a device in the list of devices. -/
def deviceLine (device : Device) : String :=
  let column (width n : Nat) := Text.padLeft width ' ' (toString n)
  let geometry := device.geometry
  column 3 device.id.toNat ++ "  " ++ Text.padRight 10 device.name ++
    s!" flash {column 6 geometry.flashSize.toNat} / {column 3 geometry.flashPageSize.toNat}" ++
    s!"  eeprom {column 5 geometry.eepromSize.toNat} / {geometry.eepromPageSize.toNat}\n"

def portLine (port : PortListing) : String :=
  match port.usb with
  | some (vendor, product, title) => s!"{port.name}\t{vendor}:{product} {title}\n"
  | none => port.name ++ "\n"

/-- What is printed when every page is dealt with. -/
def tallyText (tally : Tally) : String :=
  let faults := if tally.resyncs > 0 then s!"Recovered from {tally.resyncs} link faults\n" else ""
  let ending := match tally.exitFailure with
    | some failure => s!"Bootloader did not confirm leaving programming mode: {failure.message}\n"
    | none => ""
  s!"Upload complete: {tally.written} pages written, {tally.skipped} blank, {tally.mode.name} mode\n" ++
    faults ++ ending

/-- The bar as it was drawn over a stretch of the journal. -/
def barText (width : Int) (entries : List Entry) : String :=
  String.join <| entries.map fun entry =>
    match entry.event with
    | .progressed done total => Progress.redraw width done total
    | _ => ""

/-- What the bootloader says about itself, in words. -/
def discoveryText (discovery : Discovery) : String :=
  s!"Bootloader: {Text.utf8 discovery.board}\n" ++
    String.join (discovery.supported.map fun id => s!"  supports:  {Device.nameOf id} ({id.toNat})\n")

def deviceText (device : Device) (fuses : Fuses) : String :=
  let geometry := device.geometry
  s!"Device:     {device.name}\n" ++
    s!"Flash:      {geometry.flashSize.toNat} bytes, {geometry.flashPageSize.toNat} byte pages\n" ++
    s!"EEPROM:     {geometry.eepromSize.toNat} bytes, {geometry.eepromPageSize.toNat} byte pages\n" ++
    s!"Fuses:      low 0x{Text.hexUpper 2 fuses.low.toNat} high 0x{Text.hexUpper 2 fuses.high.toNat}\n" ++
    s!"Bootloader: {Text.address (device.bootAddress fuses.high)}\n"

section

variable {ω : Type} [Station ω]

/-- Opens the chip, does something with what its bootloader says, and closes it. -/
def withChip (act : Discovery → StateM (Microcontroller ω) (String × Option Failure)) :
    StateM (Microcontroller ω) (String × Option Failure) := do
  match ← Microcontroller.connect with
  | .error failure => return ("", some failure)
  | .ok _ =>
    let result ← match ← Microcontroller.identify with
      | .error failure => pure ("", some failure)
      | .ok none => pure ("", some .unspecified)
      | .ok (some discovery) => act discovery
    let _ ← Microcontroller.close
    return result

/-- Programs a file and shows how far it is. -/
def programChip (width : Int) (contents : Except Failure Image) (discovery : Discovery) :
    StateM (Microcontroller ω) (String × Option Failure) := do
  let found := s!"Found {Text.utf8 discovery.board}, programming as {Device.nameOf discovery.selected}\n"
  let before := (← get).journal.size
  let pass ← Microcontroller.programFile contents
  let journal := (← get).journal
  let shown := found ++ barText width (journal.extract before journal.size).toList
  match pass with
  | some (.complete tally) => return (shown ++ tallyText tally, none)
  | some (.stopped _ failure) => return (shown, some failure)
  | some (.refused failure) => return (shown, some failure)
  | none => return (shown, some .unspecified)

/-- Shows what the bootloader says and what is known of the chip. -/
def inspectChip (discovery : Discovery) : StateM (Microcontroller ω) (String × Option Failure) := do
  let shown := discoveryText discovery
  match Device.lookup discovery.selected with
  | .error failure => return (shown, some failure)
  | .ok device =>
    match ← Microcontroller.fuses with
    | (_, some failure) => return (shown, some failure)
    | (fuses, none) => return (shown ++ deviceText device fuses, none)

/-- A word of an unknown topic, in plain quotes where they can hold it. -/
def topicWord (word : String) : String :=
  let plain (c : Char) := c != '\x60' && c != '\uFEFF' && c != '\x7F' && (c.toNat ≥ 32 || c == '\t')
  if word.toList.all plain then "\x60" ++ word ++ "\x60" else Text.quoteText word

/-- Runs on a chip and reports. -/
def onChip (config : Config) (act : StateM (Microcontroller ω) (String × Option Failure))
    (station : ω) : Report × ω :=
  let ((output, failure), mcu) := act.run (.new config station)
  (⟨output, "", failure.map Failure.message⟩, mcu.station)

/-- Carries out an order. -/
def Order.carryOut (order : Order) (around : Surroundings) (station : ω) : Report × ω :=
  let config := order.settings.config around.password
  let printed (output : String) : Report × ω := (⟨output, "", none⟩, station)
  match order.request with
  | .explain command => printed command.helpText
  | .unknownTopic words =>
    let topic := String.intercalate " " (words.map topicWord)
    (⟨"", s!"Unknown help topic [{topic}]\n" ++ Command.root.usage, none⟩, station)
  | .program path =>
    onChip (config order.settings.retries)
      (withChip (programChip (barWidth around.columns) (around.file path))) station
  | .inspect => onChip (config 0) (withChip inspectChip) station
  | .listPorts =>
    printed (if around.ports.isEmpty then "No serial ports found\n"
      else String.join (around.ports.map portLine))
  | .listDevices => printed (String.join (Device.registry.map deviceLine))
  | .script _ => printed ""

/-- Runs a command line. -/
def run (words : List String) (around : Surroundings) (station : ω) : Report × ω :=
  match Order.ofWords words with
  | .error misuse => (⟨"", "", some misuse.message⟩, station)
  | .ok order => order.carryOut around station

end

/-- What goes to standard error. -/
def Report.errors (report : Report) : String :=
  report.diagnostics ++
    match report.failure with
    | some text => s!"Error: {text}\n"
    | none => ""

def Report.exitCode (report : Report) : UInt32 :=
  if report.failure.isSome then 1 else 0

/-- Whether a command line turns the log of the wire traffic on. -/
def logsTraffic (words : List String) : Bool :=
  match Order.ofWords words with
  | .error _ => false
  | .ok order => order.verbose

end Bootflash.Cli
