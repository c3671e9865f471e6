import Bootflash.Failure

namespace Bootflash

/-- Sizes of a chip's memories, in bytes. -/
structure Geometry where
  flashSize : UInt32
  flashPageSize : UInt32
  eepromSize : UInt32
  eepromPageSize : UInt32
deriving DecidableEq, Repr, Inhabited

/-- Where the bootloader section starts. -/
inductive BootSection where
  /-- At one address, whatever the fuses say. -/
  | fixed (start : UInt32)
  /-- At the top of the flash. Bits 2 and 1 of the high fuse say how often the largest section is halved. -/
  | halved (largest : UInt32)
deriving DecidableEq, Repr, Inhabited

/-- A chip as the registry knows it. -/
structure Device where
  /-- The type id a bootloader reports. -/
  id : UInt8
  name : String
  geometry : Geometry
  boot : BootSection
deriving DecidableEq, Repr, Inhabited

namespace Device

def atmega32 : Device :=
  ⟨114, "ATmega32", ⟨32768, 128, 1024, 4⟩, .halved 0x1000⟩

def atmega644 : Device :=
  ⟨150, "ATmega644", ⟨65536, 256, 2048, 8⟩, .fixed 0xfc00⟩

/-- Every chip that can be programmed, by ascending id. -/
def registry : List Device :=
  [atmega32, atmega644]

/-- The registry entry with this id. -/
def find? (id : UInt8) : Option Device :=
  registry.find? fun device => device.id == id

/-- The registry entry with this id, or the failure that says there is none. -/
def lookup (id : UInt8) : Except Failure Device :=
  match find? id with
  | some device => .ok device
  | none => .error (.context s!"id {id}" .unknownDeviceType)

/-- What to call a type id: the chip's name, or a placeholder around the number. -/
def nameOf (id : UInt8) : String :=
  match find? id with
  | some device => device.name
  | none => s!"unknown({id})"

/-- The byte address where the bootloader section starts. Everything below it is application flash. -/
def bootAddress (device : Device) (fuseHigh : UInt8) : UInt32 :=
  match device.boot with
  | .fixed start => start
  | .halved largest => device.geometry.flashSize - (largest >>> ((fuseHigh >>> 1) &&& 3).toUInt32)

end Device

end Bootflash
