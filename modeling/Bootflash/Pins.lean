import Bootflash.Failure

namespace Bootflash

/-- The files of a pin directory with their contents. -/
structure Pins where
  files : List (String × String)
deriving DecidableEq, Repr, Inhabited

namespace Pins

def directionFile (pin : Nat) : String :=
  s!"gpio{pin}/direction"

def valueFile (pin : Nat) : String :=
  s!"gpio{pin}/value"

/-- A directory that offers these pins, nothing written yet. -/
def offering (pins : List Nat) (hasValues : Bool) : Pins :=
  ⟨[("export", ""), ("unexport", "")] ++
    pins.flatMap fun pin => (directionFile pin, "") :: if hasValues then [(valueFile pin, "")] else []⟩

def exists? (pins : Pins) (file : String) : Bool :=
  pins.files.any fun (name, _) => name == file

/-- What a file holds after a text is written over its beginning. -/
def overwritten (text content : String) : String :=
  String.ofList (text.toList ++ content.toList.drop text.length)

/-- Writes a text over the beginning of a file. A file that does not exist stays so. -/
def write (pins : Pins) (file text : String) : Pins :=
  ⟨pins.files.map fun (name, content) => (name, if name == file then overwritten text content else content)⟩

/-- Claims a pin as an output that starts high. -/
def claim (pins : Pins) (pin : Nat) : Option Failure × Pins :=
  let pins := pins.write "export" (toString pin)
  let direction := directionFile pin
  let value := valueFile pin
  if !pins.exists? direction then
    let text := s!"failed to open gpio {pin} direction file for writing\n. " ++
      s!"Error open /sys/class/gpio/{direction}: no such file or directory"
    (some (.other text), pins)
  else
    let pins := pins.write direction "high"
    if !pins.exists? value then
      let text := s!"failed to open gpio {pin} value file for reading\n. " ++
        s!"Error: open /sys/class/gpio/{value}: no such file or directory"
      (some (.other text), pins)
    else (none, pins)

/-- Takes a claimed pin low and high again. Both levels go through the file opened when the pin was
claimed, one behind the other. -/
def pulse (pins : Pins) (pin : Nat) : Pins :=
  pins.write (valueFile pin) "01"

/-- Gives a pin back. -/
def release (pins : Pins) (pin : Nat) : Pins :=
  pins.write "unexport" (toString pin)

end Pins

end Bootflash
