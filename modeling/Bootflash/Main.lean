import Bootflash.Bench
import Bootflash.Cli.Run

namespace Bootflash.Cli

/-- The contents of the file a command line asks to program. -/
def requestedImage (words : List String) : IO (Except Failure Image) := do
  match Order.ofWords words with
  | .ok ⟨.program path, _, _⟩ =>
    try
      return .ok (.ofBytes (← IO.FS.readBinFile path))
    catch _ =>
      return .error (Microcontroller.missingFile path)
  | _ => return .ok (.ofBytes .empty)

end Bootflash.Cli

open Bootflash

def main (words : List String) : IO UInt32 := do
  let password := (← IO.getEnv "AVRFLASH_PASSWORD").getD ""
  let image ← Cli.requestedImage words
  let around : Cli.Surroundings := ⟨password, none, fun _ => image, []⟩
  let (report, _) := Cli.run words around Bench.bare
  IO.print report.output
  IO.eprint report.errors
  return report.exitCode
