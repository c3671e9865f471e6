import Bootflash.Link

namespace Bootflash

inductive Script where
  /-- Every read takes what it asked for from the front of one stream. -/
  | stream (bytes : List UInt8)
  /-- Every read uses up one chunk, and what it did not ask for is lost. -/
  | chunks (chunks : List (List UInt8))
deriving DecidableEq, Repr

namespace Script

/-- Answers one read. -/
def read (limit : Nat) : Script → List UInt8 × Script
  | stream bytes => (bytes.take limit, stream (bytes.drop limit))
  | chunks [] => ([], chunks [])
  | chunks (chunk :: rest) => (chunk.take limit, chunks rest)

/-- Lengthens the stream. A script of chunks stays as it is. -/
def feed (bytes : List UInt8) : Script → Script
  | stream before => stream (before ++ bytes)
  | chunks rest => chunks rest

instance : Link Script where
  write _ script := (none, script)
  read limit script :=
    let (bytes, script) := script.read limit
    (⟨bytes, none⟩, script)
  setTimeout _ script := script
  close script := (none, script)

end Script

end Bootflash
