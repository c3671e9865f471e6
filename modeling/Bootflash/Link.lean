import Bootflash.Failure

namespace Bootflash

/-- What a read gave: the bytes that came in time, and the failure of the link, if it failed. -/
structure Reading where
  bytes : List UInt8
  failure : Option Failure
deriving DecidableEq, Inhabited

/-- A duplex byte channel with state `ω`. A read returns at most the bytes asked for, and fewer,
without failing, when the timeout passes first. A failure means that the channel itself failed. -/
class Link (ω : Type) where
  write : List UInt8 → ω → Option Failure × ω
  read : Nat → ω → Reading × ω
  setTimeout : Int → ω → ω
  close : ω → Option Failure × ω

end Bootflash
