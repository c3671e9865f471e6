import Bootflash.Bootloader
import Bootflash.Link.ReceiveQueue

namespace Bootflash

structure Line where
  device : Bootloader
  queue : ReceiveQueue
  /-- What has been answered and has not found room in the queue yet. -/
  inFlight : List UInt8
deriving DecidableEq

namespace Line

/-- A line nobody has used yet. -/
def toDevice (device : Bootloader) : Line :=
  ⟨device, .empty, []⟩

/-- The device as somebody finds it who opens the line anew: what was on its way is gone. -/
def reopen (line : Line) : Line :=
  toDevice line.device

/-- Lets the receive loop move on. -/
def settle (line : Line) : Line :=
  let (queue, inFlight) := line.queue.offer line.inFlight
  { line with queue, inFlight }

/-- Passes bytes on to the device and its answers back. -/
def carry (bytes : List UInt8) (line : Line) : Line :=
  let ⟨device, queue, inFlight⟩ := line
  let (answers, device) := let device := device.receive bytes; (device.output, { device with output := [] })
  settle ⟨device, queue, inFlight ++ answers⟩

/-- Reads from the queue, which the receive loop keeps filling. -/
def read (limit : Nat) (line : Line) : Reading × Line :=
  let ⟨device, queue, inFlight⟩ := line
  let (reading, rest) := ReceiveQueue.read limit { queue with bytes := queue.bytes ++ inFlight }
  (reading, settle ⟨device, { rest with bytes := [] }, rest.bytes⟩)

/-- Ends the receive loop. -/
def fail (failure : Failure) (line : Line) : Line :=
  { line with queue := line.queue.fail failure }

end Line

end Bootflash
