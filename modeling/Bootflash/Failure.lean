import Bootflash.Text.Hex

namespace Bootflash

inductive Failure where
  /-- Nothing answered a fuse read. -/
  | noDevice
  /-- Nothing that looks like a bootloader answered the sync frame. -/
  | boardNotFound
  /-- The bootloader does not advance its address pointer on its own. -/
  | unsupportedDevice
  /-- The device registry has no entry for the reported type. -/
  | unknownDeviceType
  /-- The range or the image cannot be programmed. -/
  | invalidRange
  /-- The link has been closed. -/
  | closed
  /-- The address is odd, or its word address does not fit the wire. -/
  | addressOutOfReach (addr : UInt32)
  /-- The payload is larger than the flash of the device it is meant for. -/
  | oversizedPayload (size : Nat) (device : String) (flashSize : UInt32)
  /-- The bridge's address has a scheme other than the two it can have. -/
  | unsupportedScheme (scheme : String)
  /-- A cause nobody named. -/
  | unspecified
  /-- A cause from outside, known only by its text. -/
  | other (text : String)
  /-- The bootloader answered a command wrongly, or not at all when the response is empty. -/
  | command (name : String) (response : List UInt8)
  /-- The link itself failed at the named operation. -/
  | transport (operation : String) (cause : Failure)
  /-- Programming stopped at this page; every page before it has been committed. -/
  | pageWrite (addr : UInt32) (cause : Failure)
  /-- What was being tried, in front of the cause. -/
  | context (text : String) (cause : Failure)
deriving DecidableEq, Inhabited

namespace Failure

/-- The full text of a failure, outermost part first. -/
def message : Failure → String
  | noDevice => "no avr detected on the serial port"
  | boardNotFound => "board did not respond, make sure it is in bootload mode"
  | unsupportedDevice => "bootloader does not support address autoincrement"
  | unknownDeviceType => "unknown device type"
  | invalidRange => "start or end address does not line up with page size"
  | closed => "serial port is closed"
  | addressOutOfReach addr => s!"address {Text.shortAddress addr} cannot be set"
  | oversizedPayload size device flashSize => s!"payload is {size} bytes, {device} flash is {flashSize}"
  | unsupportedScheme scheme => s!"unsupported url scheme: {scheme} (use ws:// or wss://)"
  | unspecified => "<nil>"
  | other text => text
  | command name [] => s!"no response to {name} command"
  | command name response => s!"bad response to {name} command: {Text.hex response}"
  | transport operation cause => s!"transport {operation}: {cause.message}"
  | pageWrite addr cause => s!"page write failed at {Text.address addr}: {cause.message}"
  | context text cause => s!"{text}: {cause.message}"

/-- The cause under all wrapping. -/
def root : Failure → Failure
  | transport _ cause => cause.root
  | pageWrite _ cause => cause.root
  | context _ cause => cause.root
  | cause => cause

/-- Whether the link itself failed somewhere along the chain. -/
def isTransport : Failure → Bool
  | transport _ _ => true
  | pageWrite _ cause => cause.isTransport
  | context _ cause => cause.isTransport
  | _ => false

/-- Whether a bad or missing response is behind the failure. -/
def isCommand : Failure → Bool
  | command _ _ => true
  | transport _ cause => cause.isCommand
  | pageWrite _ cause => cause.isCommand
  | context _ cause => cause.isCommand
  | _ => false

/-- The page programming stopped at: the outermost one, if several are named. -/
def pageAddr? : Failure → Option UInt32
  | pageWrite addr _ => some addr
  | transport _ cause => cause.pageAddr?
  | context _ cause => cause.pageAddr?
  | _ => none

/-- What sort of failure a caller has to deal with. -/
inductive Kind where
  | pageWrite
  | command
  | transport
  | noDevice
  | boardNotFound
  | unsupportedDevice
  | unknownDeviceType
  | invalidRange
  | closed
  | other
deriving DecidableEq, Repr

/-- The sort of a failure. A page write outranks a bad response, a bad response outranks a link
failure, and a link failure outranks whatever caused it. -/
def kind (failure : Failure) : Kind :=
  if failure.pageAddr?.isSome then .pageWrite
  else if failure.isCommand then .command
  else if failure.isTransport then .transport
  else match failure.root with
    | noDevice => .noDevice
    | boardNotFound => .boardNotFound
    | unsupportedDevice => .unsupportedDevice
    | unknownDeviceType => .unknownDeviceType
    | invalidRange => .invalidRange
    | closed => .closed
    | _ => .other

/-- A range whose ends are not page addresses. -/
def misaligned (start stop pageSize : UInt32) : Failure :=
  context s!"{Text.shortAddress start}-{Text.shortAddress stop}, page size {pageSize}" invalidRange

/-- A range that holds no page. -/
def emptyRange (start stop : UInt32) : Failure :=
  context s!"start {Text.shortAddress start} is not below end {Text.shortAddress stop}" invalidRange

/-- An image that ends before the range does. -/
def imageEndsEarly (size : Nat) (stop : UInt32) : Failure :=
  context s!"image is {size} bytes, end is {Text.shortAddress stop}" invalidRange

/-- An image that does not reach the bootloader. -/
def imageTooShort (size : Nat) (boot : UInt32) : Failure :=
  context s!"image is {size} bytes, need {boot}" invalidRange

/-- An image that would overwrite the bootloader. -/
def imageOverlapsBoot (addr boot : UInt32) : Failure :=
  context s!"image has data at {Text.address addr}, past the bootloader at {Text.address boot}" invalidRange

end Failure

end Bootflash
