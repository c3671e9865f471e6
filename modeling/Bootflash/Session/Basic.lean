import Bootflash.Journal
import Bootflash.Opcode

namespace Bootflash

structure Session (ω : Type) where
  link : ω
  host : Host
  journal : Journal

/-- An operation on a session that can fail. -/
abbrev SessionM (ω : Type) := ExceptT Failure (StateM (Session ω))

namespace Session

variable {ω : Type}

/-- Writes an event into the journal. -/
def record (event : Event) : StateM (Session ω) Unit :=
  modify fun ⟨link, host, journal⟩ => ⟨link, host, journal.push ⟨host, host, event⟩⟩

def note (notice : Notice) : StateM (Session ω) Unit :=
  record (.noted notice)

/-- Changes what the host keeps. -/
def update (change : Host → Host) : StateM (Session ω) Unit :=
  modify fun ⟨link, host, journal⟩ => ⟨link, change host, journal⟩

/-- What the host keeps. -/
def host? : StateM (Session ω) Host := do
  return (← get).host

/-- A step that cannot fail, as part of an operation that can. -/
def lift {α : Type} (step : StateM (Session ω) α) : SessionM ω α :=
  ExceptT.lift step

/-- Ends the operation if there is a failure. -/
def check : Option Failure → SessionM ω Unit
  | none => pure ()
  | some failure => throw failure

/-- The failure of an operation, as a value. -/
def failureOf (operation : SessionM ω Unit) : StateM (Session ω) (Option Failure) := do
  match ← operation.run with
  | .ok () => return none
  | .error failure => return some failure

/-- Puts context in front of an operation's failure. -/
def within {α : Type} (text : String) (operation : SessionM ω α) : SessionM ω α :=
  tryCatch operation fun failure => throw (.context text failure)

variable [Link ω]

/-- Changes what the host keeps and sends bytes. The change stays, whether the link takes the bytes or not. -/
def transmit (change : Host → Host) (bytes : List UInt8) : SessionM ω Unit := do
  let failure ← modifyGet fun ⟨link, host, journal⟩ =>
    let (failure, link) := Link.write bytes link
    (failure, ⟨link, change host, journal.push ⟨host, change host, .wrote bytes failure⟩⟩)
  check failure

/-- Sends bytes that leave the device's pointer where it is. -/
def send (bytes : List UInt8) : SessionM ω Unit :=
  transmit id bytes

/-- Sends bytes after which the device's pointer is anyone's guess. The host has given up its belief
by then. -/
def sendMoving (bytes : List UInt8) : SessionM ω Unit :=
  transmit Host.forget bytes

/-- Reads up to `limit` bytes, keeping what came even when the link failed. -/
def read (limit : Nat) : StateM (Session ω) Reading :=
  modifyGet fun ⟨link, host, journal⟩ =>
    let (reading, link) := Link.read limit link
    (reading, ⟨link, host, journal.push ⟨host, host, .read limit reading⟩⟩)

/-- Reads up to `limit` bytes from a link that works. -/
def receive (limit : Nat) : SessionM ω (List UInt8) := do
  let reading ← lift (read limit)
  check reading.failure
  return reading.bytes

/-- Reads one byte; none if it did not come in time. -/
def receiveByte : SessionM ω (Option UInt8) := do
  match ← receive 1 with
  | [b] => return some b
  | _ => return none

def setTimeout (ms : Int) : StateM (Session ω) Unit :=
  modify fun ⟨link, host, journal⟩ =>
    ⟨Link.setTimeout ms link, { host with timeout := ms }, journal.push (host.timeoutEntry ms)⟩

/-- Runs an operation under another timeout and puts the previous one back, whatever the outcome. -/
def withTimeout {α : Type} (ms : Int) (operation : SessionM ω α) : SessionM ω α := do
  let before ← lift host?
  lift (setTimeout ms)
  let outcome ← lift operation.run
  lift (setTimeout before.timeout)
  ExceptT.mk (pure outcome)

/-- Closes the link. -/
def close : SessionM ω Unit := do
  let failure ← modifyGet fun ⟨link, host, journal⟩ =>
    let (failure, link) := Link.close link
    (failure, ⟨link, host, journal.push ⟨host, host, .closed failure⟩⟩)
  check failure

/-- How long a command waits for its response unless it needs longer. -/
def responseTimeout : Int := 100

/-- A fresh session on a link. -/
def start (link : ω) : Session ω :=
  (setTimeout responseTimeout ⟨link, .initial, .empty⟩).2

/-- Reads one byte and insists on which. -/
def expect (name : String) (want : UInt8) : SessionM ω Unit := do
  match ← receiveByte with
  | none => throw (.command name [])
  | some b => if b = want then return () else throw (.command name [b])

/-- Waits for the acknowledgement of a command, and notes when it does not come. -/
def awaitAck (name : String) : SessionM ω Unit :=
  tryCatch (expect name ack) fun failure => do
    lift (note (.commandFailed name failure))
    throw failure

/-- Sends a command that leaves the device's pointer where it is and waits for its acknowledgement. -/
def exec (name : String) (bytes : List UInt8) : SessionM ω Unit := do
  send bytes
  awaitAck name

/-- Sends a command after which the device's pointer is anyone's guess and waits for its acknowledgement. -/
def execMoving (name : String) (bytes : List UInt8) : SessionM ω Unit := do
  sendMoving bytes
  awaitAck name

end Session

end Bootflash
