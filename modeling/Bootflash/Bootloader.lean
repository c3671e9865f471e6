import Bootflash.Link
import Bootflash.Memory

namespace Bootflash

/-- Replaces the answer to some uses of a command: those from the `skip`-th on, `times` of them, or
all when that is not said. The first rule that applies wins. -/
structure Rule where
  command : UInt8
  skip : Nat
  times : Option Nat
  reply : List UInt8
deriving DecidableEq, Repr

namespace Rule

/-- Whether the rule speaks about this use of a command, counted from zero. -/
def applies (rule : Rule) (command : UInt8) (use : Nat) : Bool :=
  rule.command == command && rule.skip ≤ use &&
    match rule.times with
    | none => true
    | some times => use < rule.skip + times

end Rule

/-- What never changes about a bootloader. -/
structure Firmware where
  pageSize : Nat
  /-- The identifier it answers a sync frame with. -/
  board : List UInt8
  /-- The device types it reports. -/
  devices : List UInt8
  fuseHigh : UInt8
  fuseLow : UInt8
  /-- Whether it ignores every command. -/
  silent : Bool
  /-- Whether it refuses block writes. -/
  refusesBlocks : Bool
  /-- How many fillers come ahead of the acknowledgement of a high byte. -/
  fillers : Nat
  rules : List Rule
deriving DecidableEq, Repr

namespace Firmware

/-- The reply a rule puts in the place of the bootloader's own. -/
def override? (firmware : Firmware) (command : UInt8) (use : Nat) : Option (List UInt8) :=
  (firmware.rules.find? fun rule => rule.applies command use).map Rule.reply

end Firmware

/-- What a bootloader is collecting bytes for. -/
inductive Pending where
  | arguments (op : Opcode)
  | block
deriving DecidableEq, Repr

/-- Where a bootloader is between two bytes: at rest, or with some bytes still missing. The bytes it
has are kept last first. -/
inductive Stage where
  | idle
  | collecting (pending : Pending) (missing : Nat) (got : List UInt8)
deriving DecidableEq, Repr

/-- A command with everything that belongs to it. -/
inductive Request where
  | command (op : Opcode) (arguments : List UInt8)
  /-- The data of a block write is complete. -/
  | block (data : List UInt8)
  /-- A byte that is no command. -/
  | unrecognized (byte : UInt8)
deriving DecidableEq, Repr

/-- The code under which a completed block is counted. On the wire it is no command. -/
def blockCode : UInt8 := 0x7a

namespace Request

/-- The code under which a request is counted and under which rules name it. -/
def code : Request → UInt8
  | command op _ => op.byte
  | block _ => blockCode
  | unrecognized byte => if byte = blockCode then 0 else byte

end Request

structure Bootloader where
  firmware : Firmware
  flash : Memory
  /-- The page being loaded byte by byte. -/
  buffer : Memory
  addr : Nat
  led : Bool
  /-- Whether a block write has gone through. -/
  probed : Bool
  stage : Stage
  /-- What has been answered and not been read yet. -/
  output : List UInt8
  /-- How often each code has been run. -/
  counts : List (UInt8 × Nat)
deriving DecidableEq

namespace Bootloader

/-- A bootloader at rest. -/
def start (firmware : Firmware) (flash : Memory) : Bootloader where
  firmware
  flash
  buffer := .filled firmware.pageSize erased
  addr := 0
  led := false
  probed := false
  stage := .idle
  output := []
  counts := []

/-- How often a code has been run. -/
def count (b : Bootloader) (code : UInt8) : Nat :=
  (b.counts.lookup code).getD 0

/-- Counts one more run of a code in a table of runs. -/
def bump (code : UInt8) : List (UInt8 × Nat) → List (UInt8 × Nat)
  | [] => [(code, 1)]
  | (other, n) :: rest => if code == other then (other, n + 1) :: rest else (other, n) :: bump code rest

/-- What the bootloader answers when no rule interferes. -/
def answer (b : Bootloader) : Request → List UInt8
  | .unrecognized _ => [reject]
  | .block _ => [ack]
  | .command op _ =>
    match op with
    | .cancel => []
    | .readFuseHigh => [b.firmware.fuseHigh]
    | .readFuseLow => [b.firmware.fuseLow]
    | .readWord => [b.flash.byteAt b.addr, b.flash.byteAt (b.addr + 1)]
    | .autoIncrement => [yes]
    | .writeBlock => if b.firmware.refusesBlocks then [reject] else if b.probed then [] else [0x21]
    | .loadHigh => List.replicate b.firmware.fillers filler ++ [ack]
    | .sync => b.firmware.board
    | .listDevices => b.firmware.devices ++ [0]
    | _ => [ack]

/-- What a request does to the device, apart from its answer. -/
def perform (b : Bootloader) : Request → Bootloader
  | .unrecognized _ => b
  | .block data => { b with flash := b.flash.store b.addr data, addr := b.addr + b.firmware.pageSize }
  | .command op arguments =>
    match op, arguments with
    | .setAddress, [high, low] => { b with addr := (high.toNat * 256 + low.toNat) * 2 }
    | .ledOn, _ => { b with led := true }
    | .ledOff, _ => { b with led := false }
    | .eraseChip, _ => { b with flash := .filled b.flash.size erased }
    | .readWord, _ => { b with addr := b.addr + 2 }
    | .loadLow, [value] => { b with buffer := b.buffer.put (b.addr % b.firmware.pageSize) value }
    | .loadHigh, [value] =>
      { b with buffer := b.buffer.put ((b.addr + 1) % b.firmware.pageSize) value, addr := b.addr + 2 }
    | .writePage, _ =>
      { b with
        flash := b.flash.store (b.addr - b.addr % b.firmware.pageSize) b.buffer.toList
        buffer := .filled b.firmware.pageSize erased }
    | .erasePage, _ => { b with flash := b.flash.store b.addr (List.replicate b.firmware.pageSize erased) }
    | _, _ => b

/-- What follows from the answer given: a block write that is not refused waits for its data, and an
acknowledged block ends the probing. -/
def followUp (b : Bootloader) (request : Request) (reply : List UInt8) : Bootloader :=
  match request with
  | .command .writeBlock _ =>
    if reply.head? = some reject then b else { b with stage := .collecting .block b.firmware.pageSize [] }
  | .block _ => if reply = [ack] then { b with probed := true } else b
  | _ => b

/-- Runs a complete request. -/
def run (b : Bootloader) (request : Request) : Bootloader :=
  let code := request.code
  let reply := (b.firmware.override? code (b.count code)).getD (b.answer request)
  let b := (b.perform request).followUp request reply
  { b with counts := bump code b.counts, output := b.output ++ reply }

/-- The request that the collected bytes complete. -/
def complete (pending : Pending) (bytes : List UInt8) : Request :=
  match pending with
  | .arguments op => .command op bytes
  | .block => .block bytes

/-- Takes one byte off the wire. -/
def receiveByte (b : Bootloader) (byte : UInt8) : Bootloader :=
  match b.stage with
  | .collecting pending missing got =>
    if missing ≤ 1 then
      { b with stage := .idle }.run (complete pending (byte :: got).reverse)
    else
      { b with stage := .collecting pending (missing - 1) (byte :: got) }
  | .idle =>
    if b.firmware.silent then b
    else match Opcode.ofByte? byte with
      | none => b.run (.unrecognized byte)
      | some op =>
        if op.arity = 0 then b.run (.command op [])
        else { b with stage := .collecting (.arguments op) op.arity [] }

/-- Takes bytes off the wire. -/
def receive (b : Bootloader) (bytes : List UInt8) : Bootloader :=
  bytes.foldl receiveByte b

/-- Gives up to `limit` bytes of its output. -/
def take (b : Bootloader) (limit : Nat) : List UInt8 × Bootloader :=
  (b.output.take limit, { b with output := b.output.drop limit })

/-- The pages, counted from zero, that hold anything but erased bytes, as their addresses. -/
def usedPages (b : Bootloader) : List Nat :=
  let pages := (b.flash.size + b.firmware.pageSize - 1) / b.firmware.pageSize
  (List.range pages).map (· * b.firmware.pageSize) |>.filter fun addr =>
    (b.flash.slice addr b.firmware.pageSize).any (· != erased)

/-- A bootloader is a link that never fails: what is written reaches it at once, and a read takes
what it has answered. -/
instance : Link Bootloader where
  write bytes b := (none, b.receive bytes)
  read limit b :=
    let (bytes, b) := b.take limit
    (⟨bytes, none⟩, b)
  setTimeout _ b := b
  close b := (none, b)

end Bootloader

end Bootflash
