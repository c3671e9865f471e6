import Bootflash.Link.ReceiveQueue

namespace Bootflash

/-- A read that has not returned. -/
structure OpenRead where
  limit : Nat
  collected : List UInt8
  /-- Whether its timeout has passed. -/
  expired : Bool
  /-- The failure that it took out of the queue, to put it back and return it. -/
  seized : Option Failure
deriving DecidableEq

namespace OpenRead

def start (limit : Nat) : OpenRead :=
  ⟨limit, [], false, none⟩

/-- Whether the read goes around once more. -/
def wantsMore (read : OpenRead) : Bool :=
  read.seized.isNone && read.collected.length < read.limit

end OpenRead

/-- A read that has returned. -/
structure ClosedRead where
  limit : Nat
  /-- Whether its timeout had passed. -/
  expired : Bool
  reading : Reading
deriving DecidableEq

/-- A queue and what its two sides have done. -/
structure Reception where
  queue : ReceiveQueue
  /-- The read that the reader is in. -/
  current : Option OpenRead
  /-- The failure that ended the receive loop. -/
  ended : Option Failure
  /-- The bytes that the loop put in. -/
  pushed : List UInt8
  /-- The reads that have returned, in order. -/
  returned : List ClosedRead
deriving DecidableEq

namespace Reception

/-- Something that one side does, without the other one coming in between. -/
inductive Turn where
  /-- The loop puts in a byte. -/
  | push (b : UInt8)
  /-- The loop ends. -/
  | fail (failure : Failure)
  /-- The reader asks for up to so many bytes. -/
  | call (limit : Nat)
  /-- The timeout of a read passes. -/
  | expire
  | takeByte
  | takeFailure
  /-- The reader puts back the failure and returns it. -/
  | putBack
  /-- The reader returns because its timeout has passed. -/
  | giveUp
  /-- The reader returns all that it asked for. -/
  | finish
deriving DecidableEq

/-- Whether it is a turn that a read takes by itself. -/
def Turn.ofRead : Turn → Bool
  | takeByte | takeFailure | putBack | giveUp | finish => true
  | _ => false

/-- A queue that nobody has used. -/
def start : Reception :=
  ⟨.empty, none, none, [], []⟩

/-- The read returns. -/
def close (read : OpenRead) (failure : Option Failure) (r : Reception) : Reception :=
  { r with
    current := none
    returned := r.returned ++ [⟨read.limit, read.expired, ⟨read.collected, failure⟩⟩] }

/-- The failure that is in the reader's hands. -/
def seized? (r : Reception) : Option Failure :=
  r.current.bind OpenRead.seized

/-- The read that can take what is there, if there is one. -/
def waiting? (r : Reception) : Option OpenRead :=
  r.current.filter OpenRead.wantsMore

/-- A turn, if it can be taken. -/
def step (r : Reception) : Turn → Option Reception
  | .push b =>
    match r.ended, r.queue.offer [b] with
    | none, (queue, []) => some { r with queue, pushed := r.pushed ++ [b] }
    | _, _ => none
  | .fail failure =>
    match r.ended with
    | none => some { r with queue := r.queue.fail failure, ended := some failure }
    | some _ => none
  | .call limit =>
    match r.current with
    | none => some { r with current := some (.start limit) }
    | some _ => none
  | .expire =>
    match r.current with
    | some read => some { r with current := some { read with expired := true } }
    | none => none
  | .takeByte =>
    match r.waiting?, r.queue.bytes with
    | some read, b :: rest =>
      some { r with
        queue := { r.queue with bytes := rest }
        current := some { read with collected := read.collected ++ [b] } }
    | _, _ => none
  | .takeFailure =>
    match r.waiting?, r.queue.failure with
    | some read, some failure =>
      some { r with
        queue := { r.queue with failure := none }
        current := some { read with seized := some failure } }
    | _, _ => none
  | .putBack =>
    match r.current, r.seized? with
    | some read, some failure => some (close read (some failure) { r with queue := r.queue.fail failure })
    | _, _ => none
  | .giveUp =>
    match r.waiting? with
    | some read => if read.expired then some (r.close read none) else none
    | none => none
  | .finish =>
    match r.current with
    | some read =>
      if read.seized = none ∧ read.collected.length = read.limit then some (r.close read none) else none
    | none => none

/-- Some turns one after the other, if each of them can be taken. -/
def run (r : Reception) (turns : List Turn) : Option Reception :=
  turns.foldlM step r

/-- The bytes that the reads returned. -/
def delivered (r : Reception) : List UInt8 :=
  r.returned.flatMap fun read => read.reading.bytes

/-- The bytes that a read has collected and not returned. -/
def collected (r : Reception) : List UInt8 :=
  r.current.elim [] OpenRead.collected

end Reception

end Bootflash
