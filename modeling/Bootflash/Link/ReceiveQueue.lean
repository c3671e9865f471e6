import Bootflash.Link

namespace Bootflash

structure ReceiveQueue where
  bytes : List UInt8
  /-- What ended the receive loop. -/
  failure : Option Failure
deriving DecidableEq, Inhabited

namespace ReceiveQueue

/-- How many bytes the queue holds at most. The receive loop waits while it is full. -/
def capacity : Nat := 1024

def empty : ReceiveQueue :=
  ⟨[], none⟩

/-- Puts in as many bytes as there is room for. The rest has to wait. -/
def offer (queue : ReceiveQueue) (bytes : List UInt8) : ReceiveQueue × List UInt8 :=
  let room := capacity - queue.bytes.length
  ({ queue with bytes := queue.bytes ++ bytes.take room }, bytes.drop room)

/-- Records what ended the receive loop. The first failure stays. -/
def fail (queue : ReceiveQueue) (failure : Failure) : ReceiveQueue :=
  { queue with failure := queue.failure.or (some failure) }

/-- Takes up to `limit` bytes. A read that gets fewer reports the recorded failure, which stays
recorded, or else its timeout has passed. -/
def read : (limit : Nat) → ReceiveQueue → Reading × ReceiveQueue
  | 0, queue => (⟨[], none⟩, queue)
  | limit + 1, ⟨b :: rest, failure⟩ =>
    let (reading, queue) := read limit ⟨rest, failure⟩
    (⟨b :: reading.bytes, reading.failure⟩, queue)
  | _ + 1, ⟨[], failure⟩ => (⟨[], failure⟩, ⟨[], failure⟩)

/-- A single byte is put in just if there is room. -/
theorem offer_singleton (queue : ReceiveQueue) (b : UInt8) : queue.offer [b] =
    if queue.bytes.length < capacity then ({ queue with bytes := queue.bytes ++ [b] }, [])
    else (queue, [b]) := by
  split
  · next hroom =>
    obtain ⟨room, hsub⟩ : ∃ room, capacity - queue.bytes.length = room + 1 :=
      Nat.exists_eq_succ_of_ne_zero (by omega)
    simp [offer, hsub]
  · next hfull =>
    have hsub : capacity - queue.bytes.length = 0 := by omega
    simp [offer, hsub]

end ReceiveQueue

end Bootflash
