import Bootflash.Image
import Bootflash.PageCursor
import Bootflash.Session.Command

namespace Bootflash

/-- How a page was dealt with. -/
inductive Handling where
  | written
  | skipped
deriving DecidableEq, Repr, Inhabited

/-- What one try at a page came to. -/
inductive PageOutcome where
  | settled (handling : Handling)
  /-- The bootloader refused blocks, and the page has to be sent byte by byte. -/
  | redo
deriving DecidableEq, Repr, Inhabited

/-- One try at a page: what it was meant to come to, the failure that kept it from it, and whether a
block write of the pass has been acknowledged by now. -/
structure Attempt (α : Type) where
  outcome : α
  failure : Option Failure
  probed : Bool
deriving DecidableEq

namespace Session

variable {ω : Type} [Link ω]

/-- Loads words into the page buffer. An odd byte at the end is left out. -/
def loadWords : List UInt8 → SessionM ω Unit
  | low :: high :: rest => do
    loadWord low high
    loadWords rest
  | _ => return ()

/-- Sends the page under the cursor byte by byte and commits it. Loading moves the pointer in ways
that are not reliable, so it is put back before the commit. -/
def writeSlowly (cursor : PageCursor) (page : List UInt8) : SessionM ω Unit := do
  loadWords page
  setAddress cursor.current
  commitPage
  setAddress cursor.next

/-- Announces a block write and, until one has been acknowledged, reads what the bootloader says to
it: false if it refuses. -/
def offerBlock (probed : Bool) : SessionM ω Bool := do
  announceBlock
  if probed then return true else blockAccepted

/-- Tries the page under the cursor byte by byte. -/
def trySlowly (cursor : PageCursor) (page : List UInt8)
    (probed : Bool) : StateM (Session ω) (Attempt Handling) := do
  return ⟨.written, ← failureOf (writeSlowly cursor page), probed⟩

/-- Tries the page under the cursor in the session's mode. A refusal of blocks settles the mode for
the rest of the pass. -/
def tryPage (cursor : PageCursor) (page : List UInt8)
    (probed : Bool) : StateM (Session ω) (Attempt PageOutcome) := do
  if isBlank page then
    return ⟨.settled .skipped, ← failureOf (setAddress cursor.next), probed⟩
  else if (← host?).mode = .slow then
    return ⟨.settled .written, ← failureOf (writeSlowly cursor page), probed⟩
  else
    match ← (offerBlock probed).run with
    | .error failure => return ⟨.settled .written, some failure, probed⟩
    | .ok false =>
      note .blocksRefused
      update fun host => { host with mode := .slow }
      return ⟨.redo, ← failureOf (setAddress cursor.current), probed⟩
    | .ok true =>
      match ← (sendBlock page).run with
      | .error failure => return ⟨.settled .written, some failure, probed⟩
      | .ok () => return ⟨.settled .written, ← failureOf (setAddress cursor.next), true⟩

/-- Puts the link back into a known state so that the page at `addr` can be sent again. A block
write may have left part of the page programmed, so in fast mode the page is erased as well. -/
def recoverPage (addr pageSize : UInt32) : SessionM ω Unit := do
  resync addr pageSize.toNat
  if (← lift host?).mode = .fast then
    erasePage
    setAddress addr

end Session

end Bootflash
