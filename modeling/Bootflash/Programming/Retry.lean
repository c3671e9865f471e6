import Bootflash.Programming.Page

namespace Bootflash

/-- How many failures of each sort a page may still have. -/
structure Allowance where
  faults : Nat
  mismatches : Nat
deriving DecidableEq, Repr

namespace Allowance

/-- What a page starts with when `retries` failures of the link are tolerated. -/
def forPage (retries : Nat) : Allowance :=
  ⟨retries, 1⟩

/-- How many failures of any sort are still allowed for. -/
def total (a : Allowance) : Nat :=
  a.faults + a.mismatches

/-- What is left after a failure; nothing if the failure is one too many, or one that trying again
does not help. -/
def spend (a : Allowance) (failure : Failure) : Option Allowance :=
  if failure.isTransport then
    match a.faults with
    | 0 => none
    | faults + 1 => some { a with faults }
  else if failure.isCommand then
    match a.mismatches with
    | 0 => none
    | mismatches + 1 => some { a with mismatches }
  else none

/-- Every failure that is allowed for makes the allowance smaller by one. -/
theorem total_of_spend {a rest : Allowance} {failure : Failure} (h : a.spend failure = some rest) :
    a.total = rest.total + 1 := by
  obtain ⟨faults, mismatches⟩ := a
  unfold spend at h
  split at h
  · cases faults with
    | zero => simp at h
    | succ n => obtain rfl : _ = rest := Option.some.inj h; simp only [total]; omega
  · split at h
    · cases mismatches with
      | zero => simp at h
      | succ n => obtain rfl : _ = rest := Option.some.inj h; simp only [total]; omega
    · simp at h

end Allowance

/-- What a pass has come to so far. -/
structure Tally where
  written : Nat
  skipped : Nat
  /-- How often a failed page was recovered. -/
  resyncs : Nat
  /-- How the pages were sent, once the pass is complete. -/
  mode : WriteMode
  /-- The image was written but the bootloader did not confirm that programming is over. -/
  exitFailure : Option Failure
deriving DecidableEq, Inhabited

namespace Tally

def empty : Tally :=
  { written := 0, skipped := 0, resyncs := 0, mode := .unknown, exitFailure := none }

/-- Counts one page. -/
def count (tally : Tally) : Handling → Tally
  | .written => { tally with written := tally.written + 1 }
  | .skipped => { tally with skipped := tally.skipped + 1 }

end Tally

/-- What is carried from page to page. -/
structure PassState where
  /-- Whether a block write of this pass has been acknowledged. -/
  probed : Bool
  tally : Tally
deriving DecidableEq, Inhabited

namespace PassState

def start : PassState :=
  ⟨false, .empty⟩

def countResync (state : PassState) : PassState :=
  { state with tally := { state.tally with resyncs := state.tally.resyncs + 1 } }

def count (state : PassState) (handling : Handling) : PassState :=
  { state with tally := state.tally.count handling }

end PassState

/-- Where repeated tries at a page ended. -/
structure Retried (α : Type) where
  result : Except Failure α
  /-- What is left of the page's allowance. -/
  allowance : Allowance
  state : PassState

namespace Session

variable {ω : Type} [Link ω]

/-- Tries the page under the cursor until a try succeeds, its allowance is used up, or recovering
from a failure fails. Each further try uses up one of `tries`, which is never less than what the
allowance admits. -/
def retry {α : Type} (cursor : PageCursor) (attempt : Bool → StateM (Session ω) (Attempt α)) :
    (tries : Nat) → Allowance → PassState → StateM (Session ω) (Retried α)
  | tries, allowance, state => do
    record (.attempt cursor.current)
    let ⟨outcome, failure, probed⟩ ← attempt state.probed
    let state := { state with probed }
    match failure with
    | none => return ⟨.ok outcome, allowance, state⟩
    | some failure =>
      match allowance.spend failure with
      | none => return ⟨.error failure, allowance, state⟩
      | some rest =>
        match tries with
        | 0 => return ⟨.error failure, allowance, state⟩
        | tries + 1 =>
          note (.pageFailed (← host?).mode cursor.current failure)
          let state := state.countResync
          record (.recovery cursor.current)
          match ← (recoverPage cursor.current cursor.pageSize).run with
          | .error failure => return ⟨.error failure, rest, state⟩
          | .ok () => retry cursor attempt tries rest state

/-- Deals with the page under the cursor. When the bootloader refuses blocks the page is tried again
byte by byte, on what is left of its allowance. -/
def settlePage (cursor : PageCursor) (page : List UInt8) (allowance : Allowance) (state : PassState) :
    StateM (Session ω) (Retried Handling) := do
  match ← retry cursor (tryPage cursor page) allowance.total allowance state with
  | ⟨.error failure, rest, state⟩ => return ⟨.error failure, rest, state⟩
  | ⟨.ok (.settled handling), rest, state⟩ => return ⟨.ok handling, rest, state⟩
  | ⟨.ok .redo, rest, state⟩ => retry cursor (trySlowly cursor page) rest.total rest state

end Session

end Bootflash
