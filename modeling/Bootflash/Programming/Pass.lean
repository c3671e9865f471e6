import Bootflash.Programming.Retry

namespace Bootflash

/-- How many failures of the link a page may have when nothing else is asked for. -/
def defaultRetries : Nat := 3

/-- What a caller can ask of a pass. -/
structure Options where
  /-- Failures of the link tolerated per page; anything but a positive number asks for the default. -/
  maxRetries : Int
deriving DecidableEq, Repr, Inhabited

namespace Options

/-- Nothing in particular is asked for. -/
def none : Options :=
  ⟨0⟩

def retries (options : Options) : Nat :=
  if options.maxRetries ≤ 0 then defaultRetries else options.maxRetries.toNat

end Options

/-- How a pass ended. -/
inductive Pass where
  /-- Before it began: the range or the image does not do, or the chip could not be prepared. -/
  | refused (failure : Failure)
  /-- On the way. -/
  | stopped (tally : Tally) (failure : Failure)
  /-- With every page dealt with. -/
  | complete (tally : Tally)
deriving DecidableEq, Inhabited

namespace Pass

/-- What the pass came to, if it began. -/
def tally? : Pass → Option Tally
  | refused _ => none
  | stopped tally _ => some tally
  | complete tally => some tally

def failure? : Pass → Option Failure
  | refused failure => some failure
  | stopped _ failure => some failure
  | complete _ => none

end Pass

namespace Session

variable {ω : Type} [Link ω]

/-- Sets how pages are sent. -/
def setMode (mode : WriteMode) : StateM (Session ω) Unit :=
  update fun host => { host with mode }

/-- Deals with the pages from the cursor on, `left` of `total`, and reports each. Ends with the
failure of the page that could not be dealt with. -/
def programPages (image : Image) (retries total : Nat) :
    (left : Nat) → PageCursor → PassState → StateM (Session ω) (PassState × Option Failure)
  | 0, _, state => return (state, none)
  | left + 1, cursor, state => do
    let page := image.page cursor.current cursor.pageSize
    match ← settlePage cursor page (.forPage retries) state with
    | ⟨.error failure, _, state⟩ => return (state, some (.pageWrite cursor.current failure))
    | ⟨.ok handling, _, state⟩ =>
      record (.progressed (total - left) total)
      programPages image retries total left cursor.advance (state.count handling)

/-- Makes the device ready for the first page. -/
def beginPass (start : UInt32) : SessionM ω Unit := do
  lightLed
  requireAutoIncrement
  within "could not enter programming mode" enterProgramming
  setAddress start

/-- Ends a pass whose pages are all dealt with. The image is committed by now, so nothing here fails
the pass: the first failure is kept in the tally. -/
def endPass (tally : Tally) : StateM (Session ω) Tally := do
  let tally := { tally with mode := (← host?).mode }
  note (.programmed tally.written tally.skipped tally.mode)
  let led ← failureOf dimLed
  if let some failure := led then
    note (.ledStuck failure)
  let leave ← failureOf leaveProgramming
  if let some failure := leave then
    note (.exitUnconfirmed failure)
  return { tally with exitFailure := led.or leave }

/-- Programs the part of an image in `[start, stop)` page by page. Blank pages are skipped. The
range is checked before anything is sent. -/
def programRange (image : Image) (start stop : UInt32) (device : Device) (options : Options) :
    StateM (Session ω) Pass := do
  match PageCursor.spanning start stop device.geometry.flashPageSize with
  | .error failure => return .refused failure
  | .ok cursor =>
    if image.length32 < stop then
      return .refused (.imageEndsEarly image.size stop)
    note (.programming start stop device.name)
    setMode .unknown
    match ← (beginPass start).run with
    | .error failure => return .stopped .empty failure
    | .ok () =>
      setMode .fast
      let total := cursor.pagesFrom start
      match ← programPages image options.retries total total cursor .start with
      | (state, some failure) => return .stopped state.tally failure
      | (state, none) => return .complete (← endPass state.tally)

/-- Why an image cannot be put below a bootloader: it does not reach it, or it would overwrite it. -/
def refusal? (image : Image) (boot : UInt32) : Option Failure :=
  if image.length32 < boot then some (.imageTooShort image.size boot)
  else (image.firstData? boot image.length32).map fun addr => .imageOverlapsBoot addr boot

/-- Locates the bootloader from the high fuse, makes sure that the image stays below it, and erases
the chip. Returns the address of the bootloader. -/
def prepareChip (image : Image) (device : Device) : SessionM ω UInt32 := do
  let fuse ← within "could not read high fuse" fuseHigh
  let boot := device.bootAddress fuse
  lift (note (.bootloaderAt device.name boot))
  check (refusal? image boot)
  within "could not erase flash" eraseChip
  return boot

/-- Runs a complete cycle for a device type. The chip is left untouched unless the image fits below
the bootloader. -/
def programChip (image : Image) (id : UInt8) (options : Options) : StateM (Session ω) Pass := do
  match Device.lookup id with
  | .error failure => return .refused failure
  | .ok device =>
    match ← (prepareChip image device).run with
    | .error failure => return .refused failure
    | .ok boot => programRange image 0 boot device options

end Session

end Bootflash
