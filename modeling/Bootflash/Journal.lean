import Bootflash.Link
import Bootflash.Notice

namespace Bootflash

/-- What the host keeps about its session: where it believes the device's address pointer is, how
page data is sent, whether it lit the indicator, and how long it waits for a response, in
milliseconds. -/
structure Host where
  addr : UInt32
  /-- Whether `addr` is known to match the device. -/
  known : Bool
  mode : WriteMode
  led : Bool
  timeout : Int
deriving DecidableEq, Inhabited

namespace Host

/-- Nothing is known yet. -/
def initial : Host :=
  { addr := 0, known := false, mode := .unknown, led := false, timeout := 0 }

/-- The pointer moved in a way the host cannot follow. -/
def forget (host : Host) : Host :=
  { host with known := false }

/-- The device confirmed its pointer. -/
def trust (addr : UInt32) (host : Host) : Host :=
  { host with addr, known := true }

/-- The believed pointer, when it is known. -/
def pointer? (host : Host) : Option UInt32 :=
  if host.known then some host.addr else none

@[simp]
theorem pointer?_forget (host : Host) : host.forget.pointer? = none := rfl

end Host

inductive Event where
  | wrote (bytes : List UInt8) (failure : Option Failure)
  | read (limit : Nat) (reading : Reading)
  | timeoutSet (ms : Int)
  /-- A link was opened. -/
  | opened
  | closed (failure : Option Failure)
  | noted (notice : Notice)
  /-- So many pages of the pass are dealt with. -/
  | progressed (done total : Nat)
  /-- A page is about to be tried. -/
  | attempt (addr : UInt32)
  /-- The page failed and the link is about to be put back into a known state. -/
  | recovery (addr : UInt32)
deriving DecidableEq

/-- An event, with what the host believed when it turned to it and what it believes while it
happens. These differ where the host gives a belief up before it acts. -/
structure Entry where
  before : Host
  host : Host
  event : Event
deriving DecidableEq

/-- What a host enters when it sets another timeout. -/
def Host.timeoutEntry (host : Host) (ms : Int) : Entry :=
  ⟨host, { host with timeout := ms }, .timeoutSet ms⟩

/-- What happened, the latest first. -/
structure Journal where
  latest : List Entry

namespace Journal

def empty : Journal :=
  ⟨[]⟩

def push (journal : Journal) (entry : Entry) : Journal :=
  ⟨entry :: journal.latest⟩

/-- How much happened. -/
def size (journal : Journal) : Nat :=
  journal.latest.length

/-- What happened, in order. -/
def toList (journal : Journal) : List Entry :=
  journal.latest.reverse

/-- What happened from one time to another. -/
def extract (journal : Journal) (start stop : Nat) : Journal :=
  ⟨(journal.toList.extract start stop).reverse⟩

@[simp]
theorem size_push {journal : Journal} {entry : Entry} : (journal.push entry).size = journal.size + 1 :=
  rfl

@[simp]
theorem toList_push {journal : Journal} {entry : Entry} :
    (journal.push entry).toList = journal.toList ++ [entry] :=
  List.reverse_cons

@[simp]
theorem length_toList {journal : Journal} : journal.toList.length = journal.size :=
  List.length_reverse

end Journal

end Bootflash
