import Bootflash.Link

namespace Bootflash

/-- The calls of a link that a fault can hit. -/
inductive Call where
  | write
  | read
  | close
deriving DecidableEq, Repr

/-- The name of a call in the text of a link failure. -/
def Call.name : Call → String
  | write => "write"
  | read => "read"
  | close => "close"

structure LinkFault where
  call : Call
  /-- The number of the first call it hits. -/
  first : Nat
  /-- How many calls it hits; none counts as one. -/
  count : Nat
  /-- The failure the call reports. A call can also go wrong unnoticed. -/
  failure : Option Failure
  /-- Whether a hit write reaches the far end all the same. -/
  delivers : Bool
  /-- What a hit read returns. -/
  data : List UInt8
deriving DecidableEq

/-- Whether the fault hits the call with this number. -/
def LinkFault.hits (fault : LinkFault) (call : Call) (number : Nat) : Bool :=
  fault.call = call && fault.first ≤ number && number < fault.first + max fault.count 1

/-- A link behind a list of faults, of which the first that hits a call applies. -/
structure Faulty (ω : Type) where
  link : ω
  faults : List LinkFault
  writes : Nat
  reads : Nat

namespace Faulty

variable {ω : Type}

/-- A link with faults before its first call. -/
def start (link : ω) (faults : List LinkFault) : Faulty ω :=
  { link, faults, writes := 0, reads := 0 }

/-- The fault that hits a call. -/
def fault? (f : Faulty ω) (call : Call) (number : Nat) : Option LinkFault :=
  f.faults.find? fun fault => fault.hits call number

variable [Link ω]

def write (bytes : List UInt8) (f : Faulty ω) : Option Failure × Faulty ω :=
  match f.fault? .write f.writes with
  | none =>
    let ⟨link, faults, writes, reads⟩ := f
    let (failure, link) := Link.write bytes link
    (failure, ⟨link, faults, writes + 1, reads⟩)
  | some fault =>
    let ⟨link, faults, writes, reads⟩ := f
    (fault.failure, ⟨if fault.delivers then (Link.write bytes link).2 else link, faults, writes + 1, reads⟩)

def read (limit : Nat) (f : Faulty ω) : Reading × Faulty ω :=
  match f.fault? .read f.reads with
  | none =>
    let ⟨link, faults, writes, reads⟩ := f
    let (reading, link) := Link.read limit link
    (reading, ⟨link, faults, writes, reads + 1⟩)
  | some fault => (⟨fault.data.take limit, fault.failure⟩, { f with reads := f.reads + 1 })

/-- Closing is not numbered: a fault that hits it at all covers number zero. -/
def close (f : Faulty ω) : Option Failure × Faulty ω :=
  match f.fault? .close 0 with
  | none =>
    let ⟨link, faults, writes, reads⟩ := f
    let (failure, link) := Link.close link
    (failure, ⟨link, faults, writes, reads⟩)
  | some fault => (fault.failure, f)

instance : Link (Faulty ω) where
  write := write
  read := read
  setTimeout ms f := { f with link := Link.setTimeout ms f.link }
  close := close

end Faulty

end Bootflash
