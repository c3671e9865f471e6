import Bootflash.Proofs.Exchange
import Bootflash.Link.Faulty

namespace Bootflash

/-- The calls this fault hits report a failure of the given sort. -/
def LinkFault.Reported (Reports : Failure → Prop) (fault : LinkFault) : Prop :=
  ∃ failure, fault.failure = some failure ∧ Reports failure

/-- A sort of failures that context does not change and that cannot be taken for answers of the device. -/
structure Failure.LinkSort (Reports : Failure → Prop) : Prop where
  context : ∀ {failure} text, Reports failure → Reports (.context text failure)
  isCommand : ∀ {failure}, Reports failure → failure.isCommand = false

namespace Faulty

variable {Reports : Failure → Prop} {f : Faulty Bootloader}

/-- The link has this bootloader at its far end, and all its faults are reported. -/
structure Carries (Reports : Failure → Prop) (f : Faulty Bootloader) (b : Bootloader) : Prop where
  link : f.link = b
  faults : ∀ fault ∈ f.faults, fault.Reported Reports

theorem Carries.reported {b : Bootloader} (h : Carries Reports f b) {call : Call} {number : Nat}
    {fault : LinkFault} (hfault : f.fault? call number = some fault) : fault.Reported Reports :=
  h.faults fault (List.mem_of_find?_eq_some hfault)

theorem write_of_no_fault {bytes : List UInt8} (hfault : f.fault? .write f.writes = none) :
    f.write bytes = (none, ⟨f.link.receive bytes, f.faults, f.writes + 1, f.reads⟩) := by
  simp only [write, hfault]
  rfl

theorem write_of_fault {bytes : List UInt8} {fault : LinkFault}
    (hfault : f.fault? .write f.writes = some fault) :
    f.write bytes = (fault.failure,
      ⟨if fault.delivers then f.link.receive bytes else f.link, f.faults, f.writes + 1, f.reads⟩) := by
  simp only [write, hfault]
  rfl

theorem read_of_no_fault {limit : Nat} (hfault : f.fault? .read f.reads = none) :
    f.read limit = (⟨f.link.output.take limit, none⟩,
      ⟨{ f.link with output := f.link.output.drop limit }, f.faults, f.writes, f.reads + 1⟩) := by
  simp only [read, hfault]
  rfl

theorem read_of_fault {limit : Nat} {fault : LinkFault} (hfault : f.fault? .read f.reads = some fault) :
    f.read limit = (⟨fault.data.take limit, fault.failure⟩, { f with reads := f.reads + 1 }) := by
  simp only [read, hfault]

variable {b : Bootloader}

theorem Carries.write (h : Carries Reports f b) (bytes : List UInt8) :
    ((f.write bytes).1 = none ∧ Carries Reports (f.write bytes).2 (b.receive bytes)) ∨
      ∃ failure, (f.write bytes).1 = some failure ∧ Reports failure ∧
        (Carries Reports (f.write bytes).2 b ∨ Carries Reports (f.write bytes).2 (b.receive bytes)) := by
  obtain rfl := h.link
  cases hfault : f.fault? .write f.writes with
  | none =>
    rw [write_of_no_fault hfault]
    exact .inl ⟨rfl, rfl, h.faults⟩
  | some fault =>
    obtain ⟨failure, hfailure, hreports⟩ := h.reported hfault
    rw [write_of_fault hfault]
    refine .inr ⟨failure, hfailure, hreports, ?_⟩
    cases hdelivers : fault.delivers with
    | false => exact .inl ⟨rfl, h.faults⟩
    | true => exact .inr ⟨rfl, h.faults⟩

theorem Carries.read (h : Carries Reports f b) (limit : Nat) :
    ((f.read limit).1 = ⟨b.output.take limit, none⟩ ∧
        Carries Reports (f.read limit).2 { b with output := b.output.drop limit }) ∨
      ∃ bytes failure, (f.read limit).1 = ⟨bytes, some failure⟩ ∧ Reports failure ∧
        Carries Reports (f.read limit).2 b := by
  obtain rfl := h.link
  cases hfault : f.fault? .read f.reads with
  | none =>
    rw [read_of_no_fault hfault]
    exact .inl ⟨rfl, rfl, h.faults⟩
  | some fault =>
    obtain ⟨failure, hfailure, hreports⟩ := h.reported hfault
    rw [read_of_fault hfault, hfailure]
    exact .inr ⟨_, failure, rfl, hreports, rfl, h.faults⟩

/-- A faulty link to a bootloader, as a wire. -/
def wire (Reports : Failure → Prop) (hsort : Failure.LinkSort Reports) : Wire (Faulty Bootloader) where
  Carries := Carries Reports
  Reports := Reports
  reports_context := hsort.context
  reports_isCommand := hsort.isCommand
  write := fun bytes h => h.write bytes
  read := fun limit h => h.read limit
  setTimeout := fun _ h => ⟨h.link, h.faults⟩

end Faulty

/-- A chip with pages of two bytes, on which a pass can be followed byte by byte. -/
def Device.tiny : Device :=
  ⟨1, "tiny", ⟨8, 2, 0, 0⟩, .fixed 6⟩

/-- The bootloader of such a chip, with the given rules. -/
def Firmware.tiny (rules : List Rule) : Firmware :=
  { pageSize := 2, board := [], devices := [1], fuseHigh := 0, fuseLow := 0, silent := false, refusesBlocks := false,
    fillers := 0, rules }

end Bootflash
