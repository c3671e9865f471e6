import Bootflash.Proofs.ChipGuard

namespace Bootflash

/-- The payload is no larger than the flash and leaves the bootloader alone. -/
structure Image.FitsChip (payload : Image) (device : Device) (boot : UInt32) : Prop where
  size : payload.size ≤ device.geometry.flashSize.toNat
  erased : ∀ i, boot.toNat ≤ i → payload.getD i erased = erased

/-- The payload looks as if it did, its bytes counted in 32 bits. -/
structure Image.SeemsToFit (payload : Image) (device : Device) (boot : UInt32) : Prop where
  size : payload.length32 ≤ device.geometry.flashSize
  /-- A payload that is shorter than the flash is filled up; one that only seems to be is not. -/
  reaches : 4294967296 ≤ payload.size → boot ≤ payload.length32
  erased : ∀ i, boot.toNat ≤ i → i < payload.length32.toNat → payload.getD i erased = erased

namespace Image

variable {payload : Image} {device : Device} {boot : UInt32}

/-- What seems to fit does, unless its length needs more bits. -/
theorem SeemsToFit.fitsChip_iff (h : payload.SeemsToFit device boot) :
    payload.FitsChip device boot ↔ payload.size < 4294967296 := by
  constructor
  · intro hfits
    exact Nat.lt_of_le_of_lt hfits.size (UInt32.toNat_lt _)
  · intro hsize
    have hcounted := toNat_length32 hsize
    refine ⟨?_, fun i hi => ?_⟩
    · rw [← hcounted]
      exact UInt32.le_iff_toNat_le.mp h.size
    · by_cases hinside : i < payload.size
      · exact h.erased i hi (by rwa [hcounted])
      · exact getD_of_size_le (Nat.le_of_not_lt hinside) _

/-- A payload that passes both checks, its own length first and then the image it is filled up to,
seems to fit. -/
theorem seemsToFit_of_checks (hsize : ¬payload.length32 > device.geometry.flashSize)
    (hrefusal : Session.refusal? (payload.pad device.geometry.flashSize.toNat) boot = none) :
    payload.SeemsToFit device boot := by
  rw [gt_iff_lt, UInt32.not_lt] at hsize
  obtain ⟨hlength, herased⟩ := Session.refusal?_eq_none_iff_counted.mp hrefusal
  simp only [getD_pad] at herased
  have hflash := device.geometry.flashSize.toNat_lt
  by_cases hlong : 4294967296 ≤ payload.size
  · -- It is longer than any flash, so nothing is added to it.
    have hpadded : (payload.pad device.geometry.flashSize.toNat).length32 = payload.length32 := by
      rw [length32, size_pad, Nat.max_eq_left (by omega), length32]
    rw [hpadded] at hlength herased
    exact ⟨hsize, fun _ => UInt32.not_lt.mp hlength, herased⟩
  · have hcounted : payload.length32.toNat = payload.size := toNat_length32 (by omega)
    have hfits : payload.size ≤ device.geometry.flashSize.toNat := by
      rw [← hcounted]
      exact UInt32.le_iff_toNat_le.mp hsize
    rw [length32_pad hfits] at herased
    refine ⟨hsize, fun hlong' => absurd hlong' hlong, fun i hi hinside => herased i hi ?_⟩
    omega

end Image

/-- The chip is told to erase itself. -/
def ErasesChip (entries : List Entry) : Prop :=
  [Opcode.eraseChip.byte] ∈ writesOf (callsOf entries)

instance (entries : List Entry) : Decidable (ErasesChip entries) :=
  inferInstanceAs (Decidable (_ ∈ _))

namespace Session

variable {ω : Type} {image : Image} {device : Device} {pass : Pass} {s after : Session ω}
  {entries : List Entry}

/-- A chip that could not be prepared has been told to erase itself only after the image passed. -/
theorem Unprepared.checked {host host' : Host} {failure : Failure} {calls : List Event}
    (h : Unprepared image device host failure calls host')
    (herases : [Opcode.eraseChip.byte] ∈ writesOf calls) :
    ∃ fuse, fuseCalls fuse <+: calls ∧ refusal? image (device.bootAddress fuse) = none := by
  have hasked : [Opcode.eraseChip.byte] ∉ [fuseQuestion] := by decide
  cases h with
  | unread hwrites _ => exact absurd (hwrites ▸ herases) hasked
  | refused _ => exact absurd herases hasked
  | unerased hfits _ _ => exact ⟨_, List.prefix_append _ _, hfits⟩

/-- A chip is erased only once its fuse has been read and the image found to stay below the bootloader. -/
theorem ChipCourse.checked (h : ChipCourse image device s pass after entries) (herases : ErasesChip entries) :
    ∃ fuse, FuseRead fuse entries ∧ refusal? image (device.bootAddress fuse) = none := by
  cases h with
  | unprepared hunprepared => exact hunprepared.checked herases
  | @begun fuse calls _ _ prep work hprepared _ hfits _ _ =>
    refine ⟨fuse, ?_, hfits⟩
    rw [FuseRead, callsOf_append, hprepared, List.append_assoc]
    exact List.prefix_append _ _

/-- Whatever is programmed, the chip has been erased before. -/
theorem ChipCourse.erasesChip (h : ChipCourse image device s pass after entries)
    (hbegun : pass.tally?.isSome) :
    ErasesChip entries := by
  cases h with
  | unprepared => cases hbegun
  | begun hprepared herased =>
    rw [ErasesChip, callsOf_append, hprepared, writesOf_append, writesOf_append, herased]
    simp [eraseWrites]

end Session

namespace Microcontroller

variable {ω : Type} [Station ω]

/-- On an open chip a payload that seems too large is refused before anything is sent. -/
theorem program_of_oversized {mcu : Microcontroller ω} {payload : Image} {host : Host}
    {discovery : Discovery} {device : Device} (hsession : mcu.session = some host)
    (hdiscovery : mcu.discovery = some discovery)
    (hlookup : Device.lookup discovery.selected = .ok device)
    (hsize : payload.length32 > device.geometry.flashSize) :
    program payload mcu =
      (some (.refused (.oversizedPayload payload.size device.name device.geometry.flashSize)), mcu) := by
  obtain ⟨config, station, session, known, resetPin, journal⟩ := mcu
  obtain rfl : session = some host := hsession
  obtain rfl : known = some discovery := hdiscovery
  change (programAs payload discovery.selected host >>= fun pass => pure (some pass)) _ = _
  simp only [programAs, hlookup, if_pos hsize]
  rfl

/-- Whatever the link does, an open chip is erased only after its fuse was read, and for a payload
that seems to fit below the bootloader that the fuse tells of. Such a payload does fit if its length
can be told in 32 bits, and does not otherwise. And nothing is programmed that the chip was not
erased for. -/
theorem program_erases_only_for_seeming_fit (payload : Image) (device : Device)
    (mcu : Microcontroller ω) (host : Host) (discovery : Discovery)
    (hdevice : device ∈ Device.registry) (hsession : mcu.session = some host)
    (hdiscovery : mcu.discovery = some discovery) (hselected : discovery.selected = device.id) :
    let run := program payload mcu
    ∃ pass entries, run.1 = some pass ∧ run.2.journal.toList = mcu.journal.toList ++ entries ∧
      (ErasesChip entries → ∃ fuse, FuseRead fuse entries ∧
        payload.SeemsToFit device (device.bootAddress fuse) ∧
        (payload.FitsChip device (device.bootAddress fuse) ↔ payload.size < 4294967296)) ∧
      (pass.tally?.isSome → ErasesChip entries) := by
  intro run
  have hlookup := hselected ▸ (Device.layout_of_mem_registry hdevice 0).lookup
  by_cases hsize : payload.length32 > device.geometry.flashSize
  · have hrun : run = _ := program_of_oversized hsession hdiscovery hlookup hsize
    refine ⟨_, [], congrArg Prod.fst hrun, ?_, fun herases => absurd herases (by decide),
      fun hbegun => by cases hbegun⟩
    rw [hrun, List.append_nil]
  · have hcourse : Session.Yields (Session.programChip (payload.pad device.geometry.flashSize.toNat) device.id
        ⟨mcu.config.maxRetries⟩) ⟨mcu.station, host, mcu.journal⟩ _ := Session.programChip_course hdevice
    obtain ⟨entries, hjournal, hcourse⟩ := hcourse
    have hrun : run = _ := program_of_open hsession hdiscovery hlookup hsize
    refine ⟨_, entries, congrArg Prod.fst hrun, by rw [hrun]; exact hjournal, ?_, hcourse.erasesChip⟩
    intro herases
    obtain ⟨fuse, hread, hrefusal⟩ := hcourse.checked herases
    have hseems := Image.seemsToFit_of_checks hsize hrefusal
    exact ⟨fuse, hread, hseems, hseems.fitsChip_iff⟩

/-- An open chip that tells its fuse, confirms two commands, and says no more. -/
def taciturn (fuse : UInt8) : Microcontroller Bench :=
  { new .empty ⟨.attached (.start (.script (.stream [fuse, ack, ack])) []), ⟨[]⟩, []⟩ with
    session := some .initial
    discovery := some ⟨[], [114], 114⟩ }

/-- A payload of two bytes. -/
def stub : Image :=
  .ofBytes ⟨#[0x0c, 0x94]⟩

theorem program_erases_only_for_seeming_fit_stub :
    ErasesChip (program stub (taciturn 6)).2.journal.toList ∧
      FuseRead 6 (program stub (taciturn 6)).2.journal.toList ∧ stub.FitsChip .atmega32 0x7e00 := by
  have herases : ErasesChip (program stub (taciturn 6)).2.journal.toList := by decide +kernel
  have hread : fuseCalls 6 <+: callsOf (program stub (taciturn 6)).2.journal.toList := by decide +kernel
  obtain ⟨_, entries, -, hjournal, hchecked, -⟩ :=
    program_erases_only_for_seeming_fit stub .atmega32 (taciturn 6) .initial ⟨[], [114], 114⟩
      (by decide) rfl rfl rfl
  have hempty : (taciturn 6).journal.toList = [] := rfl
  rw [hempty, List.nil_append] at hjournal
  subst hjournal
  obtain ⟨fuse, hread', -, hfits⟩ := hchecked herases
  obtain rfl := hread'.unique hread
  exact ⟨herases, hread, hfits.mpr (by decide)⟩

/-- A payload 4 GiB longer than what fits below the bootloader: what is left of its length in 32
bits does, and the chip is erased for it. -/
theorem program_erases_for_oversized :
    let payload : Image := ⟨4294995968, fun i => if i.val = 0 then 0x0c else erased⟩
    Device.atmega32.geometry.flashSize.toNat < payload.size ∧
      ErasesChip (program payload (taciturn 0)).2.journal.toList := by
  decide +kernel

end Microcontroller

end Bootflash
