import Bootflash.Proofs.WholeChip

namespace Bootflash

/-- The word at an address, high byte first. -/
def Memory.word (m : Memory) (addr : Nat) : Nat :=
  (m.byteAt addr).toNat * 256 + (m.byteAt (addr + 1)).toNat

/-- The word at an address of an image, high byte first. -/
def Image.word (image : Image) (addr : Nat) : Nat :=
  (image.getD addr erased).toNat * 256 + (image.getD (addr + 1) erased).toNat

/-- No bootloader starts in the middle of a word. -/
theorem Device.even_bootAddress {device : Device} (hdevice : device ∈ registry) (fuse : UInt8) :
    (device.bootAddress fuse).toNat % 2 = 0 := by
  rcases bootAddress_cases hdevice fuse with ⟨-, hboot⟩ | ⟨-, hboot⟩
  · rcases hboot with hboot | hboot | hboot | hboot <;> rw [hboot] <;> decide
  · rw [hboot]
    decide

/-- Two bytes make up a word without a carry. -/
theorem toNat_bytes (high low : UInt8) :
    (high.toUInt16 * 256 + low.toUInt16).toNat = high.toNat * 256 + low.toNat := by
  have hhigh := high.toNat_lt
  have hlow := low.toNat_lt
  rw [UInt16.toNat_add, UInt16.toNat_mul, UInt8.toNat_toUInt16, UInt8.toNat_toUInt16]
  change (high.toNat * 256 % 65536 + low.toNat) % 65536 = _
  omega

namespace Session

section

variable {ω : Type} [Link ω] {wire : Wire ω} {host : Host} {b : Bootloader}
  {wrong : Failure → Host → Bootloader → Prop} {cut : Host → Bootloader → Prop}

/-- A device that takes commands answers a read with the word it is pointed at, and points past it. -/
theorem Exchange.readWord {addr : UInt32} (hready : b.Ready) (hreach : reachable addr = true)
    (hcut : ∀ host' b', cut host' b') :
    Exchange wire (readWord addr) host b
      (fun word _ b' => word.toNat = b.flash.word addr.toNat ∧
        b' = (b.pointed addr).ran .readWord []) wrong cut := by
  have hpointed : (b.pointed addr).Ready := hready.ran _ _
  let reply := [b.flash.byteAt addr.toNat, b.flash.byteAt (addr.toNat + 1)]
  have hreceive : (b.pointed addr).receive [Opcode.readWord.byte] =
      { (b.pointed addr).ran .readWord [] with output := reply } := by
    rw [hpointed.receive_command .readWord (by decide) rfl]
    change { (b.pointed addr).ran .readWord [] with
      output := [b.flash.byteAt (b.pointed addr).addr, b.flash.byteAt ((b.pointed addr).addr + 1)] } = _
    rw [Bootloader.addr_pointed hreach]
  refine bind (setAddress hready hreach (hcut _ _) (hcut _ _)) ?_
  rintro - host' b' ⟨hhost, hb⟩
  subst host' b'
  refine bind (transmit id (hcut _ _) (hcut _ _)) ?_
  rintro - host' b' ⟨hhost, hb⟩
  subst host' b'
  rw [hreceive]
  refine bind update ?_
  rintro - host' b' ⟨hhost, hb⟩
  subst host' b'
  have htake : Exchange wire (Session.withTimeout readWordTimeout (Session.receive 2))
      (Host.forget (id (host.trust addr)))
      { (b.pointed addr).ran .readWord [] with output := reply }
      (fun bytes _ b' => bytes = reply ∧ b' = (b.pointed addr).ran .readWord []) wrong cut := by
    refine withTimeout (returning (receive 2 ?_) ?_)
    · exact hcut _ _
    · rintro bytes host' b' ⟨hbytes, -, hb⟩
      exact ⟨hbytes, hb.trans (Bootloader.with_output_nil (hpointed.ran _ _).heard)⟩
  refine bind htake ?_
  rintro bytes host' b' ⟨hbytes, hb⟩
  subst bytes b'
  exact pure ⟨toNat_bytes _ _, rfl⟩

/-- One read after the other gives one word after the other, and leaves the flash as it is. -/
theorem Exchange.readWords {addrs : List UInt32} (hready : b.Ready)
    (hreach : ∀ addr ∈ addrs, reachable addr = true) (hcut : ∀ host' b', cut host' b') :
    Exchange wire (addrs.mapM Session.readWord) host b
      (fun words _ b' => words.map UInt16.toNat = addrs.map (fun addr => b.flash.word addr.toNat) ∧
        b'.flash = b.flash)
      wrong cut := by
  induction addrs generalizing host b with
  | nil => exact pure ⟨rfl, rfl⟩
  | cons addr rest ih =>
    rw [List.mapM_cons]
    refine bind (readWord hready (hreach addr (List.mem_cons_self ..)) hcut) ?_
    rintro word host' b' ⟨hword, hb⟩
    subst b'
    have hnext : ((b.pointed addr).ran .readWord []).Ready := (hready.ran _ _).ran _ _
    refine bind (ih hnext fun other hother => hreach other (List.mem_cons_of_mem _ hother)) ?_
    rintro words host' b' ⟨hwords, hflash⟩
    refine pure ⟨?_, hflash⟩
    rw [List.map_cons, List.map_cons, hword, hwords]
    rfl

/-- An image that is refused never gets as far as the erase. -/
theorem Exchange.prepareChip_of_refusal {image : Image} {device : Device} {failure : Failure}
    (hrest : b.AtRest) (hrefused : refusal? image (device.bootAddress b.firmware.fuseHigh) =
      some failure) (hcut : ∀ host' b', cut host' b') :
    Exchange wire (Session.prepareChip image device) host b (fun _ _ _ => False) (fun _ _ _ => True) cut := by
  refine bind (within (fuseHigh hrest (hcut _ _) (hcut _ _))) ?_
  rintro fuse host' b' ⟨hfuse, -, -⟩
  subst fuse
  refine bind note ?_
  rintro - host' b' -
  have hthrow : Exchange wire (check (refusal? image (device.bootAddress b.firmware.fuseHigh))) host' b'
      (fun _ _ _ => False) (fun _ _ _ => True) cut := by
    rw [hrefused]
    exact throw trivial
  exact bind hthrow fun _ _ _ hfalse => hfalse.elim

end

variable {image : Image} {device : Device} {options : Options} {s : Session Bootloader}

/-- A cycle that went through had an image that fits. -/
theorem refusal?_eq_none_of_complete (hrest : s.link.AtRest) (hlookup : Device.lookup device.id = .ok device)
    (hcomplete : (programChip image device.id options s).1.failure? = none) :
    refusal? image (device.bootAddress s.link.firmware.fuseHigh) = none := by
  cases hrefusal : refusal? image (device.bootAddress s.link.firmware.fuseHigh) with
  | none => rfl
  | some failure =>
    have hprepare : Exchange Bootloader.wire (prepareChip image device) s.host s.link (fun _ _ _ => False)
        (fun _ _ _ => True) fun _ _ => True :=
      Exchange.prepareChip_of_refusal hrest hrefusal fun _ _ => trivial
    have hrefused : Yields (programChip image device.id options) s fun pass _ => pass.failure? ≠ none := by
      unfold programChip
      rw [hlookup]
      refine Yields.bind hprepare.ends ?_
      rintro (failure | boot) after hafter
      · exact Yields.pure (by simp [Pass.failure?])
      · exact hafter.elim
    exact absurd hcomplete hrefused

/-- Once a chip has been programmed, every word below the bootloader reads as the image has it, in
any order and any number of times, and reading changes nothing in the flash. -/
theorem readWords_of_complete (image : Image) (device : Device) (options : Options)
    (s : Session Bootloader) (addrs : List UInt32) (hdevice : device ∈ Device.registry)
    (hidle : s.link.stage = .idle) (hheard : s.link.output = [])
    (hbuffer : s.link.buffer.size = s.link.firmware.pageSize) (hawake : s.link.firmware.silent = false)
    (hrules : s.link.firmware.rules = []) (hfillers : s.link.firmware.fillers ≤ 4)
    (hpageSize : s.link.firmware.pageSize = device.geometry.flashPageSize.toNat)
    (hroom : (device.bootAddress s.link.firmware.fuseHigh).toNat ≤ s.link.flash.size)
    (hcomplete : (programChip image device.id options s).1.failure? = none)
    (heven : ∀ addr ∈ addrs, addr % 2 = 0)
    (hbelow : ∀ addr ∈ addrs, addr < device.bootAddress s.link.firmware.fuseHigh) :
    let programmed := (programChip image device.id options s).2
    (device.bootAddress s.link.firmware.fuseHigh).toNat ≤ image.size ∧
      ∃ words after, (addrs.mapM readWord).run programmed = (.ok words, after) ∧
        words.map UInt16.toNat = addrs.map (fun addr => image.word addr.toNat) ∧
        after.link.flash = programmed.link.flash := by
  intro programmed
  have hlayout := Device.layout_of_mem_registry hdevice s.link.firmware.fuseHigh
  have hrest : s.link.AtRest := ⟨hidle, hheard, Firmware.tame_of_rules_eq_nil hawake hfillers hrules, hbuffer⟩
  have hfits := refusal?_eq_none_of_complete hrest hlayout.lookup hcomplete
  have hcarries : Bootloader.wire.Carries s.link s.link := rfl
  have hchip : Yields (programChip image device.id options) s _ :=
    programChip_flawless (fun _ hreports => hreports) hrules hrest hcarries hlayout hpageSize hroom hfits
  obtain ⟨tally, b', -, hflawless, hbytes⟩ := hchip
  have hlink : programmed.link = b' := hflawless.carries
  subst b'
  refine ⟨Image.le_size_of_not_lt (refusal?_eq_none_iff_counted.mp hfits).1, ?_⟩
  -- The bootloader starts at an even address, so a word that begins below it ends below it.
  have hinside : ∀ addr ∈ addrs, addr.toNat % 2 = 0 ∧
      addr.toNat + 1 < (device.bootAddress s.link.firmware.fuseHigh).toNat := by
    intro addr haddr
    have hmod : addr.toNat % 2 = 0 := by simpa using congrArg UInt32.toNat (heven addr haddr)
    have hlt := UInt32.lt_iff_toNat_lt.mp (hbelow addr haddr)
    have hboot := Device.even_bootAddress hdevice s.link.firmware.fuseHigh
    exact ⟨hmod, by omega⟩
  have hreach : ∀ addr ∈ addrs, reachable addr = true := by
    intro addr haddr
    obtain ⟨hmod, hlt⟩ := hinside addr haddr
    have hlow := hlayout.low
    exact reachable_iff.mpr ⟨hmod, by omega⟩
  have hread : Exchange Bootloader.wire (addrs.mapM readWord) programmed.host programmed.link _
      (fun _ _ _ => False) fun _ _ => True :=
    Exchange.readWords hflawless.rest.ready hreach fun _ _ => trivial
  obtain ⟨words, after, hrun, hwords, hflash⟩ := hread.ends.returns
  refine ⟨words, after, hrun, ?_, hflash⟩
  rw [hwords]
  apply List.map_congr_left
  intro addr haddr
  obtain ⟨-, hlt⟩ := hinside addr haddr
  rw [Memory.word, hbytes, hbytes, if_pos (by omega), if_pos hlt, Image.word]

/-- A program of two bytes, for a chip that was written all over before. -/
def twoBytes : Image :=
  (Image.ofBytes ⟨#[0x0c, 0x94]⟩).pad Device.atmega32.geometry.flashSize.toNat

def onUsedChip : Session Bootloader :=
  ⟨Microcontroller.leftover, .initial, .empty⟩

/-- The word that was written is read twice, with an erased one in between. -/
theorem readWords_of_complete_twoBytes :
    (programChip twoBytes Device.atmega32.id .none onUsedChip).1.failure? = none ∧
      ∃ words after,
        (([0, 2, 0] : List UInt32).mapM readWord).run
          (programChip twoBytes Device.atmega32.id .none onUsedChip).2 = (.ok words, after) ∧
        words.map UInt16.toNat = [0x0c94, 0xffff, 0x0c94] := by
  have hboot : Device.atmega32.bootAddress onUsedChip.link.firmware.fuseHigh = 0x7000 := by decide
  have hflash : onUsedChip.link.flash.size = 32768 := Memory.size_filled 32768 0x55
  have hbuffer : onUsedChip.link.buffer.size = onUsedChip.link.firmware.pageSize :=
    Memory.size_filled 128 erased
  have hroom : (Device.atmega32.bootAddress onUsedChip.link.firmware.fuseHigh).toNat ≤
      onUsedChip.link.flash.size := by
    rw [hboot, hflash]
    decide
  have hbytes : ∀ i, 2 ≤ i → twoBytes.getD i erased = erased := by
    intro i hi
    rw [twoBytes, Image.getD_pad]
    exact Image.getD_of_size_le hi erased
  have hfits : refusal? twoBytes (Device.atmega32.bootAddress onUsedChip.link.firmware.fuseHigh) = none := by
    rw [refusal?_eq_none_iff_counted, hboot, twoBytes, Image.length32_pad (by decide)]
    exact ⟨by decide, fun i hi _ => hbytes i (Nat.le_trans (by decide) hi)⟩
  have hrest : onUsedChip.link.AtRest :=
    ⟨rfl, rfl, Firmware.tame_of_rules_eq_nil rfl (by decide) rfl, hbuffer⟩
  have hcarries : Bootloader.wire.Carries onUsedChip.link onUsedChip.link := rfl
  have hchip : Yields (programChip twoBytes Device.atmega32.id .none) onUsedChip _ :=
    programChip_flawless (fun _ hreports => hreports) rfl hrest hcarries
      (Device.layout_of_mem_registry (by decide) _) (by decide) hroom hfits
  obtain ⟨tally, b', hpass, -, -⟩ := hchip
  have hcomplete : (programChip twoBytes Device.atmega32.id .none onUsedChip).1.failure? =
      none := by rw [hpass, Pass.failure?]
  obtain ⟨-, words, after, hrun, hwords, -⟩ :=
    readWords_of_complete twoBytes Device.atmega32 .none onUsedChip [0, 2, 0]
      (by decide) rfl rfl hbuffer rfl rfl (by decide)
      (by decide) hroom hcomplete (by simp) (by simp [hboot])
  refine ⟨hcomplete, words, after, hrun, ?_⟩
  rw [hwords]
  simp only [List.map_cons, List.map_nil, Image.word, twoBytes, Image.getD_pad]
  rfl

end Session

end Bootflash
