import Bootflash.Bench
import Bootflash.Proofs.Pass

namespace Bootflash

namespace Device

variable {device : Device}

/-- What programming relies on about a chip of the registry, whatever its fuses say. -/
structure Layout (device : Device) (fuse : UInt8) : Prop where
  lookup : Device.lookup device.id = .ok device
  even : device.geometry.flashPageSize.toNat % 2 = 0
  spanning : PageCursor.spanning 0 (device.bootAddress fuse) device.geometry.flashPageSize =
    .ok ⟨0, device.bootAddress fuse, device.geometry.flashPageSize⟩
  low : (device.bootAddress fuse).toNat ≤ 0x1ffff
  inside : (device.bootAddress fuse).toNat ≤ device.geometry.flashSize.toNat

/-- The section of the smaller chip is halved up to three times; the larger one has a fixed one. -/
theorem bootAddress_cases (hdevice : device ∈ registry) (fuse : UInt8) :
    (device = atmega32 ∧ (device.bootAddress fuse = 0x7000 ∨ device.bootAddress fuse = 0x7800 ∨
        device.bootAddress fuse = 0x7c00 ∨ device.bootAddress fuse = 0x7e00)) ∨
      (device = atmega644 ∧ device.bootAddress fuse = 0xfc00) := by
  simp only [registry, List.mem_cons, List.not_mem_nil, or_false] at hdevice
  rcases hdevice with rfl | rfl
  · refine .inl ⟨rfl, ?_⟩
    have hbits : ((fuse >>> 1) &&& 3).toUInt32.toNat ≤ 3 := by
      rw [UInt8.toNat_toUInt32, UInt8.toNat_and]
      exact Nat.and_le_right
    simp only [bootAddress, atmega32]
    generalize ((fuse >>> 1) &&& 3).toUInt32 = halvings at hbits ⊢
    have hcases : halvings = 0 ∨ halvings = 1 ∨ halvings = 2 ∨ halvings = 3 := by
      simp only [← UInt32.toNat_inj, UInt32.toNat_zero, UInt32.toNat_one, UInt32.reduceToNat]
      omega
    rcases hcases with rfl | rfl | rfl | rfl <;> decide
  · exact .inr ⟨rfl, rfl⟩

theorem layout_of_mem_registry (hdevice : device ∈ registry) (fuse : UInt8) : device.Layout fuse := by
  rcases bootAddress_cases hdevice fuse with ⟨rfl, hboot⟩ | ⟨rfl, hboot⟩
  · rcases hboot with hboot | hboot | hboot | hboot <;>
      exact ⟨rfl, rfl, by rw [hboot]; rfl, by rw [hboot]; decide, by rw [hboot]; decide⟩
  · exact ⟨rfl, rfl, by rw [hboot]; rfl, by rw [hboot]; decide, by rw [hboot]; decide⟩

end Device

namespace Session

variable {ω : Type} [Link ω] {wire : Wire ω} {plan : Plan} {s s' after : Session ω} {b : Bootloader}
  {firmware : Firmware}

theorem Replaced.eq_zero {n : Nat} (h : Replaced wire firmware n s s')
    (hrules : firmware.rules = []) : n = 0 := by
  obtain ⟨b, b', -, -, rfl, hb', hacks⟩ := h
  have hbefore := Bootloader.wrongAcks_of_rules_eq_nil hrules
  have hafter : b'.wrongAcks = 0 := Bootloader.wrongAcks_of_rules_eq_nil (by rw [hb', hrules])
  omega

/-- Over a link that reports nothing, to a device without rules, no try at a page fails. -/
theorem History.eq_zero {cursor : PageCursor} {hits wrongs : Nat}
    (h : History wire cursor firmware s hits wrongs s') (hquiet : ∀ failure, ¬wire.Reports failure)
    (hrules : firmware.rules = []) : hits = 0 ∧ wrongs = 0 := by
  induction h with
  | start => exact ⟨rfl, rfl⟩
  | hit _ hreports => exact absurd hreports (hquiet _)
  | misled _ _ hreplaced => exact absurd (hreplaced.eq_zero hrules) (by decide)
  | redone _ _ _ ih => exact ih

theorem GivenUp.reachable_eq_false {task : PageTask ω} {failure : Failure}
    (h : GivenUp wire task failure after) (hquiet : ∀ failure, ¬wire.Reports failure)
    (hrules : task.device.firmware.rules = []) :
    reachable task.cursor.next = false := by
  cases h with
  | hit _ hreports => exact absurd hreports (hquiet _)
  | misled _ _ _ hreplaced => exact absurd (hreplaced.eq_zero hrules) (by decide)
  | unreachable hreach => exact hreach
  | unrecovered _ _ hreports => exact absurd hreports (hquiet _)

/-- What a pass over a link that works comes to. -/
structure Flawless (wire : Wire ω) (plan : Plan) (tally : Tally) (after : Session ω)
    (b : Bootloader) : Prop where
  carries : wire.Carries after.link b
  rest : b.AtRest
  addr : b.addr = plan.stop.toNat
  led : b.led = false
  confined : plan.device.flash.AgreesOutside plan.start.toNat plan.stop.toNat b.flash
  tally : tally =
    { written := (pageAddresses plan.start
      plan.stop plan.pageSize).countP fun addr => !isBlank (plan.page addr)
      skipped := (pageAddresses plan.start plan.stop plan.pageSize).countP fun addr =>
        isBlank (plan.page addr)
      resyncs := 0
      mode := plan.modeAfter plan.total
      exitFailure := none }
  pointer : after.host.pointer? = some plan.stop
  dark : after.host.led = false

/-- Over a link that works every pass over an accepted range is complete. On a range that was
erased, the flash is the image afterwards. -/
theorem programRange_flawless {device : Device} {options : Options}
    (hquiet : ∀ failure, ¬wire.Reports failure) (hrules : plan.device.firmware.rules = [])
    (hsound : plan.Sound) (hrest : plan.device.AtRest)
    (hcarries : wire.Carries s.link plan.device)
    (hcursor : PageCursor.spanning plan.start plan.stop device.geometry.flashPageSize =
      .ok ⟨plan.start, plan.stop, plan.pageSize⟩)
    (himage : ¬plan.image.length32 < plan.stop) (hlow : plan.stop.toNat ≤ 0x1ffff) :
    Yields (programRange plan.image plan.start plan.stop device options) s fun pass after =>
      ∃ tally b, pass = .complete tally ∧ Flawless wire plan tally after b ∧
        ((∀ i, plan.start.toNat ≤ i → i < plan.stop.toNat → plan.device.flash.byteAt i = erased) →
          ∀ i, plan.start.toNat ≤ i → i < plan.stop.toNat → b.flash.byteAt i = plan.image.getD i erased) := by
  refine programRange_yields (fun state _ => state.tally.resyncs = 0)
    hsound hrest hcarries hcursor himage ?_ ?_ ?_ ?_ ?_
  · intro failure after b' hfails
    cases hfails with
    | hit hreports _ => exact absurd hreports (hquiet _)
    | unreachable hreach => exact absurd ((hsound.reachable_start hlow).symm.trans hreach) (by decide)
  · intros
    rfl
  · intro n cursor state s b hn hprogress hinv allowance state' s₁ b₁ after b' handling done total
      hconcluded _
    obtain ⟨hits, wrongs, hhistory, -, -, htally⟩ := hconcluded.underway.history
    have hfirmware : b.firmware.rules = [] := by rw [hprogress.confined.firmware, hrules]
    obtain ⟨rfl, rfl⟩ := hhistory.eq_zero hquiet hfirmware
    have hresyncs : state'.tally.resyncs = 0 := by
      rw [htally]
      exact hinv
    cases handling <;> exact hresyncs
  · intro n cursor state s b hn hprogress _ tally failure after hgivenUp
    have hfirmware : b.firmware.rules = [] := by rw [hprogress.confined.firmware, hrules]
    have hnext := hgivenUp.reachable_eq_false hquiet hfirmware
    have hreach := hprogress.reachable_next hsound hn hlow
    exact absurd (hreach.symm.trans hnext) (by decide)
  · intro cursor state s b hprogress hinv tally after hend
    obtain ⟨failure, hreports, -⟩ | ⟨hexit, -, hhost, hcarries⟩ := hend.clean
    · exact absurd hreports (hquiet _)
    have hstop : cursor.current = plan.stop := by
      rw [← UInt32.toNat_inj, hprogress.current, hsound.stop_eq]
    refine ⟨tally, _, rfl, ⟨hcarries, (hprogress.rest.ran _ _).ran _ _, ?_, rfl, ?_, ?_, ?_, ?_⟩, ?_⟩
    · rw [← hstop]
      exact hprogress.addr
    · rw [← hstop]
      exact hprogress.confined.flash
    · have hresyncs : state.tally.resyncs = 0 := hinv
      rw [hend.kept, hexit, hprogress.mode, hprogress.written, hprogress.skipped, hresyncs]
      rfl
    · rw [hhost, ← hstop]
      exact hprogress.pointer
    · rw [hhost]
    · intro herased i hlow hhigh
      exact hprogress.byteAt hsound herased hlow hhigh

/-- An image is refused just if it does not fit, as far as a length of 32 bits tells. -/
theorem refusal?_eq_none_iff_counted {image : Image} {boot : UInt32} :
    refusal? image boot = none ↔ ¬image.length32 < boot ∧
      ∀ i, boot.toNat ≤ i → i < image.length32.toNat → image.getD i erased = erased := by
  unfold refusal?
  split
  · next hshort => simp [hshort]
  · next hlength =>
    rw [UInt32.not_lt, UInt32.le_iff_toNat_le] at hlength
    simp only [Option.map_eq_none_iff, Image.firstData?, List.find?_eq_none, List.mem_range'_1,
      bne_iff_ne, ne_eq, Decidable.not_not, and_imp]
    have hstop : boot.toNat + (image.length32.toNat - boot.toNat) = image.length32.toNat := by omega
    rw [hstop, UInt32.not_lt, UInt32.le_iff_toNat_le]
    exact ⟨fun h => ⟨hlength, h⟩, fun h => h.2⟩

end Session

/-- The device after its high fuse was read and its flash erased. -/
def Bootloader.wiped (b : Bootloader) : Bootloader :=
  (((b.ran .readFuseHigh []).ran .ledOn [0]).ran .eraseChip []).ran .ledOff [0]

theorem Bootloader.AtRest.wiped {b : Bootloader} (h : b.AtRest) : b.wiped.AtRest :=
  (((h.ran _ _).ran _ _).ran _ _).ran _ _

theorem Bootloader.firmware_wiped (b : Bootloader) : b.wiped.firmware = b.firmware := by
  simp [wiped]

theorem Bootloader.size_flash_wiped (b : Bootloader) : b.wiped.flash.size = b.flash.size :=
  Memory.size_filled b.flash.size erased

theorem Bootloader.byteAt_flash_wiped (b : Bootloader) (i : Nat) : b.wiped.flash.byteAt i = erased := by
  change (Memory.filled b.flash.size erased).byteAt i = erased
  rw [Memory.byteAt_filled]
  split <;> rfl

/-- Everything below the bootloader of an erased chip, for an image that reaches so far, makes a
sound plan. -/
theorem Device.Layout.sound {device : Device} {b : Bootloader} {image : Image}
    (hlayout : device.Layout b.firmware.fuseHigh)
    (hpageSize : b.firmware.pageSize = device.geometry.flashPageSize.toNat)
    (hroom : (device.bootAddress b.firmware.fuseHigh).toNat ≤ b.flash.size)
    (hlength : ¬image.length32 < device.bootAddress b.firmware.fuseHigh) :
    (⟨⟨0, device.bootAddress b.firmware.fuseHigh, device.geometry.flashPageSize⟩, image, b.wiped⟩ :
      Plan).Sound := by
  refine (Plan.sound_of_spanning hlayout.spanning hlength ?_ hlayout.even ?_).2
  · rw [b.firmware_wiped, hpageSize]
  · rwa [b.size_flash_wiped]

namespace Session

variable {ω : Type} [Link ω] {wire : Wire ω} {s after : Session ω} {host : Host} {b : Bootloader}
  {wrong : Failure → Host → Bootloader → Prop} {cut : Host → Bootloader → Prop}

theorem Exchange.prepareChip {image : Image} {device : Device} (hrest : b.AtRest)
    (hfits : refusal? image (device.bootAddress b.firmware.fuseHigh) = none)
    (hcut : ∀ host' b', cut host' b') :
    Exchange wire (prepareChip image device) host b
      (fun boot host' b' => boot = device.bootAddress b.firmware.fuseHigh ∧
        host' = { host with led := false } ∧ b' = b.wiped) wrong cut := by
  refine bind (within (fuseHigh hrest (hcut _ _) (hcut _ _))) ?_
  rintro fuse host' b' ⟨hfuse, hhost, hb⟩
  subst fuse host' b'
  refine bind note ?_
  rintro - host' b' ⟨hhost, hb⟩
  subst host' b'
  rw [hfits, check, pure_bind]
  refine bind (within (eraseChip (hrest.ran .readFuseHigh []) hcut)) ?_
  rintro - host' b' ⟨hhost, hb⟩
  subst host' b'
  exact pure ⟨rfl, rfl, rfl⟩

/-- A whole chip over a link that works: afterwards the flash holds the image below the bootloader,
and nothing else. -/
theorem programChip_flawless {image : Image} {device : Device} {options : Options}
    (hquiet : ∀ failure, ¬wire.Reports failure) (hrules : b.firmware.rules = []) (hrest : b.AtRest)
    (hcarries : wire.Carries s.link b) (hlayout : device.Layout b.firmware.fuseHigh)
    (hpageSize : b.firmware.pageSize = device.geometry.flashPageSize.toNat)
    (hroom : (device.bootAddress b.firmware.fuseHigh).toNat ≤ b.flash.size)
    (hfits : refusal? image (device.bootAddress b.firmware.fuseHigh) = none) :
    Yields (programChip image device.id options) s fun pass after =>
      ∃ tally b', pass = .complete tally ∧
        Flawless wire ⟨⟨0, device.bootAddress b.firmware.fuseHigh, device.geometry.flashPageSize⟩,
          image, b.wiped⟩ tally after b' ∧
        ∀ i, b'.flash.byteAt i =
          if i < (device.bootAddress b.firmware.fuseHigh).toNat then image.getD i erased else erased := by
  let plan : Plan :=
    ⟨⟨0, device.bootAddress b.firmware.fuseHigh, device.geometry.flashPageSize⟩, image, b.wiped⟩
  have hprepare : Exchange wire (prepareChip image device) s.host b _ (fun _ _ _ => False)
      (fun _ _ => True) :=
    Exchange.prepareChip hrest hfits fun _ _ => trivial
  unfold programChip
  rw [hlayout.lookup]
  refine Yields.bind (hprepare s rfl hcarries) ?_
  rintro (failure | boot) ready hready
  · rcases hready with ⟨-, -, -, hfalse⟩ | ⟨hreports, -⟩
    · exact hfalse.elim
    · exact absurd hreports (hquiet _)
  obtain ⟨-, b', hb', rfl, -, rfl⟩ := hready
  have hlength := (refusal?_eq_none_iff_counted.mp hfits).1
  have hsound : plan.Sound := hlayout.sound hpageSize hroom hlength
  have hrange : Yields (programRange plan.image plan.start plan.stop device options) ready _ :=
    programRange_flawless hquiet (by rw [b.firmware_wiped, hrules])
      hsound hrest.wiped hb' hlayout.spanning hlength hlayout.low
  refine hrange.mono ?_
  rintro pass after ⟨tally, c, hpass, hflawless, hbyteAt⟩
  refine ⟨tally, c, hpass, hflawless, fun i => ?_⟩
  split
  · next hi => exact hbyteAt (fun j _ _ => b.byteAt_flash_wiped j) i (Nat.zero_le i) hi
  · next hi =>
    rw [hflawless.confined.byteAt i (.inr (Nat.le_of_not_lt hi))]
    exact b.byteAt_flash_wiped i

end Session

namespace Bench

/-- The bench has this bootloader attached, on a link without faults. -/
def Attaches (bench : Bench) (b : Bootloader) : Prop :=
  ∃ writes reads, bench.port = .attached ⟨.device b, [], writes, reads⟩

theorem Attaches.write {bench : Bench} {b : Bootloader} (h : bench.Attaches b) (bytes : List UInt8) :
    (Link.write bytes bench).1 = none ∧ (Link.write bytes bench).2.Attaches (b.receive bytes) := by
  obtain ⟨_, pins, files⟩ := bench
  obtain ⟨writes, reads, rfl⟩ := h
  exact ⟨rfl, writes + 1, reads, rfl⟩

theorem Attaches.read {bench : Bench} {b : Bootloader} (h : bench.Attaches b) (limit : Nat) :
    (Link.read limit bench).1 = ⟨b.output.take limit, none⟩ ∧
      (Link.read limit bench).2.Attaches { b with output := b.output.drop limit } := by
  obtain ⟨_, pins, files⟩ := bench
  obtain ⟨writes, reads, rfl⟩ := h
  exact ⟨rfl, writes, reads + 1, rfl⟩

theorem Attaches.setTimeout {bench : Bench} {b : Bootloader} (h : bench.Attaches b) (ms : Int) :
    (Link.setTimeout ms bench).Attaches b := by
  obtain ⟨_, pins, files⟩ := bench
  obtain ⟨writes, reads, rfl⟩ := h
  exact ⟨writes, reads, rfl⟩

/-- A bench with a bootloader attached, as a wire. -/
def wire : Wire Bench :=
  .reliable Attaches (fun bytes h => h.write bytes) (fun limit h => h.read limit) fun ms h => h.setTimeout ms

end Bench

theorem Image.length32_pad {payload : Image} {size : UInt32} (h : payload.size ≤ size.toNat) :
    (payload.pad size.toNat).length32 = size := by
  rw [Image.length32, Image.size_pad, Nat.max_eq_right h, UInt32.ofNat_toNat]

namespace Microcontroller

/-- On an open chip whose device is known, programming a payload is a cycle for the padded payload
in the open session. -/
theorem program_of_open {ω : Type} [Station ω] {mcu : Microcontroller ω} {payload : Image} {host : Host}
    {discovery : Discovery} {device : Device} (hsession : mcu.session = some host)
    (hdiscovery : mcu.discovery = some discovery)
    (hlookup : Device.lookup discovery.selected = .ok device)
    (hfits : ¬payload.length32 > device.geometry.flashSize) :
    let run := Session.programChip (payload.pad device.geometry.flashSize.toNat) device.id
      ⟨mcu.config.maxRetries⟩ ⟨mcu.station, host, mcu.journal⟩
    program payload mcu =
      (some run.1,
        { mcu with station := run.2.link, session := some run.2.host, journal := run.2.journal }) := by
  obtain ⟨config, station, session, known, resetPin, journal⟩ := mcu
  obtain rfl : session = some host := hsession
  obtain rfl : known = some discovery := hdiscovery
  change (programAs payload discovery.selected host >>= fun pass => pure (some pass)) _ = _
  simp only [programAs, hlookup, if_neg hfits]
  rfl

/-- Programming a payload into an attached chip over a link that works returns without a failure,
whatever the chip held and whatever state its pointer, its page buffer and its probing were in.
Afterwards every byte of its flash is the payload's, and erased where that has none; the tally
counts the pages below the bootloader and no recovery; the indicator is off, everything the chip
said has been read, and both sides have the pointer at the bootloader. -/
theorem program_whole_chip (payload : Image) (device : Device) (mcu : Microcontroller Bench) (host : Host)
    (discovery : Discovery) (b : Bootloader) (hdevice : device ∈ Device.registry)
    (hsession : mcu.session = some host) (hdiscovery : mcu.discovery = some discovery)
    (hselected : discovery.selected = device.id)
    (hattached : mcu.station.Attaches b) (hidle : b.stage = .idle) (hheard : b.output = [])
    (hbuffer : b.buffer.size = b.firmware.pageSize) (hawake : b.firmware.silent = false)
    (hrules : b.firmware.rules = []) (hfillers : b.firmware.fillers ≤ 4)
    (hpageSize : b.firmware.pageSize = device.geometry.flashPageSize.toNat)
    (hroom : (device.bootAddress b.firmware.fuseHigh).toNat ≤ b.flash.size)
    (hsize : payload.size ≤ device.geometry.flashSize.toNat)
    (hbelow : ∀ i, (device.bootAddress b.firmware.fuseHigh).toNat ≤ i → payload.getD i erased = erased) :
    let boot := device.bootAddress b.firmware.fuseHigh
    let image := payload.pad device.geometry.flashSize.toNat
    let pages := pageAddresses 0 boot device.geometry.flashPageSize
    let blank addr := isBlank (image.page addr device.geometry.flashPageSize)
    let run := program payload mcu
    run.1 = some (.complete
      { written := pages.countP fun addr => !blank addr
        skipped := pages.countP blank
        resyncs := 0
        mode := if b.firmware.refusesBlocks && pages.any fun addr => !blank addr then .slow else .fast
        exitFailure := none }) ∧
      ∃ b' host', run.2.station.Attaches b' ∧ run.2.session = some host' ∧
        b'.flash.size = b.flash.size ∧ (∀ i, i < b.flash.size → b'.flash.byteAt i = image.getD i erased) ∧
        b'.led = false ∧ host'.led = false ∧ b'.output = [] ∧ host'.pointer? = some boot ∧
          b'.addr = boot.toNat := by
  intro boot image pages blank run
  have hlayout := Device.layout_of_mem_registry hdevice b.firmware.fuseHigh
  have hrest : b.AtRest := ⟨hidle, hheard, Firmware.tame_of_rules_eq_nil hawake hfillers hrules, hbuffer⟩
  have hlength : ¬image.length32 < boot := by
    rw [Image.length32_pad hsize, UInt32.not_lt, UInt32.le_iff_toNat_le]
    exact hlayout.inside
  have hblank : ∀ i, boot.toNat ≤ i → image.getD i erased = erased := by
    intro i hi
    rw [Image.getD_pad, hbelow i hi]
  let s : Session Bench := ⟨mcu.station, host, mcu.journal⟩
  have hcarries : Bench.wire.Carries s.link b := hattached
  have hchip : Session.Yields (Session.programChip image device.id ⟨mcu.config.maxRetries⟩) s _ :=
    Session.programChip_flawless (fun _ hreports => hreports) hrules hrest hcarries hlayout hpageSize hroom
      (Session.refusal?_eq_none_iff_counted.mpr ⟨hlength, fun i hi _ => hblank i hi⟩)
  obtain ⟨tally, b', hpass, hflawless, hbyteAt⟩ := hchip
  have hfits : ¬payload.length32 > device.geometry.flashSize := by
    rw [gt_iff_lt, UInt32.not_lt, UInt32.le_iff_toNat_le]
    exact Nat.le_trans payload.toNat_length32_le hsize
  have hrun : run = _ := program_of_open hsession hdiscovery (hselected ▸ hlayout.lookup) hfits
  rw [hrun]
  refine ⟨?_, b', _, hflawless.carries, rfl, ?_, ?_, hflawless.led, hflawless.dark, hflawless.rest.heard,
    hflawless.pointer, hflawless.addr⟩
  · rw [hpass, hflawless.tally, Plan.modeAfter, b.firmware_wiped]
    rfl
  · rw [hflawless.confined.size, Bootloader.size_flash_wiped]
  · intro i _
    rw [hbyteAt]
    split
    · rfl
    · next hi => exact (hblank i (Nat.le_of_not_lt hi)).symm

/-- A chip as another pass may have left it: written all over, probed, its pointer in the middle of
a page. This one refuses blocks. -/
def leftover : Bootloader :=
  { Bootloader.start ⟨128, [], [114], 0xd8, 0, false, true, 4,
    []⟩ (.filled 32768 0x55) with addr := 77, probed := true }

/-- A session that is open on it. -/
def onLeftover : Microcontroller Bench :=
  { new .empty ⟨.attached (.start (.device leftover) []), ⟨[]⟩, []⟩ with
    session := some .initial
    discovery := some ⟨[], [114], 114⟩ }

theorem program_whole_chip_leftover :
    let run := program (.ofBytes ⟨#[0x0c, 0x94]⟩) onLeftover
    (∃ tally, run.1 = some (.complete tally) ∧ tally.resyncs = 0) ∧
      ∃ b', run.2.station.Attaches b' ∧ b'.flash.byteAt 1 = 0x94 ∧ b'.flash.byteAt 2 = erased ∧
        b'.addr = 0x7000 := by
  have hboot : (Device.atmega32.bootAddress leftover.firmware.fuseHigh).toNat = 0x7000 := by decide
  have hflash : leftover.flash.size = 32768 := Memory.size_filled 32768 0x55
  have hbelow : ∀ i, (Device.atmega32.bootAddress leftover.firmware.fuseHigh).toNat ≤ i →
      (Image.ofBytes ⟨#[0x0c, 0x94]⟩).getD i erased = erased := by
    intro i hi
    rw [hboot] at hi
    exact Image.getD_of_size_le (Nat.le_trans (by decide) hi) erased
  obtain ⟨hpass, b', host', hattached, -, -, hbytes, -, -, -, -, haddr⟩ :=
    program_whole_chip (.ofBytes ⟨#[0x0c, 0x94]⟩) Device.atmega32 onLeftover .initial
      ⟨[], [114], 114⟩ leftover (by decide) rfl rfl rfl
      ⟨0, 0, rfl⟩ rfl rfl (Memory.size_filled 128 erased) rfl rfl (by decide) (by decide) (by omega)
      (by decide) hbelow
  refine ⟨⟨_, hpass, rfl⟩, b', hattached, ?_, ?_, haddr.trans hboot⟩
  · rw [hbytes 1 (by omega), Image.getD_pad]
    rfl
  · rw [hbytes 2 (by omega), Image.getD_pad]
    rfl

end Microcontroller

end Bootflash
