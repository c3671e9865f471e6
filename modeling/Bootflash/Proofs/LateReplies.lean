import Bootflash.Proofs.DelayedPage
import Bootflash.Proofs.WholeChip

namespace Bootflash

namespace Plan

variable {plan : Plan} {setting : Setting} {n : Nat} {cursor : PageCursor} {probed : Bool}
  {mode : WriteMode} {b : Bootloader}

/-- A plan for an erased range of a device that answers everything as it should. -/
structure Fresh (plan : Plan) (setting : Setting) : Prop extends plan.Sound where
  low : plan.stop.toNat ≤ 0x1ffff
  erased : ∀ i, plan.start.toNat ≤ i → i < plan.stop.toNat → plan.device.flash.byteAt i = Bootflash.erased
  refuses : plan.device.firmware.refusesBlocks = setting.refuses
  rules : plan.device.firmware.rules = []

/-- Nothing but the range up to `upTo` has changed, and that holds the image. -/
structure Laid (plan : Plan) (upTo : Nat) (b : Bootloader) : Prop where
  confined : plan.device.Confined plan.start.toNat upTo b
  holds : ∀ i, plan.start.toNat ≤ i → i < upTo → b.flash.byteAt i = plan.image.getD i Bootflash.erased

/-- Everything up to the cursor is laid, and the device is ready for the page under it. -/
structure Onward (plan : Plan) (setting : Setting) (cursor : PageCursor) (probed : Bool)
    (mode : WriteMode) (b : Bootloader) : Prop extends plan.Laid cursor.current.toNat b where
  rest : b.AtRest
  addr : b.addr = cursor.current.toNat
  mode : mode = .slow → setting.refuses = true
  probed : probed = true → setting.refuses = false

/-- What dealing with the page under the cursor amounts to. -/
def job (plan : Plan) (setting : Setting) (cursor : PageCursor) (probed : Bool) : PageJob where
  setting := setting
  cursor := cursor
  page := plan.image.page cursor.current cursor.pageSize
  probed := probed
  Invariant := fun b => plan.device.Confined plan.start.toNat cursor.next.toNat b ∧
    ∀ i, plan.start.toNat ≤ i → i < cursor.current.toNat →
      b.flash.byteAt i = plan.image.getD i Bootflash.erased

theorem Fresh.onPage (h : plan.Fresh setting) (hat : plan.At n cursor) (hn : n < plan.total)
    (hfirmware : b.firmware = plan.device.firmware)
    (hsize : b.flash.size = plan.device.flash.size) : cursor.OnPage b :=
  h.toSound.onPage hn hat.current hat.pageSize
    (h.reachable_page h.low (Nat.le_of_lt hn) hat.current) hfirmware hsize

theorem Fresh.length_page (h : plan.Fresh setting) (hat : plan.At n cursor) (hn : n < plan.total) :
    (plan.image.page cursor.current cursor.pageSize).length = cursor.pageSize.toNat := by
  have hle := (hat.bounds h.span hn).2
  rw [hat.pageSize] at hle ⊢
  exact h.toSound.length_page hle

theorem Fresh.sound_job (h : plan.Fresh setting) (hat : plan.At n cursor) (hn : n < plan.total)
    (probed : Bool) :
    (plan.job setting cursor probed).Sound where
  length := h.length_page hat hn
  even := (h.onPage hat hn rfl rfl).even
  onPage := fun hkeeps => h.onPage hat hn hkeeps.1.firmware hkeeps.1.flash.size
  refuses := fun hkeeps => by rw [hkeeps.1.firmware]; exact h.refuses
  rules := fun hkeeps => by rw [hkeeps.1.firmware]; exact h.rules
  frame := by
    rintro b b' ⟨hconfined, hholds⟩ hsame
    have hnext := (h.onPage hat hn rfl rfl).next
    have hle := (hat.bounds h.span hn).1
    refine ⟨hconfined.trans (hsame.widen (.inr ⟨hle, Nat.le_of_eq hnext.symm⟩)), fun i hlow hhigh => ?_⟩
    rw [hsame.flash.byteAt i (.inl hhigh)]
    exact hholds i hlow hhigh

/-- Nothing before the cursor has touched the page under it. -/
theorem Onward.pointerAtPage (h : plan.Onward setting cursor probed mode b)
    (hfresh : plan.Fresh setting) (hat : plan.At n cursor)
    (hn : n < plan.total) : (plan.job setting cursor probed).PointerAtPage mode b := by
  have hnext := (hfresh.onPage hat hn rfl rfl).next
  have hle := hat.bounds hfresh.span hn
  refine ⟨⟨h.rest, ⟨h.confined.widen (.inr ⟨Nat.le_refl _, by omega⟩), h.holds⟩, fun _ => ?_,
    h.mode, h.probed⟩, h.addr⟩
  rw [Bootloader.PageErased, Memory.ErasedAt, Memory.slice_eq_iff (by simp [job])]
  intro i hi
  change i < cursor.pageSize.toNat at hi
  change b.flash.byteAt (cursor.current.toNat + i) = _
  rw [h.confined.flash.byteAt _ (.inr (by omega)), hfresh.erased _ (by omega) (by omega)]
  exact (List.getD_replicate _ hi).symm

/-- A page that is dealt with is laid on top of the others. -/
theorem Onward.of_done (h : (plan.job setting cursor probed).Done mode b)
    (hfresh : plan.Fresh setting) (hat : plan.At n cursor)
    (hn : n < plan.total) : plan.Onward setting cursor.advance probed mode b := by
  have hnext := (hfresh.onPage hat hn rfl rfl).next
  have hle := hat.bounds hfresh.span hn
  refine ⟨⟨h.keeps.1, fun i hlow hhigh => ?_⟩, h.rest, h.addr, h.mode, h.probed⟩
  change i < cursor.next.toNat at hhigh
  by_cases hi : i < cursor.current.toNat
  · exact h.keeps.2 i hlow hi
  · obtain ⟨j, rfl⟩ := Nat.exists_eq_add_of_le (Nat.le_of_not_lt hi)
    have hj : j < cursor.pageSize.toNat := by omega
    have hbyte := (Memory.slice_eq_iff (hfresh.length_page hat hn)).mp h.holds j hj
    rw [hat.pageSize] at hle hj
    rw [← hfresh.getD_page hle.2 hj, Plan.page, ← hat.pageSize]
    exact hbyte

open Session (Delayed DelayedStep)

theorem Fresh.programPages (h : plan.Fresh setting) (retries total : Nat) {left : Nat} {state : PassState}
    (hat : plan.At n cursor) (hleft : n + left = plan.total) :
    DelayedStep setting (plan.Onward setting cursor state.probed)
      (Session.programPages plan.image retries total left cursor state)
      fun result _ b => result.2 = none → b.AtRest ∧ plan.Laid plan.stop.toNat b := by
  induction left generalizing n cursor state with
  | zero =>
    refine DelayedStep.pure fun mode b hb _ => ⟨hb.rest, ?_⟩
    have hstop : plan.stop.toNat = cursor.current.toNat := by
      rw [h.stop_eq, hat.current, ← hleft, Nat.add_zero]
    rw [hstop]
    exact hb.toLaid
  | succ left ih =>
    have hn : n < plan.total := by omega
    have hsettle := (h.sound_job hat hn state.probed).settlePage (.forPage retries) state
    rw [Session.programPages]
    refine DelayedStep.bind (hsettle.given fun _ _ hb => hb.pointerAtPage h hat hn) ?_
    rintro ⟨(failure | handling), allowance, state'⟩
    · refine DelayedStep.pure fun _ _ _ hcomplete => ?_
      cases hcomplete
    · refine DelayedStep.bind DelayedStep.record fun _ => ?_
      refine (ih (hat.advance h.span hn) (by omega)).given fun _ _ hb => ?_
      have hdone := Onward.of_done (hb handling rfl) h hat hn
      cases handling <;> exact hdone

end Plan

namespace Session

section steady

variable {setting : Setting} {F : Bootloader → Prop} (hF : ∀ {b b'}, F b → b.Confined 0 0 b' → F b')

/-- The device is at rest, and `F` holds of it, where `F` is about the flash. -/
def Resting (F : Bootloader → Prop) (_ : WriteMode) (b : Bootloader) : Prop :=
  b.AtRest ∧ F b

include hF

theorem Resting.ran {mode : WriteMode} {b : Bootloader} {op : Opcode} {arguments : List UInt8}
    (h : Resting F mode b) (hflash : (b.ran op arguments).flash = b.flash) :
    Resting F mode (b.ran op arguments) :=
  ⟨h.1.ran _ _, hF h.2 (Bootloader.confined_ran h.1.buffer hflash)⟩

theorem Delayed.lightLed : Delayed setting (Resting F) lightLed (fun _ => Resting F) (Resting F) := by
  refine bind (acknowledged .ledOn id (by decide) rfl (fun _ => rfl) (fun _ => rfl) fun _ _ h =>
    ⟨h.1, h.ran hF rfl⟩) fun _ => ?_
  exact update fun _ => rfl

theorem Delayed.dimLed : Delayed setting (Resting F) dimLed (fun _ => Resting F) (Resting F) := by
  refine bind (acknowledged .ledOff id (by decide) rfl (fun _ => rfl) (fun _ => rfl) fun _ _ h =>
    ⟨h.1, h.ran hF rfl⟩) fun _ => ?_
  exact update fun _ => rfl

theorem Delayed.requireAutoIncrement :
    Delayed setting (Resting F) requireAutoIncrement (fun _ => Resting F) (Resting F) := by
  refine bind (tell .autoIncrement id (by decide) rfl (fun _ => rfl) fun _ _ h =>
    ⟨h.1, fun _ => (by decide : reject ∉ [yes]), h.ran hF rfl⟩) fun _ => tryCatch expect fun failure => ?_
  split <;> exact throw fun _ _ h => h

theorem Delayed.beginPass {start : UInt32} :
    Delayed setting (Resting F) (beginPass start)
      (fun _ mode b => Resting F mode b ∧ b.addr = start.toNat) (Resting F) := by
  refine bind (lightLed hF) fun _ => bind (requireAutoIncrement hF) fun _ => ?_
  have henter : Delayed setting (Resting F) enterProgramming (fun _ => Resting F) (Resting F) :=
    acknowledged .enterProgramming id (by decide) rfl (fun _ => rfl) (fun _ => rfl) fun _ _ h =>
      ⟨h.1, h.ran hF rfl⟩
  refine bind (within henter) fun _ =>
    setAddress (fun _ _ h => h.1) ?_ (fun _ _ h => h.ran hF rfl) fun _ _ h => h
  exact fun _ _ h hreach => ⟨h.ran hF rfl, Bootloader.addr_pointed hreach⟩

theorem DelayedStep.endPass {tally : Tally} :
    DelayedStep setting (Resting F) (endPass tally) fun _ => Resting F := by
  have hkeeps : ∀ {operation : SessionM (Faulty Bootloader) Unit},
      Delayed setting (Resting F) operation (fun _ => Resting F) (Resting F) →
      DelayedStep setting (Resting F) (Session.failureOf operation) fun _ => Resting F := by
    intro operation h
    refine (failureOf h).yielding ?_
    rintro (- | failure) _ _ h <;> exact h
  have hleave : Delayed setting (Resting F) leaveProgramming (fun _ => Resting F) (Resting F) :=
    Delayed.acknowledged .leaveProgramming id (by decide) rfl (fun _ => rfl) (fun _ => rfl)
      fun _ _ h => ⟨h.1, h.ran hF rfl⟩
  refine bind host? fun host => bind (record.given fun _ _ h => h.1) fun _ => ?_
  refine bind (hkeeps (Delayed.dimLed hF)) fun led => ?_
  cases led with
  | none =>
    refine bind (hkeeps hleave) fun leave => ?_
    cases leave with
    | none => exact pure fun _ _ h => h
    | some failure => exact bind record fun _ => pure fun _ _ h => h
  | some failure =>
    refine bind record fun _ => bind (hkeeps hleave) fun leave => ?_
    cases leave with
    | none => exact pure fun _ _ h => h
    | some failure => exact bind record fun _ => pure fun _ _ h => h

end steady

/-- Over an erased range, a pass that ends well leaves the image in the flash, unless a refusal was missed. -/
theorem DelayedStep.programRange {setting : Setting} {plan : Plan} {device : Device} {options : Options}
    (h : plan.Fresh setting)
    (hcursor : PageCursor.spanning plan.start plan.stop device.geometry.flashPageSize =
      .ok ⟨plan.start, plan.stop, plan.pageSize⟩) (himage : ¬plan.image.length32 < plan.stop) :
    DelayedStep setting (Resting fun b => plan.device.Confined 0 0 b)
      (programRange plan.image plan.start plan.stop device options)
      fun pass _ b => pass.failure? = none → plan.Laid plan.stop.toNat b := by
  have hbegin : Delayed setting (Resting fun b => plan.device.Confined 0 0 b) (beginPass plan.start) _ _ :=
    Delayed.beginPass fun hF hconfined => hF.trans hconfined
  have hat : plan.At 0 ⟨plan.start, plan.stop, plan.pageSize⟩ := plan.at_start
  unfold Session.programRange
  rw [hcursor]
  simp only [if_neg himage]
  refine bind record fun _ => bind (setMode fun _ _ hb => hb) fun _ => bind (run hbegin) ?_
  rintro (failure | ⟨⟩)
  · exact pure fun _ _ _ => nofun
  rw [h.pagesFrom_eq]
  have hready : DelayedStep setting (fun mode b => Resting (fun b => plan.device.Confined 0 0 b) mode b ∧
      b.addr = plan.start.toNat) (Session.setMode .fast)
      fun _ => plan.Onward setting ⟨plan.start, plan.stop, plan.pageSize⟩ false := by
    refine setMode ?_
    rintro _ b ⟨⟨hrest, hconfined⟩, haddr⟩
    exact ⟨⟨hconfined.widen (.inl (Nat.le_refl 0)),
      fun i hlow hhigh => absurd hlow (Nat.not_le_of_lt hhigh)⟩, hrest, haddr, nofun, nofun⟩
  have hpages : DelayedStep setting
      (plan.Onward setting ⟨plan.start, plan.stop, plan.pageSize⟩ PassState.start.probed) _ _ :=
    h.programPages options.retries plan.total hat (Nat.zero_add plan.total)
  refine bind hready fun _ => bind hpages ?_
  rintro ⟨state, - | failure⟩
  · have hend : DelayedStep setting (Resting (plan.Laid plan.stop.toNat))
        (Session.endPass state.tally) _ := endPass ?_
    · exact bind (hend.given fun _ _ hb => hb rfl) fun tally => pure fun _ _ hb _ => hb.2
    · intro b b' hlaid hconfined
      refine ⟨hlaid.confined.trans (hconfined.widen (.inl (Nat.le_refl 0))), ?_⟩
      rw [hconfined.flash.eq_of_le (Nat.le_refl 0)]
      exact hlaid.holds
  · exact pure fun _ _ _ => nofun

-- The answer to the first block is a read late: the page is sent twice, and nothing else comes of it.
set_option maxRecDepth 10000 in
example :
    let link : Faulty Bootloader :=
      .start (.start (.tiny []) (.filled 8 erased)) [⟨.read, 4, 1, none, false, []⟩]
    let run := Session.programRange (.ofBytes ⟨#[1, 2, 0xff, 0xff, 3, 4]⟩) 0 6 .tiny .none (.start link)
    run.1.failure? = none ∧ run.1.tally?.map Tally.resyncs = some 1 ∧
      run.2.link.link.flash.slice 0 8 = [1, 2, 0xff, 0xff, 3, 4, 0xff, 0xff] := by
  decide +kernel

variable {setting : Setting} {s : Session (Faulty Bootloader)}

theorem run_transmit {ω : Type} [Link ω] {s : Session ω} {link : ω} {bytes : List UInt8}
    (change : Host → Host) (hwrite : Link.write bytes s.link = (none, link)) :
    (transmit change bytes).run s =
      (.ok (), ⟨link, change s.host, s.journal.push ⟨s.host, change s.host, .wrote bytes none⟩⟩) := by
  change (check (Link.write bytes s.link).1).run ⟨(Link.write bytes s.link).2, change s.host,
    s.journal.push ⟨s.host, change s.host, .wrote bytes (Link.write bytes s.link).1⟩⟩ = _
  rw [hwrite]
  rfl

theorem run_receive {ω : Type} [Link ω] {s : Session ω} {link : ω} {limit : Nat} {bytes : List UInt8}
    (hread : Link.read limit s.link = (⟨bytes, none⟩, link)) :
    (receive limit).run s =
      (.ok bytes, ⟨link, s.host, s.journal.push ⟨s.host, s.host, .read limit ⟨bytes, none⟩⟩⟩) := by
  have hstep : Session.read limit s = (⟨bytes, none⟩,
      ⟨link, s.host, s.journal.push ⟨s.host, s.host, .read limit ⟨bytes, none⟩⟩⟩) := by
    change ((Link.read limit s.link).1, (⟨(Link.read limit s.link).2, s.host,
      s.journal.push ⟨s.host, s.host, .read limit (Link.read limit s.link).1⟩⟩ : Session ω)) = _
    rw [hread]
  have hreceive : (receive limit).run s = ((check (Session.read limit s).1.failure >>= fun _ =>
    Pure.pure (Session.read limit s).1.bytes : SessionM ω (List UInt8))).run (Session.read limit s).2 := rfl
  rw [hreceive, hstep]
  rfl

/-- A fuse is read right or not at all while the device has nothing else to say. -/
theorem fuseHigh_of_delays (hdelays : ∀ fault ∈ s.link.faults, fault.Delays) (hrest : s.link.link.AtRest)
    (hjournal : setting.past ≤ s.journal.size) :
    Ends fuseHigh s (fun fuse after => fuse = s.link.link.firmware.fuseHigh ∧
      Under setting (fun _ b => b = s.link.link.ran .readFuseHigh []) after) (fun _ _ => True) := by
  let asked := s.link.link.ran .readFuseHigh []
  let fuse := s.link.link.firmware.fuseHigh
  have hasked : asked.AtRest := hrest.ran _ _
  have hreceive : s.link.link.receive [Opcode.readFuseHigh.byte] = { asked with output := [fuse] } :=
    hrest.receive_command .readFuseHigh (by decide) rfl
  have hwrite : Link.write [Opcode.readFuseHigh.byte] s.link = _ := Faulty.write_of_delays hdelays _
  rw [hreceive] at hwrite
  let link : Faulty Bootloader :=
    ⟨{ asked with output := [fuse] }, s.link.faults, s.link.writes + 1, s.link.reads⟩
  let sent : Session (Faulty Bootloader) :=
    ⟨link, s.host, s.journal.push ⟨s.host, s.host, .wrote [Opcode.readFuseHigh.byte] none⟩⟩
  have hbyte : Ends receiveByte sent (fun byte after => byte = none ∨
      (byte = some fuse ∧ Under setting (fun _ b => b = asked) after)) (fun _ _ => True) := by
    rcases Faulty.read_of_delays (f := link) hdelays 1 with hread | hread
    · refine Ends.step [fuse] _ (run_receive hread)
        (Ends.pure (.inr ⟨rfl, .inr ⟨⟨?_, hdelays, fun _ => List.not_mem_nil⟩, ?_⟩⟩))
      · simp only [sent, Journal.size_push]
        omega
      · exact Bootloader.with_output_nil hasked.heard
    · exact Ends.step [] _ (run_receive hread) (Ends.pure (.inl rfl))
  refine Ends.step () sent (run_transmit id hwrite) (Ends.bind hbyte ?_)
  rintro _ after (rfl | ⟨rfl, hunder⟩)
  · exact Ends.throw trivial
  · exact Ends.pure ⟨rfl, hunder⟩

/-- The chip is erased if all the commands for that are confirmed. -/
theorem Delayed.eraseChip {c : Bootloader} (hrest : c.AtRest) :
    Delayed setting (fun _ b => b = c) eraseChip
      (fun _ _ b => b = ((c.ran .ledOn [0]).ran .eraseChip []).ran .ledOff [0]) fun _ _ => True := by
  have hexactly : ∀ {c : Bootloader} (op : Opcode) {name : String} {arguments : List UInt8},
      c.AtRest → op ≠ .writeBlock →
      arguments.length = op.arity → (∀ b : Bootloader, b.answer (.command op arguments) = [ack]) →
      Delayed setting (fun _ b => b = c) (exec name (op.byte :: arguments))
        (fun _ _ b => b = c.ran op arguments) fun _ _ => True := by
    intro c op name arguments hrest hop harity hanswer
    refine (acknowledged op id hop harity hanswer (fun _ => rfl) ?_).failing fun _ _ _ => trivial
    rintro _ _ rfl
    exact ⟨hrest, rfl⟩
  have hlit := hrest.ran .ledOn [0]
  have herased := hlit.ran .eraseChip []
  refine bind (bind (hexactly .ledOn hrest (by decide) rfl fun _ => rfl) fun _ =>
    update fun _ => rfl) fun _ => ?_
  refine bind (withTimeout (hexactly .eraseChip hlit (by decide) rfl fun _ => rfl)) fun _ => ?_
  exact bind (hexactly .ledOff herased (by decide) rfl fun _ => rfl) fun _ => update fun _ => rfl

theorem prepareChip_of_delays {image : Image} {device : Device}
    (hdelays : ∀ fault ∈ s.link.faults, fault.Delays) (hrest : s.link.link.AtRest)
    (hjournal : setting.past ≤ s.journal.size) :
    Ends (prepareChip image device) s
      (fun boot after => boot = device.bootAddress s.link.link.firmware.fuseHigh ∧
      Under setting (fun _ b => b = s.link.link.wiped) after) (fun _ _ => True) := by
  have hfuse := fuseHigh_of_delays hdelays hrest hjournal
  refine Ends.bind (Ends.within (hfuse.failing fun _ _ _ => trivial)) ?_
  rintro _ after ⟨rfl, hunder⟩
  have herase : Delayed setting (fun _ b => b = s.link.link.ran .readFuseHigh [])
      (within "could not erase flash" eraseChip)
      (fun _ _ b => b = s.link.link.wiped) fun _ _ => True :=
      Delayed.within (Delayed.eraseChip (hrest.ran _ _))
  let boot := device.bootAddress s.link.link.firmware.fuseHigh
  let noted := (note (.bootloaderAt device.name boot) after).2
  have hnoted : Under setting (fun _ b => b = s.link.link.ran .readFuseHigh []) noted :=
    hunder.push rfl rfl rfl
  refine Ends.step () noted rfl ?_
  change Ends (check (refusal? image boot) >>= _) _ _ _
  cases refusal? image boot with
  | none =>
    refine Ends.step () noted rfl (Ends.bind ((herase noted hnoted).failing fun _ _ _ => trivial) ?_)
    exact fun _ _ hwiped => Ends.pure ⟨rfl, hwiped⟩
  | some failure => exact trivial

/-- Programming a chip comes to a pass over everything below its bootloader, once it is erased. -/
theorem programChip_of_delays {image : Image} {device : Device} {options : Options}
    (hdelays : ∀ fault ∈ s.link.faults, fault.Delays) (hrest : s.link.link.AtRest)
    (hrules : s.link.link.firmware.rules = []) (hlayout : device.Layout s.link.link.firmware.fuseHigh)
    (hpageSize : s.link.link.firmware.pageSize = device.geometry.flashPageSize.toNat)
    (hsize : s.link.link.flash.size = device.geometry.flashSize.toNat) :
    let boot := device.bootAddress s.link.link.firmware.fuseHigh
    Yields (programChip image device.id options) s fun pass after => pass.failure? = none →
      ¬image.length32 < boot ∧ Under ⟨s.journal.size, s.link.link.firmware.refusesBlocks⟩
        (fun _ b => (⟨⟨0, boot, device.geometry.flashPageSize⟩, image, s.link.link.wiped⟩ :
          Plan).Laid boot.toNat b) after := by
  intro boot
  let setting : Setting := ⟨s.journal.size, s.link.link.firmware.refusesBlocks⟩
  let plan : Plan := ⟨⟨0, boot, device.geometry.flashPageSize⟩, image, s.link.link.wiped⟩
  have hprepare : Ends (prepareChip image device) s (fun boot' after => boot' = boot ∧
      Under setting (fun _ b => b = s.link.link.wiped) after) (fun _ _ => True) :=
    prepareChip_of_delays hdelays hrest (Nat.le_refl _)
  unfold programChip
  rw [hlayout.lookup]
  refine Yields.bind hprepare ?_
  rintro (failure | _) ready hready
  · intro hcomplete
    cases hcomplete
  obtain ⟨rfl, hunder⟩ := hready
  by_cases hlength : image.length32 < boot
  · change Yields (programRange image 0 boot device options) ready _
    unfold programRange
    rw [hlayout.spanning]
    simp only [if_pos hlength]
    intro hcomplete
    cases hcomplete
  have hsound : plan.Sound := hlayout.sound hpageSize (hsize ▸ hlayout.inside) hlength
  have hfresh : plan.Fresh setting := by
    refine ⟨hsound, hlayout.low, fun i _ _ => Bootloader.byteAt_flash_wiped _ i, ?_, ?_⟩
    · exact congrArg Firmware.refusesBlocks (Bootloader.firmware_wiped _)
    · exact (congrArg Firmware.rules (Bootloader.firmware_wiped _)).trans hrules
  have hrange : DelayedStep setting _ (programRange plan.image plan.start plan.stop device options) _ :=
    DelayedStep.programRange hfresh hlayout.spanning hlength
  have hready : Under setting (Resting fun b => plan.device.Confined 0 0 b) ready := by
    refine hunder.mono ?_
    rintro _ _ rfl
    exact ⟨hrest.wiped, .refl 0 0 _⟩
  refine (hrange ready hready).mono fun pass after hafter hcomplete => ⟨hlength, ?_⟩
  exact hafter.mono fun _ _ hlaid => hlaid hcomplete

/-- Late replies are harmless, unless the device refuses blocks and a refusal is missed: if a whole
chip is programmed without a failure, whichever reads came back empty on the way, the flash below
the bootloader is the image and the rest is erased. -/
theorem programChip_late_replies (image : Image) (device : Device) (options : Options)
    (s : Session (Faulty Bootloader)) (hdevice : device ∈ Device.registry)
    (hdelays : ∀ fault ∈ s.link.faults, fault.Delays)
    (hidle : s.link.link.stage = .idle) (hheard : s.link.link.output = [])
    (hbuffer : s.link.link.buffer.size = s.link.link.firmware.pageSize)
    (hawake : s.link.link.firmware.silent = false) (hrules : s.link.link.firmware.rules = [])
    (hfillers : s.link.link.firmware.fillers ≤ 4)
    (hpageSize : s.link.link.firmware.pageSize = device.geometry.flashPageSize.toNat)
    (hsize : s.link.link.flash.size = device.geometry.flashSize.toNat)
    (hcomplete : (programChip image device.id options s).1.failure? = none)
    (hrefusals : s.link.link.firmware.refusesBlocks = true →
      ¬MissesRefusal ((programChip image device.id options s).2.journal.toList.drop s.journal.size)) :
    let boot := device.bootAddress s.link.link.firmware.fuseHigh
    let flash := (programChip image device.id options s).2.link.link.flash
    flash.size = s.link.link.flash.size ∧ (∀ i, i < boot.toNat → image[i]? = some (flash.byteAt i)) ∧
      ∀ i, boot.toNat ≤ i → flash.byteAt i = erased := by
  intro boot flash
  have hlayout := Device.layout_of_mem_registry hdevice s.link.link.firmware.fuseHigh
  have hrest : s.link.link.AtRest :=
    ⟨hidle, hheard, Firmware.tame_of_rules_eq_nil hawake hfillers hrules, hbuffer⟩
  have hchip : Yields (programChip image device.id options) s _ :=
    programChip_of_delays hdelays hrest hrules hlayout hpageSize hsize
  obtain ⟨hlength, hmissed | ⟨-, hlaid⟩⟩ := hchip hcomplete
  · exact absurd hmissed.2 (hrefusals hmissed.1)
  refine ⟨?_, fun i hi => ?_, fun i hi => ?_⟩
  · exact hlaid.confined.flash.size.trans (Bootloader.size_flash_wiped _)
  · have hbyte : flash.byteAt i = image.getD i erased := hlaid.holds i (Nat.zero_le i) hi
    have hfits : i < image.size := Nat.lt_of_lt_of_le hi (Image.le_size_of_not_lt hlength)
    rw [hbyte, Image.getD, getElem?_pos image i hfits]
    rfl
  · exact (hlaid.confined.flash.byteAt i (.inr hi)).trans (Bootloader.byteAt_flash_wiped _ i)

end Session

namespace Session

/-- A session with a chip that is written all over, on a link on which one reply comes a read late. -/
def dawdling (refuses : Bool) (late : Nat) : Session (Faulty Bootloader) :=
  let firmware : Firmware := ⟨128, "AVRBOOT".toUTF8.toList, [114], 0, 0, false, refuses, 4, []⟩
  .start (.start (.start firmware (.filled 32768 0x55)) [⟨.read, late, 1, none, false, []⟩])

/-- An image for the whole chip that begins with these bytes, put there in such a session. -/
def dawdlingRun (bytes : ByteArray) (refuses : Bool) (late : Nat) : Pass × Session (Faulty Bootloader) :=
  programChip (.pad (.ofBytes bytes) 32768) Device.atmega32.id .none (dawdling refuses late)

/-- The answer to the first announcement is late and taken for that to the page, which is sent
again; or the chip refuses blocks, which the host hears, and the acknowledgement of an address is
late, so that it is told once more. -/
theorem programChip_late_replies_dawdling :
    ((dawdlingRun ⟨#[0x0c, 0x94]⟩ false 8).1.tally?.map Tally.resyncs = some 1 ∧
      (dawdlingRun ⟨#[0x0c, 0x94]⟩ false 8).2.link.link.flash.byteAt 1 = 0x94 ∧
      (dawdlingRun ⟨#[0x0c, 0x94]⟩ false 8).2.link.link.flash.byteAt 0x7000 = erased) ∧
    ((dawdlingRun ⟨#[0x0c, 0x94]⟩ true 9).1.tally?.map Tally.resyncs = some 1 ∧
      (dawdlingRun ⟨#[0x0c, 0x94]⟩ true 9).2.link.link.flash.byteAt 1 = 0x94 ∧
      (dawdlingRun ⟨#[0x0c, 0x94]⟩ true 9).2.link.link.flash.byteAt 0x7000 = erased) := by
  have hharmless : ∀ refuses late, (dawdlingRun ⟨#[0x0c, 0x94]⟩ refuses late).1.failure? = none →
      (refuses = true → ¬MissesRefusal
        ((dawdlingRun ⟨#[0x0c, 0x94]⟩ refuses late).2.journal.toList.drop
          (dawdling refuses late).journal.size)) →
      (dawdlingRun ⟨#[0x0c, 0x94]⟩ refuses late).2.link.link.flash.byteAt 1 = 0x94 ∧
        (dawdlingRun ⟨#[0x0c, 0x94]⟩ refuses late).2.link.link.flash.byteAt 0x7000 = erased := by
    intro refuses late hcomplete hrefusals
    have hdelays : ∀ fault ∈ (dawdling refuses late).link.faults, fault.Delays := by
      intro fault hfault
      rw [List.mem_singleton.mp hfault]
      exact ⟨rfl, rfl, rfl⟩
    obtain ⟨-, hbytes, habove⟩ :=
      programChip_late_replies _ .atmega32 .none (dawdling refuses late) (by decide) hdelays rfl rfl
      rfl rfl rfl (Nat.le_refl 4) rfl rfl hcomplete hrefusals
    have hboot : 1 < (Device.atmega32.bootAddress 0).toNat ∧
        (Device.atmega32.bootAddress 0).toNat ≤ 0x7000 := by decide
    have hpayload : (Image.pad (.ofBytes ⟨#[0x0c, 0x94]⟩) 32768)[1]? = some 0x94 := rfl
    exact ⟨Option.some.inj ((hbytes 1 hboot.1).symm.trans hpayload), habove 0x7000 hboot.2⟩
  have hfast : (dawdlingRun ⟨#[0x0c, 0x94]⟩ false 8).1.failure? = none ∧
      (dawdlingRun ⟨#[0x0c, 0x94]⟩ false 8).1.tally?.map Tally.resyncs = some 1 := by decide +kernel
  have hslow : (dawdlingRun ⟨#[0x0c, 0x94]⟩ true 9).1.failure? = none ∧
      (dawdlingRun ⟨#[0x0c, 0x94]⟩ true 9).1.tally?.map Tally.resyncs = some 1 ∧
      ¬MissesRefusal ((dawdlingRun ⟨#[0x0c, 0x94]⟩ true 9).2.journal.toList.drop
        (dawdling true 9).journal.size) := by
    decide +kernel
  exact ⟨⟨hfast.2, hharmless false 8 hfast.1 fun hrefuses => by cases hrefuses⟩,
    ⟨hslow.2.1, hharmless true 9 hslow.1 fun _ => hslow.2.2⟩⟩

/-- A refusal that is missed is not harmless: the first page is taken for commands, one of which
commits a page further up, and the cycle is complete all the same. -/
theorem programChip_missed_refusal :
    (dawdlingRun ⟨#[0x41, 0x00, 0x40, 0x63, 0x00, 0x6d]⟩ true 8).1.failure? = none ∧
      (Image.pad (.ofBytes ⟨#[0x41, 0x00, 0x40, 0x63, 0x00, 0x6d]⟩) 32768)[0x80]? = some erased ∧
      (dawdlingRun ⟨#[0x41, 0x00, 0x40, 0x63, 0x00, 0x6d]⟩ true 8).2.link.link.flash.byteAt 0x80 = 0 := by
  decide +kernel

end Session

end Bootflash
