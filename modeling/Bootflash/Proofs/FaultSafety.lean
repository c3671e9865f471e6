import Bootflash.Proofs.FaultyWire
import Bootflash.Proofs.Pass

namespace Bootflash

/-- The failures a link can come up with by itself: it names no page, and answers no command. -/
def Failure.FromLink (failure : Failure) : Prop :=
  failure.pageAddr? = none ∧ failure.isCommand = false

theorem Failure.linkSort_fromLink : LinkSort FromLink :=
  ⟨fun _ h => h, fun h => h.2⟩

/-- The page at this address is in the memory as it is in the image, unless it is blank. -/
def Memory.HoldsPage (m : Memory) (image : Image) (pageSize addr : UInt32) : Prop :=
  isBlank (image.page addr pageSize) = false → m.slice addr.toNat pageSize.toNat = image.page addr pageSize

/-- What the flash looks like after a pass over `[start, stop)` that ended with this failure, or
without one. -/
def AccountedFor (image : Image) (start stop pageSize : UInt32)
    (before after : Memory) : Option Failure → Prop
  | none => ∀ addr, IsPage start stop pageSize addr → after.HoldsPage image pageSize addr
  | some failure =>
    match failure.pageAddr? with
    | some addr => IsPage start stop pageSize addr ∧
        (∀ below, IsPage start addr pageSize below → after.HoldsPage image pageSize below) ∧
        ∀ i, addr.toNat + pageSize.toNat ≤ i → after.byteAt i = before.byteAt i
    | none => after = before

/-- A range that is not accepted is refused without a page being named. -/
theorem PageCursor.pageAddr?_of_spanning {start stop pageSize : UInt32} {failure : Failure}
    (h : PageCursor.spanning start stop pageSize = .error failure) : failure.pageAddr? = none := by
  unfold PageCursor.spanning at h
  split at h
  · obtain rfl := Except.error.inj h
    rfl
  · split at h
    · obtain rfl := Except.error.inj h
      rfl
    · cases h

namespace Session

variable {ω : Type} [Link ω] {wire : Wire ω} {host : Host} {b : Bootloader}

/-- A device that ignores every command is given up before anything is sent to it but the first one. -/
theorem Exchange.beginPass_of_silent {start : UInt32} (hidle : b.stage = .idle) (hheard : b.output = [])
    (hsilent : b.firmware.silent = true) :
    Exchange wire (Session.beginPass start) host b (fun _ _ _ => False)
      (fun failure _ b' => failure.pageAddr? = none ∧ b' = b) (fun _ b' => b' = b) := by
  have hreceive : b.receive [Opcode.ledOn.byte, 0] = b := Bootloader.receive_of_silent hidle hsilent _
  have hunlit : Exchange wire (exec "setLED" [Opcode.ledOn.byte, 0]) host b (fun _ _ _ => False)
      (fun failure _ b' => failure.pageAddr? = none ∧ b' = b) (fun _ b' => b' = b) := by
    refine bind (transmit id rfl hreceive) ?_
    rintro - host' b' ⟨hhost, hb⟩
    subst host'
    rw [hreceive] at hb
    subst b'
    refine awaitAck (expect_of_ne (by simp [hheard]) ⟨rfl, ?_⟩ rfl)
    rw [hheard]
    exact Bootloader.with_output_nil hheard
  exact bind (bind hunlit fun _ _ _ hfalse => hfalse.elim) fun _ _ _ (hfalse : False) => hfalse.elim

variable {plan : Plan} {n retries : Nat} {cursor : PageCursor} {state : PassState} {s after : Session ω}

/-- The flash of the device at the far end is accounted for by how the pass ended. -/
def Accounted (wire : Wire ω) (plan : Plan) (pass : Pass) (after : Session ω) : Prop :=
  ∃ b', wire.Carries after.link b' ∧
    plan.device.flash.AgreesOutside plan.start.toNat plan.stop.toNat b'.flash ∧
    AccountedFor plan.image plan.start plan.stop plan.pageSize plan.device.flash b'.flash pass.failure?

/-- A pass that fails before its first page has changed nothing. -/
theorem accounted_of_confined {b' : Bootloader} {pass : Pass} {failure : Failure}
    (hcarries : wire.Carries after.link b') (hconfined : plan.device.Confined 0 0 b')
    (hpass : pass.failure? = some failure) (hfailure : failure.pageAddr? = none) :
    Accounted wire plan pass after := by
  refine ⟨b', hcarries, hconfined.flash.widen (.inl (Nat.le_refl 0)), ?_⟩
  simp only [hpass, AccountedFor, hfailure]
  exact hconfined.flash.eq_of_le (Nat.le_refl 0)

/-- A page that was given up is the one the pass reports. -/
theorem Progress.accounted {tally : Tally} {failure : Failure} (h : Progress wire plan n cursor state s b)
    (hsound : plan.Sound) (hn : n < plan.total)
    (hcontained : Contained wire (task plan retries cursor state s b) after) :
    Accounted wire plan (.stopped tally (.pageWrite cursor.current failure)) after := by
  obtain ⟨b', hcarries, hsame⟩ := hcontained
  have hsame : b.SamePages cursor b' := hsame
  have hcurrent := h.current
  have hle := hsound.le_stop hn
  rw [Bootloader.SamePages, h.pageSize] at hsame
  have hbefore := h.confined.flash
  refine ⟨b', hcarries, ?_, ?_, ?_, ?_⟩
  · exact (hbefore.widen (.inr ⟨Nat.le_refl _, by omega⟩)).trans
      (hsame.flash.widen (.inr ⟨by omega, by omega⟩))
  · have hmem : cursor.current ∈ firstPages plan.start plan.pageSize plan.total :=
      (hsound.mem_firstPages (Nat.le_refl _)).mpr ⟨n, hn, hcurrent⟩
    exact hsound.mem_pageAddresses.mp hmem
  · intro below hbelow hblank
    have hmem := (hsound.mem_firstPages_iff_isPage (Nat.le_of_lt hn) hcurrent).mpr hbelow
    rw [hsame.flash.slice_eq (.inl (h.below hsound (Nat.le_of_lt hn) hmem))]
    exact h.holds below hmem hblank
  · intro i hi
    rw [hsame.flash.byteAt i (.inr hi), hbefore.byteAt i (.inr (by omega))]

/-- A pass that is through with its pages has every one of them in the flash. -/
theorem PassEnd.accounted {tally tally' : Tally} (hend : PassEnd wire tally s b tally' after)
    (h : Progress wire plan plan.total cursor state s b) (hsound : plan.Sound) :
    Accounted wire plan (.complete tally') after := by
  obtain ⟨b', hcarries, hconfined⟩ := hend.device
  have hflash : b'.flash = b.flash := hconfined.flash.eq_of_le (Nat.le_refl 0)
  have hstop : cursor.current.toNat = plan.stop.toNat := by rw [h.current, hsound.stop_eq]
  refine ⟨b', hcarries, ?_, ?_⟩
  · rw [hflash, ← hstop]
    exact h.confined.flash
  · intro addr haddr hblank
    rw [hflash]
    exact h.holds addr (hsound.mem_pageAddresses.mpr haddr) hblank

/-- Over any wire whose failures name no page, an accepted range on a device at rest is accounted for. -/
theorem programRange_accounted {device : Device} {options : Options}
    (hreports : ∀ failure, wire.Reports failure → failure.pageAddr? = none) (hsound : plan.Sound)
    (hrest : plan.device.AtRest) (hcarries : wire.Carries s.link plan.device)
    (hcursor : PageCursor.spanning plan.start plan.stop device.geometry.flashPageSize =
      .ok ⟨plan.start, plan.stop, plan.pageSize⟩)
    (himage : ¬plan.image.length32 < plan.stop) :
    Yields (programRange plan.image plan.start plan.stop device options) s (Accounted wire plan) := by
  refine programRange_yields (fun _ _ => True) hsound hrest hcarries hcursor himage ?_ ?_ ?_ ?_ ?_
  · intro failure after b' hfails hb' hconfined
    refine accounted_of_confined hb' hconfined rfl ?_
    cases hfails with
    | hit hreport _ => exact hreports failure hreport
    | unreachable _ => rfl
  · intros
    trivial
  · intros
    trivial
  · intro n cursor state s b hn hprogress _ tally failure after _ hcontained
    exact hprogress.accounted hsound hn hcontained
  · intro cursor state s b hprogress _ tally after hend
    exact hend.accounted hprogress hsound

/-- A device that ignores every command keeps its flash. -/
theorem programRange_accounted_of_silent {device : Device} {options : Options}
    (hreports : ∀ failure, wire.Reports failure → failure.pageAddr? = none)
    (hidle : plan.device.stage = .idle) (hheard : plan.device.output = [])
    (hsilent : plan.device.firmware.silent = true)
    (hcarries : wire.Carries s.link plan.device)
    (hcursor : PageCursor.spanning plan.start plan.stop device.geometry.flashPageSize =
      .ok ⟨plan.start, plan.stop, plan.pageSize⟩)
    (himage : ¬plan.image.length32 < plan.stop) :
    Yields (programRange plan.image plan.start plan.stop device options) s (Accounted wire plan) := by
  unfold programRange
  rw [hcursor]
  simp only [if_neg himage]
  have hbegin : Exchange wire (beginPass plan.start)
      (s.opening plan.start plan.stop device).host plan.device _ _ _ :=
    Exchange.beginPass_of_silent hidle hheard hsilent
  refine Yields.step
    (Yields.step (Yields.bind (hbegin (s.opening plan.start plan.stop device) rfl hcarries) ?_))
  rintro (failure | ⟨⟩) after hafter
  · rcases hafter with ⟨-, b', hb', hfailure, rfl⟩ | ⟨hreport, -, b', hb', rfl⟩
    · exact accounted_of_confined hb' (.refl 0 0 plan.device) rfl hfailure
    · exact accounted_of_confined hb' (.refl 0 0 plan.device) rfl (hreports failure hreport)
  · obtain ⟨-, -, -, hfalse⟩ := hafter
    exact hfalse.elim

/-- Whatever faults hit the link during a pass, and wherever, as long as each of them is reported:
when the pass returns without a failure, every page with something in it is in the flash as it is in
the image; when it names a page, that is a page of the range, every such page before it is in the
flash, and not a byte behind it has changed; with any other failure no byte has changed at all.
Outside of the range none ever has. -/
theorem programRange_no_silent_corruption (image : Image) (start stop : UInt32) (device : Device)
    (options : Options) (s : Session (Faulty Bootloader)) (hidle : s.link.link.stage = .idle)
    (hheard : s.link.link.output = [])
    (hbuffer : s.link.link.buffer.size = s.link.link.firmware.pageSize)
    (hrules : s.link.link.firmware.rules = []) (hfillers : s.link.link.firmware.fillers ≤ 4)
    (hpageSize : s.link.link.firmware.pageSize = device.geometry.flashPageSize.toNat)
    (heven : device.geometry.flashPageSize.toNat % 2 = 0) (hroom : stop.toNat ≤ s.link.link.flash.size)
    (hfaults : ∀ fault ∈ s.link.faults, fault.Reported Failure.FromLink) :
    let before := s.link.link.flash
    let run := programRange image start stop device options s
    before.AgreesOutside start.toNat stop.toNat run.2.link.link.flash ∧
      AccountedFor image start stop device.geometry.flashPageSize before run.2.link.link.flash
        run.1.failure? := by
  let wire := Faulty.wire Failure.FromLink Failure.linkSort_fromLink
  let plan : Plan := ⟨⟨start, stop, device.geometry.flashPageSize⟩, image, s.link.link⟩
  have hcarries : wire.Carries s.link plan.device := ⟨rfl, hfaults⟩
  have hreports : ∀ failure, wire.Reports failure → failure.pageAddr? = none := fun _ h => h.1
  have haccounted : Yields (programRange image start stop device options) s (Accounted wire plan) := by
    cases hcursor : PageCursor.spanning start stop device.geometry.flashPageSize with
    | error failure =>
      have hrun : programRange image start stop device options s = (.refused failure, s) := by
        simp only [programRange, hcursor]
        rfl
      rw [Yields, hrun]
      exact accounted_of_confined hcarries (.refl 0 0 _) rfl (PageCursor.pageAddr?_of_spanning hcursor)
    | ok cursor =>
      by_cases himage : image.length32 < stop
      · have hrun : programRange image start stop device options s =
            (.refused (.imageEndsEarly image.size stop), s) := by
          simp only [programRange, hcursor, if_pos himage]
          rfl
        rw [Yields, hrun]
        exact accounted_of_confined hcarries (.refl 0 0 _) rfl rfl
      obtain ⟨rfl, hsound⟩ := Plan.sound_of_spanning hcursor himage hpageSize heven hroom
      cases hsilent : s.link.link.firmware.silent with
      | true => exact programRange_accounted_of_silent hreports hidle hheard hsilent hcarries hcursor himage
      | false =>
        have hrest : plan.device.AtRest :=
          ⟨hidle, hheard, Firmware.tame_of_rules_eq_nil hsilent hfillers hrules, hbuffer⟩
        exact programRange_accounted hreports hsound hrest hcarries hcursor himage
  obtain ⟨b', hcarries', hagrees, haccounted⟩ := haccounted
  have hdevice : (programRange image start stop device options s).2.link.link = b' := hcarries'.link
  rw [← hdevice] at hagrees haccounted
  exact ⟨hagrees, haccounted⟩

/-- A link that loses the block announced for the first page, and breaks when the last page is
acknowledged. -/
def breaking : Session (Faulty Bootloader) :=
  .start (.start (.start (.tiny []) (.filled 8 7))
    [⟨.write, 5, 1, some (.transport "write" (.other "lost")), false, []⟩,
      ⟨.read, 14, 1, some (.other "broken"), false, [0x0d]⟩])

set_option maxRecDepth 10000 in
theorem programRange_no_silent_corruption_breaking :
    let run := programRange (.ofBytes ⟨#[1, 2, 0xff, 0xff, 3, 4]⟩) 0 6 .tiny .none breaking
    run.1.failure?.bind Failure.pageAddr? = some 4 ∧
      (Memory.filled 8 7).AgreesOutside 0 6 run.2.link.link.flash ∧
      AccountedFor (.ofBytes ⟨#[1, 2, 0xff, 0xff, 3, 4]⟩) 0 6 2 (.filled 8 7)
        run.2.link.link.flash run.1.failure? := by
  refine ⟨by decide +kernel, programRange_no_silent_corruption
    (.ofBytes ⟨#[1, 2, 0xff, 0xff, 3, 4]⟩) 0 6 .tiny .none breaking rfl rfl
    rfl rfl (by decide) rfl rfl (by decide) ?_⟩
  intro fault hfault
  rcases List.mem_cons.mp hfault with rfl | hfault
  · exact ⟨_, rfl, rfl, rfl⟩
  · rw [List.mem_singleton.mp hfault]
    exact ⟨_, rfl, rfl, rfl⟩

end Session

end Bootflash
