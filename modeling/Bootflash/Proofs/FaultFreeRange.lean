import Bootflash.Proofs.PassAccount
import Bootflash.Proofs.WholeChip

namespace Bootflash

/-- The same device, except that it may differ in whether it takes blocks. -/
def Bootloader.refusing (b : Bootloader) (refuses : Bool) : Bootloader :=
  { b with firmware := { b.firmware with refusesBlocks := refuses } }

namespace Memory

theorem byteAt_eq_of_slice_eq {m m' : Memory} {addr count j : Nat}
    (h : m.slice addr count = m'.slice addr count) (hj : j < count) :
    m.byteAt (addr + j) = m'.byteAt (addr + j) := by
  have hbytes := (slice_eq_iff (length_slice m' addr count)).mp h j hj
  rw [hbytes]
  exact ((slice_eq_iff (length_slice m' addr count)).mp rfl j hj).symm

end Memory

/-- The pages of a range that have any data in the image are in the flash, and nothing else in it
has changed. -/
structure Burned (image : Image) (span : Span) (before after : Memory) : Prop where
  holds : ∀ addr, IsPage span.start span.stop span.pageSize addr →
    isBlank (image.page addr span.pageSize) = false →
    after.slice addr.toNat span.pageSize.toNat = image.page addr span.pageSize
  keeps : ∀ addr, IsPage span.start span.stop span.pageSize addr →
    isBlank (image.page addr span.pageSize) = true →
    after.slice addr.toNat span.pageSize.toNat = before.slice addr.toNat span.pageSize.toNat
  outside : before.AgreesOutside span.start.toNat span.stop.toNat after

/-- That settles what is in the flash. -/
theorem Burned.unique {image : Image} {span : Span} {before after after' : Memory} (hsound : span.Sound)
    (h : Burned image span before after) (h' : Burned image span before after') : after' = after := by
  have hagrees : after.AgreesOutside 0 0 after' := by
    refine ⟨h'.outside.size.trans h.outside.size.symm, fun i _ => ?_⟩
    by_cases hinside : span.start.toNat ≤ i ∧ i < span.stop.toNat
    · obtain ⟨addr, hmem, -, -, j, hj, rfl⟩ := hsound.exists_page hinside.1 hinside.2
      have hpage := hsound.mem_pageAddresses.mp hmem
      refine Memory.byteAt_eq_of_slice_eq ?_ hj
      cases hblank : isBlank (image.page addr span.pageSize) with
      | false => rw [h.holds addr hpage hblank, h'.holds addr hpage hblank]
      | true => rw [h.keeps addr hpage hblank, h'.keeps addr hpage hblank]
    · rw [h.outside.byteAt i (by omega), h'.outside.byteAt i (by omega)]
  exact hagrees.eq_of_le (Nat.le_refl 0)

/-- The blank pages of the range are as they were. -/
def Plan.KeepsBlank (plan : Plan) (flash : Memory) : Prop :=
  ∀ addr, IsPage plan.start plan.stop plan.pageSize addr → isBlank (plan.page addr) = true →
    flash.slice addr.toNat plan.pageSize.toNat = plan.device.flash.slice addr.toNat plan.pageSize.toNat

namespace Session

section Pages

variable {cursor : PageCursor} {page : List UInt8} {s after : Session Bootloader}

/-- Without rules nothing is answered wrongly, so that a try fails only when the next page is out of reach. -/
theorem TryEnds.reachable_eq_false {α : Type} {Done : α → Host → Bootloader → Prop} {outcome : α}
    {failure : Failure} {probed : Bool} {b : Bootloader}
    (h : TryEnds Bootloader.wire cursor page s b Done ⟨outcome, some failure, probed⟩ after)
    (hrules : b.firmware.rules = []) : reachable cursor.next = false := by
  cases h with
  | @failed _ _ _ _ b' hcarries hhalf hmishap =>
    cases hmishap with
    | hit hreports => exact hreports.elim
    | misled _ hacks =>
      have hbefore := Bootloader.wrongAcks_of_rules_eq_nil hrules
      have hafter : b'.wrongAcks = 0 :=
        Bootloader.wrongAcks_of_rules_eq_nil (hhalf.upset.same.firmware ▸ hrules)
      omega
    | unreachable _ hreach => exact hreach

/-- A blank page is passed over without a trace in the flash. -/
theorem settlePage_blank {a : Allowance} {state : PassState} (hrules : s.link.firmware.rules = [])
    (hpoised : s.link.Poised cursor state.probed) (hlength : page.length = cursor.pageSize.toNat)
    (hreach : reachable cursor.next = true) (hblank : isBlank page = true) :
    Yields (settlePage cursor page a state) s fun _ after => after.link.flash = s.link.flash := by
  have htry : Yields (tryPage cursor page state.probed) (s.attempting cursor)
      (TryEnds Bootloader.wire cursor page (s.attempting cursor) s.link
        (PageDone cursor page s.host s.link)) :=
    tryPage_yields hpoised hlength rfl
  have hretry : Yields (retry cursor (tryPage cursor page) a.total a state) s fun retried after =>
      (∃ handling, retried.result = .ok (.settled handling)) ∧ after.link.flash = s.link.flash := by
    rw [retry]
    refine Yields.step (Yields.bind htry ?_)
    rintro ⟨outcome, failure?, probed⟩ after htried
    cases failure? with
    | some failure => exact absurd (hreach.symm.trans (htried.reachable_eq_false hrules)) (by decide)
    | none =>
      obtain ⟨-, rfl, -, hdone⟩ := htried
      cases outcome with
      | settled handling => exact ⟨⟨handling, rfl⟩, hdone.1.settled.blank hblank⟩
      | redo => exact absurd (hblank.symm.trans hdone.notBlank) (by decide)
  refine Yields.bind hretry ?_
  rintro ⟨_, rest, state'⟩ middle ⟨⟨handling, rfl⟩, hflash⟩
  exact hflash

end Pages

section Ranges

variable {plan : Plan} {n : Nat} {cursor : PageCursor} {state : PassState} {s : Session Bootloader}

/-- A page is skipped, or what happens to it does not reach the blank ones. -/
theorem Progress.keepsBlank {b : Bootloader} {retries : Nat}
    (h : Progress Bootloader.wire plan n cursor state s b) (hsound : plan.Sound)
    (hn : n < plan.total) (hlow : plan.stop.toNat ≤ 0x1ffff) (hrules : plan.device.firmware.rules = [])
    (hkeeps : plan.KeepsBlank s.link.flash) :
    Yields (settlePage cursor (plan.image.page cursor.current cursor.pageSize) (.forPage retries) state) s
      fun _ after => plan.KeepsBlank after.link.flash := by
  obtain rfl : s.link = b := h.carries
  have hlength := h.length_page hsound hn
  have hpoised : s.link.Poised cursor state.probed := ⟨h.rest, h.addr, h.onPage hsound hn, h.probed⟩
  have hpage : plan.image.page cursor.current cursor.pageSize = plan.page cursor.current := by
    rw [h.pageSize]
    rfl
  rw [hpage]
  cases hblank : isBlank (plan.page cursor.current) with
  | true =>
    have hfirmware : s.link.firmware.rules = [] := by rw [h.confined.firmware, hrules]
    refine (settlePage_blank hfirmware hpoised hlength (h.reachable_next hsound hn hlow) hblank).mono ?_
    intro _ after hflash
    rw [hflash]
    exact hkeeps
  | false =>
    have hcontained : Yields (settlePage cursor (plan.page cursor.current) (.forPage retries) state) s
        fun _ after => Contained Bootloader.wire (task plan retries cursor state s s.link) after :=
      settlePage_contained (task plan retries cursor state s s.link) hlength rfl rfl hpoised
    refine hcontained.mono ?_
    rintro _ after ⟨_, rfl, hsame⟩ addr haddr hblank'
    have hne : addr ≠ cursor.current := by
      rintro rfl
      exact absurd (hblank.symm.trans hblank') (by decide)
    have hapart := haddr.apart (hsound.isPage hn h.current) hne
    rw [← hkeeps addr haddr hblank']
    refine hsame.flash.slice_eq ?_
    change _ ∨ cursor.current.toNat + cursor.pageSize.toNat ≤ _
    rw [h.pageSize]
    exact hapart

/-- What a pass that goes through leaves in the flash of a device without rules. -/
theorem programRange_burned {image : Image} {start stop : UInt32} {device : Device} {options : Options}
    (hsound : (⟨⟨start, stop, device.geometry.flashPageSize⟩, image, s.link⟩ : Plan).Sound)
    (hrest : s.link.AtRest) (hrules : s.link.firmware.rules = [])
    (hcursor : PageCursor.spanning start stop device.geometry.flashPageSize =
      .ok ⟨start, stop, device.geometry.flashPageSize⟩)
    (himage : ¬image.length32 < stop) (hlow : stop.toNat ≤ 0x1ffff) :
    Yields (programRange image start stop device options) s fun pass after => pass.failure? = none →
      Burned image ⟨start, stop, device.geometry.flashPageSize⟩ s.link.flash after.link.flash := by
  let plan : Plan := ⟨⟨start, stop, device.geometry.flashPageSize⟩, image, s.link⟩
  have hbegin : Ends (beginPass plan.start) (s.opening start stop device)
      (fun _ ready => Calm (s.opening start stop device) ready ∧
        ∃ b, Progress Bootloader.wire plan 0 ⟨plan.start, plan.stop, plan.pageSize⟩ .start
          (setMode .fast ready).2 b) _ :=
    beginPass_ends hrest rfl
  refine programRange_parts _ hcursor himage (hbegin.failing fun _ _ _ hdone => nomatch hdone) ?_
  rintro ready ⟨-, b, hprogress⟩
  have hkeeps : plan.KeepsBlank (setMode .fast ready).2.link.flash := by
    obtain rfl : ready.link = b := hprogress.carries
    have hflash : ready.link.flash = plan.device.flash := hprogress.confined.flash.eq_of_le (Nat.le_refl _)
    intro addr _ _
    change ready.link.flash.slice _ _ = _
    rw [hflash]
  have hstart : plan.total ≤ plan.total ∧
      Progress Bootloader.wire plan (plan.total - plan.total) ⟨start, stop, plan.pageSize⟩ .start
        (setMode .fast ready).2 (setMode .fast ready).2.link ∧
      plan.KeepsBlank (setMode .fast ready).2.link.flash := by
    obtain rfl : ready.link = b := hprogress.carries
    rw [Nat.sub_self]
    exact ⟨Nat.le_refl _, hprogress, hkeeps⟩
  refine (programPages_yields image options.retries plan.total
    (fun left cursor state s => left ≤ plan.total ∧
      Progress Bootloader.wire plan (plan.total - left) cursor state s s.link ∧ plan.KeepsBlank s.link.flash)
    (fun _ _ _ => True) ?_ hstart).mono ?_
  · rintro left cursor state s ⟨hleft, hprogress, hkeeps⟩
    have hn : plan.total - (left + 1) < plan.total := by omega
    refine ((hprogress.step hsound hn).and (hprogress.keepsBlank hsound hn hlow hrules hkeeps)).mono ?_
    rintro ⟨(failure | handling), allowance, state'⟩ after ⟨hafter, hkeeps'⟩
    · trivial
    · obtain ⟨s₁, b₁, b', hconcluded, -, hnext⟩ := hafter
      obtain rfl : after.link = b' := hconcluded.carries
      have hsucc : plan.total - (left + 1) + 1 = plan.total - left := by omega
      rw [hsucc] at hnext
      exact ⟨by omega, hnext _ _, hkeeps'⟩
  · rintro ⟨state, - | failure⟩ after hafter
    · obtain ⟨last, -, hprogress, hkeeps⟩ := hafter
      refine (endPass_yields hprogress.rest hprogress.carries).mono ?_
      intro tally final hend _
      obtain ⟨_, rfl, hconfined⟩ := hend.device
      rw [hconfined.flash.eq_of_le (Nat.le_refl 0)]
      have hstop : last.current.toNat = stop.toNat := by
        rw [hprogress.current, Nat.sub_zero]; exact hsound.stop_eq.symm
      refine ⟨fun addr haddr => hprogress.holds addr (hsound.mem_pageAddresses.mpr haddr), hkeeps, ?_⟩
      rw [← hstop]
      exact hprogress.confined.flash
    · exact fun hdone => nomatch hdone

/-- A pass that goes through has reported every page. -/
theorem Ending.reportsOf_eq {ω : Type} [Link ω] {placement : Placement} {opened after : Session ω}
    {tally : Tally} (h : Ending placement opened (.complete tally) after) :
    ∃ entries, after.journal.toList = opened.journal.toList ++ entries ∧
      reportsOf entries = (List.range placement.total).map fun k => (k + 1, placement.total) := by
  cases h with
  | through hpages _ _ hearlier _ hclosing =>
    obtain ⟨entries, hjournal, -, rfl⟩ := hpages
    obtain ⟨closing, hjournal', hquiet, -⟩ := hclosing
    refine ⟨entries ++ closing, ?_, ?_⟩
    · rw [hjournal', hjournal, List.append_assoc]
    · have hpages := hearlier.reportsOf_eq
      have hrest := reportsOf_eq_nil (callObserver_accepts hquiet)
      rw [reportsOf, List.filterMap_append, ← reportsOf, ← reportsOf, hpages, hrest, List.append_nil]

/-- A pass over a link that works, to a device without rules: what the caller gets, what is in the
flash, that everything the device said was read, and that each page was reported. -/
theorem programRange_faultless {image : Image} {start stop : UInt32} {device : Device} (options : Options)
    (s : Session Bootloader)
    (hsound : (⟨⟨start, stop, device.geometry.flashPageSize⟩, image, s.link⟩ : Plan).Sound)
    (hrest : s.link.AtRest) (hrules : s.link.firmware.rules = [])
    (hcursor : PageCursor.spanning start stop device.geometry.flashPageSize =
      .ok ⟨start, stop, device.geometry.flashPageSize⟩)
    (himage : ¬image.length32 < stop) (hlow : stop.toNat ≤ 0x1ffff) :
    let pages := pageAddresses start stop device.geometry.flashPageSize
    let blank addr := isBlank (image.page addr device.geometry.flashPageSize)
    let run := programRange image start stop device options s
    run.1 = .complete
      { written := pages.countP fun addr => !blank addr
        skipped := pages.countP blank
        resyncs := 0
        mode := if s.link.firmware.refusesBlocks && pages.any fun addr => !blank addr then .slow else .fast
        exitFailure := none } ∧
      Burned image ⟨start, stop, device.geometry.flashPageSize⟩ s.link.flash run.2.link.flash ∧
        run.2.link.output = [] ∧
      ∃ entries, run.2.journal.toList = s.journal.toList ++ entries ∧
        reportsOf entries = (List.range pages.length).map fun k => (k + 1, pages.length) := by
  intro pages blank run
  let plan : Plan := ⟨⟨start, stop, device.geometry.flashPageSize⟩, image, s.link⟩
  have hflawless : Yields (programRange image start stop device options) s fun pass after =>
      ∃ tally b, pass = .complete tally ∧ Flawless Bootloader.wire plan tally after b ∧ _ :=
    programRange_flawless (fun _ hreports => hreports) hrules hsound hrest rfl hcursor himage hlow
  have hburned : Yields (programRange image start stop device options) s _ :=
    programRange_burned hsound hrest hrules hcursor himage hlow
  have hending : Yields (programRange image start stop device options) s _ :=
    programRange_ending hcursor himage
  obtain ⟨tally, _, hpass, ⟨rfl, hrest', -, -, -, htally, -, -⟩, -⟩ := hflawless
  have hlength : pages.length = plan.total := by simp [pages, pageAddresses, firstPages, Span.total, plan]
  rw [Yields, hpass] at hburned hending
  obtain ⟨entries, hjournal, hreports⟩ := hending.reportsOf_eq
  refine ⟨?_, hburned rfl, hrest'.heard,
    ⟨s.host, s.host, .noted (.programming start stop device.name)⟩ :: entries, ?_, ?_⟩
  · change (programRange image start stop device options s).1 = _
    rw [hpass, htally]
    rfl
  · rw [toList_journal_opening, List.append_assoc] at hjournal
    exact hjournal
  · rw [hlength]
    exact hreports

/-- Pages may be of any even size, the range any run of whole pages whose end can be sent as an
address, and the device in any state between two commands. A pass over a link that works is refused
only if the image ends early by the 32 bit count of its bytes; else it goes through. The pages with
any data are then in the flash, and everything else is as it was; this and everything the caller is
told, apart from the mode, is the same whether the device takes blocks or not. -/
theorem programRange_either_way (image : Image) (start stop : UInt32) (device : Device) (options : Options)
    (s : Session Bootloader) (heven : device.geometry.flashPageSize % 2 = 0)
    (hstart : start % device.geometry.flashPageSize = 0)
    (hstop : stop % device.geometry.flashPageSize = 0) (hlt : start < stop) (hlow : stop ≤ 0x1fffe)
    (hpageSize : s.link.firmware.pageSize = device.geometry.flashPageSize.toNat)
    (hroom : stop.toNat ≤ s.link.flash.size) (hidle : s.link.stage = .idle)
    (hheard : s.link.output = []) (hbuffer : s.link.buffer.size = s.link.firmware.pageSize)
    (hawake : s.link.firmware.silent = false) (hrules : s.link.firmware.rules = [])
    (hfillers : s.link.firmware.fillers ≤ 4) :
    let pages := pageAddresses start stop device.geometry.flashPageSize
    let blank addr := isBlank (image.page addr device.geometry.flashPageSize)
    let attempt refuses := programRange image start stop device options
        { s with link := s.link.refusing refuses }
    (image.size % 4294967296 < stop.toNat → ∀ refuses,
      attempt refuses =
        (.refused (.imageEndsEarly image.size stop), { s with link := s.link.refusing refuses })) ∧
    (stop.toNat ≤ image.size % 4294967296 →
      ∃ flash, Burned image ⟨start, stop, device.geometry.flashPageSize⟩ s.link.flash flash ∧ ∀ refuses,
        (attempt refuses).1 = .complete
          { written := pages.countP fun addr => !blank addr
            skipped := pages.countP blank
            resyncs := 0
            mode := if refuses && pages.any fun addr => !blank addr then .slow else .fast
            exitFailure := none } ∧
          (attempt refuses).2.link.flash = flash ∧ (attempt refuses).2.link.output = [] ∧
          ∃ entries, (attempt refuses).2.journal.toList = s.journal.toList ++ entries ∧
            reportsOf entries = (List.range pages.length).map fun k => (k + 1, pages.length)) := by
  intro pages blank attempt
  have hpositive : device.geometry.flashPageSize ≠ 0 := by
    intro hzero
    rw [hzero, UInt32.mod_zero] at hstart hstop
    rw [hstart, hstop] at hlt
    exact absurd hlt (by decide)
  have hcursor := PageCursor.spanning_eq_ok_iff.mpr ⟨rfl, hpositive, hstart, hstop, hlt⟩
  have hlength : image.length32 < stop ↔ image.size % 4294967296 < stop.toNat := by
    rw [UInt32.lt_iff_toNat_lt, Image.length32, UInt32.toNat_ofNat']
  constructor
  · intro hshort refuses
    change programRange image start stop device options _ = _
    unfold programRange
    rw [hcursor]
    simp only [if_pos (hlength.mpr hshort)]
    rfl
  · intro hlong
    have himage : ¬image.length32 < stop := by
      rw [hlength]
      exact Nat.not_lt.mpr hlong
    have hlow' : stop.toNat ≤ 0x1ffff := Nat.le_trans (UInt32.le_iff_toNat_le.mp hlow) (by decide)
    have hsound :
        ∀ refuses, (⟨⟨start, stop, device.geometry.flashPageSize⟩, image, s.link.refusing refuses⟩ :
          Plan).Sound :=
      fun refuses => (Plan.sound_of_spanning (b := s.link.refusing refuses) hcursor himage hpageSize
        (congrArg UInt32.toNat heven) hroom).2
    have hrest : ∀ refuses, (s.link.refusing refuses).AtRest :=
      fun _ => ⟨hidle, hheard, Firmware.tame_of_rules_eq_nil hawake hfillers hrules, hbuffer⟩
    have hrun := fun refuses =>
      programRange_faultless options { s with link := s.link.refusing refuses } (hsound refuses)
      (hrest refuses) hrules hcursor himage hlow'
    refine ⟨_, (hrun false).2.1, fun refuses => ?_⟩
    obtain ⟨hpass, hburned, houtput, hreports⟩ := hrun refuses
    exact ⟨hpass, (hrun false).2.1.unique (Span.sound_of_spanning hcursor).2 hburned, houtput, hreports⟩

/-- A chip with pages of six bytes. -/
def sixes : Device :=
  ⟨1, "sixes", ⟨24, 6, 0, 0⟩, .fixed 18⟩

/-- Such a chip, written all over and left in the middle of a page. -/
def leftoverSixes : Session Bootloader :=
  .start { Bootloader.start ⟨6, [], [1], 0, 0, false, true, 4, []⟩ (.filled 24 7) with
    addr := 9, buffer := .filled 6 5, probed := true }

/-- The page at 6 has data in its last byte only, the one at 12 has none. -/
theorem programRange_either_way_sixes :
    let image : Image :=
      .ofBytes ⟨#[1, 2, 3, 4, 5, 6, 0xff, 0xff, 0xff, 0xff, 0xff, 8, 0xff, 0xff, 0xff, 0xff, 0xff, 0xff, 9]⟩
    let run refuses := programRange image 6 18 sixes .none
      { leftoverSixes with link := leftoverSixes.link.refusing refuses }
    ∃ flash, (run true).2.link.flash = flash ∧ (run false).2.link.flash = flash ∧
      flash.slice 6 6 = [0xff, 0xff, 0xff, 0xff, 0xff, 8] ∧ flash.slice 12 6 = [7, 7, 7, 7, 7, 7] ∧
        flash.byteAt 18 = 7 ∧
      (∃ tally, (run true).1 = .complete tally ∧ tally.written = 1 ∧ tally.skipped = 1 ∧ tally.mode = .slow) ∧
      ∃ tally, (run false).1 = .complete tally ∧ tally.written = 1 ∧ tally.skipped = 1 ∧
        tally.mode = .fast := by
  intro image run
  obtain ⟨-, hlong⟩ := programRange_either_way image 6 18 sixes .none leftoverSixes (by decide)
    (by decide) (by decide)
    (by decide) (by decide) rfl (by decide) rfl rfl (by decide) rfl rfl (by decide)
  obtain ⟨flash, hburned, hrun⟩ := hlong (by decide)
  obtain ⟨hslow, hflash, -⟩ := hrun true
  obtain ⟨hfast, hflash', -⟩ := hrun false
  refine ⟨flash, hflash, hflash', ?_, ?_, ?_, ⟨_, hslow, ?_⟩, _, hfast, ?_⟩
  · exact hburned.holds 6 ⟨by decide, by decide, by decide⟩ (by decide)
  · exact hburned.keeps 12 ⟨by decide, by decide, by decide⟩ (by decide)
  · exact hburned.outside.byteAt 18 (by decide)
  · decide
  · decide

/-- An image of 4 GiB has no bytes by the 32 bit count of them, so that not one page of it can be
programmed. -/
theorem programRange_refuses_overlong :
    let image : Image := .pad (.ofBytes ⟨#[0x0c, 0x94]⟩) 4294967296
    let s : Session Bootloader :=
      .start (.start ⟨128, "AVRBOOT".toUTF8.toList, [114], 0, 0, false, false, 0, []⟩ (.filled 32768 erased))
    (128 : UInt32).toNat ≤ image.size ∧
      programRange image 0 128 .atmega32 .none s = (.refused (.imageEndsEarly 4294967296 128), s) :=
  ⟨by decide, rfl⟩

end Ranges

end Session

end Bootflash
