import Bootflash.Proofs.PageRange
import Bootflash.Proofs.Retry
import Bootflash.Programming.Pass

namespace Bootflash

/-- An image to be put into a range of a device. -/
structure Plan extends Span where
  image : Image
  device : Bootloader

namespace Plan

/-- The page of the image at an address. -/
def page (plan : Plan) (addr : UInt32) : List UInt8 :=
  plan.image.page addr plan.pageSize

/-- The range has whole pages only, and the image and the device have room for it. -/
structure Sound (plan : Plan) : Prop extends span : plan.toSpan.Sound where
  pageSize : plan.device.firmware.pageSize = plan.pageSize.toNat
  even : plan.pageSize.toNat % 2 = 0
  room : plan.stop.toNat ≤ plan.device.flash.size
  image : plan.stop.toNat ≤ plan.image.size

variable {plan : Plan} {n : Nat} {addr : UInt32}

theorem Sound.length_page (h : plan.Sound) (haddr : addr.toNat + plan.pageSize.toNat ≤ plan.stop.toNat) :
    (plan.page addr).length = plan.pageSize.toNat :=
  Image.length_page (Nat.le_trans haddr h.image)

theorem Sound.getD_page (h : plan.Sound)
    (haddr : addr.toNat + plan.pageSize.toNat ≤ plan.stop.toNat) {j : Nat}
    (hj : j < plan.pageSize.toNat) : (plan.page addr).getD j erased =
      plan.image.getD (addr.toNat + j) erased :=
  Image.getD_page (Nat.le_trans haddr h.image) hj

/-- The addresses of pages are even, so the wire carries the low ones. -/
theorem Sound.reachable_of_aligned (h : plan.Sound) (haligned : addr.toNat % plan.pageSize.toNat = 0)
    (hle : addr.toNat ≤ 0x1ffff) : Session.reachable addr = true := by
  have hdvd : 2 ∣ addr.toNat :=
    Nat.dvd_trans (Nat.dvd_of_mod_eq_zero h.even) (Nat.dvd_of_mod_eq_zero haligned)
  have heven : addr % 2 = 0 := by
    rw [← UInt32.toNat_inj, UInt32.toNat_mod]
    change addr.toNat % 2 = 0
    omega
  have hword : addr / 2 ≤ 0xffff := by
    rw [UInt32.le_iff_toNat_le, UInt32.toNat_div]
    change addr.toNat / 2 ≤ 0xffff
    omega
  simp [Session.reachable, heven, hword]

theorem Sound.reachable_page (h : plan.Sound) (hstop : plan.stop.toNat ≤ 0x1ffff) (hn : n ≤ plan.total)
    (haddr : addr.toNat = plan.start.toNat + n * plan.pageSize.toNat) : Session.reachable addr = true := by
  refine h.reachable_of_aligned ?_ ?_
  · rw [haddr, Nat.add_mul_mod_self_right]
    exact h.start
  · have hmul := Nat.mul_le_mul_right plan.pageSize.toNat hn
    have := h.stop_eq
    omega

/-- Every page of the range is a page of any device with the same firmware and as much flash. -/
theorem Sound.onPage {cursor : PageCursor} {b : Bootloader} (h : plan.Sound) (hn : n < plan.total)
    (hcurrent : cursor.current.toNat = plan.start.toNat + n * plan.pageSize.toNat)
    (hpageSize : cursor.pageSize = plan.pageSize) (hreach : Session.reachable cursor.current = true)
    (hfirmware : b.firmware = plan.device.firmware)
    (hsize : b.flash.size = plan.device.flash.size) : cursor.OnPage b := by
  have hle := h.le_stop hn
  have hroom := h.room
  have hlimit := plan.stop.toNat_lt
  refine ⟨?_, ?_, ?_, ?_, ?_, hreach, ?_⟩
  · rw [hfirmware, hpageSize, h.pageSize]
  · rw [hpageSize]
    exact h.positive
  · rw [hpageSize]
    exact h.even
  · rw [hpageSize, hcurrent, Nat.add_mul_mod_self_right]
    exact h.start
  · rw [PageCursor.next, UInt32.toNat_add, hpageSize]
    omega
  · rw [hpageSize, hsize]
    omega

theorem Sound.reachable_start (h : plan.Sound) (hstop : plan.stop.toNat ≤ 0x1ffff) :
    Session.reachable plan.start = true :=
  h.reachable_page hstop (Nat.zero_le _) (by simp)

/-- A range that a cursor accepts, and an image that reaches its end, make a sound plan. -/
theorem sound_of_spanning {image : Image} {start stop pageSize : UInt32} {b : Bootloader}
    {cursor : PageCursor} (hcursor : PageCursor.spanning start stop pageSize = .ok cursor)
    (himage : ¬image.length32 < stop)
    (hpageSize : b.firmware.pageSize = pageSize.toNat) (heven : pageSize.toNat % 2 = 0)
    (hroom : stop.toNat ≤ b.flash.size) :
    cursor = ⟨start, stop, pageSize⟩ ∧ (⟨⟨start, stop, pageSize⟩, image, b⟩ : Plan).Sound := by
  obtain ⟨rfl, hspan⟩ := Span.sound_of_spanning hcursor
  exact ⟨rfl, hspan, hpageSize, heven, hroom, Image.le_size_of_not_lt himage⟩

/-- The mode after the first `n` pages. -/
def modeAfter (plan : Plan) (n : Nat) : WriteMode :=
  if plan.device.firmware.refusesBlocks &&
    (firstPages plan.start plan.pageSize n).any fun addr => !isBlank (plan.page addr) then .slow else .fast

end Plan

namespace Session

variable {ω : Type} [Link ω] {wire : Wire ω} {plan : Plan} {n : Nat} {cursor : PageCursor} {state : PassState}
  {s : Session ω} {b : Bootloader}

/-- The first `n` pages of the plan are dealt with, the cursor is at the next one, and so is the
device's pointer. -/
structure Progress (wire : Wire ω) (plan : Plan) (n : Nat) (cursor : PageCursor) (state : PassState)
    (s : Session ω) (b : Bootloader) : Prop extends plan.toSpan.At n cursor where
  carries : wire.Carries s.link b
  rest : b.AtRest
  addr : b.addr = cursor.current.toNat
  reach : reachable cursor.current = true
  probed : b.Probed state.probed
  confined : plan.device.Confined plan.start.toNat cursor.current.toNat b
  holds : ∀ addr ∈ firstPages plan.start plan.pageSize n, isBlank (plan.page addr) = false →
    b.flash.slice addr.toNat plan.pageSize.toNat = plan.page addr
  blank : ∀ addr ∈ firstPages plan.start plan.pageSize n, isBlank (plan.page addr) = true →
    plan.device.flash.ErasedAt addr.toNat plan.pageSize.toNat →
      b.flash.ErasedAt addr.toNat plan.pageSize.toNat
  written : state.tally.written =
    (firstPages plan.start plan.pageSize n).countP fun addr => !isBlank (plan.page addr)
  skipped : state.tally.skipped = (firstPages plan.start plan.pageSize n).countP fun addr =>
    isBlank (plan.page addr)
  mode : s.host.mode = plan.modeAfter n
  pointer : s.host.pointer? = some cursor.current

/-- The task that the page under the cursor sets. -/
def Progress.task (plan : Plan) (retries : Nat) (cursor : PageCursor) (state : PassState) (s : Session ω)
    (b : Bootloader) : PageTask ω :=
  ⟨cursor, plan.page cursor.current, retries, s, b, state.tally⟩

theorem firstPages_succ (h : Progress wire plan n cursor state s b) :
    firstPages plan.start plan.pageSize (n + 1) = firstPages plan.start plan.pageSize n ++ [cursor.current] :=
  firstPages_add_one h.current

theorem Progress.onPage (h : Progress wire plan n cursor state s b) (hsound : plan.Sound)
    (hn : n < plan.total) :
    cursor.OnPage b :=
  hsound.onPage hn h.current h.pageSize h.reach h.confined.firmware h.confined.flash.size

/-- The pages dealt with lie below the cursor. -/
theorem Progress.below (h : Progress wire plan n cursor state s b) (hsound : plan.Sound) (hn : n ≤ plan.total)
    {addr : UInt32} (haddr : addr ∈ firstPages plan.start plan.pageSize n) :
    addr.toNat + plan.pageSize.toNat ≤ cursor.current.toNat := by
  obtain ⟨k, hk, haddr⟩ := (hsound.mem_firstPages hn).mp haddr
  have hmul := Nat.mul_le_mul_right plan.pageSize.toNat (Nat.succ_le_of_lt hk)
  rw [Nat.succ_mul] at hmul
  have hcurrent := h.current
  omega

theorem modeAfter_succ (h : Progress wire plan n cursor state s b) :
    modeAfter (plan.page cursor.current) b.firmware (plan.modeAfter n) = plan.modeAfter (n + 1) := by
  rw [h.confined.firmware]
  simp only [modeAfter, Plan.modeAfter, firstPages_succ h, List.any_append, List.any_cons,
    List.any_nil, Bool.or_false]
  cases plan.device.firmware.refusesBlocks <;> cases isBlank (plan.page cursor.current) <;> simp

theorem Progress.count (h : Progress wire plan n cursor state s b) {state' : PassState} {resyncs : Nat}
    (htally : state'.tally = { state.tally with resyncs }) :
    let tally := (state'.count (.of (plan.page cursor.current))).tally
    tally.written = (firstPages plan.start plan.pageSize (n + 1)).countP
      (fun addr => !isBlank (plan.page addr)) ∧
      tally.skipped = (firstPages plan.start plan.pageSize (n + 1)).countP fun addr =>
        isBlank (plan.page addr) := by
  rw [firstPages_succ h, List.countP_append, List.countP_append, ← h.written, ← h.skipped]
  cases hblank : isBlank (plan.page cursor.current) <;>
    simp [PassState.count, Tally.count, Handling.of, hblank, htally]

/-- What is known about the pages so far is known about one more once the page under the cursor is
dealt with. -/
theorem Progress.advance {s₁ after : Session ω} {b₁ b' : Bootloader} {retries done total : Nat}
    {allowance : Allowance} {state' : PassState} {handling : Handling}
    (h : Progress wire plan n cursor state s b) (hsound : plan.Sound)
    (hn : n < plan.total)
    (hconcluded : Concluded wire (task plan retries cursor state s b) allowance state' s₁ b₁ after b')
    (hfinished : Finished cursor (plan.page cursor.current) s₁.host b₁ handling after.host b')
    (hmode : after.host.mode = Session.modeAfter (plan.page cursor.current) b.firmware s.host.mode) :
    Progress wire plan (n + 1) cursor.advance (state'.count handling)
      (record (.progressed done total) after).2 b' := by
  have hpage := h.onPage hsound hn
  have hsame : b.SamePages cursor b' := hconcluded.underway.same.trans hfinished.settled.same
  have hsettled := hfinished.settled
  have hcurrent := h.current
  have hnext := hpage.next
  rw [Bootloader.SamePages, h.pageSize] at hsame
  have hconfined : plan.device.Confined plan.start.toNat cursor.next.toNat b' := by
    rw [hnext, h.pageSize]
    exact (h.confined.widen (.inr ⟨Nat.le_refl _, by omega⟩)).trans
      (hsame.widen (.inr ⟨by omega, Nat.le_refl _⟩))
  have hbefore : ∀ addr ∈ firstPages plan.start plan.pageSize n,
      b'.flash.slice addr.toNat plan.pageSize.toNat = b.flash.slice addr.toNat plan.pageSize.toNat := by
    intro addr haddr
    exact hsame.flash.slice_eq (.inl (h.below hsound (Nat.le_of_lt hn) haddr))
  obtain ⟨hits, wrongs, -, -, -, htally⟩ := hconcluded.underway.history
  obtain ⟨hwritten, hskipped⟩ := h.count htally
  rw [← hfinished.handling] at hwritten hskipped
  refine ⟨h.toAt.advance hsound.span hn, hconcluded.carries, hsettled.rest, hsettled.addr,
    hsettled.reach, hconcluded.probed, hconfined, ?_, ?_, hwritten, hskipped, ?_, ?_⟩
  · intro addr haddr hblank
    rw [firstPages_succ h, List.mem_append, List.mem_singleton] at haddr
    rcases haddr with haddr | rfl
    · rw [hbefore addr haddr]
      exact h.holds addr haddr hblank
    · rw [← h.pageSize]
      exact hsettled.holds hblank
  · intro addr haddr hblank herased
    rw [firstPages_succ h, List.mem_append, List.mem_singleton] at haddr
    rcases haddr with haddr | rfl
    · rw [Memory.ErasedAt, hbefore addr haddr]
      exact h.blank addr haddr hblank herased
    · -- Nothing before the cursor has touched the page, and nothing at the cursor has.
      have hstart : b.PageErased cursor := by
        rw [Bootloader.PageErased, Memory.ErasedAt,
          h.confined.flash.slice_eq (.inr (Nat.le_refl _)), h.pageSize]
        exact herased
      have hafter : b₁.PageErased cursor := hconcluded.underway.blank hblank hstart
      rwa [Bootloader.PageErased, h.pageSize, ← hsettled.blank hblank] at hafter
  · change after.host.mode = _
    rw [hmode, h.mode, modeAfter_succ h]
  · change after.host.pointer? = _
    rw [hfinished.host]
    rfl

/-- In a range that ends low enough, the address of every next page can be sent. -/
theorem Progress.reachable_next (h : Progress wire plan n cursor state s b) (hsound : plan.Sound)
    (hn : n < plan.total) (hstop : plan.stop.toNat ≤ 0x1ffff) : reachable cursor.next = true := by
  refine hsound.reachable_page hstop (Nat.succ_le_of_lt hn) ?_
  rw [(h.onPage hsound hn).next, h.pageSize, h.current, Nat.succ_mul, Nat.add_assoc]

/-- On a range that was erased, every byte is the image's once all pages are dealt with: a page that
was skipped because there is nothing in it is erased still. -/
theorem Progress.byteAt (h : Progress wire plan plan.total cursor state s b) (hsound : plan.Sound)
    (herased : ∀ i, plan.start.toNat ≤ i → i < plan.stop.toNat →
      plan.device.flash.byteAt i = erased) {i : Nat}
    (hlow : plan.start.toNat ≤ i) (hhigh : i < plan.stop.toNat) :
    b.flash.byteAt i = plan.image.getD i erased := by
  obtain ⟨addr, hmem, hle, hstart, j, hj, rfl⟩ := hsound.exists_page hlow hhigh
  have hlength := hsound.length_page hle
  rw [← hsound.getD_page hle hj]
  cases hblank : isBlank (plan.page addr) with
  | false => exact (Memory.slice_eq_iff hlength).mp (h.holds addr hmem hblank) j hj
  | true =>
    have hdevice : plan.device.flash.ErasedAt addr.toNat plan.pageSize.toNat := by
      rw [Memory.ErasedAt, Memory.slice_eq_iff (by simp)]
      intro j hj
      rw [herased _ (by omega) (by omega), List.getD_replicate _ hj]
    have hflash := h.blank addr hmem hblank hdevice
    rw [Memory.ErasedAt, ← hlength, ← isBlank_iff.mp hblank, hlength] at hflash
    exact (Memory.slice_eq_iff hlength).mp hflash j hj

theorem Progress.length_page (h : Progress wire plan n cursor state s b) (hsound : plan.Sound)
    (hn : n < plan.total) :
    (plan.page cursor.current).length = cursor.pageSize.toNat := by
  rw [h.pageSize]
  refine hsound.length_page ?_
  have hle := hsound.le_stop hn
  have hcurrent := h.current
  omega

/-- One page of a pass: it is dealt with, and the pass is one page further, or it is given up. -/
theorem Progress.step {retries : Nat} (h : Progress wire plan n cursor state s b)
    (hsound : plan.Sound) (hn : n < plan.total) :
    Yields (settlePage cursor (plan.image.page cursor.current cursor.pageSize) (.forPage retries) state) s
      fun retried after => match retried.result with
      | .ok handling => ∃ s₁ b₁ b',
          Concluded wire (task plan retries cursor state s b) retried.allowance retried.state s₁ b₁ after b' ∧
            b'.wrongAcks = b₁.wrongAcks ∧
            ∀ done total, Progress wire plan (n + 1) cursor.advance (retried.state.count handling)
              (record (.progressed done total) after).2 b'
      | .error failure => GivenUp wire (task plan retries cursor state s b) failure after ∧
          Contained wire (task plan retries cursor state s b) after := by
  have hpage := h.onPage hsound hn
  have hlength := h.length_page hsound hn
  have hsettle : Yields (settlePage cursor (plan.page cursor.current) (.forPage retries) state) s
      (TriesEnd wire (task plan retries cursor state s b) (fun _ => True) _) :=
    settlePage_yields (task plan retries cursor state s b) hlength rfl h.carries
      ⟨h.rest, h.addr, hpage, h.probed⟩
  rw [Plan.page, ← h.pageSize] at hsettle
  refine hsettle.mono ?_
  rintro ⟨(failure | handling), allowance, state'⟩ after hafter
  · exact hafter
  · obtain ⟨s₁, b₁, b', hconcluded, -, hfinished, hmode⟩ := hafter
    exact ⟨s₁, b₁, b', hconcluded, hfinished.settled.wrongAcks, fun done total =>
      h.advance hsound hn hconcluded hfinished hmode⟩

/-- What every page keeps, a pass over the pages keeps. -/
theorem programPages_yields {left : Nat} (image : Image) (retries total : Nat)
    (Inv : Nat → PageCursor → PassState → Session ω → Prop) (Stop : PassState → Failure → Session ω → Prop)
    (hstep : ∀ left cursor state s, Inv (left + 1) cursor state s →
      Yields (settlePage cursor (image.page cursor.current cursor.pageSize) (.forPage retries) state) s
        fun retried after => match retried.result with
        | .ok handling => Inv left cursor.advance (retried.state.count handling)
            (record (.progressed (total - left) total) after).2
        | .error failure => Stop retried.state (.pageWrite cursor.current failure) after)
    (hinv : Inv left cursor state s) :
    Yields (programPages image retries total left cursor state) s fun result after =>
      match result.2 with
      | none => ∃ cursor, Inv 0 cursor result.1 after
      | some failure => Stop result.1 failure after := by
  induction left generalizing cursor state s with
  | zero => exact ⟨cursor, hinv⟩
  | succ left ih =>
    rw [programPages]
    refine Yields.bind (hstep left cursor state s hinv) ?_
    rintro ⟨(failure | handling), allowance, state'⟩ after hafter
    · exact hafter
    · exact Yields.step (ih hafter)

namespace Exchange

variable {host : Host} {wrong : Failure → Host → Bootloader → Prop} {cut : Host → Bootloader → Prop}

/-- A device at rest is made ready for the first page, and its flash is left alone meanwhile. -/
theorem beginPass {start : UInt32} (hrest : b.AtRest) (hcut : ∀ host' b', b.Confined 0 0 b' → cut host' b')
    (hwrong : reachable start = false → ∀ host' b', b.Confined 0 0 b' →
      wrong (.addressOutOfReach start) host' b') :
    Exchange wire (beginPass start) host b
      (fun _ host' b' => host' = { host with led := true }.trust start ∧ reachable start = true ∧ b'.AtRest ∧
        b'.addr = start.toNat ∧ b.Confined 0 0 b') wrong cut := by
  let lit := b.ran .ledOn [0]
  let asked := lit.ran .autoIncrement []
  let entered := asked.ran .enterProgramming []
  have hlit : lit.AtRest := hrest.ran _ _
  have hasked : asked.AtRest := hlit.ran _ _
  have hentered : entered.AtRest := hasked.ran _ _
  have hconfined₁ : b.Confined 0 0 lit := Bootloader.confined_ran hrest.buffer rfl
  have hconfined₂ : b.Confined 0 0 asked := hconfined₁.trans (Bootloader.confined_ran hlit.buffer rfl)
  have hconfined₃ : b.Confined 0 0 entered := hconfined₂.trans (Bootloader.confined_ran hasked.buffer rfl)
  refine bind (lightLed hrest (hcut _ _ (.refl 0 0 b)) (hcut _ _ (hconfined₁.with_output [ack]))) ?_
  rintro - host' b' ⟨hhost, hb⟩
  subst host' b'
  refine bind (requireAutoIncrement hlit (hcut _ _ hconfined₁) (hcut _ _ (hconfined₂.with_output [yes]))) ?_
  rintro - host' b' ⟨hhost, hb⟩
  subst host' b'
  refine bind
    (within (enterProgramming hasked (hcut _ _ hconfined₂) (hcut _ _ (hconfined₃.with_output [ack])))) ?_
  rintro - host' b' ⟨hhost, hb⟩
  subst host' b'
  by_cases hreach : reachable start = true
  · have hconfined₄ : b.Confined 0 0 (entered.pointed start) :=
      hconfined₃.trans (Bootloader.confined_ran hentered.buffer rfl)
    refine (setAddress hentered.ready hreach (hcut _ _ hconfined₃)
      (hcut _ _ (hconfined₄.with_output [ack]))).returning ?_
    rintro - host' b' ⟨hhost, hb⟩
    subst host' b'
    exact ⟨rfl, hreach, hentered.ran _ _, Bootloader.addr_pointed hreach, hconfined₄⟩
  · have hunreachable : reachable start = false := by simpa using hreach
    exact setAddress_of_unreachable hunreachable (hwrong hunreachable _ _ hconfined₃)

/-- A command to a device between two commands, whatever that has still to say. The flash is left
alone unless the command is about it. -/
theorem execAny (op : Opcode) {arguments : List UInt8} {name : String} (hidle : b.stage = .idle)
    (htame : b.firmware.Tame) (hbuffer : b.buffer.size = b.firmware.pageSize) (hop : op ≠ .writeBlock)
    (harity : arguments.length = op.arity) (hflash : (b.ran op arguments).flash = b.flash) :
    Exchange wire (exec name (op.byte :: arguments)) host b (fun _ _ b' => b.Confined 0 0 b')
      (fun _ _ b' => b.Confined 0 0 b') (fun _ b' => b.Confined 0 0 b') := by
  have hreceive := Bootloader.receive_command hidle htame.awake op harity
  rw [Bootloader.run_command hop arguments (htame.override?_eq_none op.byte_ne_blockCode _)] at hreceive
  have hran : b.Confined 0 0 (b.ran op arguments) := Bootloader.confined_ran hbuffer hflash
  have hconfined := hran.with_output (b.output ++ b.answer (.command op arguments))
  rw [← hreceive] at hconfined
  refine bind (transmit id (.refl 0 0 b) hconfined) ?_
  rintro - host' b' ⟨hhost, hb⟩
  subst host' b'
  refine awaitAck (bind (receiveByte hconfined) ?_)
  rintro byte host' b' ⟨rfl, hhost, hb⟩
  subst host' b'
  have hread := hconfined.with_output (b.receive (op.byte :: arguments)).output.tail
  cases (b.receive (op.byte :: arguments)).output.head? with
  | none => exact throw hread
  | some byte =>
    by_cases hbyte : byte = ack
    · simp only [if_pos hbyte]
      exact pure hread
    · simp only [if_neg hbyte]
      exact throw hread

end Exchange

/-- Before the first page nothing is dealt with and nothing has changed. -/
theorem Progress.start {after : Session ω} (hhost : after.host.pointer? = some plan.start)
    (hcarries : wire.Carries after.link b) (hrest : b.AtRest) (haddr : b.addr = plan.start.toNat)
    (hreach : reachable plan.start = true) (hconfined : plan.device.Confined 0 0 b) :
    Progress wire plan 0 ⟨plan.start, plan.stop, plan.pageSize⟩ .start (setMode .fast after).2 b where
  toAt := plan.at_start
  carries := hcarries
  rest := hrest
  addr := haddr
  reach := hreach
  probed := fun h => nomatch h
  confined := hconfined.widen (.inl (Nat.le_refl 0))
  holds := by simp [firstPages]
  blank := by simp [firstPages]
  written := rfl
  skipped := rfl
  mode := by
    change WriteMode.fast = _
    simp [Plan.modeAfter, firstPages]
  pointer := hhost

/-- How a pass ends once its pages are dealt with. A failing call is kept in the tally; without one
the device is out of programming mode with its indicator off. Its flash is left alone in any
case. -/
structure PassEnd (wire : Wire ω) (tally : Tally) (s : Session ω) (b : Bootloader) (tally' : Tally)
    (after : Session ω) : Prop where
  kept : tally' = { tally with mode := s.host.mode, exitFailure := tally'.exitFailure }
  device : ∃ b', wire.Carries after.link b' ∧ b.Confined 0 0 b'
  clean : (∃ failure, wire.Reports failure ∧ Struck s after) ∨
    (tally'.exitFailure = none ∧ Calm s after ∧ after.host = { s.host with led := false } ∧
      wire.Carries after.link ((b.ran .ledOff [0]).ran .leaveProgramming []))

/-- The device is told to leave programming mode though it may have an answer left that nobody has
read: that can come out in any way, and leaves the flash alone. -/
theorem leaveProgramming_stuck {m : Session ω} {c : Bootloader} (hrest : b.AtRest)
    (hconfined : b.Confined 0 0 c) (hidle : c.stage = .idle) (hc : wire.Carries m.link c) :
    Yields (failureOf leaveProgramming) m fun _ after =>
      Quiet m after ∧ ∃ c', wire.Carries after.link c' ∧ b.Confined 0 0 c' := by
  have hleave : Exchange wire leaveProgramming m.host c _ _ _ :=
    Exchange.execAny .leaveProgramming hidle (hconfined.firmware ▸ hrest.tame)
      (by rw [hconfined.buffer, hrest.buffer, hconfined.firmware]) (by decide) rfl rfl
  refine (hleave.failureOf (s := m) rfl hc).mono ?_
  rintro (- | failure) after hafter
  · obtain ⟨hcalm, c', hc', hconfined'⟩ := hafter
    exact ⟨hcalm.quiet, c', hc', hconfined.trans hconfined'⟩
  · rcases hafter with ⟨hcalm, c', hc', hconfined'⟩ | ⟨-, hstruck, c', hc', hconfined'⟩
    · exact ⟨hcalm.quiet, c', hc', hconfined.trans hconfined'⟩
    · exact ⟨hstruck.quiet, c', hc', hconfined.trans hconfined'⟩

theorem endPass_yields {tally : Tally} (hrest : b.AtRest) (hcarries : wire.Carries s.link b) :
    Yields (endPass tally) s (PassEnd wire tally s b) := by
  let dimmed := b.ran .ledOff [0]
  let left := dimmed.ran .leaveProgramming []
  have hdimmed : dimmed.AtRest := hrest.ran _ _
  have hconfined₁ : b.Confined 0 0 dimmed := Bootloader.confined_ran hrest.buffer rfl
  have hconfined₂ : b.Confined 0 0 left := hconfined₁.trans (Bootloader.confined_ran hdimmed.buffer rfl)
  let noted : Session ω := (note (.programmed tally.written tally.skipped s.host.mode) s).2
  have hnoted : Calm s noted := calm_note _ s
  have hdim : Exchange wire dimLed noted.host b
      (fun _ host' b' => host' = { noted.host with led := false } ∧ b' = dimmed)
      (fun _ _ _ => False) (fun _ b' => b.Confined 0 0 b' ∧ b'.stage = .idle) :=
    Exchange.dimLed hrest ⟨.refl 0 0 b, hrest.idle⟩ ⟨hconfined₁.with_output [ack], hdimmed.idle⟩
  refine Yields.step (Yields.step (Yields.bind (hdim.failureOf (s := noted) rfl hcarries) ?_))
  rintro (- | failure) middle hmiddle
  · obtain ⟨hcalm, c, hc, hhost, rfl⟩ := hmiddle
    have hleave : Exchange wire leaveProgramming middle.host dimmed
        (fun _ host' b' => host' = middle.host ∧ b' = left)
        (fun _ _ _ => False) (fun _ b' => b.Confined 0 0 b') :=
      Exchange.leaveProgramming hdimmed hconfined₁ (hconfined₂.with_output [ack])
    refine Yields.bind (hleave.failureOf (s := middle) rfl hc) ?_
    rintro (- | failure) after hafter
    · obtain ⟨hcalm', c, hc, hhost', rfl⟩ := hafter
      have hhosts : after.host = { s.host with led := false } := by rw [hhost', hhost]; rfl
      exact ⟨rfl, ⟨left, hc, hconfined₂⟩, .inr ⟨rfl, (hnoted.trans hcalm).trans hcalm', hhosts, hc⟩⟩
    · rcases hafter with ⟨-, -, -, hfalse⟩ | ⟨hreports, hstruck, c, hc, hconfined⟩
      · exact hfalse.elim
      · have hstruck' := ((hnoted.trans hcalm).struck hstruck).calm
          (calm_note (.exitUnconfirmed failure) after)
        exact ⟨rfl, ⟨c, hc, hconfined⟩, .inl ⟨failure, hreports, hstruck'⟩⟩
  · rcases hmiddle with ⟨-, -, -, hfalse⟩ | ⟨hreports, hstruck, c, hc, hconfined, hidle⟩
    · exact hfalse.elim
    let stuck : Session ω := (note (.ledStuck failure) middle).2
    have hstuck : Struck s stuck := (hnoted.struck hstruck).calm (calm_note _ middle)
    refine Yields.step (Yields.bind (leaveProgramming_stuck (m := stuck) hrest hconfined hidle hc) ?_)
    rintro (- | failure') after ⟨hquiet, hdevice⟩
    · exact ⟨rfl, hdevice, .inl ⟨failure, hreports, hstuck.andThen hquiet⟩⟩
    · have hnote := (calm_note (.exitUnconfirmed failure') after).quiet
      exact ⟨rfl, hdevice, .inl ⟨failure, hreports, (hstuck.andThen hquiet).andThen hnote⟩⟩

/-- The session in which the device is made ready for the first page. -/
def opening (start stop : UInt32) (device : Device) (s : Session ω) : Session ω :=
  (setMode .unknown (note (.programming start stop device.name) s).2).2

/-- Why the device could not be made ready: a call of the link failed, or the start of the range
cannot be sent. -/
inductive NotReady (wire : Wire ω) (start : UInt32) (s after : Session ω) : Failure → Prop
  | hit {failure} (reports : wire.Reports failure) (struck : Struck s after) :
      NotReady wire start s after failure
  | unreachable (reach : reachable start = false) : NotReady wire start s after (.addressOutOfReach start)

/-- The device is ready for the first page, or it is clear why not. -/
theorem beginPass_ends (hrest : plan.device.AtRest) (hcarries : wire.Carries s.link plan.device) :
    Ends (beginPass plan.start) s
      (fun _ ready => Calm s ready ∧
        ∃ b, Progress wire plan 0 ⟨plan.start, plan.stop, plan.pageSize⟩ .start (setMode .fast ready).2 b)
      fun failure after => NotReady wire plan.start s after failure ∧
        ∃ b, wire.Carries after.link b ∧ plan.device.Confined 0 0 b := by
  have hbegin : Exchange wire (beginPass plan.start) s.host plan.device _
      (fun failure _ b' => failure = .addressOutOfReach plan.start ∧ reachable plan.start = false ∧
        plan.device.Confined 0 0 b')
      (fun _ b' => plan.device.Confined 0 0 b') :=
    Exchange.beginPass hrest (fun _ _ hconfined => hconfined) fun hreach _ _ hconfined =>
      ⟨rfl, hreach, hconfined⟩
  refine (hbegin s rfl hcarries).mono ?_ ?_
  · rintro - ready ⟨hcalm, b, hb, hhost, hreach, hrest', haddr, hconfined⟩
    have hpointer : ready.host.pointer? = some plan.start := by
      rw [hhost]
      rfl
    exact ⟨hcalm, b, .start hpointer hb hrest' haddr hreach hconfined⟩
  · rintro failure after (⟨-, b', hb', rfl, hreach, hconfined⟩ | ⟨hreports, hstruck, b', hb', hconfined⟩)
    · exact ⟨.unreachable hreach, b', hb', hconfined⟩
    · exact ⟨.hit hreports hstruck, b', hb', hconfined⟩

/-- A pass over an accepted range, taken apart. What an invariant says beyond the progress made has
to hold once the device is ready, and to be kept by every page; how the pass ends is then a matter
of how each of its parts ends. -/
theorem programRange_yields {device : Device} {options : Options} (Inv : PassState → Session ω → Prop)
    {post : Pass → Session ω → Prop} (hsound : plan.Sound) (hrest : plan.device.AtRest)
    (hcarries : wire.Carries s.link plan.device)
    (hcursor : PageCursor.spanning plan.start plan.stop device.geometry.flashPageSize =
      .ok ⟨plan.start, plan.stop, plan.pageSize⟩)
    (himage : ¬plan.image.length32 < plan.stop)
    (hfails : ∀ failure after b', NotReady wire plan.start (s.opening plan.start plan.stop device)
      after failure →
      wire.Carries after.link b' → plan.device.Confined 0 0 b' → post (.stopped .empty failure) after)
    (hready : ∀ after, Calm (s.opening plan.start plan.stop device) after →
      Inv .start (setMode .fast after).2)
    (hpage : ∀ n cursor state s b, n < plan.total → Progress wire plan n cursor state s b → Inv state s →
      ∀ allowance (state' : PassState) s₁ b₁ after b' handling done total,
        Concluded wire (Progress.task plan options.retries cursor state s b) allowance state' s₁ b₁ after b' →
        b'.wrongAcks = b₁.wrongAcks → Inv (state'.count handling) (record (.progressed done total) after).2)
    (hstop : ∀ n cursor state s b, n < plan.total → Progress wire plan n cursor state s b → Inv state s →
      ∀ tally failure after, GivenUp wire (Progress.task plan options.retries cursor state s b)
        failure after → Contained wire (Progress.task plan options.retries cursor state s b) after →
        post (.stopped tally (.pageWrite cursor.current failure)) after)
    (hend : ∀ cursor state s b, Progress wire plan plan.total cursor state s b → Inv state s →
      ∀ tally after, PassEnd wire state.tally s b tally after → post (.complete tally) after) :
    Yields (programRange plan.image plan.start plan.stop device options) s post := by
  let cursor : PageCursor := ⟨plan.start, plan.stop, plan.pageSize⟩
  unfold programRange
  rw [hcursor]
  simp only [if_neg himage]
  refine Yields.step (Yields.step (Yields.bind
    (beginPass_ends (s := s.opening plan.start plan.stop device) hrest hcarries) ?_))
  rintro (failure | ⟨⟩) ready hafter
  · obtain ⟨hnotReady, b', hb', hconfined⟩ := hafter
    exact hfails failure ready b' hnotReady hb' hconfined
  obtain ⟨hcalm, b, hprogress⟩ := hafter
  have hstart : ∃ b, plan.total ≤ plan.total ∧
      Progress wire plan (plan.total - plan.total) cursor .start (setMode .fast ready).2 b ∧
        Inv .start (setMode .fast ready).2 := by
    rw [Nat.sub_self]
    exact ⟨b, Nat.le_refl _, hprogress, hready ready hcalm⟩
  refine Yields.step ?_
  change Yields (programPages _ _ (cursor.pagesFrom plan.start) (cursor.pagesFrom plan.start)
    cursor .start >>= _) _ _
  rw [hsound.pagesFrom_eq]
  refine Yields.bind (programPages_yields plan.image options.retries plan.total
    (fun left cursor state s => ∃ b, left ≤ plan.total ∧
      Progress wire plan (plan.total - left) cursor state s b ∧ Inv state s)
    (fun state failure after => post (.stopped state.tally failure) after) ?_ hstart) ?_
  · rintro left cursor state s ⟨b, hleft, hprogress, hinv⟩
    have hn : plan.total - (left + 1) < plan.total := by omega
    refine (hprogress.step hsound hn).mono ?_
    rintro ⟨(failure | handling), allowance, state'⟩ after hafter
    · exact hstop _ cursor state s b hn hprogress hinv _ _ after hafter.1 hafter.2
    · obtain ⟨s₁, b₁, b', hconcluded, hacks, hnext⟩ := hafter
      have hsucc : plan.total - (left + 1) + 1 = plan.total - left := by omega
      have hinv' := hpage _ cursor state s b hn hprogress hinv allowance state' s₁ b₁ after b'
        handling (plan.total - left) plan.total hconcluded hacks
      rw [hsucc] at hnext
      exact ⟨b', by omega, hnext _ _, hinv'⟩
  · rintro ⟨state, - | failure⟩ after hafter
    · obtain ⟨last, b, -, hprogress, hinv⟩ := hafter
      refine Yields.bind (endPass_yields hprogress.rest hprogress.carries) ?_
      intro tally final hfinal
      exact hend last state after b hprogress hinv tally final hfinal
    · exact hafter

/-- The parts of a pass over an accepted range, on any link: how the device is made ready, the
pages, and the end. -/
theorem programRange_parts {image : Image} {start stop : UInt32} {device : Device} {options : Options}
    (Ready : Session ω → Prop) {post : Pass → Session ω → Prop}
    (hcursor : PageCursor.spanning start stop device.geometry.flashPageSize =
      .ok ⟨start, stop, device.geometry.flashPageSize⟩)
    (himage : ¬image.length32 < stop)
    (hbegin : Ends (beginPass start) (s.opening start stop device) (fun _ ready => Ready ready)
      fun failure after => post (.stopped .empty failure) after)
    (hpages : ∀ ready, Ready ready →
      Yields (programPages image options.retries (Span.total ⟨start, stop, device.geometry.flashPageSize⟩)
        (Span.total ⟨start, stop, device.geometry.flashPageSize⟩)
          ⟨start, stop, device.geometry.flashPageSize⟩ .start)
        (setMode .fast ready).2 fun result after => match result.2 with
        | none => Yields (endPass result.1.tally) after fun tally final => post (.complete tally) final
        | some failure => post (.stopped result.1.tally failure) after) :
    Yields (programRange image start stop device options) s post := by
  obtain ⟨-, hsound⟩ := Span.sound_of_spanning hcursor
  unfold programRange
  rw [hcursor]
  simp only [if_neg himage]
  refine Yields.step (Yields.step (Yields.bind hbegin ?_))
  rintro (failure | ⟨⟩) ready hready
  · exact hready
  refine Yields.step ?_
  rw [hsound.pagesFrom_eq]
  refine Yields.bind (hpages ready hready) ?_
  rintro ⟨state, - | failure⟩ after hafter
  · exact Yields.bind hafter fun _ _ hfinal => hfinal
  · exact hafter

/-- A range that will not do is refused before anything has happened; any other is accepted. -/
theorem programRange_refused_or_accepted (image : Image) (start stop : UInt32) (device : Device)
    (options : Options) (s : Session ω) :
    (∃ failure, failure.root = .invalidRange ∧
      programRange image start stop device options s = (.refused failure, s)) ∨
      (PageCursor.spanning start stop device.geometry.flashPageSize =
        .ok ⟨start, stop, device.geometry.flashPageSize⟩ ∧ ¬image.length32 < stop) := by
  unfold programRange
  cases hcursor : PageCursor.spanning start stop device.geometry.flashPageSize with
  | error failure => exact .inl ⟨failure, PageCursor.root_of_spanning hcursor, rfl⟩
  | ok cursor =>
    obtain ⟨rfl, -⟩ := Span.sound_of_spanning hcursor
    by_cases himage : image.length32 < stop
    · simp only [if_pos himage]
      exact .inl ⟨_, rfl, rfl⟩
    · exact .inr ⟨rfl, himage⟩

end Session

end Bootflash
