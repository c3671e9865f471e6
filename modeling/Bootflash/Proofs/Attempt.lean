import Bootflash.Proofs.Page

namespace Bootflash

/-- How a page is dealt with. -/
def Handling.of (page : List UInt8) : Handling :=
  if isBlank page then .skipped else .written

namespace Bootloader

/-- Whether a block write of the pass was acknowledged, as the host has it, is known to the device as well. -/
def Probed (probed : Bool) (b : Bootloader) : Prop :=
  probed = true → b.probed = true ∧ b.firmware.refusesBlocks = false

/-- The device is ready for a try at the page under the cursor. -/
structure Poised (cursor : PageCursor) (probed : Bool) (b : Bootloader) : Prop where
  rest : b.AtRest
  addr : b.addr = cursor.current.toNat
  page : cursor.OnPage b
  probed : b.Probed probed

variable {b b' : Bootloader} {lo hi : Nat} {probed : Bool}

theorem Confined.keepsProbed (h : b.Confined lo hi b') (hprobed : b.Probed probed) : b'.Probed probed := by
  intro hp
  rw [h.firmware]
  exact ⟨h.probed (hprobed hp).1, (hprobed hp).2⟩

end Bootloader

namespace Session

variable {ω α : Type} [Link ω] {wire : Wire ω} {cursor : PageCursor} {page : List UInt8} {probed : Bool}
  {s m : Session ω} {b c : Bootloader}

/-- Why a try failed: a call of the link did, a rule replaced the acknowledgement of a block, or the
address of the next page cannot be sent. In the last two cases every call went through. -/
inductive Mishap (wire : Wire ω) (cursor : PageCursor) (s after : Session ω)
    (b b' : Bootloader) : Failure → Prop
  | hit {failure} (reports : wire.Reports failure) (struck : Struck s after) :
      Mishap wire cursor s after b b' failure
  | misled {byte} (calm : Calm s after) (wrongAcks : b'.wrongAcks = b.wrongAcks + 1) :
    Mishap wire cursor s after b b' (.command "fastWrite" [byte])
  | unreachable (calm : Calm s after) (reach : reachable cursor.next = false) :
    Mishap wire cursor s after b b' (.addressOutOfReach cursor.next)

/-- The mode is what it was, unless blocks were refused on the way. -/
def ModeKept (page : List UInt8) (b : Bootloader) (mode mode' : WriteMode) : Prop :=
  mode' = mode ∨ (mode' = .slow ∧ b.firmware.refusesBlocks = true ∧ isBlank page = false)

/-- Where a try that fails leaves host and device. -/
structure Half (cursor : PageCursor) (page : List UInt8) (probed : Bool) (host : Host)
    (b : Bootloader) (host' : Host) (b' : Bootloader) : Prop where
  upset : b.Upset cursor page b'
  probed : b'.Probed probed
  mode : ModeKept page b host.mode host'.mode

/-- What a try at the page under the cursor comes to, from a session with this device at its far end. -/
inductive TryEnds (wire : Wire ω) (cursor : PageCursor) (page : List UInt8) (s : Session ω) (b : Bootloader)
    (Done : α → Host → Bootloader → Prop) : Attempt α → Session ω → Prop
  | done {outcome probed after b'} (calm : Calm s after) (carries : wire.Carries after.link b')
    (hprobed : b'.Probed probed) (hdone : Done outcome after.host b') :
    TryEnds wire cursor page s b Done ⟨outcome, none, probed⟩ after
  | failed {outcome failure probed after b'} (carries : wire.Carries after.link b')
    (half : Half cursor page probed s.host b after.host b')
    (mishap : Mishap wire cursor s after b b' failure) :
    TryEnds wire cursor page s b Done ⟨outcome, some failure, probed⟩ after

/-- A try ends with its last operation, when everything before went through. -/
theorem Exchange.tryEnds {Done : α → Host → Bootloader → Prop} {outcome : α} {operation : SessionM ω Unit}
    (h : Exchange wire operation m.host c (fun _ host' b' => b'.Probed probed ∧ Done outcome host' b')
      (fun failure host' b' => Half cursor page probed s.host b host' b' ∧
        failure = .addressOutOfReach cursor.next ∧ reachable cursor.next = false)
      (Half cursor page probed s.host b))
    (hcalm : Calm s m) (hcarries : wire.Carries m.link c) :
    Yields (do return ⟨outcome, ← Session.failureOf operation, probed⟩) m
      (TryEnds wire cursor page s b Done) := by
  refine Yields.bind (Yields.failureOf ((h m rfl hcarries).mono ?_ ?_)) fun _ _ htried => htried
  · rintro - after ⟨hcalm', b', hb', hprobed, hdone⟩
    exact .done (hcalm.trans hcalm') hb' hprobed hdone
  · rintro failure after (⟨hcalm', b', hb', hhalf, rfl, hreach⟩ | ⟨hreports, hstruck, b', hb', hhalf⟩)
    · exact .failed hb' hhalf (.unreachable (hcalm.trans hcalm') hreach)
    · exact .failed hb' hhalf (.hit hreports (hcalm.struck hstruck))

/-- The page under the cursor was dealt with, and the host knows where the device's pointer is. -/
structure Finished (cursor : PageCursor) (page : List UInt8) (host : Host) (b : Bootloader)
    (handling : Handling) (host' : Host) (b' : Bootloader) : Prop where
  handling : handling = .of page
  host : host' = host.trust cursor.next
  settled : b.Settled cursor page b'

/-- Blocks were refused. Nothing happened to the page, and it is to be sent byte by byte from now on. -/
structure BlocksRefused (cursor : PageCursor) (page : List UInt8) (host : Host) (b : Bootloader)
    (host' : Host) (b' : Bootloader) : Prop where
  host : host' = { host with mode := .slow }.trust cursor.current
  rest : b'.AtRest
  addr : b'.addr = cursor.current.toNat
  confined : b.Confined 0 0 b'
  wrongAcks : b'.wrongAcks = b.wrongAcks
  refuses : b.firmware.refusesBlocks = true
  notBlank : isBlank page = false

/-- What a try in the session's mode comes to when it does not fail. A page that went out as a block
was taken as one. -/
def PageDone (cursor : PageCursor) (page : List UInt8) (host : Host) (b : Bootloader) :
    PageOutcome → Host → Bootloader → Prop
  | .settled handling, host', b' =>
    Finished cursor page host b handling host' b' ∧
      (isBlank page = false → host.mode ≠ .slow → b.firmware.refusesBlocks = false)
  | .redo, host', b' => BlocksRefused cursor page host b host' b'

theorem writeSlowly_tryEnds {Done : α → Host → Bootloader → Prop} {outcome : α}
    (hpoised : b.Poised cursor probed) (hlength : page.length = cursor.pageSize.toNat)
    (hblank : isBlank page = false) (hcarries : wire.Carries s.link b)
    (hdone : ∀ host' b', Finished cursor page s.host b .written host' b' → Done outcome host' b') :
    Yields (do return ⟨outcome, ← failureOf (writeSlowly cursor page), probed⟩) s
      (TryEnds wire cursor page s b Done) := by
  refine Exchange.tryEnds (Exchange.returning (Exchange.writeSlowly hpoised.rest hpoised.addr
    hpoised.page hlength hblank ?_ ?_) ?_) (.refl s) hcarries
  · intro _ b' hmode hupset
    exact ⟨hupset, hupset.same.keepsProbed hpoised.probed, .inl hmode⟩
  · intro hreach _ b' hmode hupset
    exact ⟨⟨hupset, hupset.same.keepsProbed hpoised.probed, .inl hmode⟩, rfl, hreach⟩
  · rintro - host' b' ⟨hhost, hsettled⟩
    have hwritten : Handling.written = .of page := by simp [Handling.of, hblank]
    exact ⟨hsettled.same.keepsProbed hpoised.probed, hdone host' b' ⟨hwritten, hhost, hsettled⟩⟩

theorem trySlowly_yields (hpoised : b.Poised cursor probed) (hlength : page.length = cursor.pageSize.toNat)
    (hblank : isBlank page = false) (hcarries : wire.Carries s.link b) :
    Yields (trySlowly cursor page probed) s (TryEnds wire cursor page s b (Finished cursor page s.host b)) :=
  writeSlowly_tryEnds hpoised hlength hblank hcarries fun _ _ hfinished => hfinished

/-- A blank page is passed over. -/
theorem skipPage_tryEnds (hpoised : b.Poised cursor probed) (hblank : isBlank page = true)
    (hcarries : wire.Carries s.link b) :
    Yields (do return ⟨.settled .skipped, ← failureOf (setAddress cursor.next), probed⟩) s
      (TryEnds wire cursor page s b (PageDone cursor page s.host b)) := by
  have hplaced : b.Placed cursor page b :=
    ⟨hpoised.rest, .refl _ _ b, rfl, by simp [hblank], fun _ => rfl⟩
  refine Exchange.tryEnds ((Exchange.moveOn hplaced ?_ ?_).returning ?_) (.refl s) hcarries
  · intro b' hconfined hupset
    exact ⟨hupset, hconfined.keepsProbed hpoised.probed, .inl rfl⟩
  · intro hreach hupset
    exact ⟨⟨hupset, hpoised.probed, .inl rfl⟩, rfl, hreach⟩
  · rintro - host' b' ⟨hhost, hconfined, hsettled⟩
    refine ⟨hconfined.keepsProbed hpoised.probed, ⟨?_, hhost, hsettled⟩, ?_⟩
    · simp [Handling.of, hblank]
    · simp [hblank]

/-- Once blocks are refused, the pointer is put back and the page waits to be sent byte by byte. -/
theorem refuseBlocks_tryEnds (hpoised : b.Poised cursor probed) (hblank : isBlank page = false)
    (hrefuses : b.firmware.refusesBlocks = true) (hcalm : Calm s m) (hhost : m.host = s.host.forget)
    (hcarries : wire.Carries m.link (b.ran .writeBlock [])) :
    Yields (do
        note .blocksRefused
        update fun host => { host with mode := .slow }
        return ⟨.redo, ← failureOf (setAddress cursor.current), probed⟩) m
      (TryEnds wire cursor page s b (PageDone cursor page s.host b)) := by
  let c := b.ran .writeBlock []
  have hrest : c.AtRest := hpoised.rest.ran _ _
  have hconfined : b.Confined 0 0 c := Bootloader.confined_ran hpoised.rest.buffer rfl
  have hpointed : b.Confined 0 0 (c.pointed cursor.current) :=
    hconfined.trans (Bootloader.confined_ran hrest.buffer rfl)
  let noted : Session ω := (note .blocksRefused m).2
  let slow : Session ω := (update (fun host => { host with mode := .slow }) noted).2
  have hslow : Calm s slow := (hcalm.trans (calm_note _ m)).trans (calm_update _ noted)
  have hslowHost : slow.host = { s.host.forget with mode := .slow } := by
    change { m.host with mode := .slow } = _
    rw [hhost]
  have hmode : ModeKept page b s.host.mode slow.host.mode := .inr ⟨rfl, hrefuses, hblank⟩
  refine Yields.step (Yields.step ?_)
  refine Exchange.tryEnds ((Exchange.setAddress hrest.ready hpoised.page.reach ?_ ?_).returning ?_)
    hslow hcarries
  · exact ⟨hconfined.upset hrest.idle (by simp [hrest.heard]), hconfined.keepsProbed hpoised.probed, hmode⟩
  · exact ⟨(hpointed.with_output [ack]).upset (hrest.ran _ _).idle (by simp),
      (hpointed.with_output [ack]).keepsProbed hpoised.probed, hmode⟩
  · rintro - host' b' ⟨hhost', hb⟩
    subst host' b'
    refine ⟨hpointed.keepsProbed hpoised.probed, ?_, hrest.ran _ _,
      Bootloader.addr_pointed hpoised.page.reach, hpointed, ?_, hrefuses, hblank⟩
    · rw [show ((update (fun host => { host with mode := .slow }) (note .blocksRefused m).2).2 :
        Session ω).host = _ from hslowHost]
      rfl
    · simp [c, Bootloader.pointed]

/-- The data of a block that was not refused. -/
theorem sendBlock_tryEnds (hpoised : b.Poised cursor probed) (hlength : page.length = cursor.pageSize.toNat)
    (hblank : isBlank page = false) (htakes : b.firmware.refusesBlocks = false) (hcalm : Calm s m)
    (hhost : m.host = s.host.forget) (hcarries : wire.Carries m.link b.awaiting) :
    Yields (do
        match ← (sendBlock page).run with
        | .error failure => return ⟨.settled .written, some failure, probed⟩
        | .ok () => return ⟨.settled .written, ← failureOf (setAddress cursor.next), true⟩) m
      (TryEnds wire cursor page s b (PageDone cursor page s.host b)) := by
  have hsend : Exchange wire (sendBlock page) m.host b.awaiting
      (fun _ host' b' => host' = m.host ∧ b'.probed = true ∧ b.Placed cursor page b')
      (fun failure host' b' => Half cursor page probed s.host b host' b' ∧
        ∃ byte, failure = .command "fastWrite" [byte] ∧ b'.wrongAcks = b.wrongAcks + 1)
      (Half cursor page probed s.host b) := by
    refine Exchange.blockData hpoised.rest hpoised.addr hpoised.page hlength hblank ?_ ?_
    · intro b' hupset
      exact ⟨hupset, hupset.same.keepsProbed hpoised.probed, .inl (by rw [hhost]; rfl)⟩
    · intro byte b' hupset hacks
      exact ⟨⟨hupset, hupset.same.keepsProbed hpoised.probed, .inl (by rw [hhost]; rfl)⟩, byte, rfl, hacks⟩
  refine Yields.bind (hsend m rfl hcarries) ?_
  rintro (failure | ⟨⟩) m' hm'
  · rcases hm' with ⟨hcalm', b', hb', hhalf, byte, rfl, hacks⟩ | ⟨hreports, hstruck, b', hb', hhalf⟩
    · exact .failed hb' hhalf (.misled (hcalm.trans hcalm') hacks)
    · exact .failed hb' hhalf (.hit hreports (hcalm.struck hstruck))
  · obtain ⟨hcalm', c, hc, hhost', hprobed, hplaced⟩ := hm'
    have hmode : m'.host.mode = s.host.mode := by rw [hhost', hhost]; rfl
    have hcprobed : c.Probed true := fun _ => ⟨hprobed, by rw [hplaced.same.firmware, htakes]⟩
    refine Exchange.tryEnds ((Exchange.moveOn hplaced ?_ ?_).returning ?_)
      (hcalm.trans hcalm') hc
    · intro b' hconfined hupset
      exact ⟨hupset, hconfined.keepsProbed hcprobed, .inl hmode⟩
    · intro hreach hupset
      exact ⟨⟨hupset, hcprobed, .inl hmode⟩, rfl, hreach⟩
    · rintro - host' b' ⟨hhost'', hconfined, hsettled⟩
      refine ⟨hconfined.keepsProbed hcprobed, ⟨?_, ?_, hsettled⟩, fun _ _ => htakes⟩
      · simp [Handling.of, hblank]
      · rw [hhost'', hhost', hhost]
        rfl

/-- Any try at a page for which the device is poised settles it, is refused, or fails in a way that
can be recovered from. -/
theorem tryPage_yields (hpoised : b.Poised cursor probed) (hlength : page.length = cursor.pageSize.toNat)
    (hcarries : wire.Carries s.link b) :
    Yields (tryPage cursor page probed) s (TryEnds wire cursor page s b (PageDone cursor page s.host b)) := by
  unfold tryPage
  by_cases hblank : isBlank page = true
  · rw [if_pos hblank]
    exact skipPage_tryEnds hpoised hblank hcarries
  have hwritten : isBlank page = false := by simpa using hblank
  rw [if_neg hblank]
  refine Yields.step ?_
  change Yields (if s.host.mode = .slow then _ else _) s _
  by_cases hslow : s.host.mode = .slow
  · rw [if_pos hslow]
    refine writeSlowly_tryEnds hpoised hlength hwritten hcarries ?_
    intro host' b' hfinished
    exact ⟨hfinished, fun _ hfast => absurd hslow hfast⟩
  rw [if_neg hslow]
  have hoffer : Exchange wire (offerBlock probed) s.host b _ (fun _ _ _ => False)
      (Half cursor page probed s.host b) :=
    Exchange.offerBlock hpoised.rest hpoised.addr hwritten hpoised.probed fun _ hupset =>
      ⟨hupset, hupset.same.keepsProbed hpoised.probed, .inl rfl⟩
  refine Yields.bind (hoffer s rfl hcarries) ?_
  rintro (failure | accepted) m hm
  · rcases hm with ⟨-, -, -, hfalse⟩ | ⟨hreports, hstruck, b', hb', hhalf⟩
    · exact hfalse.elim
    · exact .failed hb' hhalf (.hit hreports hstruck)
  · obtain ⟨hcalm, b', hb', hhost, ⟨hrefuses, rfl, rfl⟩ | ⟨htakes, rfl, rfl⟩⟩ := hm
    · exact refuseBlocks_tryEnds hpoised hwritten hrefuses hcalm hhost hb'
    · exact sendBlock_tryEnds hpoised hlength hwritten htakes hcalm hhost hb'

end Session

end Bootflash
