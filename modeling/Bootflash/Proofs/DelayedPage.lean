import Bootflash.Proofs.DelayedLink
import Bootflash.Proofs.Page
import Bootflash.Programming.Retry

namespace Bootflash

namespace Session

variable {setting : Setting} {P Q R : WriteMode → Bootloader → Prop} {bad : WriteMode → Bootloader → Prop}

/-- What a device that refuses blocks is offered, and what is read then, shows whether its refusal
was missed. -/
theorem OnTrack.missed {s after : Session (Faulty Bootloader)} {before host host' : Host}
    {failure : Option Failure} {limit : Nat} {reading : Reading} (h : OnTrack setting s)
    (hrefuses : setting.refuses = true)
    (hbytes : reading.bytes ≠ [reject])
    (hjournal : after.journal =
      (s.journal.push ⟨before, host, .wrote [Opcode.writeBlock.byte] failure⟩).push
        ⟨host', host', .read limit reading⟩) :
    Missed setting after := by
  refine ⟨hrefuses, ⟨before, host, .wrote [Opcode.writeBlock.byte] failure⟩,
    ⟨host', host', .read limit reading⟩, ?_, rfl, decide_eq_true hbytes⟩
  have hlist : after.journal.toList.drop setting.past = s.journal.toList.drop setting.past ++
      [⟨before, host, .wrote [Opcode.writeBlock.byte] failure⟩, ⟨host', host', .read limit reading⟩] := by
    have hpast : setting.past ≤ s.journal.toList.length := by simpa using h.journal
    rw [hjournal, Journal.toList_push, Journal.toList_push, List.append_assoc,
      List.drop_append_of_le_length hpast]
    rfl
  rw [hlist]
  exact (List.suffix_append _ _).isInfix

theorem journal_transmit {ω : Type} [Link ω] {s : Session ω} {change : Host → Host} {bytes : List UInt8} :
    Ends (transmit change bytes) s
      (fun _ after => ∃ failure, after.journal = s.journal.push ⟨s.host, change s.host, .wrote bytes failure⟩)
      (fun _ _ => True) := by
  let failure := (Link.write bytes s.link).1
  let sent : Session ω := ⟨(Link.write bytes s.link).2, change s.host,
    s.journal.push ⟨s.host, change s.host, .wrote bytes failure⟩⟩
  refine Ends.step failure sent rfl ?_
  cases failure with
  | none => exact Ends.pure ⟨_, rfl⟩
  | some failure => exact Ends.throw trivial

theorem journal_receive {ω : Type} [Link ω] {s : Session ω} {limit : Nat} :
    Ends (receive limit) s (fun bytes after => ∃ reading, reading.bytes = bytes ∧
      after.journal = s.journal.push ⟨s.host, s.host, .read limit reading⟩) (fun _ _ => True) := by
  refine Ends.step (read limit s).1 (read limit s).2 rfl ?_
  cases hfailure : (read limit s).1.failure with
  | none => exact Ends.pure ⟨_, rfl, rfl⟩
  | some failure => exact Ends.throw trivial

namespace Delayed

theorem awaitHighByte {reads : Nat} : Delayed setting P (awaitHighByte reads) (fun _ => P) P := by
  induction reads with
  | zero => exact throw fun _ _ hP => hP
  | succ reads ih =>
    have hbyte : Delayed setting P Session.receiveByte (fun _ => P) P := receiveByte fun _ _ _ hP _ => hP
    refine bind hbyte fun byte => ?_
    cases byte with
    | none => exact throw fun _ _ hP => hP
    | some byte =>
      by_cases hack : byte = ack
      · simp only [if_pos hack]
        exact pure fun _ _ hP => hP
      · simp only [if_neg hack]
        by_cases hfiller : byte = filler
        · simp only [if_pos hfiller]
          exact ih
        · simp only [if_neg hfiller]
          exact throw fun _ _ hP => hP

/-- Fillers look like refusals, so words are for devices that refuse blocks anyway. -/
theorem loadWord {low high : UInt8} (hrefuses : setting.refuses = true)
    (hlow : ∀ mode b, P mode b → b.AtRest ∧ R mode (b.ran .loadLow [low]))
    (hhigh : ∀ mode b, R mode b → b.AtRest ∧ Q mode (b.ran .loadHigh [high])) :
    Delayed setting P (loadWord low high) (fun _ => Q) (fun mode b => R mode b ∨ Q mode b) := by
  have hfirst : Delayed setting P (execMoving "writeLow" [Opcode.loadLow.byte, low]) (fun _ => R) R :=
    acknowledged .loadLow Host.forget (by decide) rfl (fun _ => rfl) (fun _ => rfl) hlow
  have hsecond : Delayed setting R (send [Opcode.loadHigh.byte, high]) (fun _ => Q) Q := by
    refine tell .loadHigh id (by decide) rfl (fun _ => rfl) fun mode b hR => ?_
    obtain ⟨hrest, hQ⟩ := hhigh mode b hR
    exact ⟨hrest, fun htakes => absurd (hrefuses.symm.trans htakes) (by decide), hQ⟩
  refine bind (hfirst.failing fun _ _ hR => .inl hR) fun _ => ?_
  refine bind (hsecond.failing fun _ _ hQ => .inr hQ) fun _ => ?_
  exact awaitHighByte.failing fun _ _ hQ => .inr hQ

theorem commitPage (h : ∀ mode b, P mode b → b.AtRest ∧ Q mode (b.ran .writePage [])) :
    Delayed setting P commitPage (fun _ => Q) Q :=
  acknowledged .writePage id (by decide) rfl (fun _ => rfl) (fun _ => rfl) h

/-- Whether it is confirmed or not, a page is erased. -/
theorem erasePage (h : ∀ mode b, P mode b → b.AtRest ∧ Q mode (b.ran .erasePage [])) :
    Delayed setting P erasePage (fun _ => Q) bad := by
  have herase : Delayed setting P (sendMoving [Opcode.erasePage.byte]) (fun _ => Q) bad := by
    refine tell .erasePage Host.forget (by decide) rfl (fun _ => rfl) fun mode b hP => ?_
    exact ⟨(h mode b hP).1, fun _ => (by decide : reject ∉ [ack]), (h mode b hP).2⟩
  refine bind herase fun _ => ?_
  have hbyte : Delayed setting Q Session.receiveByte (fun _ => Q) bad := receiveByte fun _ _ _ hQ _ => hQ
  refine bind hbyte fun answer => ?_
  by_cases hanswer : answer = some ack
  · rw [if_neg (not_not_intro hanswer)]
    exact pure fun _ _ hQ => hQ
  · rw [if_pos hanswer]
    exact fun _ hs => hs.push rfl rfl rfl

/-- A device that takes blocks waits for the page once it is announced, and whatever is read is not
taken for a refusal. -/
theorem offerBlock_of_takes {probed : Bool} (htakes : setting.refuses = false)
    (h : ∀ mode b, P mode b → b.AtRest ∧ b.firmware.refusesBlocks = false) :
    Delayed setting P (offerBlock probed)
      (fun accepted mode b' => accepted = true ∧ ∃ b, P mode b ∧ b' = b.awaiting) bad := by
  have hannounce : Delayed setting P announceBlock
      (fun _ mode b' => ∃ b, P mode b ∧ b' = b.awaiting) bad := by
    refine transmit Host.forget (fun _ => rfl) fun mode b hP => ?_
    obtain ⟨hrest, htakes⟩ := h mode b hP
    rw [hrest.receive_writeBlock_of_takes htakes]
    refine ⟨fun _ => ?_, b, hP, ?_⟩
    · change reject ∉ if b.probed then ([] : List UInt8) else [0x21]
      cases b.probed <;> decide
    · exact Bootloader.with_output_nil hrest.output_awaiting
  refine bind hannounce fun _ => ?_
  cases probed with
  | true => exact pure fun _ _ hb => ⟨rfl, hb⟩
  | false =>
    have hbyte : Delayed setting (fun mode b' => ∃ b, P mode b ∧ b' = b.awaiting) Session.receiveByte
        (fun byte mode b' => byte ≠ some reject ∧ ∃ b, P mode b ∧ b' = b.awaiting) bad :=
      receiveByte fun _ _ _ hb hclean => ⟨hclean htakes, hb⟩
    refine bind hbyte fun byte => ?_
    match byte with
    | none => exact pure fun _ _ hb => ⟨rfl, hb.2⟩
    | some byte =>
      by_cases hreject : byte = reject
      · simp only [if_pos hreject]
        exact pure fun _ _ hb => absurd (congrArg some hreject) hb.1
      · simp only [if_neg hreject]
        exact bind note fun _ => pure fun _ _ hb => ⟨rfl, hb.2⟩

/-- A device that refuses blocks stays at rest when it is offered one, and the host hears of it or
misses it. -/
theorem offerBlock_of_refuses (hrefuses : setting.refuses = true)
    (h : ∀ mode b, P mode b → b.AtRest ∧ b.firmware.refusesBlocks = true) :
    Delayed setting P (offerBlock false)
      (fun accepted mode b' => accepted = false ∧ ∃ b, P mode b ∧ b' = b.ran .writeBlock [])
      bad := by
  let refused : WriteMode → Bootloader → Prop := fun mode b' => ∃ b, P mode b ∧ b' = b.ran .writeBlock []
  have hannounce : Delayed setting P announceBlock (fun _ => refused) bad := by
    refine transmit Host.forget (fun _ => rfl) fun mode b hP => ?_
    obtain ⟨hrest, hblocks⟩ := h mode b hP
    rw [hrest.receive_writeBlock_of_refuses hblocks]
    refine ⟨fun htakes => absurd (hrefuses.symm.trans htakes) (by decide), b, hP, ?_⟩
    exact Bootloader.with_output_nil (hrest.ran .writeBlock []).heard
  have hreceive : Delayed setting refused (Session.receive 1) (fun _ => refused) bad :=
    receive 1 fun _ _ _ hb _ => hb
  intro s hs
  refine Ends.bind (((hannounce s hs).and journal_transmit).failing fun _ _ h => h.1) ?_
  rintro ⟨⟩ announced ⟨hannounced, failure, hjournal⟩
  -- Whatever is read now, unless it is the refusal, shows that the refusal was missed.
  have hmissed : ∀ reading after, reading.bytes ≠ [reject] →
      after.journal = announced.journal.push ⟨announced.host, announced.host, .read 1 reading⟩ →
        Missed setting after := by
    intro reading after hbytes hafter
    rcases hs with hmissed | ⟨htrack, -⟩
    · exact (hmissed.push hjournal).push hafter
    · exact htrack.missed hrefuses hbytes (hafter.trans (by rw [hjournal]))
  have hread := ((hreceive announced hannounced).and journal_receive).failing fun _ _ h => h.1
  have hbyte : Ends Session.receiveByte announced (fun byte after => Under setting refused after ∧
      (byte = some reject ∨ Missed setting after)) (fun _ => Under setting bad) := by
    refine Ends.bind hread ?_
    rintro bytes after ⟨hunder, reading, rfl, hafter⟩
    by_cases hbytes : reading.bytes = [reject]
    · rw [hbytes]
      exact Ends.pure ⟨hunder, .inl rfl⟩
    · split <;> exact Ends.pure ⟨hunder, .inr (hmissed reading after hbytes hafter)⟩
  refine Ends.bind hbyte ?_
  rintro byte after ⟨hunder, rfl | hmissed⟩
  · exact Ends.pure (hunder.mono fun _ _ hb => ⟨rfl, hb⟩)
  · match byte with
    | none => exact Ends.pure (.inl hmissed)
    | some byte =>
      by_cases hreject : byte = reject
      · simp only [if_pos hreject]
        exact Ends.pure (.inl hmissed)
      · simp only [if_neg hreject]
        exact .inl (hmissed.push rfl)

end Delayed

end Session

/-- A page to be dealt with over a link that may be late, whether a block of the pass has been
acknowledged by then, and what holds of the device as long as nothing but the page is touched. -/
structure PageJob where
  setting : Setting
  cursor : PageCursor
  page : List UInt8
  probed : Bool
  Invariant : Bootloader → Prop

namespace PageJob

/-- The page fits where it goes, and the device answers everything as it should. -/
structure Sound (job : PageJob) : Prop where
  length : job.page.length = job.cursor.pageSize.toNat
  even : job.cursor.pageSize.toNat % 2 = 0
  onPage : ∀ {b}, job.Invariant b → job.cursor.OnPage b
  refuses : ∀ {b}, job.Invariant b → b.firmware.refusesBlocks = job.setting.refuses
  rules : ∀ {b}, job.Invariant b → b.firmware.rules = []
  frame : ∀ {b b'}, job.Invariant b → b.SamePages job.cursor b' → job.Invariant b'

/-- Between two commands of the job. Pages go byte by byte only to a device that refuses blocks, and
one that has acknowledged a block takes them. -/
structure Midway (job : PageJob) (mode : WriteMode) (b : Bootloader) : Prop where
  rest : b.AtRest
  keeps : job.Invariant b
  blank : isBlank job.page = true → b.PageErased job.cursor
  mode : mode = .slow → job.setting.refuses = true
  probed : job.probed = true → job.setting.refuses = false

/-- The pointer is at the page. -/
structure PointerAtPage (job : PageJob) (mode : WriteMode) (b : Bootloader) : Prop
    extends job.Midway mode b where
  addr : b.addr = job.cursor.current.toNat

/-- The page is in the flash. -/
structure Written (job : PageJob) (mode : WriteMode) (b : Bootloader) : Prop extends job.Midway mode b where
  holds : b.flash.slice job.cursor.current.toNat job.cursor.pageSize.toNat = job.page

/-- The page is in the flash and the pointer at the next one. -/
structure Done (job : PageJob) (mode : WriteMode) (b : Bootloader) : Prop extends job.Written mode b where
  addr : b.addr = job.cursor.next.toNat
  reach : Session.reachable job.cursor.next = true

/-- The first `n` bytes of the page are in the page buffer. -/
structure Loaded (job : PageJob) (n : Nat) (mode : WriteMode) (b : Bootloader) : Prop
    extends job.Midway mode b where
  filling : b.Filling job.page job.cursor.current.toNat n

variable {job : PageJob} {mode : WriteMode} {b b' : Bootloader}

/-- What leaves the flash alone leaves the job where it is. -/
theorem Midway.step (h : job.Midway mode b) (hjob : job.Sound) (hrest : b'.AtRest)
    (hconfined : b.Confined 0 0 b') :
    job.Midway mode b' := by
  refine ⟨hrest, hjob.frame h.keeps (hconfined.widen (.inl (Nat.le_refl 0))), fun hblank => ?_,
    h.mode, h.probed⟩
  rw [Bootloader.PageErased, hconfined.flash.eq_of_le (Nat.le_refl 0)]
  exact h.blank hblank

theorem Midway.ran {op : Opcode} {arguments : List UInt8} (h : job.Midway mode b) (hjob : job.Sound)
    (hflash : (b.ran op arguments).flash = b.flash) : job.Midway mode (b.ran op arguments) :=
  h.step hjob (h.rest.ran _ _) (Bootloader.confined_ran h.rest.buffer hflash)

theorem Midway.pointerAtPage_pointed (h : job.Midway mode b)
    (hjob : job.Sound) : job.PointerAtPage mode (b.pointed job.cursor.current) :=
  ⟨h.ran hjob rfl, Bootloader.addr_pointed (hjob.onPage h.keeps).reach⟩

/-- A blank page is in the flash of a device on which it is erased. -/
theorem Midway.written_of_blank (h : job.Midway mode b) (hjob : job.Sound)
    (hblank : isBlank job.page = true) :
    job.Written mode b := by
  refine ⟨h, ?_⟩
  rw [isBlank_iff.mp hblank, hjob.length]
  exact h.blank hblank

/-- What puts the page into its place and touches nothing else. -/
theorem Midway.written (h : job.Midway mode b) (hjob : job.Sound) (hrest : b'.AtRest)
    (hsame : b.SamePages job.cursor b')
    (hholds : b'.flash.slice job.cursor.current.toNat job.cursor.pageSize.toNat = job.page) :
    job.Written mode b' := by
  refine ⟨⟨hrest, hjob.frame h.keeps hsame, fun hblank => ?_, h.mode, h.probed⟩, hholds⟩
  rw [Bootloader.PageErased, Memory.ErasedAt, hholds, ← hjob.length]
  exact isBlank_iff.mp hblank

open Session (Delayed DelayedStep)

theorem Sound.loadWords (hjob : job.Sound) (hrefuses : job.setting.refuses = true) {n : Nat}
    {words : List UInt8} (hdrop : job.page.drop n = words) (heven : words.length % 2 = 0)
    (hn : n ≤ job.page.length) :
    Delayed job.setting (job.Loaded n) (Session.loadWords words)
      (fun _ => job.Loaded job.page.length) job.Midway := by
  induction words using Session.loadWords.induct generalizing n with
  | case1 low high rest ih =>
    have hwords : (low :: high :: rest).length = job.page.length - n := by rw [← hdrop, List.length_drop]
    simp only [List.length_cons] at hwords heven
    have hdrop' : job.page.drop (n + 2) = rest := by
      rw [← List.drop_drop, hdrop]
      rfl
    -- Between the bytes of a word.
    let half : WriteMode → Bootloader → Prop :=
      fun mode b' => ∃ b, job.Loaded n mode b ∧ b' = b.ran .loadLow [low]
    have hword : Delayed job.setting (job.Loaded n) (Session.loadWord low high) (fun _ => job.Loaded (n + 2))
        (fun mode b => half mode b ∨ job.Loaded (n + 2) mode b) := by
      refine Delayed.loadWord hrefuses (fun mode b h => ⟨h.rest, b, h, rfl⟩) ?_
      rintro mode _ ⟨b, h, rfl⟩
      have hlow : job.Midway mode (b.ran .loadLow [low]) := h.toMidway.ran hjob rfl
      exact ⟨hlow.rest, hlow.ran hjob rfl, h.filling.step hdrop⟩
    refine Delayed.bind (hword.failing ?_) fun _ => ih hdrop' (by omega) (by omega)
    rintro mode _ (⟨b, h, rfl⟩ | h)
    · exact h.toMidway.ran hjob rfl
    · exact h.toMidway
  | case2 words hshort =>
    obtain ⟨rfl, rfl⟩ := Bootloader.eq_nil_of_drop_eq hdrop heven hn hshort
    exact Delayed.pure fun _ _ h => h

/-- The address of the next page is sent once the page is in its place. -/
theorem Sound.moveOn (hjob : job.Sound) : Delayed job.setting job.Written
    (Session.setAddress job.cursor.next) (fun _ => job.Done) job.Midway := by
  refine Delayed.setAddress (fun _ _ h => h.rest) ?_ (fun _ _ h => h.toMidway.ran hjob rfl)
    fun _ _ h => h.toMidway
  intro mode b h hreach
  exact ⟨⟨h.toMidway.ran hjob rfl, h.holds⟩, Bootloader.addr_pointed hreach, hreach⟩

/-- A page that is sent byte by byte is in the flash if the last of its commands is confirmed,
whatever the confirmations are of. -/
theorem Sound.writeSlowly (hjob : job.Sound) (hrefuses : job.setting.refuses = true) :
    Delayed job.setting job.PointerAtPage (Session.writeSlowly job.cursor job.page)
      (fun _ => job.Done) job.Midway := by
  have hload : Delayed job.setting job.PointerAtPage (Session.loadWords job.page)
      (fun _ => job.Loaded job.page.length) job.Midway := by
    refine (hjob.loadWords hrefuses (n := 0) rfl (hjob.length ▸ hjob.even) (Nat.zero_le _)).given ?_
    intro mode b h
    exact ⟨h.toMidway, h.rest.filling (hjob.onPage h.keeps) h.addr hjob.length⟩
  refine Delayed.bind hload fun _ => ?_
  -- The pointer is put back, and the page is committed under it.
  let back : WriteMode → Bootloader → Prop := fun mode b' =>
    ∃ b, job.Loaded job.page.length mode b ∧ b' = b.pointed job.cursor.current
  have hback : Delayed job.setting (job.Loaded job.page.length)
      (Session.setAddress job.cursor.current) (fun _ => back)
      job.Midway := by
    refine Delayed.setAddress (fun _ _ h => h.rest) (fun mode b h _ => ⟨b, h, rfl⟩) ?_ fun _ _ h => h.toMidway
    exact fun _ _ h => h.toMidway.ran hjob rfl
  refine Delayed.bind hback fun _ => ?_
  have hcommit : Delayed job.setting back Session.commitPage (fun _ => job.Written) job.Written := by
    refine Delayed.commitPage ?_
    rintro mode _ ⟨b, h, rfl⟩
    obtain ⟨hsame, hholds⟩ := h.filling.committed (hjob.onPage h.keeps) (.refl 0 0 b)
    exact ⟨h.rest.ran _ _, h.toMidway.written hjob ((h.rest.ran _ _).ran _ _) hsame hholds⟩
  exact Delayed.bind (hcommit.failing fun _ _ h => h.toMidway) fun _ => hjob.moveOn

/-- The host learns whether the device takes blocks, unless it misses that. -/
theorem Sound.offerBlock {bad : WriteMode → Bootloader → Prop} (hjob : job.Sound) :
    Delayed job.setting job.PointerAtPage (Session.offerBlock job.probed)
      (fun accepted mode b' =>
        (accepted = true ∧ job.setting.refuses = false ∧ ∃ b, job.PointerAtPage mode b ∧ b' = b.awaiting) ∨
          (accepted = false ∧ job.setting.refuses = true ∧ job.PointerAtPage mode b')) bad := by
  cases hrefuses : job.setting.refuses with
  | false =>
    have hoffer : Delayed job.setting job.PointerAtPage (Session.offerBlock job.probed) _ bad :=
      Delayed.offerBlock_of_takes hrefuses fun mode b h => ⟨h.rest, (hjob.refuses h.keeps).trans hrefuses⟩
    exact hoffer.returning fun _ _ _ h => .inl ⟨h.1, rfl, h.2⟩
  | true =>
    cases hprobed : job.probed with
    | true =>
      have hnever : Delayed job.setting job.PointerAtPage Session.announceBlock (fun _ _ _ => False) bad :=
        Delayed.transmit Host.forget (fun _ => rfl) fun _ _ h =>
          absurd (hrefuses.symm.trans (h.probed hprobed)) (by decide)
      exact Delayed.bind hnever fun _ => Delayed.pure fun _ _ h => h.elim
    | false =>
      have hoffer : Delayed job.setting job.PointerAtPage (Session.offerBlock false) _ bad :=
        Delayed.offerBlock_of_refuses hrefuses fun mode b h => ⟨h.rest, (hjob.refuses h.keeps).trans hrefuses⟩
      refine hoffer.returning ?_
      rintro accepted mode _ ⟨haccepted, b, h, rfl⟩
      exact .inr ⟨haccepted, rfl, h.toMidway.ran hjob rfl, h.addr⟩

/-- The data of a block is in the flash, whether that is confirmed or not. -/
theorem Sound.sendBlock (hjob : job.Sound) :
    Delayed job.setting (fun mode b' => ∃ b, job.PointerAtPage mode b ∧ b' = b.awaiting)
      (Session.sendBlock job.page) (fun _ => job.Written) job.Written := by
  refine Delayed.bind (Delayed.transmit id (fun _ => rfl) ?_) fun _ => Delayed.expect
  rintro mode _ ⟨b, h, rfl⟩
  have hpage := hjob.onPage h.keeps
  have hreply : (b.ran .writeBlock []).blockReply = [ack] := by
    rw [Bootloader.blockReply, Firmware.override?_of_rules_eq_nil]
    · rfl
    · rw [Bootloader.firmware_ran, hjob.rules h.keeps]
  rw [h.rest.receive_awaiting (hjob.length.trans hpage.pageSize.symm)
    (hpage.pageSize ▸ hpage.positive), hreply]
  have hrest := h.rest.stored job.page
  refine ⟨fun _ => (by decide : reject ∉ [ack]), ?_⟩
  change job.Written mode { (b.ran .writeBlock []).stored job.page with output := [] }
  rw [Bootloader.with_output_nil hrest.heard]
  exact h.toMidway.written hjob hrest (h.rest.same_stored h.addr hjob.length)
    (Bootloader.slice_stored h.addr hpage hjob.length)

/-- After recovery the page can be tried again. -/
theorem Sound.recoverPage (hjob : job.Sound) :
    Delayed job.setting job.Midway (Session.recoverPage job.cursor.current job.cursor.pageSize)
      (fun _ => job.PointerAtPage) fun _ _ => True := by
  have hresync : Delayed job.setting job.Midway (Session.resync job.cursor.current job.cursor.pageSize.toNat)
      (fun _ => job.PointerAtPage) fun _ _ => True := by
    refine Delayed.resync ?_ (fun _ _ h => h.pointerAtPage_pointed hjob) (fun _ _ _ => trivial)
      fun _ _ _ => trivial
    intro mode b h
    exact ⟨h.rest, fun counts => h.step hjob ⟨h.rest.idle, h.rest.heard, h.rest.tame, h.rest.buffer⟩
      ⟨rfl, rfl, .refl 0 0 _, id⟩⟩
  refine Delayed.bind hresync fun _ => Delayed.bind Delayed.host? fun host => ?_
  by_cases hfast : host.mode = .fast
  · rw [if_pos hfast]
    have herase : Delayed job.setting (fun mode b => job.PointerAtPage mode b ∧ host.mode = mode)
        Session.erasePage (fun _ => job.Midway) fun _ _ => True := by
      refine Delayed.erasePage ?_
      rintro mode b ⟨h, -⟩
      obtain ⟨hsame, herased⟩ := h.rest.erasedPage h.addr (hjob.onPage h.keeps)
      exact ⟨h.rest, h.rest.ran _ _, hjob.frame h.keeps hsame, fun _ => herased, h.mode, h.probed⟩
    refine Delayed.bind herase fun _ => ?_
    exact Delayed.setAddress (fun _ _ h => h.rest) (fun _ _ h _ => h.pointerAtPage_pointed hjob)
      (fun _ _ _ => trivial) fun _ _ _ => trivial
  · rw [if_neg hfast]
    exact Delayed.pure fun _ _ h => h.1

/-- The same page, once it is known whether a block was acknowledged. -/
def withProbed (job : PageJob) (probed : Bool) : PageJob :=
  { job with probed }

theorem Sound.withProbed (hjob : job.Sound) (probed : Bool) : (job.withProbed probed).Sound :=
  ⟨hjob.length, hjob.even, hjob.onPage, hjob.refuses, hjob.rules, hjob.frame⟩

theorem Midway.withProbed (h : job.Midway mode b) {probed : Bool}
    (hprobed : probed = true → job.setting.refuses = false) :
    (job.withProbed probed).Midway mode b :=
  ⟨h.rest, h.keeps, h.blank, h.mode, hprobed⟩

/-- One try at the page leaves the job midway, and if nothing failed it has come to what `post` says. -/
structure TryLeaves {α : Type} (job : PageJob) (post : Bool → α → WriteMode → Bootloader → Prop)
    (attempt : Attempt α) (mode : WriteMode) (b : Bootloader) : Prop where
  midway : (job.withProbed attempt.probed).Midway mode b
  post : attempt.failure = none → post attempt.probed attempt.outcome mode b

/-- What a try at the page comes to unless it fails. -/
def OutcomeLeaves (job : PageJob) (probed : Bool) : PageOutcome → WriteMode → Bootloader → Prop
  | .settled _ => (job.withProbed probed).Done
  | .redo => fun mode b => (job.withProbed probed).PointerAtPage mode b ∧ job.setting.refuses = true

/-- A try whose last operation either settles the page or leaves it midway. -/
theorem tryLeaves_of_failureOf {α : Type} {P : WriteMode → Bootloader → Prop}
    {operation : SessionM (Faulty Bootloader) Unit}
    {post : Bool → α → WriteMode → Bootloader → Prop} {outcome : α} {probed : Bool}
    (h : Delayed job.setting P operation
      (fun _ mode b => (job.withProbed probed).Midway mode b ∧ post probed outcome mode b)
      (job.withProbed probed).Midway) :
    DelayedStep job.setting P (do return ⟨outcome, ← Session.failureOf operation, probed⟩)
      (job.TryLeaves post) := by
  refine DelayedStep.bind (DelayedStep.failureOf h) fun failure => DelayedStep.pure ?_
  cases failure with
  | none => exact fun _ _ h => ⟨h.1, fun _ => h.2⟩
  | some failure => exact fun _ _ h => ⟨h, nofun⟩

theorem Sound.trySlowly (hjob : job.Sound) (hrefuses : job.setting.refuses = true) (probed : Bool) :
    DelayedStep job.setting (job.withProbed probed).PointerAtPage
      (Session.trySlowly job.cursor job.page probed)
      (job.TryLeaves fun probed _ => (job.withProbed probed).Done) := by
  refine tryLeaves_of_failureOf (((hjob.withProbed probed).writeSlowly hrefuses).returning ?_)
  exact fun _ _ _ h => ⟨h.toMidway, h⟩

/-- A try that ends with an operation that settles the page. -/
theorem tryLeaves_of_done {P : WriteMode → Bootloader → Prop}
    {operation : SessionM (Faulty Bootloader) Unit} {probed : Bool} (handling : Handling)
    (h : Delayed job.setting P operation (fun _ => (job.withProbed probed).Done)
      (job.withProbed probed).Midway) :
    DelayedStep job.setting P (do return ⟨.settled handling, ← Session.failureOf operation, probed⟩)
      (job.TryLeaves job.OutcomeLeaves) :=
  tryLeaves_of_failureOf (h.returning fun _ _ _ h => ⟨h.toMidway, h⟩)

/-- Once a refusal is heard, the page is to be sent byte by byte. -/
theorem Sound.redo (hjob : job.Sound) (probed : Bool) :
    DelayedStep job.setting
      (fun mode b => (job.withProbed probed).PointerAtPage mode b ∧ job.setting.refuses = true) (do
      Session.note .blocksRefused
      Session.update fun host => { host with mode := .slow }
      return ⟨.redo, ← Session.failureOf (Session.setAddress job.cursor.current), probed⟩)
        (job.TryLeaves job.OutcomeLeaves) := by
  let refused : WriteMode → Bootloader → Prop := fun mode b =>
    (job.withProbed probed).PointerAtPage mode b ∧ job.setting.refuses = true
  have hslow : DelayedStep job.setting refused
      (Session.update fun host => { host with mode := .slow }) fun _ => refused := by
    refine DelayedStep.setMode ?_
    rintro old b ⟨h, hrefuses⟩
    exact ⟨⟨⟨h.rest, h.keeps, h.blank, fun _ => hrefuses, h.probed⟩, h.addr⟩, hrefuses⟩
  refine DelayedStep.bind DelayedStep.record fun _ => DelayedStep.bind hslow fun _ =>
    tryLeaves_of_failureOf ?_
  have hjob' := hjob.withProbed probed
  refine Delayed.setAddress (fun _ _ h => h.1.rest) ?_ (fun _ _ h => h.1.toMidway.ran hjob' rfl)
    fun _ _ h => h.1.toMidway
  rintro mode b ⟨h, hrefuses⟩ -
  have hpointed := h.toMidway.pointerAtPage_pointed hjob'
  exact ⟨hpointed.toMidway, hpointed, hrefuses⟩

/-- Once a block is announced to a device that takes it, the page is as good as written. -/
theorem Sound.asBlock (hjob : job.Sound) (probed : Bool) :
    DelayedStep job.setting
      (fun mode b' => job.setting.refuses = false ∧
        ∃ b, (job.withProbed probed).PointerAtPage mode b ∧ b' = b.awaiting) (do
        match ← (Session.sendBlock job.page).run with
        | .error failure => return ⟨.settled .written, some failure, probed⟩
        | .ok () => return ⟨.settled .written, ← Session.failureOf
            (Session.setAddress job.cursor.next), true⟩)
      (job.TryLeaves job.OutcomeLeaves) := by
  have hsend := (hjob.withProbed true).sendBlock.given (Q := fun mode b' =>
    job.setting.refuses = false ∧ ∃ b, (job.withProbed probed).PointerAtPage mode b ∧ b' = b.awaiting) ?_
  · refine DelayedStep.bind (DelayedStep.run hsend) fun result => ?_
    match result with
    | .error failure =>
      refine DelayedStep.pure fun mode b h => ⟨?_, nofun⟩
      exact h.toMidway.withProbed fun _ => h.probed rfl
    | .ok () => exact tryLeaves_of_done .written (hjob.withProbed true).moveOn
  · rintro mode b' ⟨htakes, b, h, hb⟩
    exact ⟨b, ⟨h.toMidway.withProbed fun _ => htakes, h.addr⟩, hb⟩

/-- A try settles the page, or the device has refused blocks, or it fails, and then nothing is lost. -/
theorem Sound.tryPage (hjob : job.Sound) (probed : Bool) :
    DelayedStep job.setting (job.withProbed probed).PointerAtPage (Session.tryPage job.cursor job.page probed)
      (job.TryLeaves job.OutcomeLeaves) := by
  have hjob' := hjob.withProbed probed
  unfold Session.tryPage
  cases hblank : isBlank job.page with
  | true =>
    simp only [if_true]
    exact tryLeaves_of_done .skipped
      (hjob'.moveOn.given fun _ _ h => h.toMidway.written_of_blank hjob' hblank)
  | false =>
    simp only [Bool.false_eq_true, if_false]
    refine DelayedStep.bind DelayedStep.host? fun host => ?_
    by_cases hslow : host.mode = .slow
    · rw [if_pos hslow]
      refine DelayedStep.of_refuses (fun mode b h => h.1.mode (h.2.symm.trans hslow)) fun hrefuses => ?_
      exact tryLeaves_of_done .written
        ((hjob'.writeSlowly hrefuses).given fun _ _ h => h.1)
    · rw [if_neg hslow]
      have hoffer : Delayed job.setting (job.withProbed probed).PointerAtPage (Session.offerBlock probed) _
        (job.withProbed probed).Midway := hjob'.offerBlock
      refine DelayedStep.bind ((DelayedStep.run hoffer).given fun _ _ h => h.1) fun result => ?_
      match result with
      | .error failure => exact DelayedStep.pure fun _ _ h => ⟨h, nofun⟩
      | .ok false =>
        refine (hjob.redo probed).given ?_
        rintro mode b (⟨habsurd, -⟩ | ⟨-, hrefuses, h⟩)
        · cases habsurd
        · exact ⟨h, hrefuses⟩
      | .ok true =>
        refine (hjob.asBlock probed).given ?_
        rintro mode b (⟨-, htakes, h⟩ | ⟨habsurd, -⟩)
        · exact ⟨htakes, h⟩
        · cases habsurd

section retry

variable {α : Type} {attempt : Bool → StateM (Session (Faulty Bootloader)) (Attempt α)}
  {post : Bool → α → WriteMode → Bootloader → Prop}

/-- Where repeated tries ended: if one has succeeded, the page has come to what that leaves. -/
def TriesLeave (post : Bool → α → WriteMode → Bootloader → Prop) (retried : Retried α)
    (mode : WriteMode) (b : Bootloader) : Prop :=
  ∀ a, retried.result = .ok a → post retried.state.probed a mode b

/-- One try, and what is left to be done if it fails and the page can be recovered. -/
theorem Sound.retry_step {tries : Nat} {allowance : Allowance} {state : PassState} (hjob : job.Sound)
    (hattempt : ∀ probed, DelayedStep job.setting (job.withProbed probed).PointerAtPage
      (attempt probed) (job.TryLeaves post))
    (hnext : ∀ n, tries = n + 1 → ∀ (rest : Allowance) (state : PassState),
      DelayedStep job.setting (job.withProbed state.probed).PointerAtPage
        (Session.retry job.cursor attempt n rest state) (TriesLeave post)) :
    DelayedStep job.setting (job.withProbed state.probed).PointerAtPage
      (Session.retry job.cursor attempt tries allowance state) (TriesLeave post) := by
  unfold Session.retry
  refine DelayedStep.bind DelayedStep.record fun _ => DelayedStep.bind (hattempt state.probed) ?_
  rintro ⟨outcome, (- | failure), probed⟩
  · refine DelayedStep.pure fun mode b h => ?_
    rintro a ⟨⟩
    exact h.post rfl
  · dsimp only
    cases allowance.spend failure with
    | none => exact DelayedStep.pure fun _ _ _ _ => nofun
    | some rest =>
      cases tries with
      | zero => exact DelayedStep.pure fun _ _ _ _ => nofun
      | succ tries =>
        refine DelayedStep.bind DelayedStep.host? fun host => DelayedStep.bind DelayedStep.record fun _ =>
          DelayedStep.bind DelayedStep.record fun _ => ?_
        have hrecover := DelayedStep.run (hjob.withProbed probed).recoverPage
        refine DelayedStep.bind (hrecover.given fun _ _ h => h.1.midway) fun result => ?_
        match result with
        | .error failure => exact DelayedStep.pure fun _ _ _ _ => nofun
        | .ok () => exact hnext tries rfl rest (PassState.countResync ⟨probed, state.tally⟩)

theorem Sound.retry (hjob : job.Sound)
    (hattempt : ∀ probed, DelayedStep job.setting (job.withProbed probed).PointerAtPage
      (attempt probed) (job.TryLeaves post))
    (tries : Nat) (allowance : Allowance) (state : PassState) :
    DelayedStep job.setting (job.withProbed state.probed).PointerAtPage
      (Session.retry job.cursor attempt tries allowance state) (TriesLeave post) := by
  induction tries generalizing allowance state with
  | zero => exact hjob.retry_step hattempt nofun
  | succ tries ih =>
    refine hjob.retry_step hattempt fun n hn rest state => ?_
    obtain rfl : tries = n := by omega
    exact ih rest state

end retry

/-- A page is in the flash, with the pointer at the next one, once it is dealt with. -/
theorem Sound.settlePage (hjob : job.Sound) (allowance : Allowance) (state : PassState) :
    DelayedStep job.setting (job.withProbed state.probed).PointerAtPage
      (Session.settlePage job.cursor job.page allowance state)
      (TriesLeave fun probed _ => (job.withProbed probed).Done) := by
  refine DelayedStep.bind (hjob.retry hjob.tryPage allowance.total allowance state) ?_
  rintro ⟨(failure | (handling | -)), rest, state'⟩
  · exact DelayedStep.pure fun _ _ _ _ => nofun
  · refine DelayedStep.pure fun mode b h => ?_
    rintro _ ⟨⟩
    exact h _ rfl
  · refine DelayedStep.of_refuses (fun mode b h => (h .redo rfl).2) fun hrefuses => ?_
    exact (hjob.retry (hjob.trySlowly hrefuses) rest.total rest state').given fun _ _ h => (h .redo rfl).1

end PageJob

end Bootflash
