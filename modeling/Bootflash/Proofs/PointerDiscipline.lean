import Bootflash.Bootloader
import Bootflash.Link.Faulty
import Bootflash.Proofs.PassJournal

namespace Bootflash

/-- Where a block was announced: the announcement was taken by the link, and since then nothing was
written and the work on the page has not begun anew. -/
def AnnouncedFor (addr : UInt32) (past : List Entry) : Prop :=
  ∃ earlier offer between, past = earlier ++ offer :: between ∧
    offer.event = .wrote [Opcode.writeBlock.byte] none ∧
    (Watch.read earlier).page = some addr ∧ ∀ entry ∈ between, entry.event.speaks = false ∧
    entry.event.milestone = false

/-- What a write during a pass is held to, given the entries of the pass before it, what the host
believed when it turned to it, and what it believes while it makes it. -/
structure Disciplined (placement : Placement) (past : List Entry) (before host : Host)
    (bytes : List UInt8) : Prop where
  /-- Page data is that of the page being worked on, and follows its announcement. -/
  data : (Watch.read past).announced = true → ∃ addr, placement.Working (Watch.read past) addr ∧
    bytes = placement.page addr ∧ AnnouncedFor addr past
  /-- Everything else is a command with its arguments, or cancels whatever the device waits for. -/
  command : (Watch.read past).announced = false →
    (∃ op arguments, bytes = Opcode.byte op :: arguments ∧ arguments.length = op.arity) ∨
      ∃ count, bytes = List.replicate (count + 1) Opcode.cancel.byte
  /-- What acts on the page under the pointer is turned to while the pointer is known to be at the
  page being worked on. The belief is given up before it is sent, but not for a commit, which leaves
  the pointer where it is. -/
  pointed : (Watch.read past).announced = false → ∀ op : Opcode, bytes.head? = some op.byte →
    op = .writeBlock ∨ op = .writePage ∨ op = .erasePage ∨ (op = .loadLow ∧ (Watch.read past).loaded = []) →
    ∃ addr, placement.Working (Watch.read past) addr ∧ before.pointer? = some addr ∧
      host.pointer? = if op = .writePage then some addr else none
  /-- An address is that of a page of the range, or its end, and one that the wire carries in full. -/
  address : (Watch.read past).announced = false → bytes.head? = some Opcode.setAddress.byte →
    ∃ addr, bytes = Session.addressFrame addr ∧ Session.reachable addr = true ∧ placement.start ≤ addr ∧
      addr ≤ placement.stop ∧ addr % placement.pageSize = 0

namespace Watch

variable {w : Watch} {entries : List Entry}

/-- An announcement that is there after an entry was made by it, or was there before and has not
been interfered with. -/
theorem announced_follow {entry : Entry} (h : (w.follow entry).announced = true) :
    (w.follow entry).page = w.page ∧ (entry.event = .wrote [Opcode.writeBlock.byte] none ∨
      (w.announced = true ∧ entry.event.speaks = false ∧ entry.event.milestone = false)) := by
  obtain ⟨before, host, event⟩ := entry
  cases event with
  | wrote bytes failure =>
    cases failure with
    | none =>
      simp only [follow, wrote, Option.isNone_none, Bool.true_and, Bool.and_eq_true, beq_iff_eq] at h
      exact ⟨rfl, .inl (by rw [h.2])⟩
    | some failure => simp [follow, wrote] at h
  | read limit reading =>
    obtain ⟨delivered, hfollow⟩ := w.follow_read before host limit reading
    rw [hfollow] at h ⊢
    exact ⟨rfl, .inr ⟨h, rfl, rfl⟩⟩
  | noted notice =>
    by_cases hnotice : notice = .blocksRefused
    · subst hnotice
      simp [follow] at h
    · rw [follow_note hnotice] at h ⊢
      exact ⟨rfl, .inr ⟨h, by simp [Event.speaks, hnotice], rfl⟩⟩
  | timeoutSet | opened | closed => exact ⟨rfl, .inr ⟨h, rfl, rfl⟩⟩
  | progressed | attempt | recovery => simp [follow, turnTo] at h

/-- When page data is due, it was announced, or it was due from the start. -/
theorem announced_foldl (h : (entries.foldl follow w).announced = true) :
    (w.announced = true ∧ (entries.foldl follow w).page = w.page ∧
      ∀ entry ∈ entries, entry.event.speaks = false ∧ entry.event.milestone = false) ∨
    ∃ earlier offer between, entries = earlier ++ offer :: between ∧
      offer.event = .wrote [Opcode.writeBlock.byte] none ∧
      (entries.foldl follow w).page = (earlier.foldl follow w).page ∧
      ∀ entry ∈ between, entry.event.speaks = false ∧ entry.event.milestone = false := by
  induction entries generalizing w with
  | nil => exact .inl ⟨h, rfl, by simp⟩
  | cons entry rest ih =>
    rcases ih h with ⟨hannounced, hpage, hquiet⟩ | ⟨earlier, offer, between, rfl, hoffer⟩
    · obtain ⟨hpage', hevent | ⟨hannounced', hsilent, hmilestone⟩⟩ := announced_follow hannounced
      · exact .inr ⟨[], entry, rest, rfl, hevent, hpage.trans hpage', hquiet⟩
      · exact .inl ⟨hannounced', hpage.trans hpage', List.forall_mem_cons.mpr ⟨⟨hsilent, hmilestone⟩, hquiet⟩⟩
    · exact .inr ⟨entry :: earlier, offer, between, rfl, hoffer⟩

theorem announcedFor_of_announced {addr : UInt32} (h : (read entries).announced = true)
    (hpage : (read entries).page = some addr) :
    AnnouncedFor addr entries := by
  rcases announced_foldl h with ⟨hstart, -⟩ | ⟨earlier, offer, between, hentries, hevent, hsame, hquiet⟩
  · simp [start] at hstart
  · exact ⟨earlier, offer, between, hentries, hevent, hsame.symm.trans hpage, hquiet⟩

end Watch

/-- A write that a careful host may make is disciplined. -/
theorem Placement.Allows.disciplined {placement : Placement} {past : List Entry}
    {before host : Host} {bytes : List UInt8} {failure : Option Failure}
    (h : placement.Allows (Watch.read past) before host (.wrote bytes failure)) :
    Disciplined placement past before host bytes where
  data hdue := by
    obtain ⟨addr, hworking, hbytes⟩ := h.data hdue
    exact ⟨addr, hworking, hbytes, Watch.announcedFor_of_announced hdue hworking.page⟩
  command hfree := by
    rcases h.spoken hfree with ⟨op, arguments, hbytes, harity, -⟩ | hflush
    · exact .inl ⟨op, arguments, hbytes, harity⟩
    · exact .inr hflush
  pointed hfree op hop hacts := by
    have hgivenUp : ∀ addr, placement.Targets (Watch.read past) before addr → op ≠ .writePage →
        host = before.forget →
        ∃ addr, placement.Working (Watch.read past) addr ∧ before.pointer? = some addr ∧
          host.pointer? = if op = .writePage then some addr else none := by
      rintro addr htargets hop rfl
      exact ⟨addr, htargets.toWorking, htargets.pointer, by rw [if_neg hop, Host.pointer?_forget]⟩
    rcases hacts with rfl | rfl | rfl | ⟨rfl, hloaded⟩
    · obtain ⟨-, -, -, hforget, addr, htargets⟩ := h.may hfree hop (by decide)
      exact hgivenUp addr htargets (by decide) hforget
    · obtain ⟨-, -, -, rfl, addr, htargets⟩ := h.may hfree hop (by decide)
      exact ⟨addr, htargets.toWorking, htargets.pointer, htargets.pointer⟩
    · obtain ⟨-, -, -, hforget, addr, htargets⟩ := h.may hfree hop (by decide)
      exact hgivenUp addr htargets (by decide) hforget
    · obtain ⟨-, -, -, hforget, hfirst⟩ := h.may hfree hop (by decide)
      obtain ⟨addr, htargets⟩ := hfirst hloaded
      exact hgivenUp addr htargets (by decide) hforget
  address hfree hop := by
    obtain ⟨arguments, rfl, addr, hframe, hreach, hlow, hhigh, haligned⟩ := h.may hfree hop (by decide)
    exact ⟨addr, hframe.symm, hreach, hlow, hhigh, haligned⟩

namespace Session

variable {ω : Type} [Link ω]

/-- Every write of a pass is disciplined, whatever the image and the range, and whatever the link
answers to any call. -/
theorem programRange_pointer_discipline (image : Image) (start stop : UInt32) (device : Device)
    (options : Options) (s : Session ω) :
    ∃ entries, (programRange image start stop device options s).2.journal.toList =
      s.journal.toList ++ entries ∧
      ∀ past entry later bytes failure, entries = past ++ entry :: later →
        entry.event = .wrote bytes failure →
        Disciplined ⟨⟨start, stop, device.geometry.flashPageSize⟩, image⟩
          past entry.before entry.host bytes := by
  rcases programRange_refused_or_ending image start stop device options s with
    ⟨cause, hrun⟩ | ⟨hsound, hending⟩
  · refine ⟨[], by simp [hrun], ?_⟩
    intro past entry later bytes failure hentries
    simp at hentries
  · obtain ⟨w, ⟨rest, hjournal, haccepts, -⟩, -⟩ := hending.watched hsound
    let heading : Entry := ⟨s.host, s.host, .noted (.programming start stop device.name)⟩
    refine ⟨heading :: rest, ?_, ?_⟩
    · rw [hjournal, toList_journal_opening, List.append_assoc, List.singleton_append]
    · intro past entry later bytes failure hentries hevent
      cases past with
      | nil =>
        obtain ⟨rfl, -⟩ := List.cons.inj hentries
        cases hevent
      | cons first past =>
        obtain ⟨rfl, rfl⟩ := List.cons.inj hentries
        -- The heading tells the observer nothing, so it knows as much with it as without it.
        have hallows : Placement.Allows _ (Watch.read (heading :: past)) _ _ _ := haccepts.admits.2
        rw [hevent] at hallows
        exact hallows.disciplined

/-- A session with a chip on a line that drops the first two announcements of a block. -/
def onDroppingLine : Session (Faulty Bootloader) :=
  let dropped (number : Nat) : LinkFault :=
    ⟨.write, number, 1, some (.transport "write" (.other "line dropped")), false, []⟩
  .start (.start
    (.start ⟨128, "AVRBOOT".toUTF8.toList, [114], 0, 0, false, false, 0, []⟩ (.filled 32768 erased))
    [dropped 4, dropped 9])

/-- The belief is given up before the announcement is made and not by it: where the line drops one
and the pass ends there, the host does not know the pointer any more. -/
theorem programRange_pointer_given_up :
    let run := programRange (.pad (.ofBytes ⟨#[0x0c, 0x94]⟩) 128) 0 128 .atmega32 ⟨1⟩ onDroppingLine
    (∃ entry ∈ run.2.journal.toList, entry.event = .wrote [Opcode.writeBlock.byte]
      (some (.transport "write" (.other "line dropped"))) ∧ entry.host.pointer? = none) ∧
        run.2.host.pointer? = none := by
  decide +kernel

end Session

end Bootflash
