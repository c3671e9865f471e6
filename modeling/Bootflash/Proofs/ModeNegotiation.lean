import Bootflash.Proofs.PassJournal

namespace Bootflash

/-- Whether a page can have been delivered so in a mode. -/
def Delivery.Suits (mode : WriteMode) : Delivery → Prop
  | block _ => mode ≠ .slow
  | words _ => mode = .slow

/-- Blocks can still be refused: the page being worked on is the first that is not blank, and no
block was acknowledged. -/
def Placement.Refusable (placement : Placement) (w : Watch) : Prop :=
  (∃ addr, placement.Working w addr ∧ placement.FirstWritten addr) ∧
    ∀ delivery ∈ w.delivered, ∀ data, delivery.2 ≠ .block data

/-- The entries after `w`, cut where the mode changes, and the mode after them. -/
structure Placement.Phases (placement : Placement) (w : Watch) (opening fast slow : List Entry)
    (final : WriteMode) : Prop where
  mode_opening : ∀ entry ∈ opening, entry.host.mode = .unknown
  mode_fast : ∀ entry ∈ fast, entry.host.mode = .fast
  mode_slow : ∀ entry ∈ slow, entry.host.mode = .slow
  unknown_iff : final = .unknown ↔ fast = []
  unrefused : final ≠ .slow → slow = []
  /-- Pages are sent byte by byte from a refusal on. -/
  refused : final = .slow → ∃ earlier refusal, fast = earlier ++ [refusal] ∧
    refusal.event = .noted .blocksRefused ∧
    placement.Refusable (placement.observer.after w (opening ++ earlier))

/-- The entries of a pass, by the mode they happened in, and the mode at its end. -/
structure Negotiation (placement : Placement) (opening fast slow : List Entry) (final : WriteMode) : Prop
    extends placement.Phases .start opening fast slow final where
  /-- No block is announced and no page erased after the refusal. -/
  silenced : ∀ entry ∈ slow, ∀ bytes failure, entry.event = .wrote bytes failure →
    bytes.head? ≠ some Opcode.writeBlock.byte ∧ bytes.head? ≠ some Opcode.erasePage.byte
  /-- No byte is loaded and no page committed before it; what looks like it is page data. -/
  held : ∀ past entry later bytes failure, opening ++ fast = past ++ entry :: later →
    entry.event = .wrote bytes failure →
    (Watch.read past).announced = false → bytes.head? ≠ some Opcode.loadLow.byte ∧
      bytes.head? ≠ some Opcode.loadHigh.byte ∧ bytes.head? ≠ some Opcode.writePage.byte
  /-- What was delivered went out in the mode of the end. -/
  suits : ∀ delivery ∈ (Watch.read (opening ++ (fast ++ slow))).delivered, delivery.2.Suits final

namespace Placement

variable {placement : Placement} {w : Watch} {entry : Entry} {entries : List Entry}

/-- What an admitted entry does to the mode: it happens in the mode there is, in which it leaves the
pass unless it is the refusal of blocks. A first try settles for blocks. -/
theorem mode_follow (h : placement.observer.Admits w entry) :
    ((w.follow entry).mode = entry.host.mode ∧
      (entry.host.mode = w.mode ∨ (w.mode = .unknown ∧ entry.host.mode = .fast))) ∨
    (entry.event = .noted .blocksRefused ∧ w.mode = .fast ∧ entry.host.mode = .fast ∧
      (w.follow entry).mode = .slow ∧ placement.Refusable w) := by
  obtain ⟨before, host, event⟩ := entry
  obtain ⟨hmode, hallows⟩ := h
  cases event with
  | noted notice =>
    by_cases hnotice : notice = .blocksRefused
    · subst hnotice
      cases hallows with
      | refusal hfast hworking hfirst hpending hunsent =>
        exact .inr ⟨rfl, hfast, hmode.trans hfast, rfl, ⟨_, hworking, hfirst⟩, hunsent⟩
      | silent hsilent => simp [Event.speaks] at hsilent
    · rw [Watch.follow_note hnotice]
      exact .inl ⟨hmode.symm, .inl hmode⟩
  | read limit reading =>
    obtain ⟨delivered, hfollow⟩ := w.follow_read before host limit reading
    rw [hfollow]
    exact .inl ⟨hmode.symm, .inl hmode⟩
  | attempt addr =>
    refine .inl ⟨hmode.symm, ?_⟩
    by_cases hunknown : w.mode = .unknown
    · refine .inr ⟨hunknown, hmode.trans ?_⟩
      simp [Watch.modeAt, Watch.tryMode, hunknown]
    · exact .inl (hmode.trans (Watch.tryMode_of_ne hunknown))
  | wrote | timeoutSet | opened | closed | progressed | recovery => exact .inl ⟨hmode.symm, .inl hmode⟩

/-- Once pages are sent byte by byte, they are for the rest of the pass. -/
theorem mode_after_slow (hslow : w.mode = .slow) (h : placement.observer.Accepts w entries) :
    (placement.observer.after w entries).mode = .slow ∧ ∀ entry ∈ entries, entry.host.mode = .slow := by
  induction entries generalizing w with
  | nil => exact ⟨hslow, by simp⟩
  | cons entry rest ih =>
    obtain ⟨hadmits, hrest⟩ := h
    rcases mode_follow hadmits with ⟨hfollow, hmode | ⟨hunknown, -⟩⟩ | ⟨-, hfast, -⟩
    · rw [hslow] at hmode
      obtain ⟨hafter, hentries⟩ := ih (hfollow.trans hmode) hrest
      exact ⟨hafter, List.forall_mem_cons.mpr ⟨hmode, hentries⟩⟩
    · simp [hslow] at hunknown
    · simp [hslow] at hfast

/-- How the entries from a try on are cut: pages are sent as blocks, up to the refusal if there is one. -/
structure FastCut (placement : Placement) (w : Watch) (fast slow : List Entry)
    (final : WriteMode) : Prop where
  mode_fast : ∀ entry ∈ fast, entry.host.mode = .fast
  mode_slow : ∀ entry ∈ slow, entry.host.mode = .slow
  known : final ≠ .unknown
  unrefused : final ≠ .slow → slow = []
  refused : final = .slow → ∃ earlier refusal, fast = earlier ++ [refusal] ∧
    refusal.event = .noted .blocksRefused ∧ placement.Refusable (placement.observer.after w earlier)

theorem FastCut.cons {fast slow : List Entry} {final : WriteMode}
    (h : placement.FastCut (w.follow entry) fast slow final) (hmode : entry.host.mode = .fast) :
    placement.FastCut w (entry :: fast) slow final := by
  refine ⟨List.forall_mem_cons.mpr ⟨hmode, h.mode_fast⟩, h.mode_slow, h.known, h.unrefused, ?_⟩
  intro hfinal
  obtain ⟨earlier, host, rfl, hfirst⟩ := h.refused hfinal
  exact ⟨entry :: earlier, host, rfl, hfirst⟩

theorem exists_fastCut (hfast : w.mode = .fast) (h : placement.observer.Accepts w entries) :
    ∃ fast slow, entries = fast ++ slow ∧ placement.FastCut w fast slow
      (placement.observer.after w entries).mode := by
  induction entries generalizing w with
  | nil =>
    have hfinal : (placement.observer.after w []).mode = .fast := hfast
    exact ⟨[], [], rfl, by simp, by simp, by simp [hfinal], by simp, by simp [hfinal]⟩
  | cons entry rest ih =>
    obtain ⟨hadmits, hrest⟩ := h
    rcases mode_follow hadmits with ⟨hfollow, hmode | ⟨hunknown, -⟩⟩ | ⟨hevent, -, hmode, hslow, hfirst⟩
    · rw [hfast] at hmode
      obtain ⟨fast, slow, rfl, hcut⟩ := ih (hfollow.trans hmode) hrest
      exact ⟨entry :: fast, slow, rfl, hcut.cons hmode⟩
    · simp [hfast] at hunknown
    · -- The refusal is the last entry in fast mode.
      obtain ⟨hafter, hentries⟩ := mode_after_slow hslow hrest
      have hfinal : (placement.observer.after w (entry :: rest)).mode = .slow := hafter
      refine ⟨[entry], rest, rfl, by simpa using hmode, hentries, ?_, ?_, ?_⟩
      · simp [hfinal]
      · intro hother
        exact absurd hfinal hother
      · intro _
        exact ⟨[], entry, rfl, hevent, hfirst⟩

theorem Phases.cons {opening fast slow : List Entry} {final : WriteMode}
    (h : placement.Phases (w.follow entry) opening fast slow final) (hmode : entry.host.mode = .unknown) :
    placement.Phases w (entry :: opening) fast slow final :=
  ⟨List.forall_mem_cons.mpr ⟨hmode, h.mode_opening⟩, h.mode_fast, h.mode_slow, h.unknown_iff,
    h.unrefused, h.refused⟩

theorem FastCut.phases {fast slow : List Entry} {final : WriteMode} (h : placement.FastCut w fast slow final)
    (hfast : fast ≠ []) : placement.Phases w [] fast slow final :=
  ⟨by simp, h.mode_fast, h.mode_slow, by simp [h.known, hfast], h.unrefused, h.refused⟩

theorem exists_phases (hunknown : w.mode = .unknown) (h : placement.observer.Accepts w entries) :
    ∃ opening fast slow, entries = opening ++ (fast ++ slow) ∧
      placement.Phases w opening fast slow (placement.observer.after w entries).mode := by
  induction entries generalizing w with
  | nil =>
    have hfinal : (placement.observer.after w []).mode = .unknown := hunknown
    exact ⟨[], [], [], rfl, by simp, by simp, by simp, by simp [hfinal], by simp, by simp [hfinal]⟩
  | cons entry rest ih =>
    obtain ⟨hadmits, hrest⟩ := h
    rcases mode_follow hadmits with ⟨hfollow, hmode | ⟨-, hmode⟩⟩ | ⟨-, hfast, -⟩
    · rw [hunknown] at hmode
      obtain ⟨opening, fast, slow, rfl, hphases⟩ := ih (hfollow.trans hmode) hrest
      exact ⟨entry :: opening, fast, slow, rfl, hphases.cons hmode⟩
    · obtain ⟨fast, slow, rfl, hcut⟩ := exists_fastCut (hfollow.trans hmode) hrest
      exact ⟨[], entry :: fast, slow, rfl, (hcut.cons hmode).phases (by simp)⟩
    · simp [hunknown] at hfast

end Placement

theorem Delivery.Suits.tryMode {w : Watch} {delivery : Delivery} (h : delivery.Suits w.mode) :
    delivery.Suits w.tryMode := by
  unfold Watch.tryMode
  split
  · next hunknown =>
    rw [hunknown] at h
    cases delivery <;> simp_all [Suits]
  · exact h

/-- Whatever was delivered, or is to be acknowledged, went out in the mode there is. -/
structure Watch.Suited (w : Watch) : Prop where
  announced : w.mode = .slow → w.announced = false
  pending : ∀ delivery, w.pending = some delivery → delivery.Suits w.mode
  delivered : ∀ delivery ∈ w.delivered, delivery.2.Suits w.mode

namespace Placement

variable {placement : Placement} {w : Watch} {before host : Host}

theorem suited_wrote {bytes : List UInt8} {failure : Option Failure} (h : w.Suited)
    (hallows : placement.Allows w before host (.wrote bytes failure)) :
    (w.wrote bytes failure.isNone).Suited := by
  refine ⟨?_, ?_, h.delivered⟩
  · intro hslow
    have hslow' : w.mode = .slow := hslow
    have hfree := h.announced hslow'
    simp only [Watch.wrote, hfree, Bool.not_false, Bool.and_true, Bool.and_eq_false_iff, beq_eq_false_iff_ne]
    right
    rintro rfl
    obtain ⟨-, -, hfast, -⟩ := hallows.may hfree rfl (by decide : Opcode.writeBlock ≠ .cancel)
    simp [hslow'] at hfast
  · intro delivery hpending
    cases failure with
    | some => simp [Watch.wrote] at hpending
    | none =>
      change w.deliveryOf bytes = some delivery at hpending
      change delivery.Suits w.mode
      unfold Watch.deliveryOf at hpending
      split at hpending
      · next hdue =>
        obtain rfl := Option.some.inj hpending
        intro hslow
        simp [h.announced hslow] at hdue
      · next hdue =>
        split at hpending
        · next hbytes =>
          subst hbytes
          obtain rfl := Option.some.inj hpending
          obtain ⟨-, -, hslow, -⟩ :=
            hallows.may (by simpa using hdue) rfl (by decide : Opcode.writePage ≠ .cancel)
          exact hslow
        · simp at hpending

theorem suited_heard (h : w.Suited) (reading : Reading) : (w.heard reading).Suited := by
  unfold Watch.heard
  split
  · next addr delivery hpage hpending =>
    split
    · exact ⟨h.announced, by simp, List.forall_mem_cons.mpr ⟨h.pending delivery hpending, h.delivered⟩⟩
    · exact ⟨h.announced, by simp, h.delivered⟩
  · exact ⟨h.announced, by simp, h.delivered⟩

theorem suited_turnTo (h : w.Suited) (page : Option UInt32) : (w.turnTo page).Suited :=
  ⟨fun _ => rfl, by simp [Watch.turnTo], h.delivered⟩

/-- Every admitted entry keeps to the mode. -/
theorem suited_follow {entry : Entry} (h : w.Suited) (hadmits : placement.observer.Admits w entry) :
    (w.follow entry).Suited := by
  obtain ⟨before, host, event⟩ := entry
  obtain ⟨-, hallows⟩ := hadmits
  cases event with
  | wrote bytes failure => exact suited_wrote h hallows
  | read limit reading => exact suited_heard h reading
  | noted notice =>
    by_cases hnotice : notice = .blocksRefused
    · subst hnotice
      cases hallows with
      | refusal hfast hworking hfirst hpending hunsent =>
        refine ⟨fun _ => rfl, ?_, ?_⟩
        · simp [Watch.follow, hpending]
        · -- What was delivered before the mode changed was no block.
          intro delivery hdelivery
          obtain ⟨addr, data | data⟩ := delivery
          · exact absurd rfl (hunsent _ hdelivery data)
          · rfl
      | silent hsilent => simp [Event.speaks] at hsilent
    · rw [Watch.follow_note hnotice]
      exact h
  | attempt addr =>
    refine ⟨fun _ => rfl, by simp [Watch.follow, Watch.turnTo], ?_⟩
    intro delivery hdelivery
    exact (h.delivered delivery hdelivery).tryMode
  | recovery addr => exact suited_turnTo h (some addr)
  | progressed done total =>
    have hturned := suited_turnTo h none
    exact ⟨hturned.announced, hturned.pending, hturned.delivered⟩
  | timeoutSet | opened | closed => exact h

theorem suited_after {entries : List Entry} (h : w.Suited) (haccepts : placement.observer.Accepts w entries) :
    (placement.observer.after w entries).Suited := by
  induction entries generalizing w with
  | nil => exact h
  | cons entry rest ih => exact ih (suited_follow h haccepts.1) haccepts.2

theorem suited_start : Watch.start.Suited :=
  ⟨by simp [Watch.start], by simp [Watch.start], by simp [Watch.start]⟩

variable {bytes : List UInt8} {failure : Option Failure}

theorem silenced_of_slow (h : placement.Allows w before host (.wrote bytes failure))
    (hsuited : w.Suited) (hslow : w.mode = .slow) :
    bytes.head? ≠ some Opcode.writeBlock.byte ∧ bytes.head? ≠ some Opcode.erasePage.byte := by
  have hfree := hsuited.announced hslow
  constructor
  · intro hop
    obtain ⟨-, -, hfast, -⟩ := h.may hfree hop (by decide)
    simp [hslow] at hfast
  · intro hop
    obtain ⟨-, -, hfast, -⟩ := h.may hfree hop (by decide)
    simp [hslow] at hfast

theorem held_of_ne_slow (h : placement.Allows w before host (.wrote bytes failure))
    (hfree : w.announced = false) (hmode : w.mode ≠ .slow) :
    bytes.head? ≠ some Opcode.loadLow.byte ∧ bytes.head? ≠ some Opcode.loadHigh.byte ∧
      bytes.head? ≠ some Opcode.writePage.byte := by
  refine ⟨?_, ?_, ?_⟩
  · intro hop
    obtain ⟨-, -, hslow, -⟩ := h.may hfree hop (by decide)
    exact hmode hslow
  · intro hop
    obtain ⟨arguments, -, hslow⟩ := h.may hfree hop (by decide)
    exact hmode hslow
  · intro hop
    obtain ⟨-, -, hslow, -⟩ := h.may hfree hop (by decide)
    exact hmode hslow

/-- What the observer of a pass accepts is a negotiation. -/
theorem exists_negotiation {entries : List Entry} (haccepts : placement.observer.Accepts .start entries) :
    ∃ opening fast slow, entries = opening ++ (fast ++ slow) ∧
      Negotiation placement opening fast slow (Watch.read entries).mode := by
  obtain ⟨opening, fast, slow, rfl, hphases⟩ := exists_phases rfl haccepts
  refine ⟨opening, fast, slow, rfl, hphases, ?_, ?_, (suited_after suited_start haccepts).delivered⟩
  · intro entry hentry bytes failure hevent
    obtain ⟨past, later, rfl⟩ := List.append_of_mem hentry
    have hsplit : opening ++ (fast ++ (past ++ entry :: later)) = (opening ++ fast ++ past) ++
        entry :: later := by simp
    rw [hsplit] at haccepts
    obtain ⟨hmode, hallows⟩ := haccepts.admits
    rw [hevent] at hmode hallows
    have hsuited := suited_after suited_start ((Observer.accepts_append ..).mp haccepts).1
    exact silenced_of_slow hallows hsuited (hmode.symm.trans (hphases.mode_slow _ hentry))
  · intro past entry later bytes failure hentries hevent hfree
    rw [← List.append_assoc, hentries, List.append_assoc, List.cons_append] at haccepts
    obtain ⟨hmode, hallows⟩ := haccepts.admits
    rw [hevent] at hmode hallows
    have hentry : entry ∈ opening ++ fast := by simp [hentries]
    apply held_of_ne_slow hallows hfree
    intro hslow
    have hhost : entry.host.mode = .slow := hmode.trans hslow
    rcases List.mem_append.mp hentry with hmem | hmem
    · have := hphases.mode_opening _ hmem
      simp [hhost] at this
    · have := hphases.mode_fast _ hmem
      simp [hhost] at this

end Placement

namespace Session

variable {ω : Type} [Link ω]

/-- The mode of a pass is negotiated once, whatever the link answers, and what it ends in is how
every page was sent. -/
theorem programRange_negotiates_once (image : Image) (start stop : UInt32) (device : Device)
    (options : Options) (s : Session ω) :
    let run := programRange image start stop device options s
    let placement : Placement := ⟨⟨start, stop, device.geometry.flashPageSize⟩, image⟩
    (∃ failure, run = (.refused failure, s)) ∨ ∃ opening fast slow,
      run.2.journal.toList =
        s.journal.toList ++ ⟨s.host, s.host, .noted (.programming start stop device.name)⟩ ::
          (opening ++ (fast ++ slow)) ∧
      Negotiation placement opening fast slow run.2.host.mode ∧
      ∀ tally, run.1 = .complete tally → tally.mode = run.2.host.mode ∧
        ∀ addr, placement.HasPage addr → isBlank (placement.page addr) = false →
          (addr, Delivery.of tally.mode (placement.page addr)) ∈
            (Watch.read (opening ++ (fast ++ slow))).delivered := by
  rcases programRange_refused_or_ending image start stop device options s with hrefused | ⟨hsound, hending⟩
  · exact .inl hrefused
  · obtain ⟨w, ⟨entries, hjournal, haccepts, rfl⟩, hmode, hcomplete⟩ := hending.watched hsound
    obtain ⟨opening, fast, slow, rfl, hnegotiation⟩ := Placement.exists_negotiation haccepts
    refine .inr ⟨opening, fast, slow, ?_, ?_, ?_⟩
    · rw [hjournal, toList_journal_opening, List.append_assoc, List.singleton_append]
    · rw [hmode]
      exact hnegotiation
    · rw [hmode]
      exact hcomplete

end Session

end Bootflash
