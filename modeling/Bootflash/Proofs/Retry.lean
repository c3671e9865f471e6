import Bootflash.Proofs.Attempt
import Bootflash.Programming.Retry

namespace Bootflash

namespace Allowance

variable {a rest : Allowance} {failure : Failure} {name : String} {response : List UInt8}

theorem faults_of_spend (hcommand : failure.isCommand = false) (h : a.spend failure = some rest) :
    a.faults = rest.faults + 1 ∧ a.mismatches = rest.mismatches := by
  obtain ⟨faults, mismatches⟩ := a
  cases htransport : failure.isTransport with
  | false => simp [spend, htransport, hcommand] at h
  | true =>
    cases faults with
    | zero => simp [spend, htransport] at h
    | succ n =>
      simp only [spend, htransport, if_true, Option.some.injEq] at h
      subst h
      exact ⟨rfl, rfl⟩

theorem faults_of_spend_eq_none (htransport : failure.isTransport = true)
    (h : a.spend failure = none) : a.faults = 0 := by
  obtain ⟨faults, mismatches⟩ := a
  cases faults with
  | zero => rfl
  | succ n => simp [spend, htransport] at h

theorem mismatches_of_spend (h : a.spend (.command name response) = some rest) :
    a.faults = rest.faults ∧ a.mismatches = rest.mismatches + 1 := by
  obtain ⟨faults, mismatches⟩ := a
  cases mismatches with
  | zero => simp [spend, Failure.isTransport, Failure.isCommand] at h
  | succ n =>
    simp only [spend, Failure.isTransport, Failure.isCommand, if_true, Bool.false_eq_true, if_false,
      Option.some.injEq] at h
    subst h
    exact ⟨rfl, rfl⟩

theorem mismatches_of_spend_eq_none (h : a.spend (.command name response) = none) : a.mismatches = 0 := by
  obtain ⟨faults, mismatches⟩ := a
  cases mismatches with
  | zero => rfl
  | succ n => simp [spend, Failure.isTransport, Failure.isCommand] at h

end Allowance

namespace Session

variable {ω α : Type} [Link ω]

/-- The session once a try at the page under the cursor is announced. -/
def attempting (cursor : PageCursor) (s : Session ω) : Session ω :=
  (record (.attempt cursor.current) s).2

/-- The session once the recovery from a failed try is announced. -/
def recovering (cursor : PageCursor) (failure : Failure) (s : Session ω) : Session ω :=
  (record (.recovery cursor.current) (note (.pageFailed s.host.mode cursor.current failure) s).2).2

/-- Between the two states `n` acknowledgements of blocks were replaced, on a device with this firmware. -/
def Replaced (wire : Wire ω) (firmware : Firmware) (n : Nat) (s s' : Session ω) : Prop :=
  ∃ b b', wire.Carries s.link b ∧ wire.Carries s'.link b' ∧ b.firmware = firmware ∧ b'.firmware = firmware ∧
    b'.wrongAcks = b.wrongAcks + n

/-- What happened to a page from the first state to the last: so many tries that the link failed, so
many that were answered wrongly, each with a recovery after it, and possibly one that was
refused. -/
inductive History (wire : Wire ω) (cursor : PageCursor) (firmware : Firmware) (s : Session ω) :
    (hits wrongs : Nat) → Session ω → Prop
  | start : History wire cursor firmware s 0 0 s
  | hit {hits wrongs cause s₁ failed s₂} (before : History wire cursor firmware s hits wrongs s₁)
    (reports : wire.Reports cause) (struck : Struck (s₁.attempting cursor) failed)
    (recovered : Calm (failed.recovering cursor cause) s₂) :
    History wire cursor firmware s (hits + 1) wrongs s₂
  | misled {hits wrongs cause s₁ failed s₂} (before : History wire cursor firmware s hits wrongs s₁)
    (calm : Calm (s₁.attempting cursor) failed) (replaced : Replaced wire firmware 1 s₁ failed)
    (recovered : Calm (failed.recovering cursor cause) s₂) :
    History wire cursor firmware s hits (wrongs + 1) s₂
  | redone {hits wrongs s₁ s₂} (before : History wire cursor firmware s hits wrongs s₁)
    (calm : Calm (s₁.attempting cursor) s₂) (kept : Replaced wire firmware 0 s₁ s₂) :
    History wire cursor firmware s hits wrongs s₂

/-- A page to be dealt with: where it is, what has to go there, how many failures of the link it may
have, and how things stood before the first try. -/
structure PageTask (ω : Type) where
  cursor : PageCursor
  page : List UInt8
  retries : Nat
  session : Session ω
  device : Bootloader
  tally : Tally

/-- Where the tries at a page stand. -/
structure Underway (wire : Wire ω) (task : PageTask ω) (a : Allowance) (tally : Tally)
    (s : Session ω) (b : Bootloader) : Prop where
  history : ∃ hits wrongs, History wire task.cursor task.device.firmware task.session hits wrongs s ∧
    hits + a.faults = task.retries ∧ wrongs + a.mismatches = 1 ∧
      tally = { task.tally with resyncs := task.tally.resyncs + (hits + wrongs) }
  carries : wire.Carries s.link b
  same : task.device.SamePages task.cursor b
  blank : isBlank task.page = true → task.device.PageErased task.cursor → b.PageErased task.cursor

/-- The last of the tries, from session `s` and device `b`, went through. -/
structure Concluded (wire : Wire ω) (task : PageTask ω) (a : Allowance) (state : PassState) (s : Session ω)
    (b : Bootloader) (after : Session ω) (b' : Bootloader) : Prop where
  underway : Underway wire task a state.tally s b
  calm : Calm (s.attempting task.cursor) after
  carries : wire.Carries after.link b'
  probed : b'.Probed state.probed

/-- Why a page was given up. -/
inductive GivenUp (wire : Wire ω) (task : PageTask ω) (failure : Failure) (after : Session ω) : Prop
  | hit {a tally s b} (underway : Underway wire task a tally s b) (reports : wire.Reports failure)
    (spent : failure.isTransport = true → a.faults = 0) (struck : Struck (s.attempting task.cursor) after)
  | misled {a tally s b} (underway : Underway wire task a tally s b) (spent : a.mismatches = 0)
    (calm : Calm (s.attempting task.cursor) after) (replaced : Replaced wire task.device.firmware 1 s after)
  | unreachable (reach : reachable task.cursor.next = false)
  | unrecovered {a tally s b cause failed} (underway : Underway wire task a tally s b)
    (tried : Quiet (s.attempting task.cursor) failed) (reports : wire.Reports failure)
    (struck : Struck (failed.recovering task.cursor cause) after)

/-- The link still has the device at its far end, and nothing outside the page has changed. -/
def Contained (wire : Wire ω) (task : PageTask ω) (after : Session ω) : Prop :=
  ∃ b', wire.Carries after.link b' ∧ task.device.SamePages task.cursor b'

variable {wire : Wire ω} {task : PageTask ω} {a rest : Allowance} {tally : Tally} {state : PassState}
  {s failed after : Session ω} {b c b' : Bootloader} {probed : Bool} {failure : Failure}

theorem ModeKept.of_firmware {page : List UInt8} {mode mode' : WriteMode} (h : ModeKept page b' mode mode')
    (hfirmware : b'.firmware = b.firmware) : ModeKept page b mode mode' := by
  rw [ModeKept, hfirmware] at h
  exact h

theorem Mishap.quiet {cursor : PageCursor} (h : Mishap wire cursor s after b b' failure) : Quiet s after := by
  cases h with
  | hit _ hstruck => exact hstruck.quiet
  | misled hcalm _ => exact hcalm.quiet
  | unreachable hcalm _ => exact hcalm.quiet

theorem Underway.replaced {lo hi n : Nat} (h : Underway wire task a tally s b)
    (hcarries : wire.Carries after.link b') (hconfined : b.Confined lo hi b')
    (hacks : b'.wrongAcks = b.wrongAcks + n) :
    Replaced wire task.device.firmware n s after :=
  ⟨b, b', h.carries, hcarries, h.same.firmware, hconfined.firmware.trans h.same.firmware, hacks⟩

/-- Before the first try nothing has happened, and the whole allowance is left. -/
theorem Underway.start (hcarries : wire.Carries task.session.link task.device) :
    Underway wire task (.forPage task.retries) task.tally task.session task.device :=
  ⟨⟨0, 0, .start, Nat.zero_add _, rfl, rfl⟩, hcarries, .refl _ _ _, fun _ herased => herased⟩

/-- A try that was refused costs nothing. -/
theorem Concluded.redone (h : Concluded wire task a state s b after b')
    (hrefused : BlocksRefused task.cursor task.page s.host b after.host b') :
    Underway wire task a state.tally after b' := by
  have hsame : b.SamePages task.cursor b' := hrefused.confined.widen (.inl (Nat.le_refl 0))
  have hkept : Replaced wire task.device.firmware 0 s after :=
    h.underway.replaced h.carries hsame hrefused.wrongAcks
  obtain ⟨hits, wrongs, hhistory, hcounts⟩ := h.underway.history
  refine ⟨⟨hits, wrongs, hhistory.redone h.calm hkept, hcounts⟩, h.carries, h.underway.same.trans hsame, ?_⟩
  simp [hrefused.notBlank]

/-- One more failed try that the allowance covers, and the recovery after it. -/
theorem Underway.recovered (h : Underway wire task a tally s b)
    (hhalf : Half task.cursor task.page probed s.host b failed.host c) (hcarries : wire.Carries failed.link c)
    (hmishap : Mishap wire task.cursor (s.attempting task.cursor) failed b c failure)
    (hspend : a.spend failure = some rest)
    (hcalm : Calm (failed.recovering task.cursor failure) after) (hcarries' : wire.Carries after.link b')
    (hsame : c.SamePages task.cursor b')
    (herased : c.stage = .idle → c.PageErased task.cursor → b'.PageErased task.cursor) :
    Underway wire task rest { tally with resyncs := tally.resyncs + 1 } after b' := by
  obtain ⟨hits, wrongs, hhistory, hhits, hwrongs, htally⟩ := h.history
  refine ⟨?_, hcarries', (h.same.trans hhalf.upset.same).trans hsame, ?_⟩
  · cases hmishap with
    | hit hreports hstruck =>
      obtain ⟨hfaults, hmismatches⟩ := Allowance.faults_of_spend (wire.reports_isCommand hreports) hspend
      refine ⟨hits + 1, wrongs, hhistory.hit hreports hstruck hcalm, by omega, by omega, ?_⟩
      rw [htally]
      simp only [Tally.mk.injEq, true_and, and_true]
      omega
    | misled hcalm' hacks =>
      obtain ⟨hfaults, hmismatches⟩ := Allowance.mismatches_of_spend hspend
      refine ⟨hits, wrongs + 1, hhistory.misled hcalm' (h.replaced hcarries hhalf.upset.same hacks)
        hcalm, by omega, by omega, ?_⟩
      rw [htally]
      simp only [Tally.mk.injEq, true_and, and_true]
      omega
    | unreachable _ hreach => simp [Allowance.spend, Failure.isTransport, Failure.isCommand] at hspend
  · intro hblank hstart
    obtain ⟨hidle, hflash⟩ := hhalf.upset.blank hblank
    refine herased hidle ?_
    rw [Bootloader.PageErased, hflash]
    exact h.blank hblank hstart

/-- A failed try that the allowance does not cover. -/
theorem Underway.givenUp (h : Underway wire task a tally s b) (hcarries : wire.Carries failed.link c)
    (hsame : b.SamePages task.cursor c)
    (hmishap : Mishap wire task.cursor (s.attempting task.cursor) failed b c failure)
    (hspend : a.spend failure = none) :
    GivenUp wire task failure failed := by
  cases hmishap with
  | hit hreports hstruck =>
    exact .hit h hreports (fun htransport => Allowance.faults_of_spend_eq_none htransport hspend) hstruck
  | misled hcalm hacks =>
    exact .misled h (Allowance.mismatches_of_spend_eq_none hspend) hcalm (h.replaced hcarries hsame hacks)
  | unreachable _ hreach => exact .unreachable hreach

/-- How repeated tries end: with one that went through, in one of the given modes, or with a reason
to give the page up. -/
def TriesEnd (wire : Wire ω) (task : PageTask ω) (Mode : WriteMode → Prop)
    (Done : Host → Bootloader → α → Host → Bootloader → Prop) (retried : Retried α)
    (after : Session ω) : Prop :=
  match retried.result with
  | .ok outcome => ∃ s b b', Concluded wire task retried.allowance retried.state s b after b' ∧
      Mode s.host.mode ∧ Done s.host b outcome after.host b'
  | .error failure => GivenUp wire task failure after ∧ Contained wire task after

/-- One try, and the recovery if it fails and the allowance covers that. -/
theorem retry_step {attempt : Bool → StateM (Session ω) (Attempt α)}
    {Mode : WriteMode → Prop} {Done : Host → Bootloader → α → Host → Bootloader → Prop}
    (hkept : ∀ mode mode', Mode mode → ModeKept task.page task.device mode mode' → Mode mode')
    (hattempt : ∀ s b probed, b.Poised task.cursor probed → wire.Carries s.link b →
      Yields (attempt probed) s (TryEnds wire task.cursor task.page s b (Done s.host b)))
    {tries : Nat} (htries : a.total ≤ tries) (hunderway : Underway wire task a state.tally s b)
    (hpoised : b.Poised task.cursor state.probed) (hmode : Mode s.host.mode)
    (hagain : ∀ n rest (state' : PassState) s' b', tries = n + 1 → rest.total ≤ n →
      Underway wire task rest state'.tally s' b' → b'.Poised task.cursor state'.probed → Mode s'.host.mode →
      Yields (retry task.cursor attempt n rest state') s' (TriesEnd wire task Mode Done)) :
    Yields (retry task.cursor attempt tries a state) s (TriesEnd wire task Mode Done) := by
  rw [retry]
  refine Yields.step ?_
  refine Yields.bind (hattempt (s.attempting task.cursor) b state.probed hpoised hunderway.carries) ?_
  rintro _ failed (⟨hcalm, hcarries, hprobed, hdone⟩ | @⟨_, failure, probed, _, c, hcarries, hhalf, hmishap⟩)
  · exact ⟨s, b, _, ⟨hunderway, hcalm, hcarries, hprobed⟩, hmode, hdone⟩
  have hsame : task.device.SamePages task.cursor c := hunderway.same.trans hhalf.upset.same
  cases hspend : a.spend failure with
  | none =>
    simp only [hspend]
    exact ⟨hunderway.givenUp hcarries hhalf.upset.same hmishap hspend, c, hcarries, hsame⟩
  | some rest =>
    have htotal := Allowance.total_of_spend hspend
    obtain ⟨n, rfl⟩ : ∃ n, tries = n + 1 := ⟨tries - 1, by omega⟩
    simp only [hspend]
    have hfirmware : c.firmware = b.firmware := hhalf.upset.same.firmware
    have hrecover : Exchange wire (recoverPage task.cursor.current task.cursor.pageSize)
        (failed.recovering task.cursor failure).host c _ (fun _ _ _ => False)
        (fun _ b' => task.device.SamePages task.cursor b') :=
      Exchange.recoverPage (hfirmware ▸ hpoised.rest.tame)
        (by rw [hhalf.upset.same.buffer, hpoised.rest.buffer, hfirmware])
        (hhalf.upset.same.onPage hpoised.page)
        hhalf.upset.stage hhalf.upset.output fun _ _ hconfined => hsame.trans hconfined
    refine Yields.step (Yields.step (Yields.step (Yields.bind (hrecover _ rfl hcarries) ?_)))
    rintro (failure' | ⟨⟩) after hafter
    · rcases hafter with ⟨-, -, -, hfalse⟩ | ⟨hreports, hstruck, hcontained⟩
      · exact hfalse.elim
      · exact ⟨.unrecovered hunderway hmishap.quiet hreports hstruck, hcontained⟩
    · obtain ⟨hcalm, b', hb', hhost, hrest, haddr, hconfined, herased⟩ := hafter
      refine hagain n rest _ after b' rfl (by omega) ?_
        ⟨hrest, haddr, ?_, hconfined.keepsProbed hhalf.probed⟩ ?_
      · exact hunderway.recovered hhalf hcarries hmishap hspend hcalm hb' hconfined herased
      · exact hconfined.onPage (hhalf.upset.same.onPage hpoised.page)
      · rw [hhost]
        exact hkept s.host.mode failed.host.mode hmode (hhalf.mode.of_firmware hunderway.same.firmware)

/-- However often a page is tried, each try starts from a device that is poised for it. -/
theorem retry_yields {attempt : Bool → StateM (Session ω) (Attempt α)}
    {Mode : WriteMode → Prop} {Done : Host → Bootloader → α → Host → Bootloader → Prop}
    (hkept : ∀ mode mode', Mode mode → ModeKept task.page task.device mode mode' → Mode mode')
    (hattempt : ∀ s b probed, b.Poised task.cursor probed → wire.Carries s.link b →
      Yields (attempt probed) s (TryEnds wire task.cursor task.page s b (Done s.host b)))
    {tries : Nat} (htries : a.total ≤ tries) (hunderway : Underway wire task a state.tally s b)
    (hpoised : b.Poised task.cursor state.probed) (hmode : Mode s.host.mode) :
    Yields (retry task.cursor attempt tries a state) s (TriesEnd wire task Mode Done) := by
  induction tries generalizing a state s b with
  | zero =>
    refine retry_step hkept hattempt htries hunderway hpoised hmode ?_
    intro n _ _ _ _ hn
    omega
  | succ tries ih =>
    refine retry_step hkept hattempt htries hunderway hpoised hmode ?_
    intro n rest state' s' b' hn htotal hunderway' hpoised' hmode'
    obtain rfl : tries = n := by omega
    exact ih htotal hunderway' hpoised' hmode'

/-- The mode a page leaves behind: byte by byte as soon as a page with something in it met a
bootloader that refuses blocks. -/
def modeAfter (page : List UInt8) (firmware : Firmware) (mode : WriteMode) : WriteMode :=
  if firmware.refusesBlocks && !isBlank page then .slow else mode

/-- A page that was dealt with in a mode other than byte by byte was taken as a block, if there was
anything to take. -/
theorem ModeKept.eq_modeAfter {page : List UInt8} {mode mode' : WriteMode} (h : ModeKept page b mode mode')
    (htakes : isBlank page = false → mode' ≠ .slow → b.firmware.refusesBlocks = false) :
    mode' = modeAfter page b.firmware mode := by
  unfold modeAfter
  by_cases hslow : (b.firmware.refusesBlocks && !isBlank page) = true
  · rw [if_pos hslow]
    simp only [Bool.and_eq_true, Bool.not_eq_true'] at hslow
    rcases eq_or_ne mode' .slow with hmode | hmode
    · exact hmode
    · simp [htakes hslow.2 hmode] at hslow
  · rw [if_neg hslow]
    rcases h with h | ⟨-, hrefuses, hblank⟩
    · exact h
    · simp [hrefuses, hblank] at hslow

/-- The tries at a page in the session's mode. -/
theorem retry_tryPage (hlength : task.page.length = task.cursor.pageSize.toNat)
    (hcarries : wire.Carries task.session.link task.device)
    (hpoised : task.device.Poised task.cursor state.probed) (htally : task.tally = state.tally) :
    Yields (retry task.cursor (tryPage task.cursor task.page) (Allowance.forPage task.retries).total
        (.forPage task.retries) state) task.session
      (TriesEnd wire task (ModeKept task.page task.device task.session.host.mode)
        (PageDone task.cursor task.page)) := by
  refine retry_yields ?_ ?_ (Nat.le_refl _) (htally ▸ .start hcarries) hpoised (.inl rfl)
  · rintro mode mode' hmode (rfl | hslow)
    · exact hmode
    · exact .inr hslow
  · intro s b probed hpoised hcarries
    exact tryPage_yields hpoised hlength hcarries

/-- The tries at a page byte by byte, once blocks are known to be refused. -/
theorem retry_trySlowly (hlength : task.page.length = task.cursor.pageSize.toNat)
    (hblank : isBlank task.page = false) (hunderway : Underway wire task a state.tally s b)
    (hpoised : b.Poised task.cursor state.probed)
    (hslow : s.host.mode = .slow) :
    Yields (retry task.cursor (trySlowly task.cursor task.page) a.total a state) s
      (TriesEnd wire task (· = .slow) (Finished task.cursor task.page)) := by
  refine retry_yields ?_ ?_ (Nat.le_refl _) hunderway hpoised hslow
  · rintro mode mode' rfl (rfl | hslow)
    · rfl
    · exact hslow.1
  · intro s b probed hpoised hcarries
    exact trySlowly_yields hpoised hlength hblank hcarries

/-- A page is dealt with or given up. If it is dealt with, it is in the flash unless it is blank,
the pointer is at the next page, and both sides know that. -/
theorem settlePage_yields (task : PageTask ω) (hlength : task.page.length = task.cursor.pageSize.toNat)
    (htally : task.tally = state.tally) (hcarries : wire.Carries task.session.link task.device)
    (hpoised : task.device.Poised task.cursor state.probed) :
    Yields (settlePage task.cursor task.page (.forPage task.retries) state) task.session
      (TriesEnd wire task (fun _ => True) fun host b handling host' b' =>
        Finished task.cursor task.page host b handling host' b' ∧
          host'.mode = modeAfter task.page task.device.firmware task.session.host.mode) := by
  refine Yields.bind (retry_tryPage hlength hcarries hpoised htally) ?_
  rintro ⟨(failure | (handling | -)), allowance, state'⟩ middle hmiddle
  · exact hmiddle
  · obtain ⟨s, b, b', hconcluded, hkept, hfinished, htakes⟩ := hmiddle
    rw [hconcluded.underway.same.firmware] at htakes
    have hmode : middle.host.mode = modeAfter task.page task.device.firmware task.session.host.mode := by
      rw [hfinished.host]
      exact hkept.eq_modeAfter htakes
    exact ⟨s, b, b', hconcluded, trivial, hfinished, hmode⟩
  · obtain ⟨s, b, b', hconcluded, -, hrefused⟩ := hmiddle
    have hunderway := hconcluded.redone hrefused
    have hpoised' : b'.Poised task.cursor state'.probed :=
      ⟨hrefused.rest, hrefused.addr, hunderway.same.onPage hpoised.page, hconcluded.probed⟩
    have hslow : middle.host.mode = .slow := by
      rw [hrefused.host]
      rfl
    refine (retry_trySlowly hlength hrefused.notBlank hunderway hpoised' hslow).mono ?_
    rintro ⟨(failure | handling), rest, state''⟩ after hafter
    · exact hafter
    · obtain ⟨s', c, c', hconcluded', hmode, hfinished⟩ := hafter
      have hrefuses : task.device.firmware.refusesBlocks = true := by
        rw [← hconcluded.underway.same.firmware]
        exact hrefused.refuses
      refine ⟨s', c, c', hconcluded', trivial, hfinished, ?_⟩
      rw [hfinished.host]
      simpa [modeAfter, hrefuses, hrefused.notBlank, Host.trust] using hmode

/-- Whatever becomes of a page, the others are left alone. -/
theorem settlePage_contained (task : PageTask ω) (hlength : task.page.length = task.cursor.pageSize.toNat)
    (htally : task.tally = state.tally) (hcarries : wire.Carries task.session.link task.device)
    (hpoised : task.device.Poised task.cursor state.probed) :
    Yields (settlePage task.cursor task.page (.forPage task.retries) state) task.session
      fun _ after => Contained wire task after := by
  refine (settlePage_yields task hlength htally hcarries hpoised).mono ?_
  rintro ⟨(failure | handling), allowance, state'⟩ after hafter
  · exact hafter.2
  · obtain ⟨s, b, b', hconcluded, -, hfinished, -⟩ := hafter
    exact ⟨b', hconcluded.carries, hconcluded.underway.same.trans hfinished.settled.same⟩

end Session

end Bootflash
