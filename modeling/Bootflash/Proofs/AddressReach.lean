import Bootflash.Proofs.Pass

namespace Bootflash

namespace Span

variable {span : Span} {n : Nat}

/-- Where the page with this number begins. The last border is the end of the range. -/
def border (span : Span) (n : Nat) : UInt32 :=
  UInt32.ofNat (span.start.toNat + n * span.pageSize.toNat)

theorem border_zero (span : Span) : span.border 0 = span.start := by
  simp [border]

theorem Sound.toNat_border (h : span.Sound) (hn : n ≤ span.total) :
    (span.border n).toNat = span.start.toNat + n * span.pageSize.toNat := by
  rcases Nat.lt_or_eq_of_le hn with hlt | rfl
  · exact h.toNat_page hlt
  · rw [border, ← h.stop_eq, UInt32.ofNat_toNat]

/-- The pass can be sent to every border just if pages are even and the range ends low enough. -/
theorem Sound.reachable_borders_iff (h : span.Sound) :
    (∀ n ≤ span.total, Session.reachable (span.border n) = true) ↔
      span.pageSize.toNat % 2 = 0 ∧ span.stop.toNat ≤ 0x1fffe := by
  have hstop := h.stop_eq
  constructor
  · intro hreach
    have hfirst := Session.reachable_iff.mp (hreach 0 (Nat.zero_le _))
    have hsecond := Session.reachable_iff.mp (hreach 1 h.total_pos)
    have hlast := Session.reachable_iff.mp (hreach span.total (Nat.le_refl _))
    rw [h.toNat_border (Nat.zero_le _)] at hfirst
    rw [h.toNat_border h.total_pos] at hsecond
    rw [h.toNat_border (Nat.le_refl _), ← hstop] at hlast
    omega
  · rintro ⟨heven, hlow⟩ n hn
    rw [Session.reachable_iff, h.toNat_border hn]
    have hmul := Nat.mul_le_mul_right span.pageSize.toNat hn
    have hpage : 2 ∣ span.pageSize.toNat := Nat.dvd_of_mod_eq_zero heven
    have hstart : 2 ∣ span.start.toNat := Nat.dvd_trans hpage (Nat.dvd_of_mod_eq_zero h.start)
    have hborder : 2 ∣ span.start.toNat + n * span.pageSize.toNat :=
      Nat.dvd_add hstart (Nat.dvd_mul_left_of_dvd hpage n)
    omega

end Span

namespace Bootloader

variable {b b' b'' : Bootloader}

/-- The device is at rest again, and neither its firmware nor its indicator has changed. -/
structure Steady (before after : Bootloader) : Prop where
  rest : after.AtRest
  firmware : after.firmware = before.firmware
  led : after.led = before.led
  probed : before.probed = true → after.probed = true

theorem AtRest.steady (h : b.AtRest) : b.Steady b :=
  ⟨h, rfl, rfl, id⟩

theorem Steady.trans (h : b.Steady b') (h' : b'.Steady b'') : b.Steady b'' :=
  ⟨h'.rest, h'.firmware.trans h.firmware, h'.led.trans h.led, fun hp => h'.probed (h.probed hp)⟩

theorem AtRest.steady_ran (h : b.AtRest) (op : Opcode) (arguments : List UInt8)
    (hled : (b.ran op arguments).led = b.led) :
    b.Steady (b.ran op arguments) :=
  ⟨h.ran op arguments, firmware_ran b op arguments, hled, fun hp => (probed_ran b op arguments).trans hp⟩

theorem AtRest.steady_pointed (h : b.AtRest) (addr : UInt32) : b.Steady (b.pointed addr) :=
  h.steady_ran .setAddress (Session.addressFrame addr).tail rfl

theorem AtRest.steady_stored (h : b.AtRest) (page : List UInt8) :
    b.Steady ((b.ran .writeBlock []).stored page) :=
  ⟨h.stored page, firmware_ran b .writeBlock [], rfl, fun hp => by simp [Bootloader.stored, hp]⟩

theorem Steady.keepsProbed {probed : Bool} (h : b.Steady b') (hprobed : b.Probed probed) :
    b'.Probed probed := by
  intro hp
  rw [h.firmware]
  exact ⟨h.probed (hprobed hp).1, (hprobed hp).2⟩

theorem blockReply_of_rules_eq_nil (hrules : b.firmware.rules = []) : b.blockReply = [ack] := by
  rw [blockReply, Firmware.override?_of_rules_eq_nil hrules]
  rfl

end Bootloader

namespace Session

/-- The pointer was sent to the address, and the indicator was left alone. -/
structure Moved (addr : UInt32) (host : Host) (b : Bootloader) (host' : Host) (b' : Bootloader) : Prop where
  reach : reachable addr = true
  led : host'.led = host.led
  steady : b.Steady b'
  addr : b'.addr = addr.toNat

/-- The address could not be sent, and the indicator was left alone. -/
structure Stuck (addr : UInt32) (host : Host) (b : Bootloader) (failure : Failure) (host' : Host)
    (b' : Bootloader) : Prop where
  failure : failure = .addressOutOfReach addr
  reach : reachable addr = false
  led : host'.led = host.led
  steady : b.Steady b'

section Moves

variable {addr : UInt32} {host host₁ host' : Host} {b c b' : Bootloader} {failure : Failure}

theorem Moved.after (h : Moved addr host₁ c host' b') (hled : host₁.led = host.led) (hsteady : b.Steady c) :
    Moved addr host b host' b' :=
  ⟨h.reach, h.led.trans hled, hsteady.trans h.steady, h.addr⟩

theorem Stuck.after (h : Stuck addr host₁ c failure host' b') (hled : host₁.led = host.led)
    (hsteady : b.Steady c) :
    Stuck addr host b failure host' b' :=
  ⟨h.failure, h.reach, h.led.trans hled, hsteady.trans h.steady⟩

end Moves

namespace Exchange

variable {host : Host} {b : Bootloader} {cursor : PageCursor} {page : List UInt8}
  {wrong : Failure → Host → Bootloader → Prop}

theorem setAddress_moves (addr : UInt32) (hrest : b.AtRest) :
    Exchange Bootloader.wire (Session.setAddress addr) host b (fun _ => Moved addr host b)
      (Stuck addr host b) fun _ _ => True := by
  cases hreach : reachable addr with
  | true =>
    refine (setAddress hrest.ready hreach trivial trivial).returning ?_
    rintro - _ _ ⟨rfl, rfl⟩
    exact ⟨hreach, rfl, hrest.steady_pointed addr, Bootloader.addr_pointed hreach⟩
  | false => exact setAddress_of_unreachable hreach ⟨rfl, hreach, rfl, hrest.steady⟩

/-- The pointer is sent on from where something else has left it. -/
theorem setAddress_moves_on {c : Bootloader} {host₁ : Host} (addr : UInt32)
    (hled : host₁.led = host.led) (hsteady : b.Steady c) :
    Exchange Bootloader.wire (Session.setAddress addr) host₁ c (fun _ => Moved addr host b)
      (Stuck addr host b) fun _ _ => True := by
  refine (setAddress_moves addr hsteady.rest).mono ?_ ?_ fun _ _ _ => trivial
  · intro _ _ _ hmoved
    exact hmoved.after hled hsteady
  · intro _ _ _ hstuck
    exact hstuck.after hled hsteady

/-- Whatever is loaded into the page buffer, an odd number of bytes included. -/
theorem loadWords_steady (hrest : b.AtRest) :
    Exchange Bootloader.wire (Session.loadWords page) host b
      (fun _ host' b' => host'.led = host.led ∧ b.Steady b') wrong fun _ _ => True := by
  induction page using Session.loadWords.induct generalizing b host with
  | case1 low high rest ih =>
    refine bind (loadWord hrest fun _ _ _ _ => trivial) ?_
    rintro - _ _ ⟨rfl, rfl⟩
    have hlow := hrest.steady_ran .loadLow [low] rfl
    have hsteady := hlow.trans (hlow.rest.steady_ran .loadHigh [high] rfl)
    refine (ih hsteady.rest).returning ?_
    rintro - host' b' ⟨hled, hsteady'⟩
    exact ⟨hled, hsteady.trans hsteady'⟩
  | case2 words hshort =>
    rw [Session.loadWords]
    · exact pure ⟨rfl, hrest.steady⟩
    · exact hshort

/-- Byte by byte, a page can only fail for the address of the next one. -/
theorem writeSlowly_moves (hrest : b.AtRest) (hreach : reachable cursor.current = true) :
    Exchange Bootloader.wire (Session.writeSlowly cursor page) host b (fun _ => Moved cursor.next host b)
      (Stuck cursor.next host b) fun _ _ => True := by
  refine bind (loadWords_steady hrest) ?_
  rintro - host₁ b₁ ⟨hled, hsteady⟩
  refine bind (setAddress hsteady.rest.ready hreach trivial trivial) ?_
  rintro - _ _ ⟨rfl, rfl⟩
  have hpointed := hsteady.trans (hsteady.rest.steady_pointed cursor.current)
  refine bind (commitPage hpointed.rest trivial trivial) ?_
  rintro - _ _ ⟨rfl, rfl⟩
  exact setAddress_moves_on cursor.next hled (hpointed.trans (hpointed.rest.steady_ran .writePage [] rfl))

/-- The data of a block is acknowledged when no rule interferes. -/
theorem sendBlock_steady (hrest : b.AtRest) (hrules : b.firmware.rules = [])
    (hlength : page.length = b.firmware.pageSize) (hpositive : 0 < b.firmware.pageSize) :
    Exchange Bootloader.wire (Session.sendBlock page) host b.awaiting
      (fun _ host' b' => host' = host ∧ b.Steady b' ∧ b'.probed = true) wrong fun _ _ => True := by
  have hrest' := hrest.ran .writeBlock []
  have hfirmware : b.awaiting.firmware = b.firmware := Bootloader.firmware_ran b .writeBlock []
  have hidle : { b.awaiting with stage := .idle } = b.ran .writeBlock [] := by
    change { b.ran .writeBlock [] with stage := .idle } = b.ran .writeBlock []
    rw [← hrest'.idle]
  have hreply : b.awaiting.blockReply = [ack] :=
    Bootloader.blockReply_of_rules_eq_nil (by rw [hfirmware, hrules])
  have hstage : b.awaiting.stage = .collecting .block b.awaiting.firmware.pageSize [] := by
    rw [hfirmware]
    rfl
  refine (sendBlock hstage hrest.output_awaiting (hfirmware ▸ hrest.tame) (hfirmware ▸ hlength)
    (hfirmware ▸ hpositive) trivial trivial ?_).returning ?_
  · intro byte hbyte hother
    exact absurd (List.singleton_inj.mp (hother.symm.trans hreply)) hbyte
  · rintro - host' b' ⟨-, hhost, hb⟩
    rw [hidle] at hb
    subst b'
    refine ⟨hhost, hrest.steady_stored page, ?_⟩
    have hreply' : (b.ran .writeBlock []).blockReply = [ack] := hreply
    simp [Bootloader.stored, hreply']

end Exchange

variable {α : Type} {cursor : PageCursor} {page : List UInt8} {probed : Bool} {s m after : Session Bootloader}

/-- The device is ready for a try at the page under the cursor. Nothing is said about the next one. -/
structure AtPage (cursor : PageCursor) (probed : Bool) (b : Bootloader) : Prop where
  rest : b.AtRest
  rules : b.firmware.rules = []
  pageSize : b.firmware.pageSize = cursor.pageSize.toNat
  positive : 0 < cursor.pageSize.toNat
  reach : reachable cursor.current = true
  addr : b.addr = cursor.current.toNat
  probed : b.Probed probed

theorem AtPage.moved {addr : UInt32} {probed' : Bool} {host host' : Host} {b b' : Bootloader}
    (h : AtPage cursor probed b) (hmoved : Moved addr host b host' b')
    (hprobed : b'.Probed probed') : AtPage { cursor with current := addr } probed' b' where
  rest := hmoved.steady.rest
  rules := by rw [hmoved.steady.firmware, h.rules]
  pageSize := by rw [hmoved.steady.firmware, h.pageSize]
  positive := h.positive
  reach := hmoved.reach
  addr := hmoved.addr
  probed := hprobed

/-- What one try comes to: the pointer was sent where the outcome says, or it could not be sent to
the next page. -/
inductive PointerSent (target : α → UInt32) (next : UInt32)
    (s : Session Bootloader) : Attempt α → Session Bootloader → Prop
  | moved {outcome probed after} (hprobed : after.link.Probed probed)
    (moved : Moved (target outcome) s.host s.link after.host after.link) :
    PointerSent target next s ⟨outcome, none, probed⟩ after
  | stuck {outcome failure probed after} (stuck : Stuck next s.host s.link failure after.host after.link) :
    PointerSent target next s ⟨outcome, some failure, probed⟩ after

/-- The last operation of a try sends the pointer on. -/
theorem Exchange.pointerSent {target : α → UInt32} {next : UInt32} {outcome : α}
    {operation : SessionM Bootloader Unit}
    (h : Exchange Bootloader.wire operation m.host m.link (fun _ => Moved (target outcome) m.host m.link)
      (Stuck next m.host m.link) fun _ _ => True)
    (hled : m.host.led = s.host.led) (hsteady : s.link.Steady m.link) (hprobed : m.link.Probed probed) :
    Yields (do return ⟨outcome, ← Session.failureOf operation, probed⟩) m (PointerSent target next s) := by
  refine Yields.bind (Yields.failureOf (h.ends.mono ?_ ?_)) fun _ _ hsent => hsent
  · intro _ after hmoved
    exact .moved (hmoved.steady.keepsProbed hprobed) (hmoved.after hled hsteady)
  · intro failure after hstuck
    exact .stuck (hstuck.after hled hsteady)

theorem trySlowly_pointerSent (hpage : AtPage cursor probed s.link) :
    Yields (trySlowly cursor page probed) s (PointerSent (fun _ => cursor.next) cursor.next s) :=
  Exchange.pointerSent (Exchange.writeSlowly_moves hpage.rest hpage.reach) rfl hpage.rest.steady hpage.probed

/-- Where a try in the session's mode sends the pointer at its end. -/
def landing (cursor : PageCursor) : PageOutcome → UInt32
  | .settled _ => cursor.next
  | .redo => cursor.current

theorem tryPage_pointerSent (hpage : AtPage cursor probed s.link) (hlength : page.length = cursor.pageSize.toNat) :
    Yields (tryPage cursor page probed) s (PointerSent (landing cursor) cursor.next s) := by
  have hsteady := hpage.rest.steady
  unfold tryPage
  by_cases hblank : isBlank page = true
  · rw [if_pos hblank]
    exact Exchange.pointerSent (Exchange.setAddress_moves cursor.next hpage.rest) rfl hsteady hpage.probed
  rw [if_neg hblank]
  refine Yields.step ?_
  change Yields (if s.host.mode = .slow then _ else _) s _
  by_cases hslow : s.host.mode = .slow
  · rw [if_pos hslow]
    exact Exchange.pointerSent (Exchange.writeSlowly_moves hpage.rest hpage.reach) rfl hsteady hpage.probed
  rw [if_neg hslow]
  have hwritten : isBlank page = false := by simpa using hblank
  have hoffer : Exchange Bootloader.wire (offerBlock probed) s.host s.link _ (fun _ _ _ => False)
      fun _ _ => True :=
    Exchange.offerBlock hpage.rest hpage.addr hwritten hpage.probed fun _ _ => trivial
  refine Yields.bind hoffer.ends ?_
  rintro (failure | accepted) m hm
  · exact hm.elim
  obtain ⟨hhost, ⟨hrefuses, rfl, hlink⟩ | ⟨htakes, rfl, hlink⟩⟩ := hm
  · -- Blocks are refused, and the pointer goes back to where it came from.
    let slow : Session Bootloader :=
      (update (fun host => { host with mode := .slow }) (note .blocksRefused m).2).2
    have hsteady' : s.link.Steady slow.link := by
      change s.link.Steady m.link
      rw [hlink]
      exact hpage.rest.steady_ran .writeBlock [] rfl
    have hled : slow.host.led = s.host.led := by
      change m.host.led = _
      rw [hhost]
      rfl
    have hback : Exchange Bootloader.wire (setAddress cursor.current) slow.host slow.link
        (fun _ => Moved (landing cursor .redo) slow.host slow.link)
        (Stuck cursor.next slow.host slow.link) fun _ _ => True := by
      refine (Exchange.setAddress_moves cursor.current hsteady'.rest).mono
        (fun _ _ _ hmoved => hmoved) ?_ fun _ _ _ => trivial
      intro _ _ _ hstuck
      exact absurd (hstuck.reach.symm.trans hpage.reach) (by decide)
    exact Yields.step (Yields.step (hback.pointerSent hled hsteady' (hsteady'.keepsProbed hpage.probed)))
  · have hsend : Exchange Bootloader.wire (sendBlock page) m.host s.link.awaiting _
        (fun _ _ _ => False) fun _ _ => True :=
      Exchange.sendBlock_steady hpage.rest hpage.rules (hlength.trans hpage.pageSize.symm)
        (hpage.pageSize ▸ hpage.positive)
    rw [← hlink] at hsend
    refine Yields.bind hsend.ends ?_
    rintro (failure | ⟨⟩) m' hm'
    · exact hm'.elim
    obtain ⟨hhost', hsteady', hprobed⟩ := hm'
    have hled : m'.host.led = s.host.led := by
      rw [hhost', hhost]
      rfl
    have hprobed' : m'.link.Probed true := fun _ => ⟨hprobed, by rw [hsteady'.firmware, htakes]⟩
    exact Exchange.pointerSent (Exchange.setAddress_moves cursor.next hsteady'.rest) hled hsteady' hprobed'

/-- What the tries at a page come to. None of them is made again: an address that cannot be sent
never can be. -/
structure RetriedTo (target : α → UInt32) (next : UInt32) (state : PassState)
    (s : Session Bootloader) (retried : Retried α) (after : Session Bootloader) : Prop where
  tally : retried.state.tally = state.tally
  result : match retried.result with
    | .ok outcome => after.link.Probed retried.state.probed ∧
        Moved (target outcome) s.host s.link after.host after.link
    | .error failure => Stuck next s.host s.link failure after.host after.link

theorem retry_retriedTo {target : α → UInt32} {next : UInt32}
    {attempt : Bool → StateM (Session Bootloader) (Attempt α)} {tries : Nat} {a : Allowance}
    {state : PassState}
    (hattempt : Yields (attempt state.probed) (s.attempting cursor)
      (PointerSent target next (s.attempting cursor))) :
    Yields (retry cursor attempt tries a state) s (RetriedTo target next state s) := by
  rw [retry]
  refine Yields.step (Yields.bind hattempt ?_)
  rintro _ after (⟨hprobed, hmoved⟩ | ⟨hstuck⟩)
  · exact ⟨rfl, hprobed, hmoved⟩
  · obtain rfl := hstuck.failure
    exact ⟨rfl, hstuck⟩

/-- Any page is dealt with if the address of the next one can be sent, and only then. -/
theorem settlePage_retriedTo {a : Allowance} {state : PassState} (hpage : AtPage cursor state.probed s.link)
    (hlength : page.length = cursor.pageSize.toNat) :
    Yields (settlePage cursor page a state) s (RetriedTo (fun _ => cursor.next) cursor.next state s) := by
  have hfirst : AtPage cursor state.probed (s.attempting cursor).link := hpage
  refine Yields.bind (retry_retriedTo (tryPage_pointerSent hfirst hlength)) ?_
  rintro ⟨(failure | (handling | -)), rest, state'⟩ middle ⟨htally, hmiddle⟩
  · exact ⟨htally, hmiddle⟩
  · exact ⟨htally, hmiddle⟩
  · obtain ⟨hprobed, hmoved⟩ := hmiddle
    have hagain : AtPage cursor state'.probed (middle.attempting cursor).link := hpage.moved hmoved hprobed
    refine (retry_retriedTo (trySlowly_pointerSent hagain)).mono ?_
    rintro ⟨(failure | handling), rest', state''⟩ after ⟨htally', hafter⟩
    · exact ⟨htally'.trans htally, hafter.after hmoved.led hmoved.steady⟩
    · exact ⟨htally'.trans htally, hafter.1, hafter.2.after hmoved.led hmoved.steady⟩

variable {image : Image} {span : Span} {n : Nat} {state : PassState}

/-- The first `n` pages of the range are dealt with, and the pointer could be sent to every border
so far. The indicator is on. -/
structure Reached (span : Span) (n : Nat) (cursor : PageCursor) (state : PassState)
    (s : Session Bootloader) : Prop where
  current : cursor.current = span.border n
  pageSize : cursor.pageSize = span.pageSize
  page : AtPage cursor state.probed s.link
  borders : ∀ k ≤ n, reachable (span.border k) = true
  tally : state.tally.written + state.tally.skipped = n
  lit : s.link.led = true ∧ s.host.led = true

/-- The failure of a pass for which the border with this number is out of reach. -/
def outOfReach (span : Span) : Nat → Failure
  | 0 => .addressOutOfReach span.start
  | n + 1 => .pageWrite (span.border n) (.addressOutOfReach (span.border (n + 1)))

/-- The pass is stuck at the first border that cannot be sent. The pages before it but the last are
counted, and the indicator is on. -/
structure StuckAt (span : Span) (n : Nat) (tally : Tally) (failure : Failure)
    (after : Session Bootloader) : Prop where
  le : n ≤ span.total
  reach : reachable (span.border n) = false
  borders : ∀ k < n, reachable (span.border k) = true
  failure : failure = outOfReach span n
  tally : tally.written + tally.skipped = n - 1
  lit : after.link.led = true ∧ after.host.led = true

theorem StuckAt.not_fits {tally : Tally} {failure : Failure}
    (h : StuckAt span n tally failure after) (hsound : span.Sound) :
    ¬(span.pageSize.toNat % 2 = 0 ∧ span.stop.toNat ≤ 0x1fffe) := by
  intro hfits
  have hreach := hsound.reachable_borders_iff.mpr hfits n h.le
  exact absurd (hreach.symm.trans h.reach) (by decide)

theorem Reached.step (retries done total : Nat) (h : Reached span n cursor state s)
    (hsound : span.Sound) (hn : n < span.total) (himage : span.stop.toNat ≤ image.size) :
    Yields (settlePage cursor (image.page cursor.current cursor.pageSize) (.forPage retries) state)
      s fun retried after =>
      match retried.result with
      | .ok handling => Reached span (n + 1) cursor.advance (retried.state.count handling)
          (record (.progressed done total) after).2
      | .error failure => StuckAt span (n + 1) retried.state.tally
          (.pageWrite cursor.current failure) after := by
  have hborder := hsound.toNat_border (Nat.le_of_lt hn)
  have hle := hsound.le_stop hn
  have hlength : (image.page cursor.current cursor.pageSize).length = cursor.pageSize.toNat := by
    refine Image.length_page ?_
    rw [h.current, h.pageSize]
    omega
  have hnext : cursor.next = span.border (n + 1) := by
    rw [← UInt32.toNat_inj, PageCursor.next, h.current, h.pageSize, hsound.toNat_next hn hborder,
      hsound.toNat_border (Nat.succ_le_of_lt hn)]
  refine (settlePage_retriedTo h.page hlength).mono ?_
  rintro ⟨(failure | handling), rest, state'⟩ after ⟨htally, hafter⟩
  · refine ⟨Nat.succ_le_of_lt hn, hnext ▸ hafter.reach,
      fun k hk => h.borders k (Nat.le_of_lt_succ hk), ?_, ?_, ?_⟩
    · rw [hafter.failure, hnext, h.current]
      rfl
    · rw [htally, h.tally]
      rfl
    · exact ⟨hafter.steady.led.trans h.lit.1, hafter.led.trans h.lit.2⟩
  · obtain ⟨hprobed, hmoved⟩ := hafter
    refine ⟨hnext, h.pageSize, h.page.moved hmoved hprobed, ?_, ?_, ?_⟩
    · intro k hk
      rcases Nat.lt_or_eq_of_le hk with hlt | rfl
      · exact h.borders k (Nat.le_of_lt_succ hlt)
      · exact hnext ▸ hmoved.reach
    · have hcount : state'.tally.written + state'.tally.skipped = n := by
        rw [show state'.tally = state.tally from htally, h.tally]
      cases handling <;> simp only [PassState.count, Tally.count] <;> omega
    · exact ⟨hmoved.steady.led.trans h.lit.1, hmoved.led.trans h.lit.2⟩

/-- Before the first page the indicator is lit, and the pointer is sent to the start of the range. -/
theorem Exchange.beginPass_moves {host : Host} {b : Bootloader} (start : UInt32) (hrest : b.AtRest) :
    Exchange Bootloader.wire (Session.beginPass start) host b
      (fun _ => Moved start { host with led := true } (b.ran .ledOn [0]))
      (Stuck start { host with led := true } (b.ran .ledOn [0])) fun _ _ => True := by
  have hlit := (hrest.ran .ledOn [0]).steady
  refine bind (lightLed hrest trivial trivial) ?_
  rintro - _ _ ⟨rfl, rfl⟩
  refine bind (requireAutoIncrement hlit.rest trivial trivial) ?_
  rintro - _ _ ⟨rfl, rfl⟩
  have hasked := hlit.trans (hlit.rest.steady_ran .autoIncrement [] rfl)
  refine bind (within (enterProgramming hasked.rest trivial trivial)) ?_
  rintro - _ _ ⟨rfl, rfl⟩
  exact setAddress_moves_on start rfl (hasked.trans (hasked.rest.steady_ran .enterProgramming [] rfl))

/-- A pass over an accepted range goes through if every border can be sent, and is stuck at the
first that cannot. -/
theorem programRange_reaches {start stop : UInt32} {device : Device} (options : Options)
    (hrest : s.link.AtRest) (hrules : s.link.firmware.rules = [])
    (hpageSize : s.link.firmware.pageSize = device.geometry.flashPageSize.toNat)
    (hcursor : PageCursor.spanning start stop device.geometry.flashPageSize =
      .ok ⟨start, stop, device.geometry.flashPageSize⟩)
    (himage : ¬image.length32 < stop) :
    Yields (programRange image start stop device options) s fun pass after =>
      (∃ tally, pass = .complete tally ∧ tally.exitFailure = none ∧
        ∀ n ≤ Span.total ⟨start, stop, device.geometry.flashPageSize⟩,
          reachable (Span.border ⟨start, stop, device.geometry.flashPageSize⟩ n) = true) ∨
      ∃ n tally failure, pass = .stopped tally failure ∧
        StuckAt ⟨start, stop, device.geometry.flashPageSize⟩ n tally failure after := by
  let span : Span := ⟨start, stop, device.geometry.flashPageSize⟩
  obtain ⟨-, hsound⟩ : _ ∧ span.Sound := Span.sound_of_spanning hcursor
  have hbegin : Exchange Bootloader.wire (beginPass start) (s.opening start stop device).host
      (s.opening start stop device).link _ _ fun _ _ => True := Exchange.beginPass_moves start hrest
  refine programRange_parts (fun ready => Reached span 0 ⟨start, stop, span.pageSize⟩ .start
    (setMode .fast ready).2) hcursor himage (hbegin.ends.mono ?_ ?_) ?_
  · intro _ ready hmoved
    refine ⟨span.border_zero.symm, rfl,
      ⟨hmoved.steady.rest, ?_, ?_, hsound.positive, hmoved.reach, hmoved.addr, ?_⟩, ?_, rfl, ?_⟩
    · rw [show (setMode .fast ready).2.link = ready.link from rfl,
        hmoved.steady.firmware, Bootloader.firmware_ran]
      exact hrules
    · rw [show (setMode .fast ready).2.link = ready.link from rfl,
        hmoved.steady.firmware, Bootloader.firmware_ran]
      exact hpageSize
    · exact fun hprobed => nomatch hprobed
    · intro k hk
      obtain rfl := Nat.le_zero.mp hk
      rw [span.border_zero]
      exact hmoved.reach
    · exact ⟨hmoved.steady.led, hmoved.led⟩
  · intro failure after hstuck
    have hstart : reachable (span.border 0) = false := by
      rw [span.border_zero]
      exact hstuck.reach
    exact .inr ⟨0, .empty, failure, rfl, Nat.zero_le _, hstart, by simp, hstuck.failure, rfl,
      hstuck.steady.led, hstuck.led⟩
  · intro ready hready
    have hinv : span.total ≤ span.total ∧
        Reached span (span.total - span.total) ⟨start, stop, span.pageSize⟩ .start
          (setMode .fast ready).2 := by
      rw [Nat.sub_self]
      exact ⟨Nat.le_refl _, hready⟩
    refine (programPages_yields image options.retries span.total
      (fun left cursor state s => left ≤ span.total ∧ Reached span (span.total - left) cursor state s)
      (fun state failure after => ∃ n, StuckAt span n state.tally failure after) ?_ hinv).mono ?_
    · rintro left cursor state s ⟨hleft, hreached⟩
      have hn : span.total - (left + 1) < span.total := by omega
      have hsucc : span.total - (left + 1) + 1 = span.total - left := by omega
      have hstep := hreached.step options.retries (span.total - left) span.total hsound hn
        (Image.le_size_of_not_lt himage)
      rw [hsucc] at hstep
      refine hstep.mono ?_
      rintro ⟨(failure | handling), rest, state'⟩ after hafter
      · exact ⟨_, hafter⟩
      · exact ⟨by omega, hafter⟩
    · rintro ⟨state, - | failure⟩ after hafter
      · obtain ⟨last, -, hreached⟩ := hafter
        have hend : Yields (endPass state.tally) after
            (PassEnd Bootloader.wire state.tally after after.link) :=
          endPass_yields hreached.page.rest rfl
        refine hend.mono ?_
        intro tally final hfinal
        obtain ⟨failure, hreports, -⟩ | ⟨hexit, -⟩ := hfinal.clean
        · exact hreports.elim
        · exact .inl ⟨tally, rfl, hexit, hreached.borders⟩
      · obtain ⟨n, hstuck⟩ := hafter
        exact .inr ⟨n, _, failure, rfl, hstuck⟩

/-- A range that has no whole pages, or more than the image has, is refused before anything is sent
and leaves everything as it was. Any other is accepted. If pages are even and the range ends no
higher than an address can be sent, the pass goes through. Otherwise it does not: it is stuck at the
first border that cannot be sent, with the pages before it dealt with and the indicator on. -/
theorem programRange_refused_complete_or_stuck (image : Image) (start stop : UInt32)
    (device : Device) (options : Options) (s : Session Bootloader) (hsize : image.size < 4294967296)
    (hpageSize : s.link.firmware.pageSize = device.geometry.flashPageSize.toNat)
    (hidle : s.link.stage = .idle) (hheard : s.link.output = [])
    (hbuffer : s.link.buffer.size = s.link.firmware.pageSize)
    (hawake : s.link.firmware.silent = false) (hrules : s.link.firmware.rules = [])
    (hfillers : s.link.firmware.fillers ≤ 4) :
    let span : Span := ⟨start, stop, device.geometry.flashPageSize⟩
    let accepted := span.Sound ∧ stop.toNat ≤ image.size
    let even := device.geometry.flashPageSize.toNat % 2 = 0
    let run := programRange image start stop device options s
    (¬accepted → ∃ failure, failure.root = .invalidRange ∧ run = (.refused failure, s)) ∧
      (accepted → even → stop.toNat ≤ 0x1fffe → ∃ tally, run.1 = .complete tally ∧ tally.exitFailure = none) ∧
      (accepted → ¬(even ∧ stop.toNat ≤ 0x1fffe) →
        ∃ n tally failure, run.1 = .stopped tally failure ∧ StuckAt span n tally failure run.2) := by
  intro span accepted even run
  have hrest : s.link.AtRest := ⟨hidle, hheard, Firmware.tame_of_rules_eq_nil hawake hfillers hrules, hbuffer⟩
  have hpass (haccepted : accepted) :=
    programRange_reaches options hrest hrules hpageSize haccepted.1.spanning_eq_ok
      (Image.not_lt_of_le_size hsize haccepted.2)
  refine ⟨?_, ?_, ?_⟩
  · intro hrefused
    obtain hrun | ⟨hcursor, himage⟩ := programRange_refused_or_accepted image start stop device options s
    · exact hrun
    · exact absurd ⟨(Span.sound_of_spanning hcursor).2, Image.le_size_of_not_lt himage⟩ hrefused
  · intro haccepted heven hlow
    rcases hpass haccepted with ⟨tally, hcomplete, hexit, -⟩ | ⟨n, tally, failure, -, hstuck⟩
    · exact ⟨tally, hcomplete, hexit⟩
    · exact absurd ⟨heven, hlow⟩ (hstuck.not_fits haccepted.1)
  · intro haccepted hnot
    rcases hpass haccepted with ⟨-, -, -, hborders⟩ | hstuck
    · exact absurd (haccepted.1.reachable_borders_iff.mp hborders) hnot
    · exact hstuck

/-- Pages of an odd size: the first page is written before it turns out that the second cannot be. -/
theorem programRange_refused_complete_or_stuck_odd :
    let b := Bootloader.start ⟨3, [], [1], 0, 0, false, false, 0, []⟩ (.filled 6 erased)
    let run := programRange (.ofBytes ⟨#[1, 2, 3, 4, 5, 6]⟩) 0 6 ⟨1, "odd", ⟨6, 3, 0, 0⟩, .fixed 6⟩
      .none (.start b)
    (∃ tally, run.1 = .stopped tally (.pageWrite 0 (.addressOutOfReach 3))) ∧ run.2.link.led = true ∧
      run.2.link.flash.slice 0 3 = [1, 2, 3] := by
  intro b run
  have hsound : (⟨0, 6, 3⟩ : Span).Sound := ⟨by decide, by decide, by decide, by decide⟩
  obtain ⟨-, -, hstuck⟩ := programRange_refused_complete_or_stuck (.ofBytes ⟨#[1, 2, 3, 4, 5, 6]⟩)
    0 6 ⟨1, "odd", ⟨6, 3, 0, 0⟩, .fixed 6⟩ .none
    (.start b) (by decide) rfl rfl rfl (by decide) rfl rfl (by decide)
  obtain ⟨n, tally, failure, hrun, hat⟩ := hstuck ⟨hsound, by decide⟩ (by decide)
  have hfirst : ∀ n ≤ 2, reachable (Span.border ⟨0, 6, 3⟩ n) = false → n = 1 := by decide
  obtain rfl := hfirst n hat.le hat.reach
  refine ⟨⟨tally, ?_⟩, hat.lit.1, by decide +kernel⟩
  rw [hat.failure] at hrun
  exact hrun

/-- The last two pages of what an address can tell apart. The range is accepted, but its end is out
of reach: the first page is dealt with, and the pass is stuck after the second with the indicator
on. -/
theorem programRange_stuck_at_end_of_reach :
    let image : Image := .ofBytes ⟨Array.replicate 130816 erased ++ #[1, 2] ++ Array.replicate 254 erased⟩
    let b := Bootloader.start ⟨128, [], [114], 0, 0, false, false, 0, []⟩ (.filled 131072 erased)
    let run := programRange image 0x1ff00 0x20000 .atmega32 .none (.start b)
    (∃ tally, run.1 = .stopped tally (.pageWrite 0x1ff80 (.addressOutOfReach 0x20000)) ∧
      tally.written + tally.skipped = 1) ∧ run.2.link.led = true := by
  intro image b
  have hrest : b.AtRest :=
    ⟨rfl, rfl, Firmware.tame_of_rules_eq_nil rfl (by decide) rfl, Memory.size_filled 128 erased⟩
  have hsize : image.size = 131072 := (Image.size_ofBytes _).trans (by simp)
  have himage : ¬image.length32 < 0x20000 := Image.not_lt_of_le_size (by omega) (by rw [hsize]; decide)
  have hreaches : Yields (programRange image 0x1ff00 0x20000 .atmega32 .none) (.start b) _ :=
    programRange_reaches .none hrest rfl rfl rfl himage
  rw [Yields] at hreaches
  generalize programRange image 0x1ff00 0x20000 .atmega32 .none (.start b) = run at hreaches ⊢
  rcases hreaches with ⟨-, -, -, hborders⟩ | ⟨n, tally, failure, hrun, hat⟩
  · exact absurd (hborders 2 (by decide)) (by decide)
  have hfirst : ∀ n ≤ 2, reachable (Span.border ⟨0x1ff00, 0x20000, 128⟩ n) = false → n = 2 := by decide
  obtain rfl := hfirst n hat.le hat.reach
  refine ⟨⟨tally, ?_, hat.tally⟩, hat.lit.1⟩
  rw [hat.failure] at hrun
  exact hrun

end Session

end Bootflash
