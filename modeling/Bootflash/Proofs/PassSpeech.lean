import Bootflash.Proofs.PassWatch

namespace Bootflash

namespace Session

variable {ω : Type} {placement : Placement} {w : Watch} {host : Host}

theorem ObservedStep.note {notice : Notice} (hmode : host.mode = w.mode) (hnotice : notice ≠ .blocksRefused) :
    ObservedStep placement.observer (note notice : StateM (Session ω) Unit) w host
      fun _ w' host' => w' = w ∧ host' = host := by
  have hadmits : placement.observer.Admits w ⟨host, host, .noted notice⟩ :=
    ⟨hmode, .silent (by simp [Event.speaks, hnotice])⟩
  refine (ObservedStep.record hadmits).mono ?_
  intro _ w' host' hafter
  obtain ⟨rfl, rfl⟩ := hafter
  exact ⟨Watch.follow_note hnotice, rfl⟩

namespace Observed

variable [Link ω] {bad : Failure → Watch → Host → Prop}

theorem admits_read (hmode : host.mode = w.mode) (limit : Nat) (reading : Reading) :
    placement.observer.Admits w ⟨host, host, .read limit reading⟩ :=
  ⟨hmode, .silent rfl⟩

/-- One byte that decides about nothing. -/
theorem hearByte (hmode : host.mode = w.mode) (hpending : w.pending = none)
    (hbad : ∀ failure, bad failure w host) :
    Observed placement.observer (Session.receiveByte : SessionM ω (Option UInt8)) w host
      (fun _ w' host' => w' = w ∧ host' = host) bad := by
  have hheard : ∀ reading, placement.observer.follow w ⟨host, host, .read 1 reading⟩ = w := fun reading =>
    Watch.heard_of_pending_eq_none hpending reading
  refine (receiveByte (admits_read hmode 1) ?_).returning ?_
  · intro bytes failure
    rw [hheard]
    exact hbad failure
  · intro byte w' host' hread
    obtain ⟨bytes, -, rfl, rfl⟩ := hread
    exact ⟨hheard _, rfl⟩

theorem expectAny {name : String} {want : UInt8} (hmode : host.mode = w.mode) (hpending : w.pending = none)
    (hbad : ∀ failure, bad failure w host) :
    Observed placement.observer (Session.expect name want : SessionM ω Unit) w host
      (fun _ w' host' => w' = w ∧ host' = host)
      bad := by
  have hheard : ∀ reading, placement.observer.follow w ⟨host, host, .read 1 reading⟩ = w := fun reading =>
    Watch.heard_of_pending_eq_none hpending reading
  refine (expect (admits_read hmode 1) ?_).returning ?_
  · intro failure reading _
    rw [hheard]
    exact hbad failure
  · intro _ w' host' hread
    obtain ⟨rfl, rfl⟩ := hread
    exact ⟨hheard _, rfl⟩

/-- The acknowledgement that decides about a delivery. -/
theorem expectAck {name : String} (hmode : host.mode = w.mode)
    (hbad : ∀ failure, bad failure { w with pending := none } host) :
    Observed placement.observer (Session.expect name ack : SessionM ω Unit) w host
      (fun _ w' host' => w' = w.heard ⟨[ack], none⟩ ∧ host' = host) bad := by
  refine expect (admits_read hmode 1) ?_
  intro failure reading hreading
  have hheard : placement.observer.follow w ⟨host, host, .read 1 reading⟩ = { w with pending := none } :=
    Watch.heard_of_ne_ack hreading
  rw [hheard]
  exact hbad failure

theorem awaitAck {name : String} (hmode : host.mode = w.mode)
    (hbad : ∀ failure, bad failure { w with pending := none } host) :
    Observed placement.observer (Session.awaitAck name : SessionM ω Unit) w host
      (fun _ w' host' => w' = w.heard ⟨[ack], none⟩ ∧ host' = host) bad := by
  have hexpect : Observed placement.observer (Session.expect name ack : SessionM ω Unit) w host _
      (fun _ w' host' => w' = { w with pending := none } ∧ host' = host) :=
      expectAck hmode fun _ => ⟨rfl, rfl⟩
  refine tryCatch hexpect ?_
  intro failure w' host' hfailed
  obtain ⟨rfl, rfl⟩ := hfailed
  refine bind (lift (.note hmode (by simp))) ?_
  intro _ w' host' hnoted
  obtain ⟨rfl, rfl⟩ := hnoted
  exact throw (hbad failure)

theorem say (change : Host → Host) {bytes : List UInt8} (hmode : host.mode = w.mode)
    (hchange : (change host).mode = host.mode)
    (hallows : ∀ failure, placement.Allows w host (change host) (.wrote bytes failure))
    (hbad : ∀ failure, bad failure (w.wrote bytes false) (change host)) :
    Observed placement.observer (Session.transmit change bytes : SessionM ω Unit) w host
      (fun _ w' host' => w' = w.wrote bytes true ∧ host' = change host) bad :=
  transmit change (fun failure => ⟨hchange.trans hmode, hallows failure⟩) hbad

/-- A command and its acknowledgement. -/
theorem command (change : Host → Host) {name : String} {bytes : List UInt8} (hmode : host.mode = w.mode)
    (hchange : (change host).mode = host.mode)
    (hallows : ∀ failure, placement.Allows w host (change host) (.wrote bytes failure))
    (hunsent : ∀ failure, bad failure (w.wrote bytes false) (change host))
    (hunheard : ∀ failure, bad failure { w.wrote bytes true with pending := none } (change host)) :
    Observed placement.observer
      (do Session.transmit change bytes; Session.awaitAck name : SessionM ω Unit) w host
      (fun _ w' host' => w' = (w.wrote bytes true).heard ⟨[ack], none⟩ ∧ host' = change host) bad := by
  refine bind (say change hmode hchange hallows hunsent) ?_
  intro _ w' host' hsent
  obtain ⟨rfl, rfl⟩ := hsent
  exact awaitAck (hchange.trans hmode) hunheard

/-- A command that the observer learns nothing from. -/
theorem plainCommand (change : Host → Host) {name : String} {bytes : List UInt8} (hease : w.AtEase host)
    (hchange : (change host).mode = host.mode)
    (hallows : ∀ failure, placement.Allows w host (change host) (.wrote bytes failure))
    (hplain : Watch.Plain bytes) (hbad : ∀ failure, bad failure w (change host)) :
    Observed placement.observer
      (do Session.transmit change bytes; Session.awaitAck name : SessionM ω Unit) w host
      (fun _ w' host' => w' = w ∧ host' = change host) bad := by
  have hwrote : ∀ taken, w.wrote bytes taken = w := Watch.wrote_of_plain hease.announced hease.pending hplain
  have hheard : ∀ reading, w.heard reading = w := Watch.heard_of_pending_eq_none hease.pending
  have hsame : { w with pending := none } = w := by rw [← hease.pending]
  refine (command change hease.mode hchange hallows ?_ ?_).returning ?_
  · intro failure
    rw [hwrote]
    exact hbad failure
  · intro failure
    rw [hwrote, hsame]
    exact hbad failure
  · intro _ w' host' hdone
    rwa [hwrote, hheard] at hdone

theorem setAddress {addr : UInt32} (hease : w.AtEase host) (hborders : placement.Borders addr)
    (hbad : ∀ failure host', host'.mode = host.mode → bad failure w host') :
    Observed placement.observer (Session.setAddress addr : SessionM ω Unit) w host
      (fun _ w' host' => w' = w ∧ host' = host.trust addr ∧ reachable addr = true) bad := by
  unfold Session.setAddress
  split
  · next hreach =>
    refine bind (plainCommand Host.forget hease rfl
      (fun _ => .command hease.announced rfl ⟨addr, rfl, hreach, hborders⟩)
      (Watch.plain_address addr) fun failure => hbad failure _ rfl) ?_
    intro _ w' host' hdone
    obtain ⟨rfl, rfl⟩ := hdone
    refine (lift .update).returning ?_
    intro _ w' host' hdone
    exact ⟨hdone.1, hdone.2, hreach⟩
  · exact throw (hbad _ host rfl)

/-- A command that makes the device ready for a pass or lets it go. -/
theorem prepare (op : Opcode) {name : String} {arguments : List UInt8} (hease : w.AtEase host)
    (harity : arguments.length = op.arity) (hmay : placement.May w host host arguments op)
    (hplain : Watch.Plain (op.byte :: arguments)) (hbad : ∀ failure, bad failure w host) :
    Observed placement.observer (exec name (op.byte :: arguments) : SessionM ω Unit) w host
      (fun _ w' host' => w' = w ∧ host' = host) bad :=
  plainCommand id hease rfl (fun _ => .command hease.announced harity hmay) hplain hbad

theorem lightLed (hease : w.AtEase host) (hbad : ∀ failure, bad failure w host) :
    Observed placement.observer (Session.lightLed : SessionM ω Unit) w host
      (fun _ w' host' => w' = w ∧ host' = { host with led := true }) bad := by
  refine bind (prepare .ledOn hease rfl trivial (by decide) hbad) ?_
  intro _ w' host' hdone
  obtain ⟨rfl, rfl⟩ := hdone
  exact lift .update

theorem dimLed (hease : w.AtEase host) (hbad : ∀ failure, bad failure w host) :
    Observed placement.observer (Session.dimLed : SessionM ω Unit) w host
      (fun _ w' host' => w' = w ∧ host' = { host with led := false }) bad := by
  refine bind (prepare .ledOff hease rfl trivial (by decide) hbad) ?_
  intro _ w' host' hdone
  obtain ⟨rfl, rfl⟩ := hdone
  exact lift .update

theorem enterProgramming (hease : w.AtEase host) (hbad : ∀ failure, bad failure w host) :
    Observed placement.observer (Session.enterProgramming : SessionM ω Unit) w host
      (fun _ w' host' => w' = w ∧ host' = host) bad :=
  prepare .enterProgramming hease rfl trivial (by decide) hbad

theorem leaveProgramming (hease : w.AtEase host) (hbad : ∀ failure, bad failure w host) :
    Observed placement.observer (Session.leaveProgramming : SessionM ω Unit) w host
      (fun _ w' host' => w' = w ∧ host' = host) bad :=
  prepare .leaveProgramming hease rfl trivial (by decide) hbad

theorem requireAutoIncrement (hease : w.AtEase host) (hbad : ∀ failure, bad failure w host) :
    Observed placement.observer (Session.requireAutoIncrement : SessionM ω Unit) w host
      (fun _ w' host' => w' = w ∧ host' = host) bad := by
  have hwrote : ∀ taken, w.wrote [Opcode.autoIncrement.byte] taken = w :=
    Watch.wrote_of_plain hease.announced hease.pending (by decide)
  have hexpect : Observed placement.observer (Session.expect "autoIncrement" yes : SessionM ω Unit) w host _
      (fun _ w' host' => w' = w ∧ host' = host) := expectAny hease.mode hease.pending fun _ => ⟨rfl, rfl⟩
  refine bind (say id hease.mode rfl (fun _ => .command hease.announced rfl trivial) ?_) ?_
  · intro failure
    rw [hwrote]
    exact hbad failure
  · intro _ w' host' hsent
    rw [hwrote] at hsent
    obtain ⟨rfl, rfl⟩ := hsent
    refine tryCatch hexpect ?_
    intro failure w' host' hfailed
    obtain ⟨rfl, rfl⟩ := hfailed
    split
    · exact throw (hbad _)
    · exact throw (hbad _)

/-- A block is announced for the page being worked on. -/
theorem announceBlock {addr : UInt32} (hease : w.AtEase host) (hmode : w.mode = .fast)
    (htargets : placement.Targets w host addr) (hbad : ∀ failure, bad failure w host.forget) :
    Observed placement.observer (Session.announceBlock : SessionM ω Unit) w host
      (fun _ w' host' => w' = { w with announced := true } ∧ host' = host.forget) bad := by
  have hwrote := Watch.wrote_announcement hease.announced hease.pending
  have hsame : { w with announced := false } = w := by rw [← hease.announced]
  rw [← hwrote true]
  refine say Host.forget hease.mode rfl
    (fun _ => .command hease.announced rfl ⟨hmode, rfl, addr, htargets⟩) ?_
  intro failure
  rw [hwrote, hsame]
  exact hbad failure

theorem blockAccepted (hmode : host.mode = w.mode) (hpending : w.pending = none)
    (hbad : ∀ failure, bad failure w host) :
    Observed placement.observer (Session.blockAccepted : SessionM ω Bool) w host
      (fun _ w' host' => w' = w ∧ host' = host) bad := by
  refine bind (hearByte hmode hpending hbad) ?_
  intro byte w' host' hheard
  obtain ⟨rfl, rfl⟩ := hheard
  cases byte with
  | none => exact pure ⟨rfl, rfl⟩
  | some b =>
    by_cases hb : b = reject
    · simp only [hb, if_true]
      exact pure ⟨rfl, rfl⟩
    · simp only [hb, if_false]
      refine bind (lift (.note hmode (by simp))) ?_
      intro _ w' host' hnoted
      exact pure hnoted

/-- The data of a page goes out after its announcement, and is delivered if it is acknowledged. -/
theorem sendBlock {addr : UInt32} (hmode : host.mode = w.mode) (hannounced : w.announced = true)
    (hpending : w.pending = none) (hworking : placement.Working w addr)
    (hbad : ∀ failure, bad failure { w with announced := false } host) :
    Observed placement.observer (Session.sendBlock (placement.page addr) : SessionM ω Unit) w host
      (fun _ w' host' => host' = host ∧
        w' = { w with announced := false, delivered := (addr,
          .block (placement.page addr)) :: w.delivered }) bad := by
  have hwrote : ∀ taken, w.wrote (placement.page addr) taken = _ := Watch.wrote_block hannounced
  have hsame : { w with announced := false, pending := none } = { w with announced := false } := by
    rw [← hpending]
  have hsent : host.mode = (w.wrote (placement.page addr) true).mode := hmode
  refine bind (say id hmode rfl (fun _ => .block hannounced hworking) ?_) ?_
  · intro failure
    rw [hwrote]
    exact hsame ▸ hbad failure
  · intro _ w' host' hafter
    obtain ⟨rfl, rfl⟩ := hafter
    refine returning (expectAck hsent ?_) ?_
    · intro failure
      rw [hwrote]
      exact hsame ▸ hbad failure
    · intro _ w' host' hacked
      rw [Watch.heard_block hannounced hpending hworking.page] at hacked
      exact ⟨hacked.2, hacked.1⟩

theorem awaitHighByte (hmode : host.mode = w.mode) (hpending : w.pending = none)
    (hbad : ∀ failure, bad failure w host) (reads : Nat) :
    Observed placement.observer (Session.awaitHighByte reads : SessionM ω Unit) w host
      (fun _ w' host' => w' = w ∧ host' = host) bad := by
  induction reads with
  | zero => exact throw (hbad _)
  | succ reads ih =>
    refine bind (hearByte hmode hpending hbad) ?_
    intro byte w' host' hheard
    obtain ⟨rfl, rfl⟩ := hheard
    cases byte with
    | none => exact throw (hbad _)
    | some b =>
      by_cases hack : b = ack
      · simp only [hack, if_true]
        exact pure ⟨rfl, rfl⟩
      · by_cases hfiller : b = filler
        · simp only [hack, if_false, if_pos hfiller]
          exact ih
        · simp only [hack, hfiller, if_false]
          exact throw (hbad _)

/-- One word is loaded. Only the first one of a page needs the pointer. -/
theorem loadWord {low high : UInt8} (hease : w.AtEase host) (hslow : w.mode = .slow)
    (hfirst : w.loaded = [] → ∃ addr, placement.Targets w host addr)
    (hbad : ∀ failure loaded, bad failure { w with loaded } host.forget) :
    Observed placement.observer (Session.loadWord low high : SessionM ω Unit) w host
      (fun _ w' host' => w' = { w with loaded := w.loaded ++ [low, high] } ∧ host' = host.forget) bad := by
  have hheard : ∀ loaded reading, { w with loaded }.heard reading = { w with loaded } := fun loaded =>
    Watch.heard_of_pending_eq_none hease.pending
  have hsame : ∀ loaded, { w with loaded, pending := none } = { w with loaded } :=
    fun loaded => by rw [← hease.pending]
  have hlow : ∀ taken, w.wrote [Opcode.loadLow.byte, low] taken = { w with loaded := w.loaded ++ [low] } :=
    Watch.wrote_load hease.announced hease.pending (.inl rfl) low
  have hhigh : ∀ taken, { w with loaded := w.loaded ++ [low] }.wrote [Opcode.loadHigh.byte, high] taken =
      { w with loaded := w.loaded ++ [low, high] } := by
    intro taken
    rw [Watch.wrote_load (w := { w with loaded := w.loaded ++ [low] })
      hease.announced hease.pending (.inr rfl)]
    simp only [List.append_assoc, List.singleton_append]
  have hexec : Observed placement.observer
      (execMoving "writeLow" [Opcode.loadLow.byte, low] : SessionM ω Unit) w host
      (fun _ w' host' => w' = { w with loaded := w.loaded ++ [low] } ∧ host' = host.forget) bad := by
    have hmay : placement.May w host host.forget [low] .loadLow := ⟨hslow, rfl, hfirst⟩
    refine (command Host.forget hease.mode rfl (fun _ => .command hease.announced rfl hmay)
      ?_ ?_).returning ?_
    · intro failure
      rw [hlow]
      exact hbad failure _
    · intro failure
      rw [hlow, hsame]
      exact hbad failure _
    · intro _ w' host' hdone
      rwa [hlow, hheard] at hdone
  refine bind hexec ?_
  intro _ w' host' hdone
  obtain ⟨rfl, rfl⟩ := hdone
  refine bind (say id hease.mode rfl (fun _ => .command hease.announced rfl hslow) ?_) ?_
  · intro failure
    rw [hhigh]
    exact hbad failure _
  · intro _ w' host' hsent
    rw [hhigh] at hsent
    obtain ⟨rfl, rfl⟩ := hsent
    have hease' : Watch.AtEase { w with loaded := w.loaded ++ [low, high] } host.forget :=
      ⟨hease.announced, hease.pending, hease.mode⟩
    exact awaitHighByte hease'.mode hease'.pending (fun failure => hbad failure _) 5

/-- The page buffer is committed to the page being worked on, and what was loaded is delivered if
that is acknowledged. -/
theorem commitPage {addr : UInt32} (hease : w.AtEase host) (hslow : w.mode = .slow)
    (htargets : placement.Targets w host addr) (hbad : ∀ failure, bad failure w host) :
    Observed placement.observer (Session.commitPage : SessionM ω Unit) w host
      (fun _ w' host' => w' = { w with delivered := (addr, .words w.loaded) :: w.delivered } ∧
        host' = host) bad := by
  have hwrote := Watch.wrote_commit hease.announced hease.pending
  have hsame : { w with pending := none } = w := by rw [← hease.pending]
  have hmay : placement.May w host host [] .writePage := ⟨hslow, rfl, addr, htargets⟩
  refine (command id hease.mode rfl (fun _ => .command hease.announced rfl hmay) ?_ ?_).returning ?_
  · intro failure
    rw [hwrote false]
    exact hsame ▸ hbad failure
  · intro failure
    rw [hwrote true]
    exact hsame ▸ hbad failure
  · intro _ w' host' hdone
    rwa [Watch.heard_commit hease.announced hease.pending htargets.page] at hdone

/-- The page being worked on is erased. -/
theorem erasePage {addr : UInt32} (hease : w.AtEase host) (hfast : w.mode = .fast)
    (htargets : placement.Targets w host addr) (hbad : ∀ failure, bad failure w host.forget) :
    Observed placement.observer (Session.erasePage : SessionM ω Unit) w host
      (fun _ w' host' => w' = w ∧ host' = host.forget) bad := by
  have hwrote : ∀ taken, w.wrote [Opcode.erasePage.byte] taken = w :=
    Watch.wrote_of_plain hease.announced hease.pending (by decide)
  refine bind (say Host.forget hease.mode rfl
    (fun _ => .command hease.announced rfl ⟨hfast, rfl, addr, htargets⟩) ?_) ?_
  · intro failure
    rw [hwrote]
    exact hbad failure
  · intro _ w' host' hsent
    rw [hwrote] at hsent
    obtain ⟨rfl, rfl⟩ := hsent
    refine bind (hearByte hease.mode hease.pending hbad) ?_
    intro answer w' host' hheard
    obtain ⟨rfl, rfl⟩ := hheard
    split
    · refine lift (.bind .host? ?_)
      intro host' w' host'' hhost
      obtain ⟨rfl, rfl, rfl⟩ := hhost
      exact .note hease.mode (by simp)
    · exact pure ⟨rfl, rfl⟩

theorem underTimeout {α : Type} {operation : SessionM ω α} {ms : Int} (hmode : host.mode = w.mode)
    (h : Observed placement.observer operation w { host with timeout := ms }
      (fun _ w' host' => w' = w ∧ host' = { host with timeout := ms })
      (fun _ w' host' => w' = w ∧ host' = { host with timeout := ms }))
    (hbad : ∀ failure, bad failure w host) :
    Observed placement.observer (Session.withTimeout ms operation) w host
      (fun _ w' host' => w' = w ∧ host' = host) bad := by
  refine withTimeout ⟨hmode, .silent rfl⟩ (h.mono ?_ ?_)
  · intro _ w' host' hdone
    obtain ⟨rfl, rfl⟩ := hdone
    exact ⟨⟨hmode, .silent rfl⟩, rfl, rfl⟩
  · intro failure w' host' hfailed
    obtain ⟨rfl, rfl⟩ := hfailed
    exact ⟨⟨hmode, .silent rfl⟩, hbad failure⟩

/-- Whatever the link has left to say is read and left at that. -/
theorem drain {limit : Nat} (hmode : host.mode = w.mode) (hpending : w.pending = none) :
    Observed placement.observer (Session.drain limit : SessionM ω Unit) w host
      (fun _ w' host' => w' = w ∧ host' = host) (fun _ w' host' => w' = w ∧ host' = host) := by
  refine bind (lift (.read limit (admits_read hmode limit))) ?_
  intro reading w' host' hread
  have hheard : placement.observer.follow w ⟨host, host, .read limit reading⟩ = w :=
    Watch.heard_of_pending_eq_none hpending reading
  rw [hheard] at hread
  obtain ⟨rfl, rfl⟩ := hread
  by_cases hempty : reading.bytes.isEmpty = true
  · simp only [hempty, if_true]
    exact check (fun _ => ⟨rfl, rfl⟩) fun _ _ => ⟨rfl, rfl⟩
  · simp only [hempty, Bool.false_eq_true, if_false]
    refine bind (lift (.note hmode (by simp))) ?_
    intro _ w' host' hnoted
    exact check (fun _ => hnoted) fun _ _ => hnoted

/-- The device is flushed, and its pointer put back. -/
theorem resync {addr : UInt32} {missing : Nat} (hease : w.AtEase host) (hborders : placement.Borders addr)
    (hbad : ∀ failure host', host'.mode = host.mode → bad failure w host') :
    Observed placement.observer (Session.resync addr missing : SessionM ω Unit) w host
      (fun _ w' host' => w' = w ∧ host' = host.trust addr ∧ reachable addr = true) bad := by
  have hwrote : ∀ taken, w.wrote (List.replicate (flushLength missing) Opcode.cancel.byte) taken = w :=
    Watch.wrote_of_plain hease.announced hease.pending (Watch.plain_cancels missing)
  refine bind (lift (.note hease.mode (by simp))) ?_
  intro _ w' host' hnoted
  obtain ⟨rfl, rfl⟩ := hnoted
  refine bind (within (say Host.forget hease.mode rfl (fun _ => .flush hease.announced) ?_)) ?_
  · intro failure
    rw [hwrote]
    exact hbad _ _ rfl
  · intro _ w' host' hsent
    rw [hwrote] at hsent
    obtain ⟨rfl, rfl⟩ := hsent
    refine bind (within (underTimeout hease.mode (drain hease.mode hease.pending) fun _ => hbad _ _ rfl)) ?_
    intro _ w' host' hdrained
    obtain ⟨rfl, rfl⟩ := hdrained
    exact setAddress ⟨hease.announced, hease.pending, hease.mode⟩ hborders hbad

end Observed

end Session

end Bootflash
