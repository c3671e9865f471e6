import Bootflash.Proofs.Command
import Bootflash.Proofs.FaultyWire
import Bootflash.Proofs.Routine

namespace Bootflash

/-- The session after some operations, each of which may have failed. -/
def Session.performAll {ω : Type} [Link ω] (operations : List Operation) (s : Session ω) : Session ω :=
  operations.foldl (fun s operation => (operation.perform.run s).2) s

/-- Whether the event sends an address to the device. -/
def Event.sendsAddress : Event → Bool
  | wrote bytes _ => bytes.head? = some Opcode.setAddress.byte
  | _ => false

/-- A word was asked for with a write that failed, and no address has been sent since. -/
def WordInDoubt (entries : List Entry) : Prop :=
  ∃ past asked failure later, entries = past ++ asked :: later ∧
    asked.event = .wrote [Opcode.readWord.byte] (some failure) ∧
      ∀ entry ∈ later, entry.event.sendsAddress = false

theorem WordInDoubt.append {entries later : List Entry} (h : WordInDoubt entries)
    (hlater : ∀ entry ∈ later, entry.event.sendsAddress = false) : WordInDoubt (entries ++ later) := by
  obtain ⟨past, asked, failure, between, rfl, hasked, hbetween⟩ := h
  refine ⟨past, asked, failure, between ++ later, by simp, hasked, ?_⟩
  intro entry hentry
  rcases List.mem_append.mp hentry with hentry | hentry
  · exact hbetween entry hentry
  · exact hlater entry hentry

namespace Bootloader

/-- The device has dealt with what it was told: it is between two commands again, and has said
nothing if it is silent. -/
structure Handled (b b' : Bootloader) : Prop where
  idle : b'.stage = .idle
  firmware : b'.firmware = b.firmware
  output : b.firmware.silent = true → b'.output = b.output

/-- The device has dealt with what it was told, and its pointer is where it was. -/
structure PointerKept (b b' : Bootloader) : Prop extends Handled b b' where
  addr : b'.addr = b.addr

variable {b b' b'' : Bootloader}

theorem PointerKept.refl (hidle : b.stage = .idle) : b.PointerKept b :=
  ⟨⟨hidle, rfl, fun _ => rfl⟩, rfl⟩

theorem PointerKept.trans (h : b.PointerKept b') (h' : b'.PointerKept b'') : b.PointerKept b'' := by
  refine ⟨⟨h'.idle, h'.firmware.trans h.firmware, fun hsilent => ?_⟩, h'.addr.trans h.addr⟩
  rw [h'.output (h.firmware ▸ hsilent), h.output hsilent]

/-- Without rules, a silent device ignores a command and any other runs it. -/
theorem receive_of_rules_eq_nil (hidle : b.stage = .idle) (hrules : b.firmware.rules = []) (op : Opcode)
    (hop : op ≠ .writeBlock) {arguments : List UInt8} (harity : arguments.length = op.arity) :
    b.receive (op.byte :: arguments) = if b.firmware.silent then b else
      { b.ran op arguments with output := b.output ++ b.answer (.command op arguments) } := by
  cases hsilent : b.firmware.silent with
  | true => exact receive_of_silent hidle hsilent _
  | false =>
    rw [receive_command hidle hsilent op harity,
      run_command hop arguments (Firmware.override?_of_rules_eq_nil hrules _ _)]
    rfl

theorem handled_receive (hidle : b.stage = .idle) (hrules : b.firmware.rules = []) (op : Opcode)
    (hop : op ≠ .writeBlock) {arguments : List UInt8} (harity : arguments.length = op.arity) :
    b.Handled (b.receive (op.byte :: arguments)) := by
  rw [receive_of_rules_eq_nil hidle hrules op hop harity]
  cases hsilent : b.firmware.silent with
  | true => exact (PointerKept.refl hidle).toHandled
  | false => exact ⟨(stage_ran b op arguments).trans hidle, firmware_ran b op arguments, by simp [hsilent]⟩

theorem pointerKept_receive (hidle : b.stage = .idle) (hrules : b.firmware.rules = []) (op : Opcode)
    (hop : op ≠ .writeBlock) {arguments : List UInt8} (harity : arguments.length = op.arity)
    (haddr : (b.ran op arguments).addr = b.addr) :
    b.PointerKept (b.receive (op.byte :: arguments)) := by
  refine ⟨handled_receive hidle hrules op hop harity, ?_⟩
  rw [receive_of_rules_eq_nil hidle hrules op hop harity]
  cases b.firmware.silent with
  | true => rfl
  | false => exact haddr

/-- Looking for a board leaves the pointer alone. -/
theorem pointerKept_receive_syncFrame (hidle : b.stage = .idle) (hrules : b.firmware.rules = []) :
    b.PointerKept (b.receive Session.syncFrame) := by
  have hstep : ∀ {c : Bootloader} (op : Opcode), (op = .cancel ∨ op = .sync) → b.PointerKept c →
      b.PointerKept (c.receive [op.byte]) := by
    intro c op hop hkept
    have hrules' : c.firmware.rules = [] := by rw [hkept.firmware, hrules]
    rcases hop with rfl | rfl <;> exact hkept.trans
      (pointerKept_receive hkept.idle hrules' _ (by decide) rfl rfl)
  change b.PointerKept (((((b.receive [_]).receive [_]).receive [_]).receive [_]).receive [_])
  iterate 5 refine hstep _ (by decide) ?_
  exact .refl hidle

end Bootloader

/-- Bytes that say nothing about the pointer, and leave that of a device between two commands where it is. -/
structure PointerNeutral (bytes : List UInt8) : Prop where
  address : bytes.head? ≠ some Opcode.setAddress.byte
  kept : ∀ b : Bootloader, b.stage = .idle → b.firmware.rules = [] → b.PointerKept (b.receive bytes)

theorem PointerNeutral.command (op : Opcode) {arguments : List UInt8}
    (hop : op ≠ .writeBlock ∧ op ≠ .setAddress) (harity : arguments.length = op.arity)
    (haddr : ∀ b : Bootloader, (b.ran op arguments).addr = b.addr) :
    PointerNeutral (op.byte :: arguments) := by
  refine ⟨?_, fun b hidle hrules => Bootloader.pointerKept_receive hidle hrules op hop.1 harity (haddr b)⟩
  intro hhead
  have hbyte : Opcode.ofByte? op.byte = Opcode.ofByte? Opcode.setAddress.byte := by rw [Option.some.inj hhead]
  exact hop.2 (by simpa using hbyte)

theorem pointerNeutral_syncFrame : PointerNeutral Session.syncFrame :=
  ⟨by decide, fun _ => Bootloader.pointerKept_receive_syncFrame⟩

/-- To talk to the device without a word about its pointer. -/
def Repertoire.pointerless : Repertoire :=
  ⟨[.erase, .word, .sync], false, PointerNeutral⟩

namespace Session

variable {α β : Type} {s s' s'' : Session (Faulty Bootloader)}

/-- The device at the far end is between two commands, follows no rules, and has nothing to say if
it is silent; every fault of the link is reported by the call it hits. -/
structure Undisturbed (s : Session (Faulty Bootloader)) : Prop where
  idle : s.link.link.stage = .idle
  rules : s.link.link.firmware.rules = []
  mute : s.link.link.firmware.silent = true → s.link.link.output = []
  faults : ∀ fault ∈ s.link.faults, fault.Reported fun _ => True

/-- Between the two states neither the device's pointer nor the host's belief has changed, and no
address was sent. -/
structure Still (s s' : Session (Faulty Bootloader)) : Prop where
  pointer : s'.host.pointer? = s.host.pointer?
  addr : s'.link.link.addr = s.link.link.addr
  journal : ∃ entries, s'.journal.toList = s.journal.toList ++ entries ∧
    ∀ entry ∈ entries, entry.event.sendsAddress = false

theorem Still.refl (s : Session (Faulty Bootloader)) : Still s s :=
  ⟨rfl, rfl, [], by simp, by simp⟩

theorem Still.trans (h : Still s s') (h' : Still s' s'') : Still s s'' := by
  obtain ⟨entries, hjournal, hentries⟩ := h.journal
  obtain ⟨entries', hjournal', hentries'⟩ := h'.journal
  refine ⟨h'.pointer.trans h.pointer, h'.addr.trans h.addr, entries ++ entries', ?_, ?_⟩
  · rw [hjournal', hjournal, List.append_assoc]
  · intro entry hentry
    rcases List.mem_append.mp hentry with hentry | hentry
    · exact hentries entry hentry
    · exact hentries' entry hentry

/-- One entry more, of an event that sends no address. -/
theorem Still.push {entry : Entry} (hjournal : s'.journal = s.journal.push entry)
    (hentry : entry.event.sendsAddress = false) (hpointer : s'.host.pointer? = s.host.pointer?)
    (haddr : s'.link.link.addr = s.link.link.addr) : Still s s' :=
  ⟨hpointer, haddr, [entry], by rw [hjournal, Journal.toList_push], by simpa using hentry⟩

theorem Undisturbed.carries (h : Undisturbed s) : Faulty.Carries (fun _ => True) s.link s.link.link :=
  ⟨rfl, h.faults⟩

/-- A device that has dealt with what it was told is as undisturbed as before. -/
theorem Undisturbed.handled {b : Bootloader} (h : Undisturbed s) (hb : s.link.link.Handled b)
    (hcarries : Faulty.Carries (fun _ => True) s'.link b) : Undisturbed s' := by
  obtain rfl := hcarries.link
  refine ⟨hb.idle, hb.firmware ▸ h.rules, fun hsilent => ?_, hcarries.faults⟩
  rw [hb.firmware] at hsilent
  rw [hb.output hsilent, h.mute hsilent]

/-- Bytes that were sent have reached the device, unless the write failed: then they may have. -/
theorem Undisturbed.transmit (hs : Undisturbed s) (change : Host → Host) {bytes : List UInt8}
    (hhandled : s.link.link.Handled (s.link.link.receive bytes)) :
    Ends (transmit change bytes) s
      (fun _ after => Undisturbed after ∧ after.host = change s.host ∧
        after.link.link = s.link.link.receive bytes ∧
        after.journal = s.journal.push ⟨s.host, change s.host, .wrote bytes none⟩)
      (fun failure after => Undisturbed after ∧ after.host = change s.host ∧
        (after.link.link = s.link.link ∨ after.link.link = s.link.link.receive bytes) ∧
        after.journal = s.journal.push ⟨s.host, change s.host, .wrote bytes (some failure)⟩) := by
  let after : Session (Faulty Bootloader) := ⟨(Link.write bytes s.link).2, change s.host,
    s.journal.push ⟨s.host, change s.host, .wrote bytes (Link.write bytes s.link).1⟩⟩
  have hjournal : after.journal = s.journal.push
      ⟨s.host, change s.host, .wrote bytes (Link.write bytes s.link).1⟩ := rfl
  refine Ends.step (Link.write bytes s.link).1 after rfl ?_
  obtain ⟨hnone, hcarries⟩ | ⟨failure, hsome, -, hcarries | hcarries⟩ := hs.carries.write bytes
  · rw [show (Link.write bytes s.link).1 = none from hnone] at hjournal ⊢
    exact Ends.pure ⟨hs.handled hhandled hcarries, rfl, hcarries.link, hjournal⟩
  · rw [show (Link.write bytes s.link).1 = some failure from hsome] at hjournal ⊢
    exact Ends.throw ⟨hs.handled ⟨hs.idle, rfl, fun _ => rfl⟩ hcarries, rfl, .inl hcarries.link, hjournal⟩
  · rw [show (Link.write bytes s.link).1 = some failure from hsome] at hjournal ⊢
    exact Ends.throw ⟨hs.handled hhandled hcarries, rfl, .inr hcarries.link, hjournal⟩

/-- A read takes away some of what the device has said, or fails and takes nothing. A silent device
has said nothing. -/
theorem Undisturbed.read (hs : Undisturbed s) (limit : Nat) :
    Yields (read limit) s fun reading after => Undisturbed after ∧ Still s after ∧
      (s.link.link.firmware.silent = true → reading.failure = none → reading.bytes = []) := by
  let after : Session (Faulty Bootloader) := (Session.read limit s).2
  have hafter : ∀ output, (s.link.link.firmware.silent = true → output = []) →
      Faulty.Carries (fun _ => True) (Link.read limit s.link).2 { s.link.link with output } →
      Undisturbed after ∧ Still s after := by
    intro output hmute hcarries
    have hhandled : s.link.link.Handled { s.link.link with output } :=
      ⟨hs.idle, rfl, fun hsilent => by rw [hmute hsilent, hs.mute hsilent]⟩
    refine ⟨hs.handled hhandled hcarries, .push rfl rfl rfl ?_⟩
    rw [show after.link.link = _ from hcarries.link]
  change _ ∧ _ ∧ (_ → (Link.read limit s.link).1.failure = none → (Link.read limit s.link).1.bytes = [])
  obtain ⟨hread, hcarries⟩ | ⟨bytes, failure, hread, -, hcarries⟩ := hs.carries.read limit
  · obtain ⟨hundisturbed, hstill⟩ := hafter _ (fun hsilent => by rw [hs.mute hsilent, List.drop_nil]) hcarries
    refine ⟨hundisturbed, hstill, fun hsilent _ => ?_⟩
    rw [show (Link.read limit s.link).1 = _ from hread, hs.mute hsilent, List.take_nil]
  · obtain ⟨hundisturbed, hstill⟩ := hafter _ hs.mute hcarries
    refine ⟨hundisturbed, hstill, fun _ hnone => ?_⟩
    rw [show (Link.read limit s.link).1 = _ from hread] at hnone
    cases hnone

theorem Undisturbed.receive (hs : Undisturbed s) (limit : Nat) :
    Ends (receive limit) s
      (fun bytes after => Undisturbed after ∧ Still s after ∧
        (s.link.link.firmware.silent = true → bytes = []))
      (fun _ after => Undisturbed after ∧ Still s after) := by
  refine Ends.bind (Ends.lift (hs.read limit)) ?_
  rintro ⟨bytes, - | failure⟩ after ⟨hafter, hstill, hmute⟩
  · exact Ends.pure ⟨hafter, hstill, fun hsilent => hmute hsilent rfl⟩
  · exact Ends.throw ⟨hafter, hstill⟩

/-- Nobody hears an acknowledgement from a silent device. -/
theorem Undisturbed.awaitAck (hs : Undisturbed s) (name : String) :
    Ends (awaitAck name) s
      (fun _ after => Undisturbed after ∧ Still s after ∧ s.link.link.firmware.silent = false)
      (fun _ after => Undisturbed after ∧ Still s after) := by
  have hbyte : Ends receiveByte s
      (fun byte after => Undisturbed after ∧ Still s after ∧
        (byte.isSome = true → s.link.link.firmware.silent = false))
      (fun _ after => Undisturbed after ∧ Still s after) := by
    refine Ends.bind (hs.receive 1) ?_
    rintro bytes after ⟨hafter, hstill, hmute⟩
    split
    · refine Ends.pure ⟨hafter, hstill, fun _ => ?_⟩
      cases hsilent : s.link.link.firmware.silent with
      | false => rfl
      | true => cases hmute hsilent
    · exact Ends.pure ⟨hafter, hstill, by simp⟩
  have hexpect : Ends (expect name ack) s
      (fun _ after => Undisturbed after ∧ Still s after ∧ s.link.link.firmware.silent = false)
      (fun _ after => Undisturbed after ∧ Still s after) := by
    refine Ends.bind hbyte ?_
    rintro (- | byte) after ⟨hafter, hstill, hawake⟩
    · exact Ends.throw ⟨hafter, hstill⟩
    · by_cases hack : byte = ack
      · simp only [if_pos hack]
        exact Ends.pure ⟨hafter, hstill, hawake rfl⟩
      · simp only [if_neg hack]
        exact Ends.throw ⟨hafter, hstill⟩
  refine Ends.tryCatch hexpect ?_
  rintro failure after ⟨hafter, hstill⟩
  have hnoted : Still after (note (.commandFailed name failure) after).2 := .push rfl rfl rfl rfl
  refine Ends.step () (note (.commandFailed name failure) after).2 rfl (Ends.throw ⟨?_, hstill.trans hnoted⟩)
  exact ⟨hafter.idle, hafter.rules, hafter.mute, hafter.faults⟩

/-- However the operation ends, the device is undisturbed and its pointer was left alone. -/
def LeavesPointer (operation : SessionM (Faulty Bootloader) α) : Prop :=
  ∀ s, Undisturbed s → Ends operation s (fun _ after => Undisturbed after ∧ Still s after)
    (fun _ after => Undisturbed after ∧ Still s after)

namespace LeavesPointer

variable {operation : SessionM (Faulty Bootloader) α}

/-- An operation that goes on from where another has got. -/
theorem after (h : LeavesPointer operation) (hmiddle : Undisturbed s' ∧ Still s s') :
    Ends operation s' (fun _ after => Undisturbed after ∧ Still s after)
      (fun _ after => Undisturbed after ∧ Still s after) :=
  (h s' hmiddle.1).mono (fun _ _ hafter => ⟨hafter.1, hmiddle.2.trans hafter.2⟩)
    fun _ _ hafter => ⟨hafter.1, hmiddle.2.trans hafter.2⟩

theorem bind {next : α → SessionM (Faulty Bootloader) β} (h : LeavesPointer operation)
    (hnext : ∀ a, LeavesPointer (next a)) :
    LeavesPointer (operation >>= next) :=
  fun s hs => Ends.bind (h s hs) fun a _ hmiddle => (hnext a).after hmiddle

theorem pure (a : α) : LeavesPointer (Pure.pure a) :=
  fun s hs => Ends.pure ⟨hs, .refl s⟩

theorem throw (failure : Failure) : LeavesPointer (throw failure : SessionM (Faulty Bootloader) α) :=
  fun s hs => Ends.throw ⟨hs, .refl s⟩

theorem note (notice : Notice) : LeavesPointer (lift (note notice)) :=
  fun _ hs => ⟨⟨hs.idle, hs.rules, hs.mute, hs.faults⟩, .push rfl rfl rfl rfl⟩

theorem host? : LeavesPointer (lift host?) :=
  fun s hs => Ends.lift ⟨hs, .refl s⟩

theorem update {change : Host → Host} (hpointer : ∀ host, (change host).pointer? = host.pointer?) :
    LeavesPointer (lift (update change)) :=
  fun s hs => ⟨⟨hs.idle, hs.rules, hs.mute, hs.faults⟩, hpointer s.host, rfl, [],
    (List.append_nil _).symm, by simp⟩

theorem aside {remark : SessionM (Faulty Bootloader) Unit} (h : Aside remark) : LeavesPointer remark := by
  cases h with
  | nothing => exact pure ()
  | note _ => exact note _

theorem tryCatch {handler : Failure → SessionM (Faulty Bootloader) α} (h : LeavesPointer operation)
    (hhandler : ∀ failure, LeavesPointer (handler failure)) : LeavesPointer (tryCatch operation handler) :=
  fun s hs => Ends.tryCatch (h s hs) fun failure _ hmiddle => (hhandler failure).after hmiddle

theorem withTimeout {ms : Int} (h : LeavesPointer operation) : LeavesPointer (withTimeout ms operation) := by
  have hset : ∀ ms s, Undisturbed s → Undisturbed (setTimeout ms s).2 ∧ Still s (setTimeout ms s).2 :=
    fun _ _ hs => ⟨⟨hs.idle, hs.rules, hs.mute, hs.faults⟩, .push rfl rfl rfl rfl⟩
  intro s hs
  have hback : ∀ after, Undisturbed after ∧ Still s after →
      Undisturbed (setTimeout s.host.timeout after).2 ∧ Still s (setTimeout s.host.timeout after).2 := by
    rintro after ⟨hafter, hstill⟩
    obtain ⟨hset, hstill'⟩ := hset s.host.timeout after hafter
    exact ⟨hset, hstill.trans hstill'⟩
  exact Ends.withTimeout ((h.after (hset ms s hs)).mono (fun _ => hback) fun _ => hback)

/-- Sending something that leaves the pointer alone. -/
theorem transmit {change : Host → Host} {bytes : List UInt8}
    (hpointer : ∀ host, (change host).pointer? = host.pointer?) (hneutral : PointerNeutral bytes) :
    LeavesPointer (transmit change bytes) := by
  intro s hs
  have hreceived := hneutral.kept s.link.link hs.idle hs.rules
  have hsilent : ∀ failure, Event.sendsAddress (.wrote bytes failure) = false := by
    simpa [Event.sendsAddress] using hneutral.address
  refine (hs.transmit change hreceived.toHandled).mono ?_ ?_
  · rintro _ after ⟨hafter, hhost, hlink, hjournal⟩
    exact ⟨hafter, .push hjournal (hsilent _) (by rw [hhost, hpointer]) (by rw [hlink, hreceived.addr])⟩
  · rintro failure after ⟨hafter, hhost, hlink | hlink, hjournal⟩
    · exact ⟨hafter, .push hjournal (hsilent _) (by rw [hhost, hpointer]) (by rw [hlink])⟩
    · exact ⟨hafter, .push hjournal (hsilent _) (by rw [hhost, hpointer]) (by rw [hlink, hreceived.addr])⟩

theorem read {remark : Reading → SessionM (Faulty Bootloader) Unit}
    {next : Reading → SessionM (Faulty Bootloader) α} (limit : Nat)
    (haside : ∀ reading, Aside (remark reading)) (hnext : ∀ reading, LeavesPointer (next reading)) :
    LeavesPointer (lift (read limit) >>= fun reading => remark reading >>= fun _ =>
      check reading.failure >>= fun _ => next reading) := by
  refine bind ?_ fun reading => bind (aside (haside reading)) fun _ => bind ?_ fun _ => hnext reading
  · exact fun s hs => Ends.lift ((hs.read limit).mono fun _ _ hafter => ⟨hafter.1, hafter.2.1⟩)
  · cases reading.failure with
    | none => exact pure ()
    | some failure => exact throw failure

end LeavesPointer

/-- A routine that says nothing about the pointer leaves it alone. -/
theorem Routine.leavesPointer {r : Repertoire} {operation : SessionM (Faulty Bootloader) α}
    (h : Routine r operation) (hmoving : r.moving = false)
    (hsends : ∀ bytes, r.Sends bytes → PointerNeutral bytes) : LeavesPointer operation := by
  induction h with
  | pure a => exact .pure a
  | throw _ => exact .throw _
  | bind _ _ hfirst hrest => exact .bind (hfirst hmoving hsends) fun a => hrest a hmoving hsends
  | note _ => exact .note _
  | host? => exact .host?
  | update _ hkept => exact .update (hkept hmoving)
  | transmit _ hkept hbytes => exact .transmit (hkept hmoving) (hsends _ hbytes)
  | read limit haside _ hrest => exact .read limit haside fun reading => hrest reading hmoving hsends
  | tryCatch _ hhands hfirst =>
    refine .tryCatch (hfirst hmoving hsends) fun failure => ?_
    obtain ⟨remark, failure', haside, -, -, hhandled⟩ := hhands failure
    rw [hhandled]
    exact .bind (.aside haside) fun _ => .throw failure'
  | excursion _ _ _ hfirst => exact .withTimeout (hfirst hmoving hsends)

/-- Once an address has been confirmed it is where the device's pointer is. If it has not been,
either nothing was sent, or the host no longer claims to know. -/
theorem Undisturbed.setAddress (hs : Undisturbed s) (addr : UInt32) :
    Ends (setAddress addr) s
      (fun _ after => Undisturbed after ∧ after.host.pointer? = some addr ∧ after.link.link.addr = addr.toNat)
      (fun _ after => Undisturbed after ∧ (after = s ∨ after.host.pointer? = none)) := by
  unfold Session.setAddress
  by_cases hreach : reachable addr = true
  · rw [if_pos hreach]
    have hhandled : s.link.link.Handled (s.link.link.receive (addressFrame addr)) :=
      Bootloader.handled_receive hs.idle hs.rules .setAddress (by decide) rfl
    have haddr : s.link.link.firmware.silent = false →
        (s.link.link.receive (addressFrame addr)).addr = addr.toNat := by
      intro hawake
      rw [addressFrame, Bootloader.receive_of_rules_eq_nil hs.idle hs.rules .setAddress
        (by decide) rfl, hawake]
      exact Bootloader.addr_pointed (b := s.link.link) hreach
    have hsend : Ends (sendMoving (addressFrame addr)) s
        (fun _ after => Undisturbed after ∧ after.host.pointer? = none ∧
          after.link.link = s.link.link.receive (addressFrame addr))
        (fun _ after => Undisturbed after ∧ (after = s ∨ after.host.pointer? = none)) := by
      refine (hs.transmit Host.forget hhandled).mono ?_ ?_
      · rintro _ after ⟨hafter, hhost, hlink, -⟩
        exact ⟨hafter, by rw [hhost]; rfl, hlink⟩
      · rintro _ after ⟨hafter, hhost, -⟩
        exact ⟨hafter, .inr (by rw [hhost]; rfl)⟩
    have hexec : Ends (execMoving "setAddress" (addressFrame addr)) s
        (fun _ after => Undisturbed after ∧ after.link.link.addr = addr.toNat)
        (fun _ after => Undisturbed after ∧ (after = s ∨ after.host.pointer? = none)) := by
      refine Ends.bind hsend ?_
      rintro _ middle ⟨hmiddle, hpointer, hlink⟩
      refine (hmiddle.awaitAck _).mono ?_ ?_
      · rintro _ after ⟨hafter, hstill, hawake⟩
        rw [hlink, hhandled.firmware] at hawake
        exact ⟨hafter, by rw [hstill.addr, hlink, haddr hawake]⟩
      · rintro _ after ⟨hafter, hstill⟩
        exact ⟨hafter, .inr (hstill.pointer.trans hpointer)⟩
    refine Ends.bind hexec ?_
    rintro _ middle ⟨hmiddle, haddr'⟩
    exact Ends.lift ⟨⟨hmiddle.idle, hmiddle.rules, hmiddle.mute, hmiddle.faults⟩, rfl, haddr'⟩
  · rw [if_neg hreach]
    exact Ends.throw ⟨hs, .inl rfl⟩

/-- The device is undisturbed, and its pointer is where the host believes it to be, unless a word
was asked for with a write that failed: then it may be one word further. -/
structure Believed (s : Session (Faulty Bootloader)) : Prop where
  undisturbed : Undisturbed s
  pointer : ∀ addr, s.host.pointer? = some addr → s.link.link.addr = addr.toNat ∨
    (s.link.link.addr = addr.toNat + 2 ∧ WordInDoubt s.journal.toList)

theorem Believed.of_unknown (hs : Undisturbed s) (hpointer : s.host.pointer? = none) : Believed s :=
  ⟨hs, by simp [hpointer]⟩

theorem Believed.still (h : Believed s) (hs : Undisturbed s') (hstill : Still s s') : Believed s' := by
  refine ⟨hs, fun addr hpointer => ?_⟩
  rw [hstill.addr]
  refine (h.pointer addr (hstill.pointer ▸ hpointer)).imp_right fun hdoubt => ⟨hdoubt.1, ?_⟩
  obtain ⟨entries, hjournal, hentries⟩ := hstill.journal
  rw [hjournal]
  exact hdoubt.2.append hentries

/-- What says nothing about the pointer leaves what is believed about it as it is. -/
theorem Routine.believed {operation : SessionM (Faulty Bootloader) α}
    (h : Routine .pointerless operation) (hs : Believed s) :
    Ends operation s (fun _ => Believed) (fun _ => Believed) :=
  (h.leavesPointer rfl (fun _ => id) s hs.undisturbed).mono (fun _ _ hafter => hs.still hafter.1 hafter.2)
    fun _ _ hafter => hs.still hafter.1 hafter.2

theorem setAddress_believed (addr : UInt32) (hs : Believed s) :
    Ends (setAddress addr) s (fun _ => Believed) (fun _ => Believed) := by
  refine (hs.undisturbed.setAddress addr).mono ?_ ?_
  · rintro _ after ⟨hafter, hpointer, haddr⟩
    refine ⟨hafter, fun addr' hpointer' => .inl ?_⟩
    rw [haddr, Option.some.inj (hpointer.symm.trans hpointer')]
  · rintro _ after ⟨hafter, rfl | hpointer⟩
    · exact hs
    · exact .of_unknown hafter hpointer

/-- A word is read from where the pointer was just put. Either the belief is given up, or the write
that asks for the word has failed. -/
theorem readWord_believed (addr : UInt32) (hs : Believed s) :
    Ends (readWord addr) s (fun _ => Believed) (fun _ => Believed) := by
  have hpoint : Ends (setAddress addr) s
      (fun _ after => Undisturbed after ∧ after.host.pointer? = some addr ∧ after.link.link.addr = addr.toNat)
      (fun _ => Believed) := by
    refine ((hs.undisturbed.setAddress addr).and (setAddress_believed addr hs)).mono ?_ ?_
    · exact fun _ _ hafter => hafter.1
    · exact fun _ _ hafter => hafter.2
  refine Ends.bind hpoint ?_
  rintro _ pointed ⟨hpointed, hpointer, haddr⟩
  have hhandled : pointed.link.link.Handled (pointed.link.link.receive [Opcode.readWord.byte]) :=
    Bootloader.handled_receive hpointed.idle hpointed.rules .readWord (by decide) rfl
  have hask : Ends (send [Opcode.readWord.byte]) pointed (fun _ => Undisturbed) (fun _ => Believed) := by
    refine (hpointed.transmit id hhandled).mono (fun _ _ hafter => hafter.1) ?_
    rintro failure after ⟨hafter, hhost, hlink, hjournal⟩
    have hdoubt : WordInDoubt after.journal.toList :=
      ⟨pointed.journal.toList, _, failure, [], by rw [hjournal, Journal.toList_push], rfl, by simp⟩
    refine ⟨hafter, fun addr' hpointer' => ?_⟩
    rw [hhost, id_eq, hpointer] at hpointer'
    obtain rfl := Option.some.inj hpointer'
    rcases hlink with hlink | hlink
    · exact .inl (by rw [hlink, haddr])
    · -- The device has read the word, unless it is silent.
      rw [hlink, Bootloader.receive_of_rules_eq_nil hpointed.idle hpointed.rules .readWord (by decide) rfl]
      cases pointed.link.link.firmware.silent with
      | true => exact .inl haddr
      | false => exact .inr ⟨congrArg (· + 2) haddr, hdoubt⟩
  refine Ends.bind hask ?_
  intro _ asked hasked
  have hforget : Believed (update Host.forget asked).2 :=
    .of_unknown ⟨hasked.idle, hasked.rules, hasked.mute, hasked.faults⟩ rfl
  have hword : Routine .pointerless
      (withTimeout Excursion.word.timeout (receive 2) : SessionM (Faulty Bootloader) _) :=
    .excursion (by decide) .word (.receive 2)
  refine Ends.step () (update Host.forget asked).2 rfl ((hword.bind fun bytes => ?_).believed hforget)
  split
  · exact .pure _
  · exact .throw (.command _ _)

/-- Every operation keeps what is believed about the pointer, whether it returns or fails. -/
theorem perform_believed (operation : Operation)
    (hs : Believed s) : Believed (operation.perform.run s).2 := by
  have hlights : PointerNeutral [Opcode.ledOn.byte, 0] := .command .ledOn (by decide) rfl fun _ => rfl
  have hdims : PointerNeutral [Opcode.ledOff.byte, 0] := .command .ledOff (by decide) rfl fun _ => rfl
  have herases : PointerNeutral [Opcode.eraseChip.byte] := .command .eraseChip (by decide) rfl fun _ => rfl
  have hreadsHigh : PointerNeutral [Opcode.readFuseHigh.byte] :=
    .command .readFuseHigh (by decide) rfl fun _ => rfl
  have hreadsLow : PointerNeutral [Opcode.readFuseLow.byte] :=
    .command .readFuseLow (by decide) rfl fun _ => rfl
  have hlists : PointerNeutral [Opcode.listDevices.byte] := .command .listDevices (by decide) rfl fun _ => rfl
  have hends : Ends operation.perform s (fun _ => Believed) (fun _ => Believed) := by
    cases operation with
    | setAddress addr => exact setAddress_believed addr hs
    | eraseChip => exact Routine.believed (.eraseChip (by decide) hlights herases hdims) hs
    | lightLed => exact Routine.believed (.lightLed hlights) hs
    | dimLed => exact Routine.believed (.dimLed hdims) hs
    | fuseHigh => exact Routine.believed ((Routine.readFuse hreadsHigh).bind fun _ => .pure ()) hs
    | fuseLow => exact Routine.believed ((Routine.readFuse hreadsLow).bind fun _ => .pure ()) hs
    | readWord addr => exact Ends.bind (readWord_believed addr hs) fun _ _ hafter => Ends.pure hafter
    | findBoard =>
      exact Routine.believed
        ((Routine.findBoard (by decide) pointerNeutral_syncFrame).bind fun _ => .pure ()) hs
    | supportedDevices => exact Routine.believed ((Routine.supportedDevices hlists).bind fun _ => .pure ()) hs
  have hyields : Yields operation.perform.run s fun _ => Believed := Yields.run hends
  exact hyields

theorem performAll_believed (operations : List Operation)
    (hs : Believed s) : Believed (performAll operations s) := by
  induction operations generalizing s with
  | nil => exact hs
  | cons operation rest ih => exact ih (perform_believed operation hs)

/-- Whatever is asked of a session, in whatever order, and whichever calls of the link fail: where
the host claims to know the device's pointer, it is there, or it is one word further and the last
thing that concerned the pointer was a word asked for with a write that failed. -/
theorem performAll_pointer (b : Bootloader) (faults : List LinkFault) (operations : List Operation)
    (hidle : b.stage = .idle) (hheard : b.output = []) (hrules : b.firmware.rules = [])
    (hfaults : ∀ fault ∈ faults, fault.failure ≠ none) :
    let after := performAll operations (start (Faulty.start b faults))
    ∀ addr, after.host.pointer? = some addr → after.link.link.addr = addr.toNat ∨
      (after.link.link.addr = addr.toNat + 2 ∧ WordInDoubt after.journal.toList) := by
  have hreported : ∀ fault ∈ faults, fault.Reported fun _ => True := by
    intro fault hfault
    obtain ⟨failure, hfailure⟩ := Option.ne_none_iff_exists'.mp (hfaults fault hfault)
    exact ⟨failure, hfailure, trivial⟩
  have hstart : Believed (start (Faulty.start b faults)) :=
    .of_unknown ⟨hidle, hrules, fun _ => hheard, hreported⟩ rfl
  exact (performAll_believed operations hstart).pointer

/-- A link on which the second write fails although it arrives. -/
def echoing : Faulty Bootloader :=
  .start (.start (.tiny []) (.filled 8 7))
    [⟨.write, 1, 1, some (.transport "write" (.other "dropped")), true, []⟩]

/-- The word at address 4 is asked for in vain: the device has read it and moved on, and the host
believes it has not. -/
theorem readWord_pointer_lost :
    let after := performAll [.readWord 4] (start echoing)
    after.host.pointer? = some 4 ∧ after.link.link.addr = 6 := by
  decide +kernel

theorem performAll_pointer_echoing :
    let after := performAll [.readWord 4, .fuseHigh, .lightLed] (start echoing)
    after.host.pointer? = some 4 ∧
      (after.link.link.addr = 4 ∨ (after.link.link.addr = 6 ∧ WordInDoubt after.journal.toList)) := by
  refine ⟨by decide +kernel, performAll_pointer (.start (.tiny []) (.filled 8 7)) _
    [.readWord 4, .fuseHigh, .lightLed] rfl rfl rfl ?_ 4 (by decide +kernel)⟩
  simp

end Session

end Bootflash
