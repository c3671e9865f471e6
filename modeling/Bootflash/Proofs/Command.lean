import Bootflash.Proofs.Exchange
import Bootflash.Session.Command

namespace Bootflash

theorem Session.reachable_iff {addr : UInt32} : Session.reachable addr = true ↔
    addr.toNat % 2 = 0 ∧ addr.toNat ≤ 0x1ffff := by
  have heven : addr % 2 = 0 ↔ addr.toNat % 2 = 0 := by
    rw [← UInt32.toNat_inj, UInt32.toNat_mod]
    rfl
  have hword : addr / 2 ≤ 0xffff ↔ addr.toNat / 2 ≤ 0xffff := by
    rw [UInt32.le_iff_toNat_le, UInt32.toNat_div]
    rfl
  simp only [Session.reachable, Bool.and_eq_true, decide_eq_true_eq, heven, hword]
  omega

namespace Bootloader

/-- The device is between two commands, everything it answered has been read, and it hears the next
command. -/
structure Ready (b : Bootloader) : Prop where
  idle : b.stage = .idle
  heard : b.output = []
  attentive : b.firmware.Attentive

/-- The device is between two commands, everything it answered has been read, and it answers as it should. -/
structure AtRest (b : Bootloader) : Prop where
  idle : b.stage = .idle
  heard : b.output = []
  tame : b.firmware.Tame
  buffer : b.buffer.size = b.firmware.pageSize

variable {b : Bootloader}

theorem AtRest.ready (h : b.AtRest) : b.Ready :=
  ⟨h.idle, h.heard, h.tame.attentive⟩

theorem Ready.ran (h : b.Ready) (op : Opcode) (arguments : List UInt8) : (b.ran op arguments).Ready := by
  refine ⟨?_, ?_, ?_⟩
  · simpa using h.idle
  · simpa using h.heard
  · simpa using h.attentive

theorem AtRest.ran (h : b.AtRest) (op : Opcode) (arguments : List UInt8) : (b.ran op arguments).AtRest := by
  refine ⟨?_, ?_, ?_, ?_⟩
  · simpa using h.idle
  · simpa using h.heard
  · simpa using h.tame
  · rw [size_buffer_ran b op arguments h.buffer, firmware_ran, h.buffer]

/-- A device with nothing left to say, written out again. -/
theorem with_output_nil (h : b.output = []) : { b with output := [] } = b := by
  rw [← h]

theorem Ready.receive_command (h : b.Ready) (op : Opcode) (hop : op ≠ .writeBlock) {arguments : List UInt8}
    (harity : arguments.length = op.arity) :
    b.receive (op.byte :: arguments) =
      { b.ran op arguments with output := b.answer (.command op arguments) } := by
  rw [Bootloader.receive_command h.idle h.attentive.awake op harity,
    run_command hop arguments (h.attentive.commands op _), h.heard, List.nil_append]

theorem AtRest.receive_command (h : b.AtRest) (op : Opcode) (hop : op ≠ .writeBlock) {arguments : List UInt8}
    (harity : arguments.length = op.arity) :
    b.receive (op.byte :: arguments) =
      { b.ran op arguments with output := b.answer (.command op arguments) } :=
  h.ready.receive_command op hop harity

/-- The device after it was told an address. -/
def pointed (b : Bootloader) (addr : UInt32) : Bootloader :=
  b.ran .setAddress (Session.addressFrame addr).tail

theorem addr_pointed {addr : UInt32} (hreach : Session.reachable addr = true) :
    (b.pointed addr).addr = addr.toNat := by
  obtain ⟨heven, hfits⟩ := Session.reachable_iff.mp hreach
  have hhigh : ((addr / 2) >>> 8).toUInt8.toNat = addr.toNat / 2 / 256 := by
    simp [Nat.shiftRight_eq_div_pow]
    omega
  have hlow : (addr / 2).toUInt8.toNat = addr.toNat / 2 % 256 := by simp
  change (((addr / 2) >>> 8).toUInt8.toNat * 256 + (addr / 2).toUInt8.toNat) * 2 = addr.toNat
  rw [hhigh, hlow]
  omega

/-- The device once it waits for the data of a block. -/
def awaiting (b : Bootloader) : Bootloader :=
  { b.ran .writeBlock [] with stage := .collecting .block b.firmware.pageSize [] }

theorem AtRest.receive_writeBlock_of_refuses (h : b.AtRest) (hrefuses : b.firmware.refusesBlocks = true) :
    b.receive [Opcode.writeBlock.byte] = { b.ran .writeBlock [] with output := [reject] } := by
  rw [Bootloader.receive_command h.idle h.tame.awake .writeBlock rfl,
    run_writeBlock_of_refuses (h.tame.override?_eq_none (Opcode.byte_ne_blockCode _) _) hrefuses, h.heard,
    List.nil_append]

theorem AtRest.receive_writeBlock_of_takes (h : b.AtRest) (htakes : b.firmware.refusesBlocks = false) :
    b.receive [Opcode.writeBlock.byte] = { b.awaiting with output := if b.probed then [] else [0x21] } := by
  rw [Bootloader.receive_command h.idle h.tame.awake .writeBlock rfl,
    run_writeBlock_of_takes (h.tame.override?_eq_none (Opcode.byte_ne_blockCode _) _) htakes,
      h.heard, List.nil_append]
  rfl

theorem AtRest.output_awaiting (h : b.AtRest) : b.awaiting.output = [] :=
  (h.ran .writeBlock []).heard

/-- The data a device waits for is stored as soon as all of it is in. -/
theorem AtRest.receive_awaiting {page : List UInt8} (h : b.AtRest)
    (hlength : page.length = b.firmware.pageSize) (hpositive : 0 < b.firmware.pageSize) :
    b.awaiting.receive page =
      { (b.ran .writeBlock []).stored page with output := (b.ran .writeBlock []).blockReply } := by
  let c := b.ran .writeBlock []
  have hrest : c.AtRest := h.ran _ _
  have hidle : { b.awaiting with stage := .idle } = c := by
    change { c with stage := .idle } = c
    rw [← hrest.idle]
  rw [receive_block (b := b.awaiting) rfl hlength hpositive, hidle, run_block, hrest.heard]
  rfl

end Bootloader

namespace Session

variable {ω α : Type} [Link ω] {wire : Wire ω} {host : Host} {b : Bootloader}
  {wrong : Failure → Host → Bootloader → Prop} {cut : Host → Bootloader → Prop}

namespace Exchange

theorem transmit (change : Host → Host) {bytes : List UInt8} (hlost : cut (change host) b)
    (hdelivered : cut (change host) (b.receive bytes)) :
    Exchange wire (transmit change bytes) host b
      (fun _ host' b' => host' = change host ∧ b' = b.receive bytes) wrong cut := by
  rintro s rfl hcarries
  let after : Session ω := ⟨(Link.write bytes s.link).2, change s.host,
    s.journal.push ⟨s.host, change s.host, .wrote bytes (Link.write bytes s.link).1⟩⟩
  have hleg : Leg s after [⟨s.host, change s.host, .wrote bytes (Link.write bytes s.link).1⟩] :=
    .single rfl rfl
  refine Ends.step (Link.write bytes s.link).1 after rfl ?_
  obtain ⟨hnone, hb⟩ | ⟨failure, hsome, hreports, hb⟩ := wire.write bytes hcarries
  · rw [hnone] at hleg ⊢
    exact Ends.pure ⟨hleg.calm rfl rfl, _, hb, rfl, rfl⟩
  · rw [hsome] at hleg ⊢
    refine Ends.throw (.inr ⟨hreports, hleg.struck rfl rfl, ?_⟩)
    rcases hb with hb | hb
    · exact ⟨b, hb, hlost⟩
    · exact ⟨b.receive bytes, hb, hdelivered⟩

theorem receive (limit : Nat) (hcut : cut host b) :
    Exchange wire (receive limit) host b
      (fun bytes host' b' => bytes = b.output.take limit ∧ host' = host ∧
        b' = { b with output := b.output.drop limit })
      wrong cut := by
  rintro s rfl hcarries
  let reading := (Link.read limit s.link).1
  let after : Session ω :=
    ⟨(Link.read limit s.link).2, s.host, s.journal.push ⟨s.host, s.host, .read limit reading⟩⟩
  have hleg : Leg s after [⟨s.host, s.host, .read limit reading⟩] := .single rfl rfl
  refine Ends.step reading after rfl ?_
  obtain ⟨hread, hb⟩ | ⟨bytes, failure, hread, hreports, hb⟩ := wire.read limit hcarries
  · have hreading : reading = ⟨b.output.take limit, none⟩ := hread
    rw [hreading] at hleg ⊢
    exact Ends.pure ⟨hleg.calm rfl rfl, _, hb, rfl, rfl, rfl⟩
  · have hreading : reading = ⟨bytes, some failure⟩ := hread
    rw [hreading] at hleg ⊢
    exact .inr ⟨hreports, hleg.struck rfl rfl, b, hb, hcut⟩

theorem receiveByte (hcut : cut host b) :
    Exchange wire receiveByte host b
      (fun byte host' b' => byte = b.output.head? ∧ host' = host ∧
        b' = { b with output := b.output.tail }) wrong cut := by
  refine bind (receive 1 hcut) ?_
  rintro bytes _ _ ⟨rfl, rfl, rfl⟩
  cases b.output with
  | nil => exact pure ⟨rfl, rfl, rfl⟩
  | cons byte rest => exact pure ⟨rfl, rfl, rfl⟩

theorem expect {name : String} {want : UInt8} (rest : List UInt8)
    (houtput : b.output = want :: rest) (hcut : cut host b) :
    Exchange wire (expect name want) host b
      (fun _ host' b' => host' = host ∧ b' = { b with output := rest }) wrong cut := by
  refine bind (receiveByte hcut) ?_
  rintro byte _ _ ⟨rfl, rfl, rfl⟩
  rw [houtput]
  simp only [List.head?_cons, if_true, List.tail_cons]
  exact pure ⟨rfl, rfl⟩

/-- Any other byte than the one insisted on, and none, is the device's own failure. -/
theorem expect_of_ne {name : String} {want : UInt8} {good : Unit → Host → Bootloader → Prop}
    (houtput : b.output.head? ≠ some want)
    (hwrong : wrong (.command name b.output.head?.toList) host { b with output := b.output.tail })
    (hcut : cut host b) :
    Exchange wire (Session.expect name want) host b good wrong cut := by
  refine bind (receiveByte hcut) ?_
  rintro byte _ _ ⟨rfl, rfl, rfl⟩
  cases hhead : b.output.head? with
  | none =>
    rw [hhead] at hwrong
    exact throw hwrong
  | some byte =>
    rw [hhead] at hwrong houtput
    have hne : byte ≠ want := fun h => houtput (congrArg some h)
    simp only [if_neg hne]
    exact throw hwrong

/-- Noting a failure before it is passed on changes nothing between host and device. -/
theorem awaitAck {name : String} {good : Unit → Host → Bootloader → Prop}
    (h : Exchange wire (Session.expect name ack) host b good wrong cut) :
    Exchange wire (awaitAck name) host b good wrong cut := by
  intro s hhost hcarries
  refine Ends.tryCatch (h s hhost hcarries) ?_
  intro failure middle hmiddle
  have hcalm := calm_note (.commandFailed name failure) middle
  refine Ends.step () (Session.note (.commandFailed name failure) middle).2 rfl ?_
  rcases hmiddle with ⟨hcalm', hafter⟩ | ⟨hreports, hstruck, hafter⟩
  · exact Ends.throw (.inl ⟨hcalm'.trans hcalm, hafter⟩)
  · exact Ends.throw (.inr ⟨hreports, hstruck.calm hcalm, hafter⟩)

theorem acknowledged (change : Host → Host) {name : String} {bytes : List UInt8}
    (houtput : (b.receive bytes).output = [ack]) (hlost : cut (change host) b)
    (hdelivered : cut (change host) (b.receive bytes)) :
    Exchange wire (do Session.transmit change bytes; Session.awaitAck name) host b
      (fun _ host' b' => host' = change host ∧ b' = { b.receive bytes with output := [] }) wrong cut := by
  refine bind (transmit change hlost hdelivered) ?_
  rintro - _ _ ⟨rfl, rfl⟩
  exact awaitAck (expect [] houtput hdelivered)

/-- A command that is acknowledged and leaves the device at rest. The host changes as soon as the
bytes are out. -/
theorem command (op : Opcode) (change : Host → Host) {name : String} {arguments : List UInt8}
    (hready : b.Ready) (hop : op ≠ .writeBlock) (harity : arguments.length = op.arity)
    (hanswer : b.answer (.command op arguments) = [ack])
    (hlost : cut (change host) b)
    (hdelivered : cut (change host) { b.ran op arguments with output := [ack] }) :
    Exchange wire (do Session.transmit change (op.byte :: arguments); Session.awaitAck name) host b
      (fun _ host' b' => host' = change host ∧ b' = b.ran op arguments) wrong cut := by
  have hreceive := hready.receive_command op hop harity
  rw [hanswer] at hreceive
  have hafter : { b.receive (op.byte :: arguments) with output := [] } = b.ran op arguments := by
    rw [hreceive]
    exact Bootloader.with_output_nil (hready.ran op arguments).heard
  rw [← hafter]
  exact acknowledged change (by rw [hreceive]) hlost (by rwa [hreceive])

theorem setAddress {addr : UInt32} (hready : b.Ready) (hreach : reachable addr = true)
    (hlost : cut host.forget b) (hdelivered : cut host.forget { b.pointed addr with output := [ack] }) :
    Exchange wire (setAddress addr) host b
      (fun _ host' b' => host' = host.trust addr ∧ b' = b.pointed addr) wrong cut := by
  unfold Session.setAddress
  rw [if_pos hreach]
  refine bind (command .setAddress Host.forget hready (by decide) rfl rfl hlost hdelivered) ?_
  rintro - _ _ ⟨rfl, rfl⟩
  exact update

/-- An address that the wire cannot carry is refused before anything is sent. -/
theorem setAddress_of_unreachable {addr : UInt32} {good : Unit → Host → Bootloader → Prop}
    (hreach : reachable addr = false) (hwrong : wrong (.addressOutOfReach addr) host b) :
    Exchange wire (Session.setAddress addr) host b good wrong cut := by
  unfold Session.setAddress
  rw [if_neg (by simp [hreach])]
  exact throw hwrong

theorem lightLed (hrest : b.AtRest) (hlost : cut host b)
    (hdelivered : cut host { b.ran .ledOn [0] with output := [ack] }) :
    Exchange wire lightLed host b
      (fun _ host' b' => host' = { host with led := true } ∧ b' = b.ran .ledOn [0]) wrong cut := by
  refine bind (command .ledOn id hrest.ready (by decide) rfl rfl hlost hdelivered) ?_
  rintro - _ _ ⟨rfl, rfl⟩
  exact update

theorem dimLed (hrest : b.AtRest) (hlost : cut host b)
    (hdelivered : cut host { b.ran .ledOff [0] with output := [ack] }) :
    Exchange wire dimLed host b
      (fun _ host' b' => host' = { host with led := false } ∧ b' = b.ran .ledOff [0]) wrong cut := by
  refine bind (command .ledOff id hrest.ready (by decide) rfl rfl hlost hdelivered) ?_
  rintro - _ _ ⟨rfl, rfl⟩
  exact update

theorem enterProgramming (hrest : b.AtRest) (hlost : cut host b)
    (hdelivered : cut host { b.ran .enterProgramming [] with output := [ack] }) :
    Exchange wire enterProgramming host b
      (fun _ host' b' => host' = host ∧ b' = b.ran .enterProgramming []) wrong cut :=
  command .enterProgramming id hrest.ready (by decide) rfl rfl hlost hdelivered

theorem leaveProgramming (hrest : b.AtRest) (hlost : cut host b)
    (hdelivered : cut host { b.ran .leaveProgramming [] with output := [ack] }) :
    Exchange wire leaveProgramming host b
      (fun _ host' b' => host' = host ∧ b' = b.ran .leaveProgramming []) wrong cut :=
  command .leaveProgramming id hrest.ready (by decide) rfl rfl hlost hdelivered

/-- Anything but a yes would mean that the chip cannot be programmed. A device at rest says yes. -/
theorem requireAutoIncrement (hrest : b.AtRest) (hlost : cut host b)
    (hdelivered : cut host { b.ran .autoIncrement [] with output := [yes] }) :
    Exchange wire requireAutoIncrement host b
      (fun _ host' b' => host' = host ∧ b' = b.ran .autoIncrement []) wrong cut := by
  have hreceive : b.receive [Opcode.autoIncrement.byte] = { b.ran .autoIncrement [] with output := [yes] } :=
    hrest.receive_command .autoIncrement (by decide) rfl
  refine bind (transmit id hlost (by rwa [hreceive])) ?_
  rintro - _ _ ⟨rfl, rfl⟩
  rw [hreceive]
  refine (rethrow (expect [] rfl hdelivered) ?_).returning ?_
  · intro failure hreports
    rw [wire.reports_isCommand hreports]
    rfl
  · rintro - _ _ ⟨rfl, rfl⟩
    exact ⟨rfl, Bootloader.with_output_nil (hrest.ran .autoIncrement []).heard⟩

theorem fuseHigh (hrest : b.AtRest) (hlost : cut host b)
    (hdelivered : cut host { b.ran .readFuseHigh [] with output := [b.firmware.fuseHigh] }) :
    Exchange wire fuseHigh host b
      (fun fuse host' b' => fuse = b.firmware.fuseHigh ∧ host' = host ∧ b' = b.ran .readFuseHigh [])
        wrong cut := by
  have hreceive : b.receive [Opcode.readFuseHigh.byte] =
      { b.ran .readFuseHigh [] with output := [b.firmware.fuseHigh] } :=
    hrest.receive_command .readFuseHigh (by decide) rfl
  refine bind (transmit id hlost (by rwa [hreceive])) ?_
  rintro - _ _ ⟨rfl, rfl⟩
  rw [hreceive]
  refine bind (receiveByte hdelivered) ?_
  rintro _ _ _ ⟨rfl, rfl, rfl⟩
  exact pure ⟨rfl, rfl, Bootloader.with_output_nil (hrest.ran .readFuseHigh []).heard⟩

/-- The device after the whole chip was erased, with the indicator lit meanwhile. -/
theorem eraseChip (hrest : b.AtRest) (hcut : ∀ host' b', cut host' b') :
    Exchange wire eraseChip host b
      (fun _ host' b' => host' = { host with led := false } ∧
        b' = ((b.ran .ledOn [0]).ran .eraseChip []).ran .ledOff [0]) wrong cut := by
  have hlit := hrest.ran .ledOn [0]
  refine bind (lightLed hrest (hcut _ _) (hcut _ _)) ?_
  rintro - _ _ ⟨rfl, rfl⟩
  refine bind (underTimeout (command .eraseChip id hlit.ready (by decide) rfl rfl (hcut _ _) (hcut _ _))) ?_
  rintro - _ _ ⟨rfl, rfl⟩
  exact dimLed (hlit.ran .eraseChip []) (hcut _ _) (hcut _ _)

/-- Only a refusal counts as one: any other byte, and none, is taken for consent. -/
theorem blockAccepted (hcut : cut host b) :
    Exchange wire blockAccepted host b
      (fun accepted host' b' => accepted = decide (b.output.head? ≠ some reject) ∧ host' = host ∧
        b' = { b with output := b.output.tail }) wrong cut := by
  refine bind (receiveByte hcut) ?_
  rintro byte host' b' ⟨rfl, hhost, hb⟩
  subst host' b'
  cases hhead : b.output.head? with
  | none => exact pure ⟨by simp, rfl, rfl⟩
  | some byte =>
    by_cases hbyte : byte = reject
    · simp only [if_pos hbyte]
      exact pure ⟨by simp [hbyte], rfl, rfl⟩
    · simp only [if_neg hbyte]
      refine bind note ?_
      rintro - _ _ ⟨rfl, rfl⟩
      exact pure ⟨by simp [hbyte], rfl, rfl⟩

/-- The data of a block is stored in any case; what the host makes of it hangs on the answer. -/
theorem sendBlock {page : List UInt8} (hstage : b.stage = .collecting .block b.firmware.pageSize [])
    (houtput : b.output = []) (htame : b.firmware.Tame) (hlength : page.length = b.firmware.pageSize)
    (hpositive : 0 < b.firmware.pageSize) (hlost : cut host b)
    (hdelivered : cut host { { b with stage := .idle }.stored page with output := b.blockReply })
    (hwrong : ∀ byte, byte ≠ ack → b.blockReply = [byte] →
      wrong (.command "fastWrite" [byte]) host ({ b with stage := .idle }.stored page)) :
    Exchange wire (sendBlock page) host b
      (fun _ host' b' => b.blockReply = [ack] ∧ host' = host ∧
        b' = { b with stage := .idle }.stored page) wrong cut := by
  let written := { b with stage := .idle }.stored page
  have hempty : written.output = [] := houtput
  have hreceive : b.receive page = { written with output := b.blockReply } := by
    rw [Bootloader.receive_block hstage hlength hpositive, Bootloader.run_block]
    change { written with output := b.output ++ b.blockReply } = _
    rw [houtput, List.nil_append]
  refine bind (transmit id hlost (by rwa [hreceive])) ?_
  rintro - _ _ ⟨rfl, rfl⟩
  rw [hreceive]
  obtain ⟨hreply, -⟩ | ⟨byte, hbyte, hreply, -⟩ := Bootloader.blockReply_cases (b := b) htame page
  · refine (expect [] hreply hdelivered).returning ?_
    rintro - _ _ ⟨rfl, rfl⟩
    exact ⟨hreply, rfl, Bootloader.with_output_nil hempty⟩
  · refine expect_of_ne ?_ ?_ hdelivered
    · simpa [hreply] using hbyte
    · have h := hwrong byte hbyte hreply
      simp only [hreply, List.head?_cons, Option.toList_some, List.tail_cons]
      rwa [show { written with output := [] } = written from Bootloader.with_output_nil hempty]

theorem awaitHighByte {fillers reads : Nat} (hreads : fillers < reads)
    (hcut : ∀ k, k ≤ fillers → cut host { b with output := List.replicate k filler ++ [ack] }) :
    Exchange wire (awaitHighByte reads) host { b with output := List.replicate fillers filler ++ [ack] }
      (fun _ host' b' => host' = host ∧ b' = { b with output := [] }) wrong cut := by
  induction reads generalizing fillers with
  | zero => omega
  | succ reads ih =>
    refine bind (receiveByte (hcut fillers (Nat.le_refl fillers))) ?_
    rintro byte _ _ ⟨rfl, rfl, rfl⟩
    cases fillers with
    | zero => exact pure ⟨rfl, rfl⟩
    | succ fillers =>
      have hhead : (List.replicate (fillers + 1) filler ++ [ack]).head? = some filler := rfl
      have htail : (List.replicate (fillers + 1) filler ++ [ack]).tail =
          List.replicate fillers filler ++ [ack] := rfl
      simp only [hhead, htail]
      rw [if_neg (by decide), if_pos trivial]
      exact ih (by omega) fun k hk => hcut k (by omega)

/-- The device after a word went into its page buffer. -/
theorem loadWord {low high : UInt8} (hrest : b.AtRest)
    (hcut : ∀ b', b'.stage = .idle → b'.output.length ≤ 5 → b.Confined 0 0 b' → cut host.forget b') :
    Exchange wire (loadWord low high) host b
      (fun _ host' b' => host' = host.forget ∧ b' = (b.ran .loadLow [low]).ran .loadHigh [high])
        wrong cut := by
  have hlow := hrest.ran .loadLow [low]
  have hhigh := hlow.ran .loadHigh [high]
  have hconfinedLow : b.Confined 0 0 (b.ran .loadLow [low]) := Bootloader.confined_ran hrest.buffer rfl
  have hconfinedHigh : b.Confined 0 0 ((b.ran .loadLow [low]).ran .loadHigh [high]) :=
    hconfinedLow.trans (Bootloader.confined_ran hlow.buffer rfl)
  refine bind (command .loadLow Host.forget hrest.ready (by decide) rfl rfl ?_ ?_) ?_
  · exact hcut b hrest.idle (by simp [hrest.heard]) (.refl 0 0 b)
  · exact hcut _ hlow.idle (by simp) (hconfinedLow.with_output _)
  rintro - _ _ ⟨rfl, rfl⟩
  have hfillers := hlow.tame.fillers
  have hhighArity : [high].length = Opcode.loadHigh.arity := rfl
  have hreceive := hlow.receive_command .loadHigh (by decide) hhighArity
  -- Between the two bytes of a word, and between two fillers, the flash is as it was.
  have hcutHigh : ∀ k, k ≤ (b.ran .loadLow [low]).firmware.fillers →
      cut host.forget
        { (b.ran .loadLow [low]).ran .loadHigh [high] with output := List.replicate k filler ++ [ack] } := by
    intro k hk
    refine hcut _ hhigh.idle ?_ (hconfinedHigh.with_output _)
    simp only [List.length_append, List.length_replicate, List.length_singleton]
    omega
  refine bind (transmit id ?_ ?_) ?_
  · exact hcut _ hlow.idle (by simp [hrest.heard]) hconfinedLow
  · rw [hreceive]
    exact hcutHigh _ (Nat.le_refl _)
  rintro - _ _ ⟨rfl, rfl⟩
  rw [hreceive]
  refine (awaitHighByte (by omega) hcutHigh).returning ?_
  rintro - _ _ ⟨rfl, rfl⟩
  exact ⟨rfl, Bootloader.with_output_nil hhigh.heard⟩

theorem commitPage (hrest : b.AtRest) (hlost : cut host b)
    (hdelivered : cut host { b.ran .writePage [] with output := [ack] }) :
    Exchange wire commitPage host b (fun _ host' b' => host' = host ∧ b' = b.ran .writePage []) wrong cut :=
  command .writePage id hrest.ready (by decide) rfl rfl hlost hdelivered

theorem erasePage (hready : b.Ready) (hlost : cut host.forget b)
    (hdelivered : cut host.forget { b.ran .erasePage [] with output := [ack] }) :
    Exchange wire erasePage host b
      (fun _ host' b' => host' = host.forget ∧ b' = b.ran .erasePage []) wrong cut := by
  have hreceive : b.receive [Opcode.erasePage.byte] = { b.ran .erasePage [] with output := [ack] } :=
    hready.receive_command .erasePage (by decide) rfl
  refine bind (transmit Host.forget hlost (by rwa [hreceive])) ?_
  rintro - _ _ ⟨rfl, rfl⟩
  rw [hreceive]
  refine bind (receiveByte hdelivered) ?_
  rintro answer _ _ ⟨rfl, rfl, rfl⟩
  rw [if_neg (by simp)]
  exact pure ⟨rfl, Bootloader.with_output_nil (hready.ran .erasePage []).heard⟩

/-- What is left in the link is read off and thrown away. -/
theorem drain {limit : Nat} (hlimit : b.output.length ≤ limit) (hcut : cut host b) :
    Exchange wire (Session.drain limit) host b
      (fun _ host' b' => host' = host ∧ b' = { b with output := [] }) wrong cut := by
  rintro s rfl hcarries
  let reading := (Link.read limit s.link).1
  let middle : Session ω :=
    ⟨(Link.read limit s.link).2, s.host, s.journal.push ⟨s.host, s.host, .read limit reading⟩⟩
  have hleg : Leg s middle [⟨s.host, s.host, .read limit reading⟩] := .single rfl rfl
  refine Ends.step reading middle rfl ?_
  have hcheck : ∀ after : Session ω, Calm middle after → after.link = middle.link → after.host = s.host →
      Ends (check reading.failure) after
        (fun _ after => Calm s after ∧ ∃ b', wire.Carries after.link b' ∧ after.host = s.host ∧
          b' = { b with output := [] })
        (fun failure after =>
          (Calm s after ∧ ∃ b', wire.Carries after.link b' ∧ wrong failure after.host b') ∨
          (wire.Reports failure ∧ Struck s after ∧ ∃ b', wire.Carries after.link b' ∧
            cut after.host b')) := by
    intro after hcalm hlink hhost
    obtain ⟨hread, hb⟩ | ⟨bytes, failure, hread, hreports, hb⟩ := wire.read limit hcarries
    · have hreading : reading = ⟨b.output.take limit, none⟩ := hread
      rw [hreading] at hleg ⊢
      rw [List.drop_eq_nil_of_le hlimit] at hb
      exact Ends.pure ⟨(hleg.calm rfl rfl).trans hcalm, _, hlink ▸ hb, hhost, rfl⟩
    · have hreading : reading = ⟨bytes, some failure⟩ := hread
      rw [hreading] at hleg ⊢
      exact Ends.throw (.inr ⟨hreports, (hleg.struck rfl rfl).calm hcalm, b, hlink ▸ hb, hhost ▸ hcut⟩)
  by_cases hempty : reading.bytes.isEmpty = true
  · simp only [hempty, if_true]
    exact hcheck middle (.refl middle) rfl rfl
  · simp only [hempty, Bool.false_eq_true, if_false]
    refine Ends.step () (Session.note (.drained reading.bytes.length) middle).2 rfl ?_
    exact hcheck _ (calm_note _ middle) rfl rfl

/-- From any stage, resynchronizing brings the device back to where it takes commands, with its
pointer where it is told, as long as it has little enough to say to be drained. Only the data of a
block, which goes to `page`, can end up in the flash. -/
theorem resync {addr : UInt32} {page : Nat} (hattentive : b.firmware.Attentive)
    (hproper : b.stage.Proper b.firmware.pageSize) (hpage : b.stage.isBlock = true → b.addr = page)
    (houtput : b.output.length + b.stage.owed b.firmware.fillers ≤ flushLength b.firmware.pageSize)
    (hreach : reachable addr = true)
    (hcut : ∀ host' b', host'.mode = host.mode → b.Confined page (page + b.firmware.pageSize) b' →
      cut host' b') :
    Exchange wire (resync addr b.firmware.pageSize) host b
      (fun _ host' b' => host' = host.trust addr ∧ ∃ c : Bootloader, c.Ready ∧
        b.Confined page (page + b.firmware.pageSize) c ∧
          (b.stage.isBlock = false → c.flash = b.flash) ∧ b' = c.pointed addr)
      wrong cut := by
  have hlength : b.firmware.pageSize + 2 ≤ flushLength b.firmware.pageSize :=
    Nat.add_le_add_left (by decide) _
  obtain ⟨flushed, hflush, hidle, hconfined, hsaid, hflash⟩ :=
    Bootloader.receive_flush hattentive hproper hpage hlength
  let c : Bootloader := { flushed with output := [] }
  have hc : b.Confined page (page + b.firmware.pageSize) c := hconfined.with_output []
  have hready : c.Ready := ⟨hidle, rfl, hc.firmware ▸ hattentive⟩
  have hpointed : c.Confined page (page + b.firmware.pageSize) (c.pointed addr) :=
    Bootloader.confined_ran_of_arity (by decide) _
  refine bind note ?_
  rintro - host' b' ⟨hhost, hb⟩
  subst host' b'
  have hsend : Exchange wire (Session.within "could not flush bootloader"
        (sendMoving (List.replicate (flushLength b.firmware.pageSize) Opcode.cancel.byte))) host b
      (fun _ host' b' => host' = host.forget ∧ b' = flushed) wrong cut := by
    rw [← hflush]
    exact within (transmit Host.forget (hcut _ _ rfl (.refl _ _ b)) (hcut _ _ rfl (hflush ▸ hconfined)))
  refine bind hsend ?_
  rintro - host' b' ⟨hhost, hb⟩
  subst host' b'
  refine bind (within (underTimeout (drain (by rwa [hsaid]) (hcut _ _ rfl hconfined)))) ?_
  rintro - host' b' ⟨hhost, hb⟩
  subst host' b'
  refine (setAddress hready hreach ?_ ?_).returning ?_
  · exact hcut _ _ rfl hc
  · exact hcut _ _ rfl ((hc.trans hpointed).with_output _)
  · rintro - _ _ ⟨rfl, rfl⟩
    exact ⟨rfl, c, hready, hc, hflash, rfl⟩

end Exchange

end Session

end Bootflash
