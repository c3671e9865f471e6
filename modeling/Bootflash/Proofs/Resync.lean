import Bootflash.Proofs.Page

namespace Bootflash

theorem Stage.owed_le (stage : Stage) (fillers : Nat) : stage.owed fillers ≤ fillers + 1 := by
  cases stage with
  | idle => exact Nat.zero_le _
  | collecting pending missing got =>
    change pending.owed fillers ≤ fillers + 1
    unfold Pending.owed
    split <;> omega

namespace Bootloader

variable {b : Bootloader}

/-- What a request asks for is done at the same stage. -/
theorem perform_frame (b : Bootloader) (request : Request) :
    (b.perform request).firmware = b.firmware ∧ (b.perform request).stage = b.stage := by
  cases request with
  | command op arguments =>
    rw [perform_command]
    exact ⟨rfl, rfl⟩
  | block _ => exact ⟨rfl, rfl⟩
  | unrecognized _ => exact ⟨rfl, rfl⟩

theorem followUp_frame (b : Bootloader) (request : Request) (reply : List UInt8) :
    (b.followUp request reply).firmware = b.firmware ∧
      ((b.followUp request reply).stage = b.stage ∨
        (b.followUp request reply).stage = .collecting .block b.firmware.pageSize []) := by
  unfold followUp
  split
  · split
    · exact ⟨rfl, .inl rfl⟩
    · exact ⟨rfl, .inr rfl⟩
  · split <;> exact ⟨rfl, .inl rfl⟩
  · exact ⟨rfl, .inl rfl⟩

/-- A request that is run leaves the stage alone or announces a whole block. -/
theorem run_frame (b : Bootloader) (request : Request) :
    (b.run request).firmware = b.firmware ∧
      ((b.run request).stage = b.stage ∨
        (b.run request).stage = .collecting .block b.firmware.pageSize []) := by
  have h := followUp_frame (b.perform request) request
    ((b.firmware.override? request.code (b.count request.code)).getD (b.answer request))
  rwa [(perform_frame b request).1, (perform_frame b request).2] at h

/-- Between two bytes a device is at a proper stage: the bytes it has and those it waits for make up
a whole. -/
structure StageProper (b : Bootloader) : Prop where
  pageSize : 0 < b.firmware.pageSize
  stage : b.stage.Proper b.firmware.pageSize

theorem stageProper_start {firmware : Firmware} (hpageSize : 0 < firmware.pageSize) (flash : Memory) :
    (start firmware flash).StageProper :=
  ⟨hpageSize, trivial⟩

theorem StageProper.run (h : b.StageProper) (request : Request) : (b.run request).StageProper := by
  obtain ⟨hfirmware, hstage⟩ := run_frame b request
  refine ⟨hfirmware ▸ h.pageSize, ?_⟩
  rw [hfirmware]
  rcases hstage with hstage | hstage
  · exact hstage ▸ h.stage
  · rw [hstage]
    exact ⟨h.pageSize, Nat.zero_add _⟩

theorem StageProper.receiveByte (h : b.StageProper) (byte : UInt8) : (b.receiveByte byte).StageProper := by
  unfold Bootloader.receiveByte
  cases hstage : b.stage with
  | idle =>
    dsimp only
    split
    · exact h
    · cases Opcode.ofByte? byte with
      | none => exact h.run _
      | some op =>
        dsimp only
        split
        · exact h.run _
        · exact ⟨h.pageSize, by omega, Nat.zero_add _⟩
  | collecting pending missing got =>
    have hproper := h.stage
    rw [hstage] at hproper
    obtain ⟨hpositive, hwhole⟩ := hproper
    dsimp only
    split
    · have hidle : { b with stage := Stage.idle }.StageProper := ⟨h.pageSize, trivial⟩
      exact hidle.run _
    · refine ⟨h.pageSize, by omega, ?_⟩
      simp only [List.length_cons]
      omega

/-- Whatever bytes a device takes, it stays at a proper stage. -/
theorem StageProper.receive (h : b.StageProper) (bytes : List UInt8) : (b.receive bytes).StageProper := by
  induction bytes generalizing b with
  | nil => exact h
  | cons byte rest ih => exact ih (h.receiveByte byte)

/-- The cell is one of those that the block being collected goes to. -/
def Expects (b : Bootloader) (i : Nat) : Prop :=
  b.stage.isBlock = true ∧ b.addr ≤ i ∧ i < b.addr + b.firmware.pageSize

end Bootloader

namespace Session

/-- Host and device agree on the pointer, and the device waits for a command with nothing left to
read. Nothing else that the host keeps has changed, nor has what never changes about the device. -/
structure InStep (addr : UInt32) (before after : Session Bootloader) : Prop where
  idle : after.link.stage = .idle
  heard : after.link.output = []
  pointer : after.link.addr = addr.toNat
  host : after.host = before.host.trust addr
  firmware : after.link.firmware = before.link.firmware
  flashSize : after.link.flash.size = before.link.flash.size

variable {host : Host} {b : Bootloader} {s : Session Bootloader} {addr pageSize : UInt32}

/-- In fast mode a page is recovered by resynchronizing, erasing it, and pointing at it once more. -/
theorem Exchange.recoverPage_of_fast {ω : Type} [Link ω] {wire : Wire ω} {page : Nat}
    {wrong : Failure → Host → Bootloader → Prop} {cut : Host → Bootloader → Prop}
    (hattentive : b.firmware.Attentive) (hproper : b.stage.Proper b.firmware.pageSize)
    (hpage : b.stage.isBlock = true → b.addr = page)
    (houtput : b.output.length + b.stage.owed b.firmware.fillers ≤ flushLength b.firmware.pageSize)
    (hreach : reachable addr = true) (hpageSize : pageSize.toNat = b.firmware.pageSize)
    (hfast : host.mode = .fast) (hcut : ∀ host' b', cut host' b') :
    Exchange wire (Session.recoverPage addr pageSize) host b
      (fun _ host' b' => host' = host.trust addr ∧ ∃ c : Bootloader, c.Ready ∧
        b.Confined page (page + b.firmware.pageSize) c ∧ (b.stage.isBlock = false → c.flash = b.flash) ∧
        b' = ((c.pointed addr).ran .erasePage []).pointed addr)
      wrong cut := by
  unfold Session.recoverPage
  rw [hpageSize]
  refine bind (resync hattentive hproper hpage houtput hreach fun _ _ _ _ => hcut _ _) ?_
  rintro - host' b' ⟨hhost, c, hready, hconfined, hflash, hb⟩
  subst host' b'
  have hpointed : (c.pointed addr).Ready := hready.ran _ _
  refine bind host? ?_
  rintro _ host' b' ⟨rfl, hhost, hb⟩
  subst host' b'
  rw [if_pos (by exact hfast)]
  refine bind (erasePage hpointed (hcut _ _) (hcut _ _)) ?_
  rintro - host' b' ⟨hhost, hb⟩
  subst host' b'
  refine (setAddress (hpointed.ran _ _) hreach (hcut _ _) (hcut _ _)).returning ?_
  rintro - host' b' ⟨hhost, hb⟩
  exact ⟨hhost, c, hready, hconfined, hflash, hb⟩

/-- What a flush has changed in the flash is where a block was expected. -/
theorem expects_of_ne {c : Bootloader} {i : Nat}
    (hconfined : b.Confined b.addr (b.addr + b.firmware.pageSize) c)
    (hflash : b.stage.isBlock = false → c.flash = b.flash)
    (hne : c.flash.byteAt i ≠ b.flash.byteAt i) : b.Expects i := by
  refine ⟨?_, ?_⟩
  · cases hblock : b.stage.isBlock with
    | true => rfl
    | false => exact absurd (by rw [hflash hblock]) hne
  · apply Decidable.byContradiction
    intro houtside
    exact hne (hconfined.flash.byteAt i (by omega))

/-- A device that takes commands is in step once it has been told where to point. -/
theorem inStep_of_pointed {c : Bootloader} {after : Session Bootloader} (hready : c.Ready)
    (hreach : reachable addr = true) (hfirmware : c.firmware = s.link.firmware)
    (hsize : c.flash.size = s.link.flash.size)
    (hhost : after.host = s.host.trust addr) (hlink : after.link = c.pointed addr) : InStep addr s after := by
  have hpointed : (c.pointed addr).Ready := hready.ran _ _
  rw [← hlink] at hpointed
  refine ⟨hpointed.idle, hpointed.heard, ?_, hhost, ?_, ?_⟩
  · rw [hlink, Bootloader.addr_pointed hreach]
  · rw [hlink, ← hfirmware]
    exact Bootloader.firmware_ran ..
  · rw [hlink, ← hsize]
    rfl

section

variable (hattentive : s.link.firmware.Attentive) (hproper : s.link.stage.Proper s.link.firmware.pageSize)
  (hdrained : s.link.output.length + s.link.stage.owed s.link.firmware.fillers ≤
    flushLength s.link.firmware.pageSize)
  (hreach : reachable addr = true)

include hattentive hproper hdrained hreach

theorem resync_inStep : ∃ after, (resync addr s.link.firmware.pageSize).run s = (.ok (), after) ∧
    InStep addr s after ∧
    ∀ i, after.link.flash.byteAt i ≠ s.link.flash.byteAt i → s.link.Expects i := by
  have h : Exchange Bootloader.wire (resync addr s.link.firmware.pageSize) s.host s.link _
      (fun _ _ _ => False) fun _ _ => True :=
    Exchange.resync hattentive hproper (fun _ => rfl) hdrained hreach fun _ _ _ _ => trivial
  obtain ⟨_, after, hrun, hhost, c, hready, hconfined, hflash, hlink⟩ := h.ends.returns
  refine ⟨after, hrun, inStep_of_pointed hready hreach hconfined.firmware hconfined.flash.size
    hhost hlink, ?_⟩
  intro i hne
  rw [hlink] at hne
  exact expects_of_ne hconfined hflash hne

theorem recoverPage_inStep (hpageSize : pageSize.toNat = s.link.firmware.pageSize)
    (hfast : s.host.mode = .fast) (hroom : addr.toNat + pageSize.toNat ≤ s.link.flash.size) :
    ∃ after, (recoverPage addr pageSize).run s = (.ok (), after) ∧ InStep addr s after ∧
      after.link.flash.ErasedAt addr.toNat pageSize.toNat ∧
      ∀ i, after.link.flash.byteAt i ≠ s.link.flash.byteAt i →
        s.link.Expects i ∨ addr.toNat ≤ i ∧ i < addr.toNat + pageSize.toNat := by
  have h : Exchange Bootloader.wire (recoverPage addr pageSize) s.host s.link _ (fun _ _ _ => False)
      fun _ _ => True :=
    Exchange.recoverPage_of_fast hattentive hproper (fun _ => rfl)
      hdrained hreach hpageSize hfast fun _ _ => trivial
  obtain ⟨_, after, hrun, hhost, c, hready, hconfined, hflash, hlink⟩ := h.ends.returns
  let blank := (c.pointed addr).ran .erasePage []
  have hpointed : (c.pointed addr).firmware = s.link.firmware :=
    (Bootloader.firmware_ran ..).trans hconfined.firmware
  have hstored : blank.flash = c.flash.store addr.toNat (List.replicate pageSize.toNat erased) := by
    change c.flash.store (c.pointed addr).addr (List.replicate (c.pointed addr).firmware.pageSize erased) = _
    rw [Bootloader.addr_pointed hreach, hpointed, hpageSize]
  have hsame : after.link.flash = blank.flash := by
    rw [hlink]
    rfl
  have hready' : blank.Ready := (hready.ran _ _).ran _ _
  have hsize : blank.flash.size = s.link.flash.size := by
    rw [hstored, Memory.size_store, hconfined.flash.size]
  refine ⟨after, hrun, inStep_of_pointed hready' hreach
    ((Bootloader.firmware_ran ..).trans hpointed) hsize hhost hlink, ?_, ?_⟩
  · rw [hsame, hstored]
    exact Memory.erasedAt_store (by rwa [hconfined.flash.size])
  · intro i hne
    by_cases hpage : addr.toNat ≤ i ∧ i < addr.toNat + pageSize.toNat
    · exact .inr hpage
    · have hagrees := c.flash.agreesOutside_store addr.toNat (List.replicate pageSize.toNat erased)
      rw [List.length_replicate] at hagrees
      rw [hsame, hstored, hagrees.byteAt i (by omega)] at hne
      exact .inl (expects_of_ne hconfined hflash hne)

end

/-- A device that hears commands and follows no rules is brought back into step from any stage, any
pointer and any page buffer, as long as the flush can drain what it has to say. In fast mode the
page that is recovered is erased as well. Of all other cells only those that a block was being
collected for can change. -/
theorem resync_from_any_stage (s : Session Bootloader) (addr : UInt32)
    (hawake : s.link.firmware.silent = false) (hrules : s.link.firmware.rules = [])
    (hproper : s.link.stage.Proper s.link.firmware.pageSize)
    (hpending : s.link.output.length + s.link.firmware.fillers + 1 ≤ s.link.firmware.pageSize + 9)
    (heven : addr % 2 = 0) (hlow : addr ≤ 0x1fffe) :
    (∃ after, (resync addr s.link.firmware.pageSize).run s = (.ok (), after) ∧ InStep addr s after ∧
      ∀ i, after.link.flash.byteAt i ≠ s.link.flash.byteAt i → s.link.Expects i) ∧
    ∀ pageSize : UInt32, pageSize.toNat = s.link.firmware.pageSize → s.host.mode = .fast →
      addr.toNat + pageSize.toNat ≤ s.link.flash.size →
      ∃ after, (recoverPage addr pageSize).run s = (.ok (), after) ∧ InStep addr s after ∧
        after.link.flash.ErasedAt addr.toNat pageSize.toNat ∧
        ∀ i, after.link.flash.byteAt i ≠ s.link.flash.byteAt i →
          s.link.Expects i ∨ addr.toNat ≤ i ∧ i < addr.toNat + pageSize.toNat := by
  have hattentive := Firmware.attentive_of_rules_eq_nil hawake hrules
  have hreach : reachable addr = true := by
    have hle := UInt32.le_iff_toNat_le.mp hlow
    have hmod : addr.toNat % 2 = 0 := by simpa using congrArg UInt32.toNat heven
    exact reachable_iff.mpr ⟨hmod, Nat.le_trans hle (by decide)⟩
  -- The longest answer to what is being collected is that of a high byte, with all its fillers.
  have hdrained : s.link.output.length + s.link.stage.owed s.link.firmware.fillers ≤
      flushLength s.link.firmware.pageSize := by
    have howed := s.link.stage.owed_le s.link.firmware.fillers
    simp only [flushLength]
    omega
  refine ⟨resync_inStep hattentive hproper hdrained hreach, ?_⟩
  intro pageSize hpageSize hfast hroom
  exact recoverPage_inStep hattentive hproper hdrained hreach hpageSize hfast hroom

/-- A bootloader that has been told to point at cell 4, has announced itself, and has got half of a block. -/
def interrupted : Bootloader :=
  (Bootloader.start ⟨4, [], [], 0, 0, false, false, 5, []⟩ (.filled 16 7)).receive
    [Opcode.setAddress.byte, 0, 2, Opcode.writeBlock.byte, 1, 2]

/-- The other half is made of cancel bytes, and the page that is recovered is another one. -/
theorem resync_from_any_stage_interrupted :
    interrupted.stage = .collecting .block 2 [2, 1] ∧ interrupted.output = [ack, 0x21] ∧
      ∃ after, (recoverPage 8 4).run ⟨interrupted, { Host.initial with mode := .fast }, .empty⟩ =
        (.ok (), after) ∧
        after.link.stage = .idle ∧ after.link.output = [] ∧ after.link.addr = 8 ∧
          after.host.pointer? = some 8 ∧
        after.link.flash.ErasedAt 8 4 ∧ ∀ i, i < 4 ∨ 12 ≤ i →
          after.link.flash.byteAt i = interrupted.flash.byteAt i := by
  have hstage : interrupted.stage = .collecting .block 2 [2, 1] := by decide
  have houtput : interrupted.output = [ack, 0x21] := by decide
  have hpointer : interrupted.addr = 4 := by decide
  have hproper : interrupted.StageProper := (Bootloader.stageProper_start (by decide) _).receive _
  have h := resync_from_any_stage ⟨interrupted, { Host.initial with mode := .fast }, .empty⟩ 8
    (by decide) (by decide) hproper.stage (by rw [houtput]; decide) (by decide) (by decide)
  obtain ⟨after, hrun, hstep, herased, hframe⟩ := h.2 4 (by decide) rfl (by decide)
  refine ⟨hstage, houtput, after, hrun, hstep.idle, hstep.heard, hstep.pointer, ?_, herased, ?_⟩
  · rw [hstep.host]
    rfl
  · intro i hi
    apply Decidable.byContradiction
    intro hne
    have hpageSize : interrupted.firmware.pageSize = 4 := by decide
    rcases hframe i hne with ⟨-, hlow, hhigh⟩ | ⟨hlow, hhigh⟩
    · simp only [hpointer, hpageSize] at hlow hhigh
      omega
    · have h8 : (8 : UInt32).toNat = 8 := rfl
      have h4 : (4 : UInt32).toNat = 4 := rfl
      omega

end Session

end Bootflash
