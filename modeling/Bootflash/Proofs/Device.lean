import Bootflash.Proofs.Memory
import Bootflash.Bootloader

namespace Bootflash

theorem Opcode.byte_ne_blockCode (op : Opcode) : op.byte ≠ blockCode := by
  cases op <;> decide

theorem Opcode.arity_le_two (op : Opcode) : op.arity ≤ 2 := by
  cases op <;> decide

namespace Firmware

/-- A bootloader that hears commands, sends few enough fillers, and answers as it should. Rules may touch the
acknowledgement of a block only, and put a single wrong byte in its place. -/
structure Tame (firmware : Firmware) : Prop where
  awake : firmware.silent = false
  fillers : firmware.fillers ≤ 4
  rules : ∀ rule ∈ firmware.rules, rule.command = blockCode ∧ ∃ byte, byte ≠ ack ∧ rule.reply = [byte]

variable {firmware : Firmware}

theorem Tame.override?_eq_none (h : firmware.Tame) {code : UInt8} (hcode : code ≠ blockCode) (use : Nat) :
    firmware.override? code use = none := by
  rw [override?, Option.map_eq_none_iff, List.find?_eq_none]
  intro rule hrule happlies
  have hcommand := (h.rules rule hrule).1
  simp only [Rule.applies, Bool.and_eq_true, beq_iff_eq] at happlies
  exact hcode (happlies.1.1.symm.trans hcommand)

/-- What a rule puts in the place of a block's acknowledgement is one byte that is none. -/
theorem Tame.override?_block (h : firmware.Tame) {use : Nat} {reply : List UInt8}
    (hreply : firmware.override? blockCode use = some reply) : ∃ byte, byte ≠ ack ∧ reply = [byte] := by
  obtain ⟨rule, hfind, rfl⟩ := Option.map_eq_some_iff.mp hreply
  exact (h.rules rule (List.mem_of_find?_eq_some hfind)).2

theorem tame_of_rules_eq_nil (hawake : firmware.silent = false) (hfillers : firmware.fillers ≤ 4)
    (hrules : firmware.rules = []) : firmware.Tame :=
  ⟨hawake, hfillers, by simp [hrules]⟩

theorem override?_of_rules_eq_nil (hrules : firmware.rules = []) (code : UInt8) (use : Nat) :
    firmware.override? code use = none := by
  simp [override?, hrules]

/-- A bootloader that hears commands and gives its own answers to them. A block may be answered with
any one byte. -/
structure Attentive (firmware : Firmware) : Prop where
  awake : firmware.silent = false
  commands : ∀ (op : Opcode) (use : Nat), firmware.override? op.byte use = none
  blocks : ∀ use reply, firmware.override? blockCode use = some reply → reply.length = 1

theorem Tame.attentive (h : firmware.Tame) : firmware.Attentive where
  awake := h.awake
  commands op use := h.override?_eq_none op.byte_ne_blockCode use
  blocks use reply hreply := by
    obtain ⟨byte, -, rfl⟩ := h.override?_block hreply
    rfl

theorem attentive_of_rules_eq_nil (hawake : firmware.silent = false)
    (hrules : firmware.rules = []) : firmware.Attentive where
  awake := hawake
  commands _ _ := override?_of_rules_eq_nil hrules ..
  blocks use reply hreply := by
    rw [override?_of_rules_eq_nil hrules] at hreply
    cases hreply

end Firmware

namespace Pending

/-- How many bytes belong to what is being collected. -/
def length (pageSize : Nat) : Pending → Nat
  | arguments op => op.arity
  | block => pageSize

/-- How many bytes it is answered with once it is complete. -/
def owed (fillers : Nat) : Pending → Nat
  | arguments .loadHigh => fillers + 1
  | _ => 1

end Pending

namespace Stage

/-- What is there and what is missing make up a whole, and something is missing. -/
def Proper (pageSize : Nat) : Stage → Prop
  | idle => True
  | collecting pending missing got => 0 < missing ∧ got.length + missing = pending.length pageSize

/-- Whether the data of a block is being collected. -/
def isBlock : Stage → Bool
  | collecting .block _ _ => true
  | _ => false

/-- How many bytes a bootloader is going to say once it has all that it waits for. -/
def owed (fillers : Nat) : Stage → Nat
  | idle => 0
  | collecting pending _ _ => pending.owed fillers

end Stage

namespace Bootloader

variable {b b' b'' : Bootloader} {lo hi : Nat}

theorem lookup_bump_of_ne {code other : UInt8} (hne : code ≠ other) (counts : List (UInt8 × Nat)) :
    (bump other counts).lookup code = counts.lookup code := by
  have hbeq : (code == other) = false := beq_eq_false_iff_ne.mpr hne
  induction counts with
  | nil => simp [bump, List.lookup_cons, hbeq]
  | cons entry rest ih =>
    obtain ⟨key, n⟩ := entry
    by_cases hkey : other = key
    · subst hkey
      simp [bump, List.lookup_cons, hbeq]
    · simp only [bump, beq_eq_false_iff_ne.mpr hkey, Bool.false_eq_true, if_false, List.lookup_cons]
      rw [ih]

theorem lookup_bump_self (code : UInt8) (counts : List (UInt8 × Nat)) :
    (bump code counts).lookup code = some ((counts.lookup code).getD 0 + 1) := by
  induction counts with
  | nil => simp [bump]
  | cons entry rest ih =>
    obtain ⟨key, n⟩ := entry
    by_cases hkey : code = key
    · subst hkey
      simp [bump]
    · simp only [bump, beq_eq_false_iff_ne.mpr hkey, Bool.false_eq_true, if_false, List.lookup_cons]
      rw [ih]

/-- How many acknowledgements of blocks a rule has replaced so far. -/
def wrongAcks (b : Bootloader) : Nat :=
  (List.range (b.count blockCode)).countP fun use => (b.firmware.override? blockCode use).isSome

theorem wrongAcks_congr (hfirmware : b'.firmware = b.firmware)
    (hcount : b'.count blockCode = b.count blockCode) :
    b'.wrongAcks = b.wrongAcks := by
  rw [wrongAcks, hfirmware, hcount, wrongAcks]

theorem wrongAcks_of_rules_eq_nil (hrules : b.firmware.rules = []) : b.wrongAcks = 0 := by
  simp [wrongAcks, Firmware.override?_of_rules_eq_nil hrules]

/-- The device after a command, apart from the answer to it. -/
def ran (b : Bootloader) (op : Opcode) (arguments : List UInt8) : Bootloader :=
  { b.perform (.command op arguments) with counts := bump op.byte b.counts }

section ran

variable (b : Bootloader) (op : Opcode) (arguments : List UInt8)

/-- No command changes anything but the flash, the page buffer, the pointer and the indicator. -/
theorem perform_command : b.perform (.command op arguments) =
    { b with
      flash := (b.perform (.command op arguments)).flash
      buffer := (b.perform (.command op arguments)).buffer
      addr := (b.perform (.command op arguments)).addr
      led := (b.perform (.command op arguments)).led } := by
  simp only [perform]
  split <;> rfl

@[simp]
theorem firmware_ran : (b.ran op arguments).firmware = b.firmware := by
  rw [ran, perform_command]

@[simp]
theorem probed_ran : (b.ran op arguments).probed = b.probed := by
  rw [ran, perform_command]

@[simp]
theorem stage_ran : (b.ran op arguments).stage = b.stage := by
  rw [ran, perform_command]

@[simp]
theorem output_ran : (b.ran op arguments).output = b.output := by
  rw [ran, perform_command]

@[simp]
theorem count_ran : (b.ran op arguments).count blockCode = b.count blockCode := by
  rw [count, ran, lookup_bump_of_ne op.byte_ne_blockCode.symm, count]

@[simp]
theorem wrongAcks_ran : (b.ran op arguments).wrongAcks = b.wrongAcks :=
  wrongAcks_congr (firmware_ran b op arguments) (count_ran b op arguments)

@[simp]
theorem size_buffer_ran (hbuffer : b.buffer.size = b.firmware.pageSize) :
    (b.ran op arguments).buffer.size = b.buffer.size := by
  simp only [ran, perform]
  split <;> simp [hbuffer]

end ran

/-- A bootloader at rest runs a command as soon as its last byte is in. -/
theorem receive_command (hidle : b.stage = .idle) (hawake : b.firmware.silent = false) (op : Opcode)
    {arguments : List UInt8} (harity : arguments.length = op.arity) :
    b.receive (op.byte :: arguments) = b.run (.command op arguments) := by
  obtain ⟨firmware, flash, buffer, addr, led, probed, stage, output, counts⟩ := b
  subst hidle
  change firmware.silent = false at hawake
  simp only [receive, List.foldl_cons, receiveByte, hawake, Bool.false_eq_true, if_false, Opcode.ofByte?_byte]
  match arguments, harity with
  | [], harity => simp [← harity]
  | [x], harity => simp [← harity, receiveByte, complete]
  | [x, y], harity => simp [← harity, receiveByte, complete]
  | x :: y :: z :: rest, harity =>
    have hle := op.arity_le_two
    simp only [List.length_cons] at harity
    omega

/-- What running a command comes to when no rule speaks about it. A block write is a story of its own. -/
theorem run_command {op : Opcode} (hop : op ≠ .writeBlock) (arguments : List UInt8)
    (hrule : b.firmware.override? op.byte (b.count op.byte) = none) :
    b.run (.command op arguments) =
      { b.ran op arguments with output := b.output ++ b.answer (.command op arguments) } := by
  have hfollow : ∀ c : Bootloader, ∀ reply, c.followUp (.command op arguments) reply = c := by
    intro c reply
    cases op <;> first | rfl | exact absurd rfl hop
  simp only [run, Request.code, hrule, Option.getD_none, hfollow, ran]
  rw [perform_command]

theorem run_writeBlock_of_refuses
    (hrule : b.firmware.override? Opcode.writeBlock.byte (b.count Opcode.writeBlock.byte) = none)
    (hrefuses : b.firmware.refusesBlocks = true) :
    b.run (.command .writeBlock []) = { b.ran .writeBlock [] with output := b.output ++ [reject] } := by
  simp [run, Request.code, hrule, answer, hrefuses, perform, followUp, ran]

/-- A bootloader that takes blocks waits for the page after it has announced itself, or silently
once it is probed. -/
theorem run_writeBlock_of_takes
    (hrule : b.firmware.override? Opcode.writeBlock.byte (b.count Opcode.writeBlock.byte) = none)
    (htakes : b.firmware.refusesBlocks = false) :
    b.run (.command .writeBlock []) =
      { b.ran .writeBlock [] with
        stage := .collecting .block b.firmware.pageSize []
        output := b.output ++ if b.probed then [] else [0x21] } := by
  have hhead : (if b.probed then ([] : List UInt8) else [0x21]).head? ≠ some reject := by
    cases b.probed <;> decide
  simp [run, Request.code, hrule, answer, htakes, perform, followUp, ran, hhead]

/-- What a complete block is answered with. -/
def blockReply (b : Bootloader) : List UInt8 :=
  (b.firmware.override? blockCode (b.count blockCode)).getD [ack]

/-- The device after a block, apart from the answer to it. -/
def stored (b : Bootloader) (data : List UInt8) : Bootloader :=
  { b with
    flash := b.flash.store b.addr data
    addr := b.addr + b.firmware.pageSize
    probed := b.probed || b.blockReply = [ack]
    counts := bump blockCode b.counts }

theorem run_block (b : Bootloader) (data : List UInt8) :
    b.run (.block data) = { b.stored data with output := b.output ++ b.blockReply } := by
  have hrun : b.run (.block data) =
      { (b.perform (.block data)).followUp (.block data) b.blockReply with
        counts := bump blockCode ((b.perform (.block data)).followUp (.block data) b.blockReply).counts
        output := ((b.perform (.block data)).followUp (.block data) b.blockReply).output ++
          b.blockReply } := rfl
  rw [hrun]
  by_cases hreply : b.blockReply = [ack] <;> simp [followUp, perform, stored, hreply]

/-- A bootloader that is collecting takes the missing bytes, whatever they are, and runs what they
complete. -/
theorem receive_missing {pending : Pending} {missing : Nat} {got bytes : List UInt8}
    (hstage : b.stage = .collecting pending missing got) (hlength : bytes.length = missing)
    (hpositive : 0 < missing) :
    b.receive bytes = { b with stage := .idle }.run (complete pending (got.reverse ++ bytes)) := by
  induction bytes generalizing b missing got with
  | nil =>
    simp only [List.length_nil] at hlength
    omega
  | cons byte rest ih =>
    simp only [List.length_cons] at hlength
    simp only [receive, List.foldl_cons, receiveByte, hstage]
    cases rest with
    | nil =>
      simp only [List.length_nil] at hlength
      rw [if_pos (by omega)]
      simp
    | cons second rest =>
      simp only [List.length_cons] at hlength ih
      rw [if_neg (by omega)]
      have hstage' : { b with stage := Stage.collecting pending (missing - 1) (byte :: got) }.stage =
          .collecting pending (missing - 1) (byte :: got) := rfl
      have h := ih hstage' (by omega) (by omega)
      simp only [receive] at h
      rw [h]
      simp

/-- The data of a block is stored as soon as all of it is there. -/
theorem receive_block {missing : Nat} {got bytes : List UInt8}
    (hstage : b.stage = .collecting .block missing got) (hlength : bytes.length = missing)
    (hpositive : 0 < missing) :
    b.receive bytes = { b with stage := .idle }.run (.block (got.reverse ++ bytes)) :=
  receive_missing hstage hlength hpositive

theorem count_stored (b : Bootloader) (data : List UInt8) :
    (b.stored data).count blockCode = b.count blockCode + 1 := by
  rw [count, stored, lookup_bump_self, Option.getD_some, count]

theorem wrongAcks_stored (b : Bootloader) (data : List UInt8) :
    (b.stored data).wrongAcks =
      b.wrongAcks + if (b.firmware.override? blockCode (b.count blockCode)).isSome then 1 else 0 := by
  rw [wrongAcks, count_stored, List.range_succ, List.countP_append, List.countP_singleton]
  rfl

/-- A block is acknowledged, or a rule has put one wrong byte in the place of the acknowledgement. -/
theorem blockReply_cases (htame : b.firmware.Tame) (data : List UInt8) :
    (b.blockReply = [ack] ∧ (b.stored data).wrongAcks = b.wrongAcks) ∨
      ∃ byte, byte ≠ ack ∧ b.blockReply = [byte] ∧ (b.stored data).wrongAcks = b.wrongAcks + 1 := by
  rw [wrongAcks_stored, blockReply]
  cases hrule : b.firmware.override? blockCode (b.count blockCode) with
  | none => exact .inl ⟨rfl, rfl⟩
  | some reply =>
    obtain ⟨byte, hbyte, rfl⟩ := htame.override?_block hrule
    exact .inr ⟨byte, hbyte, rfl, rfl⟩

theorem length_blockReply (hattentive : b.firmware.Attentive) : b.blockReply.length = 1 := by
  rw [blockReply]
  cases hrule : b.firmware.override? blockCode (b.count blockCode) with
  | none => rfl
  | some reply => exact hattentive.blocks _ reply hrule

/-- A silent bootloader at rest takes no notice of anything. -/
theorem receive_of_silent (hidle : b.stage = .idle) (hsilent : b.firmware.silent = true)
    (bytes : List UInt8) :
    b.receive bytes = b := by
  induction bytes with
  | nil => rfl
  | cons byte rest ih =>
    have hbyte : b.receiveByte byte = b := by simp [receiveByte, hidle, hsilent]
    simpa [receive, hbyte] using ih

/-- Cancel bytes do nothing to a bootloader at rest but to be counted. -/
theorem receive_cancels (hidle : b.stage = .idle) (hattentive : b.firmware.Attentive) (n : Nat) :
    ∃ counts, b.receive (List.replicate n Opcode.cancel.byte) = { b with counts } ∧
      ({ b with counts } : Bootloader).count blockCode = b.count blockCode := by
  induction n generalizing b with
  | zero => exact ⟨b.counts, rfl, rfl⟩
  | succ n ih =>
    have hfirst : b.receive [Opcode.cancel.byte] = b.ran .cancel [] := by
      rw [receive_command hidle hattentive.awake .cancel rfl,
        run_command (by decide) [] (hattentive.commands _ _)]
      simp only [answer, List.append_nil]
      rfl
    obtain ⟨counts, hrest, hcount⟩ :=
      ih (b := b.ran .cancel []) (by simpa using hidle) (by simpa using hattentive)
    refine ⟨counts, ?_, ?_⟩
    · rw [List.replicate_succ, ← List.singleton_append, receive, List.foldl_append]
      change (b.receive [Opcode.cancel.byte]).receive (List.replicate n Opcode.cancel.byte) = _
      rw [hfirst, hrest]
      rfl
    · exact hcount.trans (count_ran b .cancel [])

/-- The second device is the first with its flash changed at most inside `[lo, hi)`. What can be
told about a bootloader besides, its firmware, the size of its page buffer, and that it has been
probed, is still so. -/
structure Confined (lo hi : Nat) (before after : Bootloader) : Prop where
  firmware : after.firmware = before.firmware
  buffer : after.buffer.size = before.buffer.size
  flash : before.flash.AgreesOutside lo hi after.flash
  probed : before.probed = true → after.probed = true

namespace Confined

theorem refl (lo hi : Nat) (b : Bootloader) : Confined lo hi b b :=
  ⟨rfl, rfl, .refl lo hi b.flash, id⟩

theorem trans (h : Confined lo hi b b') (h' : Confined lo hi b' b'') : Confined lo hi b b'' :=
  ⟨h'.firmware.trans h.firmware, h'.buffer.trans h.buffer, h.flash.trans h'.flash,
    fun hp => h'.probed (h.probed hp)⟩

theorem widen {lo' hi' : Nat} (h : Confined lo hi b b') (hrange : hi ≤ lo ∨ (lo' ≤ lo ∧ hi ≤ hi')) :
    Confined lo' hi' b b' :=
  ⟨h.firmware, h.buffer, h.flash.widen hrange, h.probed⟩

/-- What a device has to say does not matter to its frame. -/
theorem with_output (h : Confined lo hi b b') (output : List UInt8) : Confined lo hi b { b' with output } :=
  ⟨h.firmware, h.buffer, h.flash, h.probed⟩

end Confined

/-- A command that leaves the flash alone is confined to any range at all. -/
theorem confined_ran {op : Opcode} {arguments : List UInt8} (hbuffer : b.buffer.size = b.firmware.pageSize)
    (hflash : (b.ran op arguments).flash = b.flash) : Confined lo hi b (b.ran op arguments) := by
  refine ⟨firmware_ran b op arguments, size_buffer_ran b op arguments hbuffer, ?_, ?_⟩
  · rw [hflash]
    exact .refl lo hi b.flash
  · rw [probed_ran]
    exact id

theorem confined_stored (b : Bootloader) (data : List UInt8) :
    Confined b.addr (b.addr + data.length) b (b.stored data) :=
  ⟨rfl, rfl, b.flash.agreesOutside_store b.addr data, fun hp => by simp [stored, hp]⟩

/-- A command with arguments leaves the flash alone. -/
theorem confined_ran_of_arity {op : Opcode} (harity : 0 < op.arity) (arguments : List UInt8) :
    Confined lo hi b (b.ran op arguments) := by
  have hsame : (b.ran op arguments).flash = b.flash ∧
      (b.ran op arguments).buffer.size = b.buffer.size := by
    simp only [ran, perform]
    split <;> first | exact absurd harity (by decide) | exact ⟨rfl, rfl⟩
  refine ⟨firmware_ran b op arguments, hsame.2, ?_, ?_⟩
  · rw [hsame.1]
    exact .refl lo hi b.flash
  · rw [probed_ran]
    exact id

/-- What was collected is run as soon as it is complete. The bootloader says what it owes, and
changes the flash at most where a block goes. -/
theorem run_complete {pending : Pending} {bytes : List UInt8} (hattentive : b.firmware.Attentive)
    (hlength : bytes.length = pending.length b.firmware.pageSize) (hpositive : 0 < bytes.length) :
    ∃ b', b.run (complete pending bytes) = b' ∧ b'.stage = b.stage ∧
      b.Confined b.addr (b.addr + b.firmware.pageSize) b' ∧
      b'.output.length = b.output.length + pending.owed b.firmware.fillers ∧
        (pending ≠ .block → b'.flash = b.flash) := by
  refine ⟨_, rfl, ?_⟩
  cases pending with
  | block =>
    have hconfined := confined_stored b bytes
    rw [hlength] at hconfined
    rw [complete, run_block]
    refine ⟨rfl, hconfined.with_output _, ?_, fun hblock => absurd rfl hblock⟩
    rw [List.length_append, length_blockReply hattentive]
    rfl
  | arguments op =>
    have harity : 0 < op.arity := Nat.lt_of_lt_of_eq hpositive hlength
    have hop : op ≠ .writeBlock := by
      rintro rfl
      exact absurd harity (by decide)
    have hflash : b.Confined 0 0 (b.ran op bytes) := confined_ran_of_arity harity bytes
    rw [complete, run_command hop bytes (hattentive.commands op _)]
    refine ⟨stage_ran b op bytes, (confined_ran_of_arity harity bytes).with_output _, ?_,
      fun _ => hflash.flash.eq_of_le (Nat.le_refl 0)⟩
    rw [List.length_append]
    cases op <;> first | exact absurd harity (by decide) | rfl | simp [answer, Pending.owed]

/-- Enough cancel bytes bring a bootloader back to rest, whatever it was collecting. They are taken
for what was missing, so the data of a block ends up in the flash; the others do nothing. -/
theorem receive_flush {page n : Nat} (hattentive : b.firmware.Attentive)
    (hproper : b.stage.Proper b.firmware.pageSize) (hpage : b.stage.isBlock = true → b.addr = page)
    (hn : b.firmware.pageSize + 2 ≤ n) :
    ∃ b', b.receive (List.replicate n Opcode.cancel.byte) = b' ∧ b'.stage = .idle ∧
      b.Confined page (page + b.firmware.pageSize) b' ∧
      b'.output.length = b.output.length + b.stage.owed b.firmware.fillers ∧
        (b.stage.isBlock = false → b'.flash = b.flash) := by
  cases hstage : b.stage with
  | idle =>
    obtain ⟨counts, hreceive, -⟩ := receive_cancels hstage hattentive n
    exact ⟨{ b with counts }, hreceive, hstage, ⟨rfl, rfl, .refl _ _ _, id⟩, rfl, fun _ => rfl⟩
  | collecting pending missing got =>
    rw [hstage] at hproper hpage
    obtain ⟨hpositive, hwhole⟩ := hproper
    have hmissing : missing ≤ n := by
      have hlong : pending.length b.firmware.pageSize ≤ b.firmware.pageSize + 2 := by
        cases pending with
        | block => exact Nat.le_add_right _ 2
        | arguments op => exact Nat.le_trans op.arity_le_two (Nat.le_add_left 2 _)
      omega
    let idle : Bootloader := { b with stage := .idle }
    let last := List.replicate missing Opcode.cancel.byte
    have hlength : (got.reverse ++ last).length = pending.length idle.firmware.pageSize := by
      simp [last, idle, hwhole]
    obtain ⟨ran, hrun, hidle, hconfined, houtput, hflash⟩ :=
      run_complete (b := idle) hattentive hlength (by simp [last]; omega)
    have hlast : b.receive last = ran :=
      (receive_missing hstage (List.length_replicate ..) hpositive).trans hrun
    have hsplit : List.replicate n Opcode.cancel.byte = last ++
        List.replicate (n - missing) Opcode.cancel.byte := by
      rw [List.replicate_append_replicate]
      congr 1
      omega
    obtain ⟨counts, hreceive, -⟩ := receive_cancels hidle (hconfined.firmware ▸ hattentive) (n - missing)
    refine ⟨{ ran with counts }, ?_, hidle,
      ⟨hconfined.firmware, hconfined.buffer, ?_, hconfined.probed⟩, houtput, ?_⟩
    · rw [hsplit, receive, List.foldl_append]
      change (b.receive last).receive _ = _
      rw [hlast, hreceive]
    · change b.flash.AgreesOutside _ _ ran.flash
      cases pending with
      | block =>
        rw [← hpage rfl]
        exact hconfined.flash
      | arguments op =>
        have hsame : ran.flash = b.flash := hflash (by simp)
        rw [hsame]
        exact .refl _ _ _
    · intro hblock
      refine hflash ?_
      rintro rfl
      cases hblock

end Bootloader

end Bootflash
