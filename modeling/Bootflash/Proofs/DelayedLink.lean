import Bootflash.Proofs.Command
import Bootflash.Proofs.FaultyWire

namespace Bootflash

/-- The reads this fault hits come back empty, and nothing is lost. -/
structure LinkFault.Delays (fault : LinkFault) : Prop where
  call : fault.call = .read
  failure : fault.failure = none
  data : fault.data = []

namespace Bootloader

variable (b : Bootloader) (earlier : List UInt8)

/-- The device with more to say, ahead of what it says anyway. -/
def saying : Bootloader :=
  { b with output := earlier ++ b.output }

theorem perform_saying (request : Request) : (b.saying earlier).perform request =
    (b.perform request).saying earlier := by
  cases request with
  | command op arguments =>
    simp only [perform]
    split <;> rfl
  | block data => rfl
  | unrecognized byte => rfl

theorem followUp_saying (request : Request) (reply : List UInt8) :
    (b.saying earlier).followUp request reply = (b.followUp request reply).saying earlier := by
  simp only [followUp]
  split <;> first | rfl | (split <;> rfl)

theorem run_saying (request : Request) : (b.saying earlier).run request = (b.run request).saying earlier := by
  let reply := (b.firmware.override? request.code (b.count request.code)).getD (b.answer request)
  let c := (b.perform request).followUp request reply
  have hc : ((b.saying earlier).perform request).followUp request reply = c.saying earlier := by
    rw [perform_saying, followUp_saying]
  change { ((b.saying earlier).perform request).followUp request reply with
      counts := bump request.code (((b.saying earlier).perform request).followUp request reply).counts
      output := (((b.saying earlier).perform request).followUp request reply).output ++ reply } =
    { c with counts := bump request.code c.counts, output := earlier ++ (c.output ++ reply) }
  rw [hc, ← List.append_assoc]
  rfl

theorem receiveByte_saying (byte : UInt8) : (b.saying earlier).receiveByte byte =
    (b.receiveByte byte).saying earlier := by
  have hrun : ∀ stage request, ({ b.saying earlier with stage } : Bootloader).run request =
      (({ b with stage } : Bootloader).run request).saying earlier :=
    fun stage request => run_saying { b with stage } earlier request
  simp only [receiveByte]
  rw [show (b.saying earlier).stage = b.stage from rfl,
    show (b.saying earlier).firmware = b.firmware from rfl]
  split
  · split
    · exact hrun _ _
    · rfl
  · split
    · rfl
    · split
      · exact b.run_saying earlier _
      · split
        · exact b.run_saying earlier _
        · rfl

/-- What a device has not been asked for yet does not matter to what it does and says next. -/
theorem receive_saying (bytes : List UInt8) :
    (b.saying earlier).receive bytes = (b.receive bytes).saying earlier := by
  induction bytes generalizing b with
  | nil => rfl
  | cons byte rest ih =>
    change ((b.saying earlier).receiveByte byte).receive rest =
      ((b.receiveByte byte).receive rest).saying earlier
    rw [receiveByte_saying, ih]

/-- The device apart from what it has said. -/
def hushed : Bootloader :=
  { b with output := [] }

theorem hushed_saying_output : b.hushed.saying b.output = b := by
  simp [hushed, saying]

end Bootloader

namespace Faulty

variable {f : Faulty Bootloader}

theorem write_of_delays (h : ∀ fault ∈ f.faults, fault.Delays) (bytes : List UInt8) :
    f.write bytes = (none, ⟨f.link.receive bytes, f.faults, f.writes + 1, f.reads⟩) := by
  refine write_of_no_fault ?_
  rw [fault?, List.find?_eq_none]
  intro fault hfault
  simp [LinkFault.hits, (h fault hfault).call]

/-- A read gives what the device has said, or comes back empty and takes nothing. -/
theorem read_of_delays (h : ∀ fault ∈ f.faults, fault.Delays) (limit : Nat) :
    f.read limit = (⟨f.link.output.take limit, none⟩,
        ⟨{ f.link with output := f.link.output.drop limit }, f.faults, f.writes, f.reads + 1⟩) ∨
      f.read limit = (⟨[], none⟩, { f with reads := f.reads + 1 }) := by
  cases hfault : f.fault? .read f.reads with
  | none => exact .inl (read_of_no_fault hfault)
  | some fault =>
    have hdelays := h fault (List.mem_of_find?_eq_some hfault)
    rw [read_of_fault hfault, hdelays.data, hdelays.failure, List.take_nil]
    exact .inr rfl

end Faulty

/-- Whether the event announces a block. -/
def Event.offersBlock : Event → Bool
  | wrote bytes _ => bytes = [Opcode.writeBlock.byte]
  | _ => false

/-- Whether the event is a read of something that is not a refusal. -/
def Event.hearsNoRefusal : Event → Bool
  | read _ reading => reading.bytes ≠ [reject]
  | _ => false

/-- A block was announced, and what was read right after that is not a refusal. -/
def MissesRefusal (entries : List Entry) : Prop :=
  ∃ offer answer, [offer, answer] <:+: entries ∧ offer.event.offersBlock = true ∧
    answer.event.hearsNoRefusal = true

theorem pair_isInfix_iff {first second : Entry} {entries : List Entry} :
    [first, second] <:+: entries ↔ (first, second) ∈ entries.zip entries.tail := by
  induction entries with
  | nil => simp
  | cons entry rest ih =>
    rw [List.infix_cons_iff, ih]
    cases rest with
    | nil => simp
    | cons next rest => simp

theorem missesRefusal_iff {entries : List Entry} : MissesRefusal entries ↔
    ∃ pair ∈ entries.zip entries.tail, pair.1.event.offersBlock = true ∧
      pair.2.event.hearsNoRefusal = true := by
  simp only [MissesRefusal, pair_isInfix_iff, Prod.exists]

instance : DecidablePred MissesRefusal := fun _ =>
  decidable_of_iff' _ missesRefusal_iff

theorem MissesRefusal.append {entries : List Entry} (h : MissesRefusal entries) (later : List Entry) :
    MissesRefusal (entries ++ later) := by
  obtain ⟨offer, answer, hinfix, hmissed⟩ := h
  exact ⟨offer, answer, hinfix.trans (List.prefix_append entries later).isInfix, hmissed⟩

/-- What is fixed about a run: how many entries its journal had before, and whether its device
refuses blocks. -/
structure Setting where
  past : Nat
  refuses : Bool

namespace Session

variable {α β : Type} {setting : Setting} {s after : Session (Faulty Bootloader)}
  {P Q : WriteMode → Bootloader → Prop}

/-- Every fault of the link is a delay, and a device that takes blocks has not said anything that
looks like a refusal. -/
structure OnTrack (setting : Setting) (s : Session (Faulty Bootloader)) : Prop where
  journal : setting.past ≤ s.journal.size
  delays : ∀ fault ∈ s.link.faults, fault.Delays
  clean : setting.refuses = false → reject ∉ s.link.link.output

/-- The device refuses blocks, and a refusal was missed. -/
def Missed (setting : Setting) (s : Session (Faulty Bootloader)) : Prop :=
  setting.refuses = true ∧ MissesRefusal (s.journal.toList.drop setting.past)

/-- Unless a refusal was missed, the condition holds of the host's mode and the device apart from
what it has said. -/
def Under (setting : Setting) (P : WriteMode → Bootloader → Prop) (s : Session (Faulty Bootloader)) : Prop :=
  Missed setting s ∨ (OnTrack setting s ∧ P s.host.mode s.link.link.hushed)

theorem Missed.grow {entries : List Entry} (h : Missed setting s)
    (hjournal : after.journal.toList = s.journal.toList ++ entries) : Missed setting after := by
  refine ⟨h.1, ?_⟩
  rw [hjournal, List.drop_append]
  exact h.2.append _

theorem Missed.push {entry : Entry} (h : Missed setting s) (hjournal : after.journal = s.journal.push entry) :
    Missed setting after :=
  h.grow (by rw [hjournal, Journal.toList_push])

theorem Under.mono (h : Under setting P s) (himp : ∀ mode b, P mode b → Q mode b) : Under setting Q s := by
  rcases h with hmissed | ⟨htrack, hP⟩
  · exact .inl hmissed
  · exact .inr ⟨htrack, himp _ _ hP⟩

/-- A step that leaves link and mode alone. -/
theorem Under.push {entry : Entry} (h : Under setting P s) (hjournal : after.journal = s.journal.push entry)
    (hlink : after.link = s.link) (hmode : after.host.mode = s.host.mode) : Under setting P after := by
  rcases h with hmissed | ⟨htrack, hP⟩
  · exact .inl (hmissed.push hjournal)
  · refine .inr ⟨⟨?_, hlink ▸ htrack.delays, hlink ▸ htrack.clean⟩, by rwa [hmode, hlink]⟩
    have := htrack.journal
    rw [hjournal, Journal.size_push]
    omega

/-- Started under `P` over a link that may be late, the operation returns under `good` or fails
under `bad`, unless a refusal is missed on the way. -/
def Delayed (setting : Setting) (P : WriteMode → Bootloader → Prop)
    (operation : SessionM (Faulty Bootloader) α) (good : α → WriteMode → Bootloader → Prop)
    (bad : WriteMode → Bootloader → Prop) : Prop :=
  ∀ s, Under setting P s → Ends operation s (fun a => Under setting (good a)) (fun _ => Under setting bad)

namespace Delayed

variable {good : α → WriteMode → Bootloader → Prop} {bad : WriteMode → Bootloader → Prop}

theorem mono {operation : SessionM (Faulty Bootloader) α} {good' : α → WriteMode → Bootloader → Prop}
    {bad' : WriteMode → Bootloader → Prop} (h : Delayed setting P operation good bad)
    (hP : ∀ mode b, Q mode b → P mode b) (hgood : ∀ a mode b, good a mode b → good' a mode b)
    (hbad : ∀ mode b, bad mode b → bad' mode b) :
    Delayed setting Q operation good' bad' := by
  intro s hs
  exact (h s (hs.mono hP)).mono (fun a _ hafter => hafter.mono (hgood a)) fun _ _ hafter => hafter.mono hbad

theorem given {operation : SessionM (Faulty Bootloader) α} (h : Delayed setting P operation good bad)
    (hP : ∀ mode b, Q mode b → P mode b) : Delayed setting Q operation good bad :=
  h.mono hP (fun _ _ _ hafter => hafter) fun _ _ hafter => hafter

theorem returning {operation : SessionM (Faulty Bootloader) α} {good' : α → WriteMode → Bootloader → Prop}
    (h : Delayed setting P operation good bad) (hgood : ∀ a mode b, good a mode b → good' a mode b) :
    Delayed setting P operation good' bad :=
  h.mono (fun _ _ hP => hP) hgood fun _ _ hafter => hafter

theorem failing {operation : SessionM (Faulty Bootloader) α} {bad' : WriteMode → Bootloader → Prop}
    (h : Delayed setting P operation good bad) (hbad : ∀ mode b, bad mode b → bad' mode b) :
    Delayed setting P operation good bad' :=
  h.mono (fun _ _ hP => hP) (fun _ _ _ hafter => hafter) hbad

theorem bind {operation : SessionM (Faulty Bootloader) α} {next : α → SessionM (Faulty Bootloader) β}
    {mid : α → WriteMode → Bootloader → Prop} {good : β → WriteMode → Bootloader → Prop}
    (h : Delayed setting P operation mid bad) (hnext : ∀ a, Delayed setting (mid a) (next a) good bad) :
    Delayed setting P (operation >>= next) good bad :=
  fun s hs => Ends.bind (h s hs) fun a after hafter => hnext a after hafter

theorem pure {a : α} (h : ∀ mode b, P mode b → good a mode b) : Delayed setting P (Pure.pure a) good bad :=
  fun _ hs => Ends.pure (hs.mono h)

theorem throw {failure : Failure} (h : ∀ mode b, P mode b → bad mode b) :
    Delayed setting P (throw failure : SessionM (Faulty Bootloader) α) good bad :=
  fun _ hs => Ends.throw (hs.mono h)

theorem tryCatch {operation : SessionM (Faulty Bootloader) α}
    {handler : Failure → SessionM (Faulty Bootloader) α} {mid : WriteMode → Bootloader → Prop}
    (h : Delayed setting P operation good mid)
    (hhandler : ∀ failure, Delayed setting mid (handler failure) good bad) :
    Delayed setting P (tryCatch operation handler) good bad :=
  fun s hs => Ends.tryCatch (h s hs) fun failure after hafter => hhandler failure after hafter

theorem within {operation : SessionM (Faulty Bootloader) α} {text : String}
    (h : Delayed setting P operation good bad) :
    Delayed setting P (within text operation) good bad :=
  tryCatch h fun _ => throw fun _ _ hbad => hbad

theorem note {notice : Notice} : Delayed setting P (lift (note notice)) (fun _ => P) bad :=
  fun _ hs => hs.push rfl rfl rfl

theorem host? : Delayed setting P (lift host?) (fun host mode b => P mode b ∧ host.mode = mode) bad := by
  intro s hs
  rcases hs with hmissed | ⟨htrack, hP⟩
  · exact .inl hmissed
  · exact .inr ⟨htrack, hP, rfl⟩

theorem update {change : Host → Host} (hmode : ∀ host, (change host).mode = host.mode) :
    Delayed setting P (lift (update change)) (fun _ => P) bad := by
  intro s hs
  rcases hs with hmissed | ⟨htrack, hP⟩
  · exact .inl hmissed
  · refine .inr ⟨⟨htrack.journal, htrack.delays, htrack.clean⟩, ?_⟩
    change P (change s.host).mode _
    rwa [hmode]

theorem withTimeout {operation : SessionM (Faulty Bootloader) α} {ms : Int}
    (h : Delayed setting P operation good bad) :
    Delayed setting P (withTimeout ms operation) good bad := by
  have hset : ∀ (Q : WriteMode → Bootloader → Prop) ms s, Under setting Q s →
      Under setting Q (setTimeout ms s).2 :=
    fun _ _ _ hs => hs.push rfl rfl rfl
  intro s hs
  exact Ends.withTimeout ((h _ (hset P ms s hs)).mono (fun a after hafter => hset (good a) _ after hafter)
    fun _ after hafter => hset bad _ after hafter)

theorem check {failure : Option Failure} {good : Unit → WriteMode → Bootloader → Prop}
    (h : ∀ mode b, P mode b → failure = none ∧ good () mode b) :
    Delayed setting P (check failure) good bad := by
  intro s hs
  rcases hs with hmissed | ⟨htrack, hP⟩
  · cases failure with
    | none => exact Ends.pure (.inl hmissed)
    | some failure => exact Ends.throw (.inl hmissed)
  · obtain ⟨rfl, hgood⟩ := h _ _ hP
    exact Ends.pure (.inr ⟨htrack, hgood⟩)

end Delayed

/-- The same for a step that cannot fail. -/
def DelayedStep (setting : Setting) (P : WriteMode → Bootloader → Prop)
    (step : StateM (Session (Faulty Bootloader)) α) (post : α → WriteMode → Bootloader → Prop) : Prop :=
  ∀ s, Under setting P s → Yields step s fun a => Under setting (post a)

namespace DelayedStep

variable {post : α → WriteMode → Bootloader → Prop}

theorem given {step : StateM (Session (Faulty Bootloader)) α} (h : DelayedStep setting P step post)
    (hP : ∀ mode b, Q mode b → P mode b) : DelayedStep setting Q step post :=
  fun s hs => h s (hs.mono hP)

theorem yielding {step : StateM (Session (Faulty Bootloader)) α} {post' : α → WriteMode → Bootloader → Prop}
    (h : DelayedStep setting P step post) (hpost : ∀ a mode b, post a mode b → post' a mode b) :
    DelayedStep setting P step post' :=
  fun s hs => (h s hs).mono fun a _ hafter => hafter.mono (hpost a)

theorem bind {step : StateM (Session (Faulty Bootloader)) α}
    {next : α → StateM (Session (Faulty Bootloader)) β} {mid : α → WriteMode → Bootloader → Prop}
    {post : β → WriteMode → Bootloader → Prop} (h : DelayedStep setting P step mid)
    (hnext : ∀ a, DelayedStep setting (mid a) (next a) post) : DelayedStep setting P (step >>= next) post :=
  fun s hs => Yields.bind (h s hs) fun a after hafter => hnext a after hafter

theorem pure {a : α} (h : ∀ mode b, P mode b → post a mode b) : DelayedStep setting P (Pure.pure a) post :=
  fun _ hs => Yields.pure (hs.mono h)

theorem record {event : Event} : DelayedStep setting P (record event) fun _ => P :=
  fun _ hs => hs.push rfl rfl rfl

theorem host? : DelayedStep setting P host? fun host mode b => P mode b ∧ host.mode = mode := by
  intro s hs
  rcases hs with hmissed | ⟨htrack, hP⟩
  · exact .inl hmissed
  · exact .inr ⟨htrack, hP, rfl⟩

theorem setMode {mode : WriteMode} {post : Unit → WriteMode → Bootloader → Prop}
    (h : ∀ old b, P old b → post () mode b) :
    DelayedStep setting P (update fun host => { host with mode }) post := by
  intro s hs
  rcases hs with hmissed | ⟨htrack, hP⟩
  · exact .inl hmissed
  · exact .inr ⟨⟨htrack.journal, htrack.delays, htrack.clean⟩, h _ _ hP⟩

theorem run {operation : SessionM (Faulty Bootloader) α} {good : α → WriteMode → Bootloader → Prop}
    {bad : WriteMode → Bootloader → Prop} (h : Delayed setting P operation good bad) :
    DelayedStep setting P operation.run fun result => match result with
      | .ok a => good a
      | .error _ => bad := by
  intro s hs
  refine Yields.run (Ends.mono (h s hs) ?_ ?_)
  · exact fun _ _ hafter => hafter
  · exact fun _ _ hafter => hafter

theorem failureOf {operation : SessionM (Faulty Bootloader) Unit}
    {good : Unit → WriteMode → Bootloader → Prop} {bad : WriteMode → Bootloader → Prop}
    (h : Delayed setting P operation good bad) :
    DelayedStep setting P (failureOf operation) fun failure => match failure with
      | none => good ()
      | some _ => bad := by
  intro s hs
  refine Yields.failureOf (Ends.mono (h s hs) ?_ ?_)
  · exact fun _ _ hafter => hafter
  · exact fun _ _ hafter => hafter

/-- Where only a device that refuses blocks can be, it may be taken for one. -/
theorem of_refuses {step : StateM (Session (Faulty Bootloader)) α}
    (h : ∀ mode b, P mode b → setting.refuses = true)
    (hstep : setting.refuses = true → DelayedStep setting P step post) : DelayedStep setting P step post := by
  intro s hs
  rcases hs with hmissed | ⟨htrack, hP⟩
  · exact hstep hmissed.1 s (.inl hmissed)
  · exact hstep (h _ _ hP) s (.inr ⟨htrack, hP⟩)

end DelayedStep

namespace Delayed

variable {good : α → WriteMode → Bootloader → Prop} {bad : WriteMode → Bootloader → Prop}

/-- Every byte that is sent arrives. -/
theorem transmit (change : Host → Host) {bytes : List UInt8} {good : Unit → WriteMode → Bootloader → Prop}
    (hmode : ∀ host, (change host).mode = host.mode)
    (h : ∀ mode b, P mode b → (setting.refuses = false → reject ∉ (b.receive bytes).output) ∧
      good () mode (b.receive bytes).hushed) : Delayed setting P (transmit change bytes) good bad := by
  intro s hs
  let middle : Session (Faulty Bootloader) := ⟨(Link.write bytes s.link).2, change s.host,
    s.journal.push ⟨s.host, change s.host, .wrote bytes (Link.write bytes s.link).1⟩⟩
  refine Ends.step (Link.write bytes s.link).1 middle rfl ?_
  rcases hs with hmissed | ⟨htrack, hP⟩
  · have hmiddle : Missed setting middle := hmissed.push rfl
    cases (Link.write bytes s.link).1 with
    | none => exact Ends.pure (.inl hmiddle)
    | some failure => exact Ends.throw (.inl hmiddle)
  · have hwrite : Link.write bytes s.link = _ := Faulty.write_of_delays htrack.delays bytes
    have hlink : middle.link = ⟨s.link.link.receive bytes, s.link.faults, s.link.writes + 1, s.link.reads⟩ :=
      congrArg Prod.snd hwrite
    obtain ⟨hclean, hgood⟩ := h _ _ hP
    have hreceive : s.link.link.receive bytes =
        (s.link.link.hushed.receive bytes).saying s.link.link.output := by
      rw [← Bootloader.receive_saying, Bootloader.hushed_saying_output]
    rw [hwrite]
    refine Ends.pure (.inr ⟨⟨?_, ?_, ?_⟩, ?_⟩)
    · have := htrack.journal
      simp only [middle, Journal.size_push]
      omega
    · rw [hlink]
      exact htrack.delays
    · intro htakes
      rw [hlink, hreceive]
      exact List.not_mem_append (htrack.clean htakes) (hclean htakes)
    · rw [hlink, hreceive]
      change good () (change s.host).mode _
      rw [hmode]
      exact hgood

/-- Whatever a read comes back with, a device that takes blocks has not refused one. -/
theorem read (limit : Nat) {good : Reading → WriteMode → Bootloader → Prop}
    (h : ∀ mode b reading, P mode b → reading.failure = none →
      (setting.refuses = false → reject ∉ reading.bytes) →
      good reading mode b) : Delayed setting P (lift (read limit)) good bad := by
  intro s hs
  let middle : Session (Faulty Bootloader) :=
    ⟨(Link.read limit s.link).2, s.host, s.journal.push
      ⟨s.host, s.host, .read limit (Link.read limit s.link).1⟩⟩
  change Under setting (good (Link.read limit s.link).1) middle
  rcases hs with hmissed | ⟨htrack, hP⟩
  · exact .inl (hmissed.push rfl)
  · obtain ⟨bytes, rest, houtput, hread⟩ : ∃ bytes rest, s.link.link.output = bytes ++ rest ∧
        Link.read limit s.link =
        (⟨bytes, none⟩, ⟨{ s.link.link with output := rest }, s.link.faults, s.link.writes,
          s.link.reads + 1⟩) := by
      rcases Faulty.read_of_delays htrack.delays limit with hread | hread
      · exact ⟨_, _, (List.take_append_drop limit _).symm, hread⟩
      · exact ⟨[], s.link.link.output, rfl, hread⟩
    have hlink : middle.link =
        ⟨{ s.link.link with output := rest }, s.link.faults, s.link.writes, s.link.reads + 1⟩ :=
      congrArg Prod.snd hread
    have hclean : setting.refuses = false → reject ∉ bytes ∧ reject ∉ rest := by
      intro htakes
      have hnone := htrack.clean htakes
      rw [houtput] at hnone
      exact ⟨fun hmem => hnone (List.mem_append_left _ hmem),
        fun hmem => hnone (List.mem_append_right _ hmem)⟩
    refine .inr ⟨⟨?_, ?_, ?_⟩, ?_⟩
    · have := htrack.journal
      simp only [middle, Journal.size_push]
      omega
    · rw [hlink]
      exact htrack.delays
    · intro htakes
      rw [hlink]
      exact (hclean htakes).2
    · rw [hlink, hread]
      exact h _ _ _ hP rfl fun htakes => (hclean htakes).1

theorem receive (limit : Nat) {good : List UInt8 → WriteMode → Bootloader → Prop}
    (h : ∀ mode b bytes, P mode b → (setting.refuses = false → reject ∉ bytes) → good bytes mode b) :
    Delayed setting P (receive limit) good bad := by
  have hread : Delayed setting P (lift (Session.read limit)) (fun reading mode b => reading.failure = none ∧
      good reading.bytes mode b) bad :=
    read limit fun mode b reading hP hnone hclean => ⟨hnone, h mode b reading.bytes hP hclean⟩
  exact bind hread fun reading => bind (check fun _ _ hreading => hreading) fun _ =>
    pure fun _ _ hgood => hgood

theorem receiveByte {good : Option UInt8 → WriteMode → Bootloader → Prop}
    (h : ∀ mode b byte, P mode b → (setting.refuses = false → byte ≠ some reject) → good byte mode b) :
    Delayed setting P receiveByte good bad := by
  have hreceive : Delayed setting P (Session.receive 1)
      (fun bytes mode b => P mode b ∧ (setting.refuses = false → reject ∉ bytes)) bad :=
    receive 1 fun _ _ _ hP hclean => ⟨hP, hclean⟩
  refine bind hreceive fun bytes => ?_
  match bytes with
  | [byte] =>
    refine pure fun mode b hbyte => h mode b (some byte) hbyte.1 fun htakes heq => hbyte.2 htakes ?_
    simp [Option.some.inj heq]
  | [] => exact pure fun mode b hbyte => h mode b none hbyte.1 fun _ => nofun
  | _ :: _ :: _ => exact pure fun mode b hbyte => h mode b none hbyte.1 fun _ => nofun

/-- The byte insisted on may come or not. -/
theorem expect {name : String} {want : UInt8} : Delayed setting P (expect name want) (fun _ => P) P := by
  have hbyte : Delayed setting P Session.receiveByte (fun _ => P) P := receiveByte fun _ _ _ hP _ => hP
  refine bind hbyte fun byte => ?_
  cases byte with
  | none => exact throw fun _ _ hP => hP
  | some byte =>
    by_cases hbyte : byte = want
    · simp only [if_pos hbyte]
      exact pure fun _ _ hP => hP
    · simp only [if_neg hbyte]
      exact throw fun _ _ hP => hP

theorem awaitAck {name : String} : Delayed setting P (awaitAck name) (fun _ => P) P :=
  tryCatch expect fun _ => bind note fun _ => throw fun _ _ hP => hP

/-- A command that is sent is run. -/
theorem tell (op : Opcode) (change : Host → Host) {arguments : List UInt8} (hop : op ≠ .writeBlock)
    (harity : arguments.length = op.arity) (hmode : ∀ host, (change host).mode = host.mode)
    (h : ∀ mode b, P mode b →
      b.AtRest ∧ (setting.refuses = false → reject ∉ b.answer (.command op arguments)) ∧
      Q mode (b.ran op arguments)) :
    Delayed setting P (Session.transmit change (op.byte :: arguments)) (fun _ => Q) bad := by
  refine transmit change hmode ?_
  intro mode b hP
  obtain ⟨hrest, hclean, hQ⟩ := h mode b hP
  rw [hrest.receive_command op hop harity]
  refine ⟨hclean, ?_⟩
  change Q mode { b.ran op arguments with output := [] }
  rwa [Bootloader.with_output_nil (hrest.ran op arguments).heard]

/-- A command is run, and its acknowledgement may come or not. -/
theorem acknowledged (op : Opcode) (change : Host → Host) {name : String} {arguments : List UInt8}
    (hop : op ≠ .writeBlock) (harity : arguments.length = op.arity)
    (hanswer : ∀ b : Bootloader, b.answer (.command op arguments) = [ack])
    (hmode : ∀ host, (change host).mode = host.mode)
    (h : ∀ mode b, P mode b → b.AtRest ∧ Q mode (b.ran op arguments)) :
    Delayed setting P (do Session.transmit change (op.byte :: arguments); Session.awaitAck name)
      (fun _ => Q) Q := by
  refine bind (tell op change hop harity hmode fun mode b hP => ?_) fun _ => awaitAck
  obtain ⟨hrest, hQ⟩ := h mode b hP
  refine ⟨hrest, fun _ => ?_, hQ⟩
  rw [hanswer]
  decide

theorem setAddress {addr : UInt32} {good : Unit → WriteMode → Bootloader → Prop}
    (hrest : ∀ mode b, P mode b → b.AtRest)
    (hgood : ∀ mode b, P mode b → reachable addr = true → good () mode (b.pointed addr))
    (hsent : ∀ mode b, P mode b → bad mode (b.pointed addr)) (hunsent : ∀ mode b, P mode b → bad mode b) :
    Delayed setting P (setAddress addr) good bad := by
  unfold Session.setAddress
  by_cases hreach : reachable addr = true
  · rw [if_pos hreach]
    have hpoint : Delayed setting P (execMoving "setAddress" (addressFrame addr))
        (fun _ mode b => good () mode b ∧ bad mode b) (fun mode b => good () mode b ∧ bad mode b) :=
      acknowledged .setAddress Host.forget (by decide) rfl (fun _ => rfl) (fun _ => rfl) fun mode b hP =>
        ⟨hrest mode b hP, hgood mode b hP hreach, hsent mode b hP⟩
    refine bind (hpoint.failing fun _ _ h => h.2) fun _ => ?_
    have htrust : Delayed setting (fun mode b => good () mode b ∧ bad mode b)
        (lift (Session.update (Host.trust addr)))
        (fun _ mode b => good () mode b ∧ bad mode b) bad := update fun _ => rfl
    exact htrust.returning fun _ _ _ h => h.1
  · rw [if_neg hreach]
    exact throw hunsent

/-- Cancel bytes and draining do nothing to a device at rest. -/
theorem resync {addr : UInt32} {missing : Nat} {good : Unit → WriteMode → Bootloader → Prop}
    (h : ∀ mode b, P mode b → b.AtRest ∧ ∀ counts, P mode { b with counts })
    (hgood : ∀ mode b, P mode b → good () mode (b.pointed addr))
    (hsent : ∀ mode b, P mode b → bad mode (b.pointed addr))
    (hunsent : ∀ mode b, P mode b → bad mode b) : Delayed setting P (resync addr missing) good bad := by
  refine bind note fun _ => ?_
  have hflush : Delayed setting P
      (sendMoving (List.replicate (flushLength missing) Opcode.cancel.byte)) (fun _ => P) bad := by
    refine transmit Host.forget (fun _ => rfl) fun mode b hP => ?_
    obtain ⟨hrest, hcounts⟩ := h mode b hP
    obtain ⟨counts, hreceive, -⟩ :=
      Bootloader.receive_cancels hrest.idle hrest.tame.attentive (flushLength missing)
    have hquiet : ({ b with counts } : Bootloader).output = [] := hrest.heard
    rw [hreceive, hquiet]
    refine ⟨fun _ => List.not_mem_nil, ?_⟩
    change P mode { { b with counts } with output := [] }
    rw [Bootloader.with_output_nil hquiet]
    exact hcounts counts
  refine bind (within hflush) fun _ => ?_
  have hread : Delayed setting P (lift (Session.read (flushLength missing)))
      (fun reading mode b => P mode b ∧ reading.failure = none) bad :=
      read _ fun _ _ _ hP hnone _ => ⟨hP, hnone⟩
  have hdrain : Delayed setting P (drain (flushLength missing)) (fun _ => P) bad := by
    refine bind hread fun reading => ?_
    have hcheck : Delayed setting (fun mode b => P mode b ∧ reading.failure = none)
        (Session.check reading.failure)
        (fun _ => P) bad := check fun _ _ hreading => ⟨hreading.2, hreading.1⟩
    by_cases hempty : reading.bytes.isEmpty = true
    · simp only [hempty, if_true]
      exact hcheck
    · simp only [hempty, Bool.false_eq_true, if_false]
      exact bind note fun _ => hcheck
  refine bind (within (withTimeout hdrain)) fun _ => ?_
  exact setAddress (fun mode b hP => (h mode b hP).1) (fun mode b hP _ => hgood mode b hP) hsent hunsent

end Delayed

end Session

end Bootflash
