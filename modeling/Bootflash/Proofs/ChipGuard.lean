import Bootflash.Proofs.PointerDiscipline
import Bootflash.Proofs.RetryBudget
import Bootflash.Proofs.WholeChip

namespace Bootflash

/-- The image reaches the bootloader and has nothing from there on. -/
structure Image.FitsBelow (image : Image) (boot : UInt32) : Prop where
  reaches : boot.toNat ≤ image.size
  erased : ∀ i, boot.toNat ≤ i → image.getD i erased = erased

namespace Session

theorem root_of_refusal? {image : Image} {boot : UInt32} {failure : Failure}
    (h : refusal? image boot = some failure) :
    failure.root = .invalidRange := by
  unfold refusal? at h
  split at h
  · obtain rfl := Option.some.inj h
    rfl
  · obtain ⟨addr, -, rfl⟩ := Option.map_eq_some_iff.mp h
    rfl

/-- An image whose length needs no more bits is refused just if it does not fit. -/
theorem refusal?_eq_none_iff {image : Image} {boot : UInt32} (hsize : image.size < 4294967296) :
    refusal? image boot = none ↔ image.FitsBelow boot := by
  rw [refusal?_eq_none_iff_counted, Image.toNat_length32 hsize]
  constructor
  · rintro ⟨hlength, herased⟩
    refine ⟨Image.le_size_of_not_lt hlength, fun i hi => ?_⟩
    by_cases hinside : i < image.size
    · exact herased i hi hinside
    · exact Image.getD_of_size_le (Nat.le_of_not_lt hinside) erased
  · intro hfits
    exact ⟨Image.not_lt_of_le_size hsize hfits.reaches, fun i hi _ => hfits.erased i hi⟩

end Session

/-- The bytes that an event writes. -/
def Event.bytes? : Event → Option (List UInt8)
  | wrote bytes _ => some bytes
  | _ => none

/-- The writes among some calls, in order. -/
def writesOf (calls : List Event) : List (List UInt8) :=
  calls.filterMap Event.bytes?

theorem writesOf_append {calls calls' : List Event} :
    writesOf (calls ++ calls') = writesOf calls ++ writesOf calls' :=
  List.filterMap_append

/-- The question for the high fuse. -/
def fuseQuestion : List UInt8 :=
  [Opcode.readFuseHigh.byte]

/-- The calls by which the high fuse is read. -/
def fuseCalls (fuse : UInt8) : List Event :=
  [.wrote fuseQuestion none, .read 1 ⟨[fuse], none⟩]

/-- What is written to erase the chip. -/
def eraseWrites : List (List UInt8) :=
  [[Opcode.ledOn.byte, 0], [Opcode.eraseChip.byte], [Opcode.ledOff.byte, 0]]

/-- The entries begin with a fuse read that delivered this byte. -/
def FuseRead (fuse : UInt8) (entries : List Entry) : Prop :=
  fuseCalls fuse <+: callsOf entries

theorem FuseRead.unique {fuse fuse' : UInt8} {entries : List Entry} (h : FuseRead fuse entries)
    (h' : FuseRead fuse' entries) :
    fuse = fuse' := by
  have hcalls : fuseCalls fuse = fuseCalls fuse' :=
    (List.prefix_of_prefix_length_le h h' (Nat.le_refl _)).eq_of_length rfl
  simpa [fuseCalls] using hcalls

/-- If the failure is about a range, one of the calls had said so. -/
def RangeReported (calls : List Event) (failure : Failure) : Prop :=
  failure.root = .invalidRange → ∃ call ∈ calls, ∃ cause, call.failure? = some cause ∧
    cause.root = .invalidRange

theorem RangeReported.mono {calls calls' : List Event} {failure : Failure}
    (h : RangeReported calls failure) (hsub : calls ⊆ calls') :
    RangeReported calls' failure := by
  intro hroot
  obtain ⟨call, hcall, hcause⟩ := h hroot
  exact ⟨call, hsub hcall, hcause⟩

namespace Exchanged

variable {name : String} {bytes : List UInt8} {calls : List Event} {failure : Option Failure}

theorem writesOf_eq (h : Exchanged name bytes calls failure) : writesOf calls = [bytes] := by
  cases h <;> rfl

theorem rangeReported {failure : Failure} (h : Exchanged name bytes calls (some failure)) :
    RangeReported calls failure := by
  intro hroot
  cases h with
  | unsent => exact ⟨_, List.mem_singleton_self _, _, rfl, hroot⟩
  | cut => exact ⟨_, List.mem_cons_of_mem _ (List.mem_singleton_self _), _, rfl, hroot⟩
  | wrong => simp [Failure.root] at hroot

end Exchanged

namespace Session

variable {ω α β : Type}

/-- On any link the operation writes what the script says, or the beginning of it if it fails. -/
def WritesScript (operation : SessionM ω α) (script : List (List UInt8)) : Prop :=
  ∀ seen host, Observed callObserver operation seen host
    (fun _ seen' _ => ∃ calls, seen' = seen ++ calls ∧ writesOf calls = script)
    (fun failure seen' _ => ∃ calls, seen' = seen ++ calls ∧ writesOf calls <+: script ∧
      RangeReported calls failure)

namespace WritesScript

variable {operation : SessionM ω α} {script script' : List (List UInt8)}

theorem bind {next : α → SessionM ω β} (h : WritesScript operation script)
    (hnext : ∀ a, WritesScript (next a) script') :
    WritesScript (operation >>= next) (script ++ script') := by
  intro seen host
  refine Observed.bind ((h seen host).mono (fun _ _ _ hgood => hgood) ?_) ?_
  · rintro failure seen' host' ⟨calls, rfl, hwrites, hreported⟩
    exact ⟨calls, rfl, hwrites.trans (List.prefix_append _ _), hreported⟩
  rintro a seen' host' ⟨calls, rfl, hwrites⟩
  refine (hnext a _ host').mono ?_ ?_
  · rintro - seen'' host'' ⟨calls', rfl, hwrites'⟩
    exact ⟨calls ++ calls', List.append_assoc .., by rw [writesOf_append, hwrites, hwrites']⟩
  · rintro failure seen'' host'' ⟨calls', rfl, hwrites', hreported⟩
    refine ⟨calls ++ calls', List.append_assoc .., ?_, hreported.mono (List.subset_append_right _ _)⟩
    rw [writesOf_append, hwrites]
    exact (List.prefix_append_right_inj script).mpr hwrites'

theorem update (change : Host → Host) : WritesScript (lift (update change) : SessionM ω Unit) [] := by
  intro seen host
  refine (Observed.lift ObservedStep.update).returning ?_
  rintro - seen' host' ⟨rfl, -⟩
  exact ⟨[], (List.append_nil _).symm, rfl⟩

variable [Link ω]

theorem exec (name : String) (bytes : List UInt8) :
    WritesScript (exec name bytes : SessionM ω Unit) [bytes] := by
  intro seen host
  refine Observed.execCalls.mono ?_ ?_
  · rintro - seen' host' ⟨calls, hseen, hexchanged⟩
    exact ⟨calls, hseen, hexchanged.writesOf_eq⟩
  · rintro failure seen' host' ⟨calls, hseen, hexchanged⟩
    exact ⟨calls, hseen, hexchanged.writesOf_eq ▸ List.prefix_rfl, hexchanged.rangeReported⟩

theorem withTimeout (ms : Int) (h : WritesScript operation script) :
    WritesScript (withTimeout ms operation) script := by
  intro seen host
  let around (calls : List Event) : List Event := .timeoutSet ms :: (calls ++ [.timeoutSet host.timeout])
  have hseen : ∀ calls, callObserver.follow (callObserver.follow seen (host.timeoutEntry ms) ++ calls)
      (host.timeoutEntry host.timeout) = seen ++ around calls := by
    intro calls
    change seen ++ [.timeoutSet ms] ++ calls ++ [.timeoutSet host.timeout] = _
    simp [around]
  have hwrites : ∀ calls, writesOf (around calls) = writesOf calls := by
    intro calls
    change writesOf (calls ++ [_]) = _
    rw [writesOf_append]
    exact List.append_nil _
  refine Observed.withTimeout rfl ((h _ _).mono ?_ ?_)
  · rintro a seen' host' ⟨calls, rfl, hcalls⟩
    exact ⟨rfl, around calls, hseen calls, (hwrites calls).trans hcalls⟩
  · rintro failure seen' host' ⟨calls, rfl, hcalls, hreported⟩
    have hsub : calls ⊆ around calls :=
      List.Subset.trans (List.subset_append_left _ _) (List.subset_cons_self _ _)
    exact ⟨rfl, around calls, hseen calls, hwrites calls ▸ hcalls, hreported.mono hsub⟩

/-- The chip is erased with the indicator lit meanwhile. -/
theorem eraseChip : WritesScript (eraseChip : SessionM ω Unit) eraseWrites :=
  bind (bind (exec _ _) fun _ => update _) fun _ =>
    bind (withTimeout _ (exec _ _)) fun _ => bind (exec _ _) fun _ => update _

end WritesScript

variable [Link ω] {seen : List Event} {host : Host} {image : Image} {device : Device}

/-- The fuse is delivered, or the question was asked in vain. -/
theorem Observed.fuseHighCalls :
    Observed callObserver (fuseHigh : SessionM ω UInt8) seen host
      (fun fuse seen' host' => seen' = seen ++ fuseCalls fuse ∧ host' = host)
      (fun _ seen' _ => ∃ calls, seen' = seen ++ calls ∧ writesOf calls = [fuseQuestion] ∧
        ∀ fuse, ¬fuseCalls fuse <+: calls) := by
  have hread : ∀ reading, callObserver.follow (seen ++ [.wrote fuseQuestion none])
      ⟨host, host, .read 1 reading⟩ = seen ++ [.wrote fuseQuestion none, .read 1 reading] := by
    intro reading
    change seen ++ [_] ++ [_] = _
    simp
  refine bind (transmit id (fun _ => rfl) fun failure => ⟨_, rfl, rfl, ?_⟩) ?_
  · intro fuse
    change ¬fuseCalls fuse <+: [.wrote fuseQuestion (some failure)]
    simp [fuseCalls]
  intro _ seen' host' hsent
  obtain ⟨rfl, rfl⟩ := hsent
  refine bind (receiveByte (fun _ => rfl) ?_) ?_
  · intro data failure
    refine ⟨_, hread _, rfl, ?_⟩
    intro fuse
    simp [fuseCalls]
  · intro byte seen' host' hheard
    obtain ⟨data, hbyte, rfl, rfl⟩ := hheard
    cases byte with
    | none =>
      refine throw ⟨_, hread _, rfl, ?_⟩
      intro fuse hdelivered
      have hdata : [fuse] = data := by simpa [fuseCalls] using hdelivered
      exact absurd ((hbyte fuse).mpr hdata.symm) (by simp)
    | some fuse =>
      obtain rfl := (hbyte fuse).mp rfl
      exact pure ⟨hread _, rfl⟩

/-- Why a chip could not be prepared, as the calls show it. -/
inductive Unprepared (image : Image) (device : Device) (host : Host) : Failure → List Event → Host → Prop
  /-- The fuse could not be read. -/
  | unread {failure calls host'} (writes : writesOf calls = [fuseQuestion])
    (undelivered : ∀ fuse, ¬fuseCalls fuse <+: calls) :
    Unprepared image device host failure calls host'
  /-- The image does not fit below the bootloader. -/
  | refused {fuse failure} (refusal : refusal? image (device.bootAddress fuse) = some failure) :
    Unprepared image device host failure (fuseCalls fuse) host
  /-- The chip could not be erased. -/
  | unerased {fuse failure calls host'} (fits : refusal? image (device.bootAddress fuse) = none)
    (writes : writesOf calls <+: eraseWrites) (rangeReported : RangeReported calls failure) :
    Unprepared image device host failure (fuseCalls fuse ++ calls) host'

theorem prepareChip_calls :
    Observed callObserver (prepareChip image device : SessionM ω UInt32) seen host
      (fun boot seen' _ => ∃ fuse calls, boot = device.bootAddress fuse ∧ refusal? image boot = none ∧
        seen' = seen ++ (fuseCalls fuse ++ calls) ∧ writesOf calls = eraseWrites)
      (fun failure seen' host' => ∃ calls, seen' = seen ++ calls ∧
        Unprepared image device host failure calls host') := by
  refine Observed.bind (Observed.within (Observed.fuseHighCalls.mono (fun _ _ _ hread => hread) ?_)) ?_
  · rintro failure seen' host' ⟨calls, hseen, hwrites, hundelivered⟩
    exact ⟨calls, hseen, .unread hwrites hundelivered⟩
  rintro fuse seen' host' ⟨rfl, rfl⟩
  refine Observed.bind (Observed.lift note_calls) ?_
  rintro - seen' host'' ⟨rfl, rfl⟩
  have hcheck : Observed callObserver (check (refusal? image (device.bootAddress fuse)) : SessionM ω Unit)
      (seen ++ fuseCalls fuse) host''
      (fun _ seen' _ => refusal? image (device.bootAddress fuse) = none ∧ seen' = seen ++ fuseCalls fuse)
      (fun failure seen' host' => ∃ calls, seen' = seen ++ calls ∧
        Unprepared image device host'' failure calls host') :=
    .check (fun hfits => ⟨hfits, rfl⟩) fun failure hrefusal => ⟨_, rfl, .refused hrefusal⟩
  refine Observed.bind hcheck ?_
  rintro - seen' host' ⟨hfits, rfl⟩
  refine Observed.bind
    (Observed.within ((WritesScript.eraseChip _ host').mono (fun _ _ _ herased => herased) ?_)) ?_
  · rintro failure seen' host' ⟨calls, rfl, hwrites, hreported⟩
    exact ⟨_, List.append_assoc .., .unerased hfits hwrites hreported⟩
  · rintro - seen' host' ⟨calls, rfl, hwrites⟩
    exact Observed.pure ⟨fuse, calls, rfl, hfits, List.append_assoc .., hwrites⟩

end Session

/-- What a write of a pass is held to, given the entries of the pass before it and what the host
believed when it turned to it, so that no page is touched from `boot` on. -/
structure StaysBelow (boot pageSize : UInt32) (past : List Entry) (before : Host)
    (bytes : List UInt8) : Prop where
  /-- What is not page data is a command with its arguments, or cancels whatever the device waits for. -/
  command : (Watch.read past).announced = false →
    (∃ op arguments, bytes = Opcode.byte op :: arguments ∧ arguments.length = op.arity) ∨
      ∃ count, bytes = List.replicate (count + 1) Opcode.cancel.byte
  address : (Watch.read past).announced = false → bytes.head? = some Opcode.setAddress.byte →
    ∃ addr, bytes = Session.addressFrame addr ∧ Session.reachable addr = true ∧ addr ≤ boot
  /-- Writing or erasing a page is turned to while the pointer is known to be at one that ends below. -/
  page : (Watch.read past).announced = false → ∀ op : Opcode, bytes.head? = some op.byte →
    op = .writeBlock ∨ op = .writePage ∨ op = .erasePage →
    ∃ addr, before.pointer? = some addr ∧ addr.toNat + pageSize.toNat ≤ boot.toNat
  /-- Page data was announced for such a page. -/
  data : (Watch.read past).announced = true → ∃ addr, AnnouncedFor addr past ∧
    addr.toNat + pageSize.toNat ≤ boot.toNat

theorem Disciplined.staysBelow {placement : Placement} {past : List Entry} {before host : Host}
    {bytes : List UInt8} (h : Disciplined placement past before host bytes)
    (hsound : placement.toSpan.Sound) :
    StaysBelow placement.stop placement.pageSize past before bytes where
  command := h.command
  address hfree hop := by
    obtain ⟨addr, hframe, hreach, -, hle, -⟩ := h.address hfree hop
    exact ⟨addr, hframe, hreach, hle⟩
  page hfree op hop hacts := by
    obtain ⟨addr, hworking, hpointer, -⟩ := h.pointed hfree op hop (hacts.imp_right (Or.imp_right .inl))
    exact ⟨addr, hpointer, hsound.page_le_stop hworking.hasPage⟩
  data hdue := by
    obtain ⟨addr, hworking, -, hannounced⟩ := h.data hdue
    exact ⟨addr, hannounced, hsound.page_le_stop hworking.hasPage⟩

namespace Session

variable {ω : Type} {s before after : Session ω} {entries : List Entry} {failure : Failure}

/-- What the journal bears out about the last of some entries, it bears out about all of them. -/
theorem Told.rangeReported (h : Told before after (some failure))
    (hsince : s.journal.toList <+: before.journal.toList)
    (hjournal : after.journal.toList = s.journal.toList ++ entries) :
    RangeReported (callsOf entries) failure := by
  obtain ⟨earlier, hearlier⟩ := hsince
  obtain ⟨later, hlater, -, hverdict⟩ := h
  have hentries : entries = earlier ++ later := by
    rw [hlater, ← hearlier, List.append_assoc] at hjournal
    exact (List.append_cancel_left hjournal).symm
  intro hroot
  obtain ⟨entry, hentry, cause, hfailed, hcause⟩ := hverdict.exists_call hroot
  have hcall : entry.event.isCall = true := by
    cases hevent : entry.event <;> simp [hevent, Event.failure?, Event.isCall] at hfailed ⊢
  refine ⟨entry.event, ?_, cause, hfailed, hcause⟩
  rw [hentries]
  exact List.mem_filter.mpr ⟨List.mem_map_of_mem (List.mem_append_right _ hentry), hcall⟩

variable [Link ω]

theorem StopReason.rangeReported {retries : Nat} {cursor : PageCursor} {page : List UInt8}
    {earlier : List Failure} (h : StopReason retries cursor page s earlier failure after)
    (hjournal : after.journal.toList = s.journal.toList ++ entries) :
    RangeReported (callsOf entries) failure := by
  cases h with
  | unrecovered hsince hrun =>
    exact ((Conducts.of_routine (.recoverPage (by decide) _ _)).told_of_run hrun).rangeReported
      hsince hjournal
  | hopeless hsince hrun => exact (told_of_tryPage hrun).rangeReported hsince hjournal
  | faults hsince hrun => exact (told_of_tryPage hrun).rangeReported hsince hjournal
  | mismatches hsince hrun => exact (told_of_tryPage hrun).rangeReported hsince hjournal

/-- A pass over an accepted range has nothing to say about ranges by itself. -/
theorem Billed.rangeReported {retries : Nat} {image : Image} {span : Span} {device : Device} {pass : Pass}
    (h : Billed retries image span device s pass after)
    (hjournal : after.journal.toList = s.journal.toList ++ entries)
    (hfailure : pass.failure? = some failure) : RangeReported (callsOf entries) failure := by
  cases h with
  | unready hrun =>
    obtain rfl := Option.some.inj hfailure
    refine ((Conducts.of_routine (.beginPass _)).told_of_run hrun).rangeReported ?_ hjournal
    rw [toList_journal_opening]
    exact List.prefix_append _ _
  | gaveUp habandoned =>
    obtain rfl := Option.some.inj hfailure
    rw [habandoned.failure]
    exact habandoned.reason.rangeReported hjournal
  | through => cases hfailure

end Session

namespace Session

variable {ω : Type} {image : Image} {device : Device} {pass : Pass} {failure : Failure} {s after : Session ω}
  {entries : List Entry}

/-- How a cycle for a device of the registry can go. -/
inductive ChipCourse (image : Image) (device : Device) (s : Session ω) : Pass → Session ω → List Entry → Prop
  | unprepared {failure : Failure} {after : Session ω} {entries : List Entry}
    (unprepared : Unprepared image device s.host failure (callsOf entries) after.host) :
    ChipCourse image device s (.refused failure) after entries
  | begun {fuse : UInt8} {calls : List Event} {pass : Pass} {after : Session ω} {prep work : List Entry}
    (prepared : callsOf prep = fuseCalls fuse ++ calls) (erased : writesOf calls = eraseWrites)
    (fits : refusal? image (device.bootAddress fuse) = none)
    (below : ∀ past entry later bytes failure, work = past ++ entry :: later →
      entry.event = .wrote bytes failure →
      StaysBelow (device.bootAddress fuse) device.geometry.flashPageSize past entry.before bytes)
    (rangeReported : ∀ failure, pass.failure? = some failure → RangeReported (callsOf work) failure) :
    ChipCourse image device s pass after (prep ++ work)

/-- What a cycle for a device owes to the chip, as its entries show. -/
structure Guarded (image : Image) (device : Device) (s : Session ω) (pass : Pass)
    (after : Session ω) (entries : List Entry) : Prop where
  /-- Nothing but the question for the fuse is written unless the image fits below the bootloader
  that the answer tells of. -/
  asks : writesOf (callsOf entries) = [fuseQuestion] ∨
    ∃ fuse, FuseRead fuse entries ∧ image.FitsBelow (device.bootAddress fuse)
  /-- An image that does not fit is refused, and the host is left as it was. -/
  refuses : ∀ fuse, FuseRead fuse entries → ¬image.FitsBelow (device.bootAddress fuse) →
    ∃ failure, pass = .refused failure ∧ failure.root = .invalidRange ∧ after.host = s.host
  /-- With one that fits nothing fails for a range that does not do, unless a call to the link does. -/
  accepts : ∀ fuse, FuseRead fuse entries → image.FitsBelow (device.bootAddress fuse) →
    ∀ failure, pass.failure? = some failure → RangeReported (callsOf entries) failure
  /-- The chip is erased before anything else, and then no page of the bootloader is touched. -/
  spares : ∀ fuse, FuseRead fuse entries → image.FitsBelow (device.bootAddress fuse) →
    ∃ prep work, entries = prep ++ work ∧ writesOf (callsOf prep) <+: fuseQuestion :: eraseWrites ∧
      (work ≠ [] → writesOf (callsOf prep) = fuseQuestion :: eraseWrites) ∧
      ∀ past entry later bytes failure, work = past ++ entry :: later → entry.event = .wrote bytes failure →
        StaysBelow (device.bootAddress fuse) device.geometry.flashPageSize past entry.before bytes

/-- An image that fits, once the fuse has told so. -/
theorem Guarded.of_fits {fuse : UInt8} {prep work : List Entry} (hread : FuseRead fuse (prep ++ work))
    (hfits : image.FitsBelow (device.bootAddress fuse))
    (haccepts : ∀ failure, pass.failure? = some failure → RangeReported (callsOf (prep ++ work)) failure)
    (hwrites : writesOf (callsOf prep) <+: fuseQuestion :: eraseWrites)
    (herased : work ≠ [] → writesOf (callsOf prep) = fuseQuestion :: eraseWrites)
    (hbelow : ∀ past entry later bytes failure, work = past ++ entry :: later →
      entry.event = .wrote bytes failure →
      StaysBelow (device.bootAddress fuse) device.geometry.flashPageSize past entry.before bytes) :
    Guarded image device s pass after (prep ++ work) where
  asks := .inr ⟨fuse, hread, hfits⟩
  refuses fuse' hread' hunfit := absurd hfits (hread'.unique hread ▸ hunfit)
  accepts _ _ _ := haccepts
  spares fuse' hread' _ := by
    obtain rfl := hread'.unique hread
    exact ⟨prep, work, rfl, hwrites, herased, hbelow⟩

/-- One that does not, or of which that never came to light. -/
theorem Guarded.of_unfit (hwrites : writesOf (callsOf entries) = [fuseQuestion])
    (hunfit : ∀ fuse, FuseRead fuse entries → ¬image.FitsBelow (device.bootAddress fuse))
    (hrefuses : ∀ fuse, FuseRead fuse entries →
      ∃ failure, pass = .refused failure ∧ failure.root = .invalidRange ∧ after.host = s.host) :
    Guarded image device s pass after entries where
  asks := .inl hwrites
  refuses fuse hread _ := hrefuses fuse hread
  accepts fuse hread hfits := absurd hfits (hunfit fuse hread)
  spares fuse hread hfits := absurd hfits (hunfit fuse hread)

theorem Unprepared.guarded {calls : List Event} {host : Host}
    (h : Unprepared image device s.host failure calls host) (hsize : image.size < 4294967296)
    (hcalls : callsOf entries = calls) (hhost : after.host = host) :
    Guarded image device s (.refused failure) after entries := by
  cases h with
  | unread hwrites hundelivered =>
    have hunread : ∀ fuse, ¬FuseRead fuse entries := by
      rwa [← hcalls] at hundelivered
    exact .of_unfit (hcalls ▸ hwrites) (fun fuse hread => absurd hread (hunread fuse)) fun fuse hread =>
      absurd hread (hunread fuse)
  | @refused fuse _ hrefusal =>
    have hread : fuseCalls fuse <+: callsOf entries := hcalls ▸ List.prefix_rfl
    refine .of_unfit (hcalls ▸ rfl) ?_ fun _ _ => ⟨failure, rfl, root_of_refusal? hrefusal, hhost⟩
    intro fuse' hread'
    rw [hread'.unique hread, ← refusal?_eq_none_iff hsize, hrefusal]
    simp
  | @unerased fuse _ calls _ hfits hwrites hreported =>
    have hprep : callsOf (entries ++ []) = fuseCalls fuse ++ calls := by rw [List.append_nil, hcalls]
    rw [← List.append_nil entries]
    refine .of_fits ?_ ((refusal?_eq_none_iff hsize).mp hfits) ?_ ?_ (by simp) (by simp)
    · rw [FuseRead, hprep]
      exact List.prefix_append _ _
    · intro failure' hfailure
      obtain rfl := Option.some.inj hfailure
      rw [hprep]
      exact hreported.mono (List.subset_append_right _ _)
    · rw [hcalls, writesOf_append]
      exact (List.prefix_append_right_inj [fuseQuestion]).mpr hwrites

theorem ChipCourse.guarded (h : ChipCourse image device s pass after entries)
    (hsize : image.size < 4294967296) :
    Guarded image device s pass after entries := by
  cases h with
  | unprepared hunprepared => exact hunprepared.guarded hsize rfl rfl
  | @begun fuse calls _ _ prep work hprepared herased hfits hbelow hreported =>
    have hwrites : writesOf (callsOf prep) = fuseQuestion :: eraseWrites := by
      rw [hprepared, writesOf_append, herased]
      rfl
    refine .of_fits ?_ ((refusal?_eq_none_iff hsize).mp hfits) ?_ (hwrites ▸ List.prefix_rfl)
      (fun _ => hwrites) hbelow
    · rw [FuseRead, callsOf_append, hprepared, List.append_assoc]
      exact List.prefix_append _ _
    · intro failure hfailure
      rw [callsOf_append]
      exact (hreported failure hfailure).mono (List.subset_append_right _ _)

variable [Link ω]

theorem programChip_course {options : Options} (hdevice : device ∈ Device.registry) :
    Yields (programChip image device.id options) s fun pass after =>
      ∃ entries, after.journal.toList = s.journal.toList ++ entries ∧
        ChipCourse image device s pass after entries := by
  have hprepare : Observed callObserver (prepareChip image device : SessionM ω UInt32)
      [] s.host _ _ := prepareChip_calls
  unfold programChip
  rw [(Device.layout_of_mem_registry hdevice 0).lookup]
  refine Yields.bind (hprepare s rfl) ?_
  rintro (failure | boot) ready hready
  · obtain ⟨_, hwatched, calls, rfl, hunprepared⟩ := hready
    obtain ⟨entries, hjournal, rfl⟩ := hwatched.callsOf_eq
    exact Yields.pure ⟨entries, hjournal, .unprepared hunprepared⟩
  obtain ⟨_, hwatched, fuse, calls, rfl, hfits, rfl, herased⟩ := hready
  obtain ⟨prep, hprep, hcalls⟩ := hwatched.callsOf_eq
  have hspanning := (Device.layout_of_mem_registry hdevice fuse).spanning
  have himage := (refusal?_eq_none_iff_counted.mp hfits).1
  refine ((programRange_ending hspanning himage).and (programRange_billed hspanning himage)).mono ?_
  rintro pass after ⟨hending, hbilled⟩
  obtain ⟨-, hsound⟩ := Span.sound_of_spanning hspanning
  obtain ⟨w, ⟨work, hwork, haccepts, -⟩, -⟩ := hending.watched hsound
  let heading : Entry :=
    ⟨ready.host, ready.host, .noted (.programming 0 (device.bootAddress fuse) device.name)⟩
  have hjournal : after.journal.toList = ready.journal.toList ++ ([heading] ++ work) := by
    rw [hwork, toList_journal_opening, List.append_assoc]
  refine ⟨(prep ++ [heading]) ++ work, ?_, .begun ?_ herased hfits ?_ ?_⟩
  · rw [hjournal, hprep, List.append_assoc, List.append_assoc]
  · rw [callsOf_append, hcalls]
    exact List.append_nil _
  · rintro past entry later bytes failure rfl hevent
    have hallows : Placement.Allows _ (Watch.read past) _ _ _ := haccepts.admits.2
    rw [hevent] at hallows
    exact hallows.disciplined.staysBelow hsound
  · intro failure hfailure
    -- The heading is not a call, so the calls are the same without it.
    have hreported : RangeReported (callsOf ([heading] ++ work)) failure :=
      hbilled.rangeReported hjournal hfailure
    exact hreported

/-- A cycle touches a chip only for an image that it can take, whatever the link does. For an id
that is not registered nothing happens at all. Otherwise the chip is guarded: the fuse is asked for,
and everything else depends on whether the image fits below the bootloader that the answer tells
of. -/
theorem programChip_guarded (image : Image) (id : UInt8) (options : Options) (s : Session ω)
    (hsize : image.size < 4294967296) :
    let run := programChip image id options s
    ((∀ device ∈ Device.registry, device.id ≠ id) →
      ∃ failure, run = (.refused failure, s) ∧ failure.root = .unknownDeviceType) ∧
    ∀ device ∈ Device.registry, device.id = id →
      ∃ entries, run.2.journal.toList = s.journal.toList ++ entries ∧
        Guarded image device s run.1 run.2 entries := by
  intro run
  constructor
  · intro hunknown
    have hnone : Device.find? id = none := List.find?_eq_none.mpr (by simpa using hunknown)
    have hlookup : Device.lookup id = .error (.context s!"id {id}" .unknownDeviceType) := by
      rw [Device.lookup, hnone]
    have hrun : run = (.refused (.context s!"id {id}" .unknownDeviceType), s) := by
      change programChip image id options s = _
      rw [programChip, hlookup]
      rfl
    exact ⟨_, hrun, rfl⟩
  · rintro device hdevice rfl
    obtain ⟨entries, hjournal, hcourse⟩ : ∃ entries, run.2.journal.toList = s.journal.toList ++ entries ∧ _ :=
      programChip_course hdevice
    exact ⟨entries, hjournal, hcourse.guarded hsize⟩

/-- A session that is open on a chip whose bootloader begins at 0x7000. -/
def onGuardedChip : Session Bootloader :=
  ⟨.start ⟨128, [], [114], 0xd8, 0, false, true, 4, []⟩ (.filled 32768 0x55), .initial, .empty⟩

theorem programChip_guarded_stub :
    let run := programChip (.ofBytes ⟨#[0x0c, 0x94]⟩) 114 .none onGuardedChip
    (∃ failure, run.1 = .refused failure ∧ failure.root = .invalidRange) ∧ run.2.host = .initial ∧
      writesOf (callsOf run.2.journal.toList) = [fuseQuestion] := by
  intro run
  obtain ⟨entries, hjournal, hguarded⟩ :=
    (programChip_guarded (.ofBytes ⟨#[0x0c, 0x94]⟩) 114 .none onGuardedChip (by decide)).2
      Device.atmega32 (by decide) rfl
  obtain rfl : run.2.journal.toList = entries := hjournal
  have hread : FuseRead 0xd8 run.2.journal.toList := by
    rw [FuseRead]
    have hcalls : callsOf run.2.journal.toList = fuseCalls 0xd8 := rfl
    exact hcalls ▸ List.prefix_rfl
  have hunfit : ¬Image.FitsBelow (.ofBytes ⟨#[0x0c, 0x94]⟩) (Device.atmega32.bootAddress 0xd8) := fun hfits =>
    absurd hfits.reaches (by decide)
  obtain ⟨failure, hpass, hroot, hhost⟩ := hguarded.refuses 0xd8 hread hunfit
  refine ⟨⟨failure, hpass, hroot⟩, hhost, ?_⟩
  rcases hguarded.asks with hwrites | ⟨fuse, hread', hfits⟩
  · exact hwrites
  · exact absurd (hread'.unique hread ▸ hfits) hunfit

end Session

end Bootflash
