import Bootflash.Programming.Pass
import Bootflash.Proofs.Transcript
import Bootflash.Session.Discovery

namespace Bootflash

/-- Whether the event belongs to the loop over the pages: a milestone, or the notice that a page has
to be tried again. -/
def Event.ofLoop : Event → Bool
  | noted (.pageFailed _ _ _) => true
  | event => event.milestone

namespace Failure

/-- A failure that a session finds by itself while it talks to the device. -/
structure Own (failure : Failure) : Prop where
  isTransport : failure.isTransport = false
  root : failure.root ≠ .invalidRange

/-- The failure of a call, as an operation hands it on: possibly with context in front. One that
says that there was a bad response may have been taken for the answer of a device that cannot be
programmed. -/
inductive PassesOn (cause : Failure) : Failure → Prop
  | itself : PassesOn cause cause
  | context {failure : Failure} (text : String) (inner : PassesOn cause failure) :
      PassesOn cause (.context text failure)
  | unsupported (text : String) (response : cause.isCommand = true) :
      PassesOn cause (.context text .unsupportedDevice)

theorem Own.command (name : String) (response : List UInt8) : Own (.command name response) :=
  ⟨rfl, by simp [Failure.root]⟩

theorem Own.context {failure : Failure} (h : failure.Own) (text : String) : Own (.context text failure) :=
  ⟨h.isTransport, h.root⟩

theorem PassesOn.isCommand {cause failure : Failure} (h : PassesOn cause failure)
    (hcommand : failure.isCommand = true) :
    cause.isCommand = true := by
  induction h with
  | itself => exact hcommand
  | context text _ ih => exact ih hcommand
  | unsupported text hresponse => exact hresponse

theorem PassesOn.root {cause failure : Failure} (h : PassesOn cause failure)
    (hroot : failure.root = .invalidRange) :
    cause.root = .invalidRange := by
  induction h with
  | itself => exact hroot
  | context text _ ih => exact ih hroot
  | unsupported text _ => simp [Failure.root] at hroot

end Failure

/-- A change of what the host keeps that concerns neither the mode nor the timeout. -/
structure Host.KeepsModeAndTimeout (change : Host → Host) : Prop where
  mode : ∀ host, (change host).mode = host.mode
  timeout : ∀ host, (change host).timeout = host.timeout

/-- An exchange that has a timeout of its own. -/
inductive Excursion where
  /-- Erasing the chip. -/
  | erase
  /-- Reading the two bytes of a word. -/
  | word
  /-- Draining the link after a fault. -/
  | drain
  /-- Looking for a board. -/
  | sync
deriving DecidableEq, Repr

/-- How long a response may take meanwhile. -/
def Excursion.timeout : Excursion → Int
  | erase => Session.eraseTimeout
  | word => Session.readWordTimeout
  | drain => Session.resyncTimeout
  | sync => Session.syncTimeout

/-- What a routine may do. -/
structure Repertoire where
  excursions : List Excursion
  /-- Whether it may change what is believed about the device's pointer. -/
  moving : Bool
  Sends : List UInt8 → Prop

/-- Nothing is ruled out but other excursions. -/
def Repertoire.any (excursions : List Excursion) : Repertoire :=
  ⟨excursions, true, fun _ => True⟩

/-- What is done on an excursion. -/
inductive Excursion.Runs {ω : Type} [Link ω] : Excursion → {α : Type} → SessionM ω α → Prop
  | erase : Runs erase (Session.exec "erase" [Opcode.eraseChip.byte])
  | word : Runs word (Session.receive 2)
  | drain (missing : Nat) : Runs drain (Session.drain (Session.flushLength missing))
  | sync : Runs sync (Session.awaitBoard Session.syncAttempts)

def Repertoire.full : Repertoire :=
  .any [.erase, .word, .drain, .sync]

namespace Session

variable {ω : Type}

/-- A remark, or nothing at all. -/
inductive Aside : SessionM ω Unit → Prop
  | nothing : Aside (Pure.pure ())
  | note {notice : Notice} (ofLoop : (Event.noted notice).ofLoop = false) : Aside (lift (note notice))

/-- The failure is handed on, possibly under another name, and there is no more than a remark about it. -/
def HandsOn {α : Type} (failure : Failure) (handled : SessionM ω α) : Prop :=
  ∃ remark failure', Aside remark ∧ (failure.Own → failure'.Own) ∧
    (∀ cause : Failure, cause.PassesOn failure → cause.PassesOn failure') ∧
    handled = remark >>= fun _ => throw failure'

theorem HandsOn.throw {α : Type} {failure failure' : Failure} (hown : failure.Own → failure'.Own)
    (hpasses : ∀ cause : Failure, cause.PassesOn failure → cause.PassesOn failure') :
    HandsOn failure (throw failure' : SessionM ω α) :=
  ⟨_, _, .nothing, hown, hpasses, rfl⟩

variable [Link ω]

/-- The ways in which an operation is put together. What holds of any operation put together like
this is proved by induction, and that an operation is one is proved once. -/
inductive Routine : Repertoire → {α : Type} → SessionM ω α → Prop
  | pure {r : Repertoire} {α : Type} (a : α) : Routine r (Pure.pure a : SessionM ω α)
  | throw {r : Repertoire} {α : Type} {failure : Failure}
    (own : failure.Own) : Routine r (throw failure : SessionM ω α)
  | bind {r : Repertoire} {α β : Type} {operation : SessionM ω α} {next : α → SessionM ω β}
    (first : Routine r operation) (rest : ∀ a, Routine r (next a)) : Routine r (operation >>= next)
  | note {r : Repertoire} {notice : Notice} (ofLoop : (Event.noted notice).ofLoop = false) :
      Routine r (lift (note notice))
  | host? {r : Repertoire} : Routine r (lift host?)
  | update {r : Repertoire} {change : Host → Host} (steady : Host.KeepsModeAndTimeout change)
    (kept : r.moving = false → ∀ host, (change host).pointer? = host.pointer?) :
    Routine r (lift (update change))
  | transmit {r : Repertoire} {change : Host → Host} {bytes : List UInt8}
    (steady : Host.KeepsModeAndTimeout change)
    (kept : r.moving = false → ∀ host, (change host).pointer? = host.pointer?) (sends : r.Sends bytes) :
    Routine r (transmit change bytes)
  /-- What was read may be remarked on before it is known whether the read failed. -/
  | read {r : Repertoire} {α : Type} {remark : Reading → SessionM ω Unit}
    {next : Reading → SessionM ω α} (limit : Nat) (aside : ∀ reading, Aside (remark reading))
    (rest : ∀ reading, Routine r (next reading)) :
    Routine r (lift (read limit) >>= fun reading => remark reading >>=
      fun _ => check reading.failure >>= fun _ => next reading)
  | tryCatch {r : Repertoire} {α : Type} {operation : SessionM ω α} {handler : Failure → SessionM ω α}
    (first : Routine r operation) (hands : ∀ failure, HandsOn failure (handler failure)) :
    Routine r (tryCatch operation handler)
  | excursion {r : Repertoire} {α : Type} {excursion : Excursion} {operation : SessionM ω α}
    (mem : excursion ∈ r.excursions) (runs : excursion.Runs operation)
    (first : Routine { r with excursions := [] } operation) :
    Routine r (withTimeout excursion.timeout operation)

namespace Routine

variable {r : Repertoire} {α : Type}

theorem within {operation : SessionM ω α} (text : String) (h : Routine r operation) :
    Routine r (within text operation) :=
  h.tryCatch fun _ => .throw (fun hown => hown.context text) fun _ hpasses => hpasses.context text

theorem send {bytes : List UInt8} (hsends : r.Sends bytes) : Routine r (send bytes : SessionM ω Unit) :=
  transmit ⟨fun _ => rfl, fun _ => rfl⟩ (fun _ _ => rfl) hsends

theorem receive (limit : Nat) : Routine r (receive limit : SessionM ω (List UInt8)) :=
  read limit (fun _ => .nothing) fun _ => pure _

theorem receiveByte : Routine r (receiveByte : SessionM ω (Option UInt8)) := by
  refine bind (receive 1) fun bytes => ?_
  split
  · exact pure _
  · exact pure _

theorem expect (name : String) (want : UInt8) : Routine r (expect name want : SessionM ω Unit) := by
  refine bind receiveByte fun byte => ?_
  cases byte with
  | none => exact throw (.command name [])
  | some b =>
    change Routine r (if b = want then _ else _)
    split
    · exact pure ()
    · exact throw (.command name [b])

theorem awaitAck (name : String) : Routine r (awaitAck name : SessionM ω Unit) :=
  (expect name ack).tryCatch fun _ => ⟨_, _, .note rfl, id, fun _ => id, rfl⟩

theorem exec {bytes : List UInt8} (name : String)
    (hsends : r.Sends bytes) : Routine r (exec name bytes : SessionM ω Unit) :=
  (send hsends).bind fun _ => awaitAck name

theorem lightLed (hsends : r.Sends [Opcode.ledOn.byte, 0]) : Routine r (lightLed : SessionM ω Unit) :=
  (exec _ hsends).bind fun _ => update ⟨fun _ => rfl, fun _ => rfl⟩ fun _ _ => rfl

theorem dimLed (hsends : r.Sends [Opcode.ledOff.byte, 0]) : Routine r (dimLed : SessionM ω Unit) :=
  (exec _ hsends).bind fun _ => update ⟨fun _ => rfl, fun _ => rfl⟩ fun _ _ => rfl

theorem eraseChip (hmem : .erase ∈ r.excursions) (hlights : r.Sends [Opcode.ledOn.byte, 0])
    (herases : r.Sends [Opcode.eraseChip.byte]) (hdims : r.Sends [Opcode.ledOff.byte, 0]) :
    Routine r (eraseChip : SessionM ω Unit) :=
  (lightLed hlights).bind fun _ => (excursion hmem .erase (exec _ herases)).bind fun _ => dimLed hdims

theorem readFuse {op : Opcode} (hsends : r.Sends [op.byte]) : Routine r (readFuse op : SessionM ω UInt8) := by
  refine (send hsends).bind fun _ => receiveByte.bind fun byte => ?_
  cases byte with
  | none => exact throw ⟨rfl, by simp [Failure.root]⟩
  | some fuse => exact pure fuse

theorem awaitBoard (hsends : r.Sends syncFrame)
    (left : Nat) : Routine r (awaitBoard left : SessionM ω (List UInt8)) := by
  induction left with
  | zero => exact pure []
  | succ left ih =>
    refine (send hsends).bind fun _ => (receive 100).bind fun answer => ?_
    split
    · exact (note rfl).bind fun _ => ih
    · exact pure _

theorem findBoard (hmem : .sync ∈ r.excursions) (hsends : r.Sends syncFrame) :
    Routine r (findBoard : SessionM ω (List UInt8)) := by
  refine (excursion hmem .sync (awaitBoard (r := { r with excursions := [] }) hsends _)).bind fun answer => ?_
  split
  · exact (note rfl).bind fun _ => pure answer
  · exact throw ⟨rfl, by simp [Failure.root]⟩

theorem notes {γ : Type} {notice : γ → Notice}
    (hnotice : ∀ item, (Event.noted (notice item)).ofLoop = false) (items : List γ) :
    Routine r (lift (items.forM fun item => Session.note (notice item)) : SessionM ω PUnit) := by
  induction items with
  | nil => exact pure _
  | cons item rest ih => exact (note (hnotice item)).bind fun _ => ih

theorem supportedDevices (hsends : r.Sends [Opcode.listDevices.byte]) :
    Routine r (supportedDevices : SessionM ω (List UInt8)) := by
  refine (send hsends).bind fun _ => (receive 500).bind fun answer => ?_
  split
  · exact (notes (fun _ => rfl) _).bind fun _ => pure _
  · exact throw (.command _ _)

variable {allowed : List Excursion}

theorem sendMoving (bytes : List UInt8) : Routine (.any allowed) (sendMoving bytes : SessionM ω Unit) :=
  transmit ⟨fun _ => rfl, fun _ => rfl⟩ (fun hkept => by cases hkept) trivial

theorem believe {change : Host → Host} (hsteady : Host.KeepsModeAndTimeout change) :
    Routine (.any allowed) (lift (Session.update change) : SessionM ω Unit) :=
  update hsteady fun hkept => by cases hkept

theorem allowed_excursion {excursion : Excursion} {operation : SessionM ω α} (hmem : excursion ∈ allowed)
    (hruns : excursion.Runs operation) (h : Routine (.any []) operation) :
    Routine (.any allowed) (withTimeout excursion.timeout operation) :=
  Routine.excursion hmem hruns h

theorem execMoving (name : String) (bytes : List UInt8) :
    Routine (.any allowed) (execMoving name bytes : SessionM ω Unit) :=
  (sendMoving bytes).bind fun _ => awaitAck name

theorem setAddress (addr : UInt32) : Routine (.any allowed) (setAddress addr : SessionM ω Unit) := by
  unfold Session.setAddress
  split
  · exact (execMoving _ _).bind fun _ => believe ⟨fun _ => rfl, fun _ => rfl⟩
  · exact throw ⟨rfl, by simp [Failure.root]⟩

theorem readWord (hmem : .word ∈ allowed) (addr : UInt32) :
    Routine (.any allowed) (readWord addr : SessionM ω UInt16) := by
  have hforget : Routine (.any allowed) (lift (Session.update Host.forget) : SessionM ω Unit) :=
    believe ⟨fun _ => rfl, fun _ => rfl⟩
  refine (setAddress addr).bind fun _ => (send trivial).bind fun _ => hforget.bind fun _ => ?_
  refine (allowed_excursion hmem .word (receive 2)).bind fun bytes => ?_
  split
  · exact pure _
  · exact throw (.command _ _)

theorem discover (hmem : .sync ∈ allowed) : Routine (.any allowed) (discover : SessionM ω Discovery) := by
  refine (findBoard hmem trivial).bind fun board =>
    (within _ (supportedDevices trivial)).bind fun supported => ?_
  split
  · exact throw ⟨rfl, by simp [Failure.root]⟩
  · split
    · exact (note rfl).bind fun _ => pure _
    · exact pure _

/-- An answer that is not what was asked for becomes a failure of another sort, also one that the
link made up. -/
theorem requireAutoIncrement : Routine (.any allowed) (requireAutoIncrement : SessionM ω Unit) := by
  refine (send trivial).bind fun _ => (expect _ _).tryCatch fun failure => ?_
  split
  · next hcommand =>
    refine .throw (fun _ => ⟨rfl, by simp [Failure.root]⟩) fun cause hpasses => ?_
    exact .unsupported failure.message (hpasses.isCommand hcommand)
  · exact .throw id fun _ => id

theorem enterProgramming : Routine (.any allowed) (enterProgramming : SessionM ω Unit) :=
  exec _ trivial

theorem leaveProgramming : Routine (.any allowed) (leaveProgramming : SessionM ω Unit) :=
  exec _ trivial

theorem blockAccepted : Routine (.any allowed) (blockAccepted : SessionM ω Bool) := by
  refine receiveByte.bind fun byte => ?_
  cases byte with
  | none => exact pure true
  | some b =>
    change Routine _ (if b = reject then _ else _)
    split
    · exact pure false
    · exact (note rfl).bind fun _ => pure true

theorem offerBlock (probed : Bool) : Routine (.any allowed) (offerBlock probed : SessionM ω Bool) := by
  refine (sendMoving _).bind fun _ => ?_
  cases probed with
  | false => exact blockAccepted
  | true => exact pure true

theorem sendBlock (page : List UInt8) : Routine (.any allowed) (sendBlock page : SessionM ω Unit) :=
  (send trivial).bind fun _ => expect _ _

theorem awaitHighByte (reads : Nat) : Routine (.any allowed) (awaitHighByte reads : SessionM ω Unit) := by
  induction reads with
  | zero => exact throw (.command _ _)
  | succ reads ih =>
    refine receiveByte.bind fun byte => ?_
    cases byte with
    | none => exact throw (.command _ _)
    | some b =>
      change Routine _ (if b = ack then _ else if b = filler then _ else _)
      split
      · exact pure ()
      · split
        · exact ih
        · exact throw (.command _ _)

theorem loadWord (low high : UInt8) : Routine (.any allowed) (loadWord low high : SessionM ω Unit) :=
  (execMoving _ _).bind fun _ => (send trivial).bind fun _ => awaitHighByte 5

theorem loadWords (page : List UInt8) : Routine (.any allowed) (loadWords page : SessionM ω Unit) := by
  induction page using Session.loadWords.induct with
  | case1 low high rest ih => exact (loadWord low high).bind fun _ => ih
  | case2 page hpage =>
    have hnothing : (Session.loadWords page : SessionM ω Unit) = Pure.pure () := by
      rw [Session.loadWords]
      exact hpage
    exact hnothing ▸ pure ()

theorem commitPage : Routine (.any allowed) (commitPage : SessionM ω Unit) :=
  exec _ trivial

theorem writeSlowly (cursor : PageCursor) (page : List UInt8) :
    Routine (.any allowed) (writeSlowly cursor page : SessionM ω Unit) :=
  (loadWords page).bind fun _ => (setAddress _).bind fun _ => commitPage.bind fun _ => setAddress _

theorem erasePage : Routine (.any allowed) (erasePage : SessionM ω Unit) := by
  refine (sendMoving _).bind fun _ => receiveByte.bind fun answer => ?_
  split
  · change Routine _ (lift Session.host? >>= fun host =>
      lift (Session.note (.eraseUnconfirmed host.addr (answer.getD 0))))
    exact host?.bind fun _ => note rfl
  · exact pure ()

theorem drain (limit : Nat) : Routine (.any allowed) (drain limit : SessionM ω Unit) := by
  have hdrain : (Session.drain limit : SessionM ω Unit) = lift (Session.read limit) >>= fun reading =>
      (unless reading.bytes.isEmpty do lift (Session.note (.drained reading.bytes.length))) >>= fun _ =>
        check reading.failure >>= fun _ => Pure.pure () := by
    simp only [Session.drain, bind_pure_unit]
    congr
    funext reading
    split <;> rfl
  rw [hdrain]
  refine read limit (fun reading => ?_) fun _ => pure ()
  split
  · exact .nothing
  · exact .note rfl

theorem resync (hmem : .drain ∈ allowed) (addr : UInt32) (missing : Nat) :
    Routine (.any allowed) (resync addr missing : SessionM ω Unit) :=
  (note rfl).bind fun _ => (within _ (sendMoving _)).bind fun _ =>
    (within _ (allowed_excursion hmem (.drain missing) (drain _))).bind fun _ => setAddress addr

theorem recoverPage (hmem : .drain ∈ allowed) (addr pageSize : UInt32) :
    Routine (.any allowed) (recoverPage addr pageSize : SessionM ω Unit) := by
  refine (resync hmem addr _).bind fun _ => host?.bind fun host => ?_
  split
  · exact erasePage.bind fun _ => setAddress addr
  · exact pure ()

theorem beginPass (start : UInt32) : Routine (.any allowed) (beginPass start : SessionM ω Unit) :=
  (lightLed trivial).bind fun _ => requireAutoIncrement.bind fun _ =>
    (within _ enterProgramming).bind fun _ => setAddress start

end Routine

end Session

/-- What can be asked of a session outside of a programming pass. -/
inductive Operation where
  | setAddress (addr : UInt32)
  | eraseChip
  | lightLed
  | dimLed
  | fuseHigh
  | fuseLow
  | readWord (addr : UInt32)
  | findBoard
  | supportedDevices
deriving DecidableEq, Repr

/-- The operation, apart from what it returns. -/
def Operation.perform {ω : Type} [Link ω] : Operation → SessionM ω Unit
  | setAddress addr => Session.setAddress addr
  | eraseChip => Session.eraseChip
  | lightLed => Session.lightLed
  | dimLed => Session.dimLed
  | fuseHigh => do let _ ← Session.fuseHigh
  | fuseLow => do let _ ← Session.fuseLow
  | readWord addr => do let _ ← Session.readWord addr
  | findBoard => do let _ ← Session.findBoard
  | supportedDevices => do let _ ← Session.supportedDevices

/-- The excursions that the operation makes. -/
def Operation.excursions : Operation → List Excursion
  | eraseChip => [.erase]
  | readWord _ => [.word]
  | findBoard => [.sync]
  | _ => []

/-- What a session can do short of a whole programming pass: what can be asked of it, and the steps
that a pass consists of. -/
inductive Procedure where
  | asked (operation : Operation)
  | requireAutoIncrement
  | enterProgramming
  | leaveProgramming
  | announceBlock
  | blockAccepted
  | sendBlock (page : List UInt8)
  | loadWord (low high : UInt8)
  | commitPage
  | erasePage
  | resync (addr : UInt32) (missing : Nat)
  | recoverPage (addr pageSize : UInt32)
  | discover
deriving DecidableEq, Repr

/-- The procedure, apart from what it returns. -/
def Procedure.perform {ω : Type} [Link ω] : Procedure → SessionM ω Unit
  | asked operation => operation.perform
  | requireAutoIncrement => Session.requireAutoIncrement
  | enterProgramming => Session.enterProgramming
  | leaveProgramming => Session.leaveProgramming
  | announceBlock => Session.announceBlock
  | blockAccepted => do let _ ← Session.blockAccepted
  | sendBlock page => Session.sendBlock page
  | loadWord low high => Session.loadWord low high
  | commitPage => Session.commitPage
  | erasePage => Session.erasePage
  | resync addr missing => Session.resync addr missing
  | recoverPage addr pageSize => Session.recoverPage addr pageSize
  | discover => do let _ ← Session.discover

/-- The excursions that the procedure makes. -/
def Procedure.excursions : Procedure → List Excursion
  | asked operation => operation.excursions
  | resync _ _ | recoverPage _ _ => [.drain]
  | discover => [.sync]
  | _ => []

namespace Session.Routine

variable {ω : Type} [Link ω]

theorem operation (operation : Operation) :
    Routine (.any operation.excursions) (operation.perform : SessionM ω Unit) := by
  cases operation with
  | setAddress addr => exact setAddress addr
  | eraseChip => exact eraseChip (List.mem_singleton_self _) trivial trivial trivial
  | lightLed => exact lightLed trivial
  | dimLed => exact dimLed trivial
  | fuseHigh => exact (readFuse trivial).bind fun _ => pure ()
  | fuseLow => exact (readFuse trivial).bind fun _ => pure ()
  | readWord addr => exact (readWord (List.mem_singleton_self _) addr).bind fun _ => pure ()
  | findBoard => exact (findBoard (List.mem_singleton_self _) trivial).bind fun _ => pure ()
  | supportedDevices => exact (supportedDevices trivial).bind fun _ => pure ()

theorem procedure (procedure : Procedure) :
    Routine (.any procedure.excursions) (procedure.perform : SessionM ω Unit) := by
  cases procedure with
  | asked operation => exact Routine.operation operation
  | requireAutoIncrement => exact requireAutoIncrement
  | enterProgramming => exact enterProgramming
  | leaveProgramming => exact leaveProgramming
  | announceBlock => exact sendMoving _
  | blockAccepted => exact blockAccepted.bind fun _ => pure ()
  | sendBlock page => exact sendBlock page
  | loadWord low high => exact loadWord low high
  | commitPage => exact commitPage
  | erasePage => exact erasePage
  | resync addr missing => exact resync (List.mem_singleton_self _) addr missing
  | recoverPage addr pageSize => exact recoverPage (List.mem_singleton_self _) addr pageSize
  | discover => exact (discover (List.mem_singleton_self _)).bind fun _ => pure ()

end Session.Routine

end Bootflash
