import Bootflash.Image
import Bootflash.Proofs.Observer
import Bootflash.Proofs.PageRange
import Bootflash.Session.Command

namespace Bootflash

/-- How the data of a page went out. -/
inductive Delivery where
  | block (data : List UInt8)
  | words (data : List UInt8)
deriving DecidableEq

/-- What the journal of a pass tells so far. -/
structure Watch where
  /-- How pages are sent: as blocks from the first try on, byte by byte once blocks are refused. -/
  mode : WriteMode
  /-- The page that is being tried or recovered. -/
  page : Option UInt32
  /-- A block was announced in this try, so what is written next is its data. -/
  announced : Bool
  /-- The bytes loaded into the page buffer in this try. -/
  loaded : List UInt8
  /-- What is delivered if the next read brings an acknowledgement. -/
  pending : Option Delivery
  /-- What was delivered, and to which page; the last comes first. -/
  delivered : List (UInt32 × Delivery)
  /-- The progress reports, in order. -/
  progress : List (Nat × Nat)
deriving DecidableEq

namespace Watch

/-- Before the first entry. -/
def start : Watch :=
  { mode := .unknown, page := none, announced := false, loaded := [], pending := none, delivered := [], progress := [] }

/-- The mode of the next try. -/
def tryMode (w : Watch) : WriteMode :=
  if w.mode = .unknown then .fast else w.mode

/-- The mode that the host has when the event happens. -/
def modeAt (w : Watch) : Event → WriteMode
  | .attempt _ => w.tryMode
  | _ => w.mode

/-- Whatever was under way is over. -/
def turnTo (w : Watch) (page : Option UInt32) : Watch :=
  { w with page, announced := false, loaded := [], pending := none }

/-- The bytes that a command loads into the page buffer. -/
def loadedBy : List UInt8 → List UInt8
  | [code, value] => if code = Opcode.loadLow.byte ∨ code = Opcode.loadHigh.byte then [value] else []
  | _ => []

/-- What these bytes deliver once they are acknowledged. -/
def deliveryOf (w : Watch) (bytes : List UInt8) : Option Delivery :=
  if w.announced then some (.block bytes)
  else if bytes = [Opcode.writePage.byte] then some (.words w.loaded)
  else none

/-- Bytes were written, and the link took them or not. -/
def wrote (w : Watch) (bytes : List UInt8) (taken : Bool) : Watch :=
  { w with
    announced := taken && !w.announced && bytes == [Opcode.writeBlock.byte]
    loaded := if w.announced then w.loaded else w.loaded ++ loadedBy bytes
    pending := if taken then w.deliveryOf bytes else none }

/-- The first read after a delivery decides about it. -/
def heard (w : Watch) (reading : Reading) : Watch :=
  match w.page, w.pending with
  | some addr, some delivery =>
    if reading = ⟨[ack], none⟩ then { w with pending := none, delivered := (addr, delivery) :: w.delivered }
    else { w with pending := none }
  | _, _ => { w with pending := none }

def follow (w : Watch) (entry : Entry) : Watch :=
  match entry.event with
  | .attempt addr => { w.turnTo (some addr) with mode := w.tryMode }
  | .recovery addr => w.turnTo (some addr)
  | .progressed done total => { w.turnTo none with progress := w.progress ++ [(done, total)] }
  | .noted .blocksRefused => { w with mode := .slow, announced := false }
  | .wrote bytes failure => w.wrote bytes failure.isNone
  | .read _ reading => w.heard reading
  | _ => w

/-- What the entries of a pass tell. -/
def read (entries : List Entry) : Watch :=
  entries.foldl follow start

/-- Bytes that neither announce nor load nor commit anything. -/
def Plain (bytes : List UInt8) : Prop :=
  bytes ≠ [Opcode.writeBlock.byte] ∧ bytes ≠ [Opcode.writePage.byte] ∧ loadedBy bytes = []

instance : DecidablePred Plain := fun bytes =>
    inferInstanceAs (Decidable (bytes ≠ _ ∧ bytes ≠ _ ∧ loadedBy bytes = []))

variable {w : Watch} {bytes : List UInt8}

/-- Neither page data nor an acknowledgement of any is due, and the observer knows the host's mode. -/
structure AtEase (w : Watch) (host : Host) : Prop where
  announced : w.announced = false
  pending : w.pending = none
  mode : host.mode = w.mode

theorem AtEase.of_mode {host host' : Host} (h : w.AtEase host) (hmode : host'.mode = host.mode) :
    w.AtEase host' :=
  ⟨h.announced, h.pending, hmode.trans h.mode⟩

/-- A read decides about a delivery and nothing else. -/
theorem follow_read (w : Watch) (before host : Host) (limit : Nat) (reading : Reading) :
    ∃ delivered, w.follow ⟨before, host, .read limit reading⟩ = { w with pending := none, delivered } := by
  change ∃ delivered, w.heard reading = _
  unfold heard
  split
  · split
    · exact ⟨_, rfl⟩
    · exact ⟨_, rfl⟩
  · exact ⟨_, rfl⟩

theorem heard_of_pending_eq_none (h : w.pending = none) (reading : Reading) : w.heard reading = w := by
  obtain ⟨mode, page, announced, loaded, pending, delivered, progress⟩ := w
  obtain rfl : pending = none := h
  cases page <;> rfl

theorem heard_of_ne_ack {reading : Reading} (h : reading ≠ ⟨[ack], none⟩) :
    w.heard reading = { w with pending := none } := by
  unfold heard
  split
  · rw [if_neg h]
  · rfl

theorem follow_note {before host : Host} {notice : Notice} (h : notice ≠ .blocksRefused) :
    w.follow ⟨before, host, .noted notice⟩ = w := by
  cases notice with
  | blocksRefused => exact absurd rfl h
  | _ => rfl

theorem wrote_of_plain (hannounced : w.announced = false) (hpending : w.pending = none)
    (h : Plain bytes) (taken : Bool) :
    w.wrote bytes taken = w := by
  obtain ⟨mode, page, announced, loaded, pending, delivered, progress⟩ := w
  obtain rfl : announced = false := hannounced
  obtain rfl : pending = none := hpending
  obtain ⟨hblock, hcommit, hload⟩ := h
  simp [wrote, deliveryOf, hblock, hcommit, hload]

theorem wrote_load (hannounced : w.announced = false) (hpending : w.pending = none) {op : Opcode}
    (hop : op = .loadLow ∨ op = .loadHigh) (value : UInt8) (taken : Bool) :
    w.wrote [op.byte, value] taken = { w with loaded := w.loaded ++ [value] } := by
  obtain ⟨mode, page, announced, loaded, pending, delivered, progress⟩ := w
  obtain rfl : announced = false := hannounced
  obtain rfl : pending = none := hpending
  rcases hop with rfl | rfl <;> simp [wrote, deliveryOf, loadedBy]

theorem wrote_commit (hannounced : w.announced = false) (hpending : w.pending = none) (taken : Bool) :
    w.wrote [Opcode.writePage.byte] taken =
      { w with pending := if taken then some (.words w.loaded) else none } := by
  obtain ⟨mode, page, announced, loaded, pending, delivered, progress⟩ := w
  obtain rfl : announced = false := hannounced
  obtain rfl : pending = none := hpending
  cases taken <;> simp [wrote, deliveryOf, loadedBy, Opcode.byte]

/-- A commit that is acknowledged delivers what was loaded. -/
theorem heard_commit {addr : UInt32} (hannounced : w.announced = false) (hpending : w.pending = none)
    (hpage : w.page = some addr) : (w.wrote [Opcode.writePage.byte] true).heard ⟨[ack], none⟩ =
      { w with delivered := (addr, .words w.loaded) :: w.delivered } := by
  rw [wrote_commit hannounced hpending]
  simp [heard, hpage, hpending]

theorem wrote_announcement (hannounced : w.announced = false) (hpending : w.pending = none) (taken : Bool) :
    w.wrote [Opcode.writeBlock.byte] taken = { w with announced := taken } := by
  obtain ⟨mode, page, announced, loaded, pending, delivered, progress⟩ := w
  obtain rfl : announced = false := hannounced
  obtain rfl : pending = none := hpending
  cases taken <;> simp [wrote, deliveryOf, loadedBy, Opcode.byte]

theorem wrote_block (hannounced : w.announced = true) (taken : Bool) :
    w.wrote bytes taken =
      { w with announced := false, pending := if taken then some (.block bytes) else none } := by
  simp [wrote, deliveryOf, hannounced]

/-- A block that is acknowledged is delivered. -/
theorem heard_block {addr : UInt32} (hannounced : w.announced = true) (hpending : w.pending = none)
    (hpage : w.page = some addr) : (w.wrote bytes true).heard ⟨[ack], none⟩ =
      { w with announced := false, delivered := (addr, .block bytes) :: w.delivered } := by
  rw [wrote_block hannounced]
  simp [heard, hpage, hpending]

theorem plain_address (addr : UInt32) : Plain (Session.addressFrame addr) := by
  simp [Plain, Session.addressFrame, loadedBy]

theorem plain_cancels (missing : Nat) :
    Plain (List.replicate (Session.flushLength missing) Opcode.cancel.byte) := by
  simp [Plain, Session.flushLength, List.replicate_succ, loadedBy]

end Watch

/-- Whether the event says something to the device, or settles how it is spoken to. -/
def Event.speaks : Event → Bool
  | wrote _ _ => true
  | noted notice => notice = .blocksRefused
  | _ => false

/-- An image, and the pages it is to be put into. -/
structure Placement extends Span where
  image : Image

namespace Placement

/-- The page of the image at an address. -/
def page (placement : Placement) (addr : UInt32) : List UInt8 :=
  placement.image.page addr placement.pageSize

/-- A page of the range begins at this address. -/
def HasPage (placement : Placement) (addr : UInt32) : Prop :=
  IsPage placement.start placement.stop placement.pageSize addr

/-- The address of a page of the range, or the end of the range. -/
def Borders (placement : Placement) (addr : UInt32) : Prop :=
  placement.start ≤ addr ∧ addr ≤ placement.stop ∧ addr % placement.pageSize = 0

/-- The first page of the range that is not blank begins at this address. -/
def FirstWritten (placement : Placement) (addr : UInt32) : Prop :=
  placement.HasPage addr ∧ isBlank (placement.page addr) = false ∧
    ∀ below, placement.HasPage below → below < addr → isBlank (placement.page below) = true

/-- The page at `addr` is the one being worked on. It comes right after the pages that were reported. -/
structure Working (placement : Placement) (w : Watch) (addr : UInt32) : Prop where
  page : w.page = some addr
  hasPage : placement.HasPage addr
  next : addr.toNat = placement.start.toNat + w.progress.length * placement.pageSize.toNat

/-- The host knows the device's pointer to be at the page being worked on. -/
structure Targets (placement : Placement) (w : Watch) (host : Host) (addr : UInt32) : Prop
    extends placement.Working w addr where
  pointer : host.pointer? = some addr

/-- What a command needs. Those that act on the page under the pointer are for the page being worked
on, and turned to only while the pointer is known to be there, which the host gives up for all of
them but the commit; each way to send a page has commands of its own; and addresses are those of the
range. -/
def May (placement : Placement) (w : Watch) (before host : Host) (arguments : List UInt8) : Opcode → Prop
  | .writeBlock | .erasePage => w.mode = .fast ∧ host = before.forget ∧
      ∃ addr, placement.Targets w before addr
  | .writePage => w.mode = .slow ∧ host = before ∧ ∃ addr, placement.Targets w before addr
  | .loadLow => w.mode = .slow ∧ host = before.forget ∧
      (w.loaded = [] → ∃ addr, placement.Targets w before addr)
  | .loadHigh => w.mode = .slow
  | .setAddress => ∃ addr, Session.addressFrame addr = Opcode.setAddress.byte :: arguments ∧
    Session.reachable addr = true ∧ placement.Borders addr
  | .ledOn | .ledOff | .autoIncrement | .enterProgramming | .leaveProgramming => True
  | _ => False

/-- What a careful host may say. Page data goes out only when it is due, and everything else only
when it is not. Blocks are taken to be refused only at the first page that has any data, before any
block was acknowledged. -/
inductive Allows (placement : Placement) (w : Watch) (before host : Host) : Event → Prop
  | block {addr failure} (due : w.announced = true) (working : placement.Working w addr) :
    Allows placement w before host (.wrote (placement.page addr) failure)
  | command {op arguments failure} (free : w.announced = false) (arity : arguments.length = op.arity)
    (may : placement.May w before host arguments op) :
    Allows placement w before host (.wrote (op.byte :: arguments) failure)
  | flush {count failure} (free : w.announced = false) :
    Allows placement w before host (.wrote (List.replicate (count + 1) Opcode.cancel.byte) failure)
  | refusal {addr} (mode : w.mode = .fast) (working : placement.Working w addr)
    (first : placement.FirstWritten addr) (pending : w.pending = none)
    (unsent : ∀ delivery ∈ w.delivered, ∀ data, delivery.2 ≠ .block data) :
    Allows placement w before host (.noted .blocksRefused)
  | silent {event} (silent : event.speaks = false) : Allows placement w before host event

variable {placement : Placement} {w : Watch} {before host : Host} {bytes : List UInt8}
  {failure : Option Failure}

/-- What is written when page data is due is the data of the page being worked on. -/
theorem Allows.data (h : placement.Allows w before host (.wrote bytes failure)) (hdue : w.announced = true) :
    ∃ addr, placement.Working w addr ∧ bytes = placement.page addr := by
  cases h with
  | block _ hworking => exact ⟨_, hworking, rfl⟩
  | command hfree | flush hfree => simp [hdue] at hfree
  | silent hsilent => simp [Event.speaks] at hsilent

/-- What is written at any other time is a command, or cancels whatever the device waits for. -/
theorem Allows.spoken (h : placement.Allows w before host (.wrote bytes failure))
    (hfree : w.announced = false) :
    (∃ op arguments, bytes = Opcode.byte op :: arguments ∧ arguments.length = op.arity ∧
      placement.May w before host arguments op) ∨
      ∃ count, bytes = List.replicate (count + 1) Opcode.cancel.byte := by
  cases h with
  | block hdue => simp [hdue] at hfree
  | command _ harity hmay => exact .inl ⟨_, _, rfl, harity, hmay⟩
  | flush => exact .inr ⟨_, rfl⟩
  | silent hsilent => simp [Event.speaks] at hsilent

/-- A command that is sent may be sent. -/
theorem Allows.may {op : Opcode} (h : placement.Allows w before host (.wrote bytes failure))
    (hfree : w.announced = false) (hop : bytes.head? = some op.byte) (hcancel : op ≠ .cancel) :
    ∃ arguments, bytes = op.byte :: arguments ∧ placement.May w before host arguments op := by
  rcases h.spoken hfree with ⟨op', arguments, rfl, -, hmay⟩ | ⟨count, rfl⟩
  · obtain rfl := Opcode.eq_of_byte_eq (Option.some.inj hop)
    exact ⟨arguments, rfl, hmay⟩
  · rw [List.replicate_succ] at hop
    exact absurd (Opcode.eq_of_byte_eq (Option.some.inj hop)).symm hcancel

/-- The observer of a pass. -/
def observer (placement : Placement) : Observer Watch where
  follow := Watch.follow
  Admits w entry := entry.host.mode = w.modeAt entry.event ∧
    placement.Allows w entry.before entry.host entry.event

end Placement

end Bootflash
