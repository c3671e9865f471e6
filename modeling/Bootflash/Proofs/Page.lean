import Bootflash.Proofs.Command
import Bootflash.Programming.Page

namespace Bootflash

/-- A cursor on a page that the device has, with a pointer that can be sent. -/
structure PageCursor.OnPage (cursor : PageCursor) (b : Bootloader) : Prop where
  pageSize : b.firmware.pageSize = cursor.pageSize.toNat
  positive : 0 < cursor.pageSize.toNat
  even : cursor.pageSize.toNat % 2 = 0
  aligned : cursor.current.toNat % cursor.pageSize.toNat = 0
  next : cursor.next.toNat = cursor.current.toNat + cursor.pageSize.toNat
  reach : Session.reachable cursor.current = true
  room : cursor.current.toNat + cursor.pageSize.toNat ≤ b.flash.size

namespace Bootloader

variable {b b' b'' : Bootloader} {cursor : PageCursor} {page : List UInt8}

/-- Two devices that differ at most in the page under the cursor. -/
abbrev SamePages (cursor : PageCursor) (before after : Bootloader) : Prop :=
  Confined cursor.current.toNat (cursor.current.toNat + cursor.pageSize.toNat) before after

/-- The page under the cursor is erased. -/
abbrev PageErased (cursor : PageCursor) (b : Bootloader) : Prop :=
  b.flash.ErasedAt cursor.current.toNat cursor.pageSize.toNat

/-- The page under the cursor is in the flash if it has to be, and the device is at rest. -/
structure Placed (cursor : PageCursor) (page : List UInt8) (before after : Bootloader) : Prop where
  rest : after.AtRest
  same : before.SamePages cursor after
  wrongAcks : after.wrongAcks = before.wrongAcks
  holds : isBlank page = false → after.flash.slice cursor.current.toNat cursor.pageSize.toNat = page
  blank : isBlank page = true → after.flash = before.flash

/-- The page under the cursor is dealt with and the pointer is at the next one. -/
structure Settled (cursor : PageCursor) (page : List UInt8) (before after : Bootloader) : Prop
    extends Placed cursor page before after where
  addr : after.addr = cursor.next.toNat
  reach : Session.reachable cursor.next = true

/-- A try at the page under the cursor was left half way. The device is at rest or waits for the
whole of a block, and it has said little that nobody has read. -/
structure Upset (cursor : PageCursor) (page : List UInt8) (before after : Bootloader) : Prop where
  same : before.SamePages cursor after
  stage : after.stage = .idle ∨
    (after.stage = .collecting .block after.firmware.pageSize [] ∧ after.addr = cursor.current.toNat)
  output : after.output.length ≤ 8
  blank : isBlank page = true → after.stage = .idle ∧ after.flash = before.flash

theorem Confined.onPage {lo hi : Nat} (h : b.Confined lo hi b') (hpage : cursor.OnPage b) :
    cursor.OnPage b' :=
  ⟨h.firmware ▸ hpage.pageSize, hpage.positive, hpage.even, hpage.aligned, hpage.next, hpage.reach,
    h.flash.size ▸ hpage.room⟩

/-- A device between two commands whose flash nobody has touched is upset at most. -/
theorem Confined.upset (h : b.Confined 0 0 b') (hidle : b'.stage = .idle) (houtput : b'.output.length ≤ 8) :
    Upset cursor page b b' :=
  ⟨h.widen (.inl (Nat.le_refl 0)), .inl hidle, houtput, fun _ => ⟨hidle, h.flash.eq_of_le (Nat.le_refl 0)⟩⟩

theorem Placed.upset (h : b.Placed cursor page b') (hconfined : b'.Confined 0 0 b'')
    (hidle : b''.stage = .idle) (houtput : b''.output.length ≤ 8) : Upset cursor page b b'' := by
  have hflash : b''.flash = b'.flash := hconfined.flash.eq_of_le (Nat.le_refl 0)
  refine ⟨h.same.trans (hconfined.widen (.inl (Nat.le_refl 0))), .inl hidle, houtput,
    fun hblank => ⟨hidle, ?_⟩⟩
  rw [hflash, h.blank hblank]

/-- A device that waits for the data of a block, with what it said to the offer still unread. -/
theorem AtRest.upset_awaiting (h : b.AtRest) (haddr : b.addr = cursor.current.toNat)
    (hblank : isBlank page = false) (output : List UInt8) (houtput : output.length ≤ 8) :
    b.Upset cursor page { b.awaiting with output } := by
  have hsame : b.SamePages cursor (b.ran .writeBlock []) := confined_ran h.buffer rfl
  refine ⟨⟨hsame.firmware, hsame.buffer, hsame.flash, hsame.probed⟩, .inr ⟨?_, haddr⟩,
    houtput, by simp [hblank]⟩
  change Stage.collecting .block b.firmware.pageSize [] =
    .collecting .block (b.ran .writeBlock []).firmware.pageSize []
  rw [firmware_ran]

/-- A device at rest with the first `n` bytes of the page at `base` in its page buffer and its
pointer behind them. -/
structure Filling (page : List UInt8) (base n : Nat) (b : Bootloader) : Prop where
  rest : b.AtRest
  addr : b.addr = base + n
  loaded : ∀ i, i < n → b.buffer.byteAt i = page.getD i erased
  length : page.length = b.firmware.pageSize
  aligned : base % b.firmware.pageSize = 0

/-- Any page buffer is filled as far as nothing of it. -/
theorem AtRest.filling (h : b.AtRest) (hpage : cursor.OnPage b) (haddr : b.addr = cursor.current.toNat)
    (hlength : page.length = cursor.pageSize.toNat) : b.Filling page cursor.current.toNat 0 :=
  ⟨h, haddr, fun i hi => absurd hi (Nat.not_lt_zero i), hlength.trans hpage.pageSize.symm,
    hpage.pageSize ▸ hpage.aligned⟩

theorem getD_of_drop_eq {n : Nat} {low high : UInt8} {rest : List UInt8}
    (hdrop : page.drop n = low :: high :: rest) :
    page.getD n erased = low ∧ page.getD (n + 1) erased = high := by
  have hlow : (page.drop n)[0]? = some low := by rw [hdrop]; rfl
  have hhigh : (page.drop n)[1]? = some high := by rw [hdrop]; rfl
  rw [List.getElem?_drop] at hlow hhigh
  simp only [Nat.add_zero] at hlow
  simp [List.getD_eq_getElem?_getD, hlow, hhigh]

/-- Where no word is left of a page there is nothing left: an odd byte at the end would make the page odd. -/
theorem eq_nil_of_drop_eq {n : Nat} {words : List UInt8} (hdrop : page.drop n = words)
    (heven : words.length % 2 = 0) (hn : n ≤ page.length)
    (hshort : ∀ low high rest, words = low :: high :: rest → False) :
    words = [] ∧ n = page.length := by
  cases words with
  | nil => exact ⟨rfl, Nat.le_antisymm hn (List.drop_eq_nil_iff.mp hdrop)⟩
  | cons low rest =>
    cases rest with
    | nil => simp at heven
    | cons high rest => exact (hshort low high rest rfl).elim

/-- One more word. -/
theorem Filling.step {base n : Nat} {low high : UInt8} {rest : List UInt8} (h : b.Filling page base n)
    (hdrop : page.drop n = low :: high :: rest) :
    ((b.ran .loadLow [low]).ran .loadHigh [high]).Filling page base (n + 2) := by
  let b' := (b.ran .loadLow [low]).ran .loadHigh [high]
  have hfirmware : b'.firmware = b.firmware := by simp [b']
  have hlength : (low :: high :: rest).length = b.firmware.pageSize - n := by
    rw [← hdrop, List.length_drop, h.length]
  simp only [List.length_cons] at hlength
  have hindex : b.addr % b.firmware.pageSize = n := by
    rw [h.addr, Nat.add_mod, h.aligned, Nat.zero_add, Nat.mod_mod, Nat.mod_eq_of_lt (by omega)]
  have hindex' : (b.addr + 1) % b.firmware.pageSize = n + 1 := by
    rw [h.addr, Nat.add_assoc, Nat.add_mod, h.aligned, Nat.zero_add, Nat.mod_mod, Nat.mod_eq_of_lt (by omega)]
  have hbuffer : b'.buffer = (b.buffer.put n low).put (n + 1) high := by
    change (b.buffer.put (b.addr % b.firmware.pageSize) low).put ((b.addr + 1) % b.firmware.pageSize) high = _
    rw [hindex, hindex']
  obtain ⟨hlow, hhigh⟩ := getD_of_drop_eq hdrop
  have hsize := h.rest.buffer
  refine ⟨(h.rest.ran _ _).ran _ _, ?_, ?_, hfirmware ▸ h.length, hfirmware ▸ h.aligned⟩
  · change b.addr + 2 = _
    rw [h.addr, Nat.add_assoc]
  · intro i hi
    rw [hbuffer, Memory.byteAt_put, Memory.byteAt_put, Memory.size_put]
    by_cases hsecond : i = n + 1
    · rw [if_pos ⟨hsecond, by omega⟩, hsecond, hhigh]
    · rw [if_neg (by omega)]
      by_cases hfirst : i = n
      · rw [if_pos ⟨hfirst, by omega⟩, hfirst, hlow]
      · rw [if_neg (by omega)]
        exact h.loaded i (by omega)

theorem AtRest.confined_loadWord (h : b.AtRest) (low high : UInt8) :
    b.Confined 0 0 ((b.ran .loadLow [low]).ran .loadHigh [high]) :=
  (confined_ran h.buffer rfl).trans (confined_ran (h.ran .loadLow [low]).buffer rfl)

/-- A whole page that is in the buffer of a device is in its flash once the pointer is put back and
the page is committed. -/
theorem Filling.committed (h : b'.Filling page cursor.current.toNat page.length) (hpage : cursor.OnPage b)
    (hconfined : b.Confined 0 0 b') : b.SamePages cursor ((b'.pointed cursor.current).ran .writePage []) ∧
      ((b'.pointed cursor.current).ran .writePage []).flash.slice cursor.current.toNat
        cursor.pageSize.toNat = page := by
  let pointed := b'.pointed cursor.current
  have hrest : pointed.AtRest := h.rest.ran _ _
  have hpointed : b.Confined 0 0 pointed := hconfined.trans (confined_ran h.rest.buffer rfl)
  have hlength : page.length = cursor.pageSize.toNat := by rw [h.length, hconfined.firmware, hpage.pageSize]
  have hbytes : b'.buffer.toList = page := by
    rw [Memory.toList_eq_slice, h.rest.buffer, ← h.length, Memory.slice_eq_iff rfl]
    simpa using h.loaded
  have hflash : (pointed.ran .writePage []).flash = b.flash.store cursor.current.toNat page := by
    change pointed.flash.store (pointed.addr - pointed.addr % pointed.firmware.pageSize) b'.buffer.toList = _
    rw [addr_pointed hpage.reach, hpointed.firmware, hpage.pageSize, hpage.aligned, Nat.sub_zero, hbytes,
      hpointed.flash.eq_of_le (Nat.le_refl 0)]
  refine ⟨⟨?_, ?_, ?_, ?_⟩, ?_⟩
  · rw [firmware_ran, hpointed.firmware]
  · rw [size_buffer_ran _ _ _ hrest.buffer, hpointed.buffer]
  · rw [hflash, ← hlength]
    exact b.flash.agreesOutside_store _ page
  · intro hprobed
    rw [probed_ran]
    exact hpointed.probed hprobed
  · rw [hflash, ← hlength]
    exact Memory.slice_store (by rw [hlength]; exact hpage.room)

theorem Filling.placed (h : b'.Filling page cursor.current.toNat page.length) (hpage : cursor.OnPage b)
    (hconfined : b.Confined 0 0 b') (hacks : b'.wrongAcks = b.wrongAcks) (hblank : isBlank page = false) :
    b.Placed cursor page ((b'.pointed cursor.current).ran .writePage []) := by
  obtain ⟨hsame, hholds⟩ := h.committed hpage hconfined
  refine ⟨(h.rest.ran _ _).ran _ _, hsame, ?_, fun _ => hholds, by simp [hblank]⟩
  simpa [pointed] using hacks

/-- A block goes into the page under the pointer, whatever is answered. -/
theorem AtRest.same_stored (h : b.AtRest) (haddr : b.addr = cursor.current.toNat)
    (hlength : page.length = cursor.pageSize.toNat) :
    b.SamePages cursor ((b.ran .writeBlock []).stored page) := by
  have hconfined : b.Confined 0 0 (b.ran .writeBlock []) := confined_ran h.buffer rfl
  have hstored := confined_stored (b.ran .writeBlock []) page
  rw [hlength, show (b.ran .writeBlock []).addr = cursor.current.toNat from haddr] at hstored
  exact (hconfined.widen (.inl (Nat.le_refl 0))).trans hstored

theorem slice_stored (haddr : b.addr = cursor.current.toNat) (hpage : cursor.OnPage b)
    (hlength : page.length = cursor.pageSize.toNat) :
    ((b.ran .writeBlock []).stored page).flash.slice cursor.current.toNat cursor.pageSize.toNat = page := by
  change (b.flash.store b.addr page).slice _ _ = page
  rw [haddr, ← hlength]
  exact Memory.slice_store (by rw [hlength]; exact hpage.room)

theorem AtRest.stored (h : b.AtRest) (page : List UInt8) : ((b.ran .writeBlock []).stored page).AtRest := by
  have hrest := h.ran .writeBlock []
  exact ⟨hrest.idle, hrest.heard, hrest.tame, hrest.buffer⟩

theorem AtRest.placed_stored (h : b.AtRest) (haddr : b.addr = cursor.current.toNat) (hpage : cursor.OnPage b)
    (hlength : page.length = cursor.pageSize.toNat) (hblank : isBlank page = false)
    (hreply : (b.ran .writeBlock []).blockReply = [ack]) :
    b.Placed cursor page ((b.ran .writeBlock []).stored page) := by
  refine ⟨h.stored page, h.same_stored haddr hlength, ?_,
    fun _ => slice_stored haddr hpage hlength, by simp [hblank]⟩
  obtain ⟨-, hacks⟩ | ⟨byte, hbyte, hwrong, -⟩ := blockReply_cases (h.ran .writeBlock []).tame page
  · rw [hacks, wrongAcks_ran]
  · rw [hreply] at hwrong
    exact absurd (List.singleton_inj.mp hwrong).symm hbyte

theorem AtRest.erasedPage (h : b.AtRest) (haddr : b.addr = cursor.current.toNat) (hpage : cursor.OnPage b) :
    b.SamePages cursor (b.ran .erasePage []) ∧ (b.ran .erasePage []).PageErased cursor := by
  have hstored : (b.ran .erasePage []).flash =
      b.flash.store cursor.current.toNat (List.replicate cursor.pageSize.toNat erased) := by
    change b.flash.store b.addr (List.replicate b.firmware.pageSize erased) = _
    rw [haddr, hpage.pageSize]
  refine ⟨⟨firmware_ran _ _ _, size_buffer_ran _ _ _ h.buffer, ?_, ?_⟩, ?_⟩
  · have hagrees := b.flash.agreesOutside_store cursor.current.toNat
      (List.replicate cursor.pageSize.toNat erased)
    rwa [← hstored, List.length_replicate] at hagrees
  · rw [probed_ran]
    exact id
  · rw [PageErased, hstored]
    exact Memory.erasedAt_store hpage.room

end Bootloader

namespace Session.Exchange

variable {ω : Type} [Link ω] {wire : Wire ω} {host : Host} {b b₀ : Bootloader} {cursor : PageCursor}
  {page : List UInt8} {wrong : Failure → Host → Bootloader → Prop} {cut : Host → Bootloader → Prop}

/-- The address of the next page is sent once the page is in its place. -/
theorem moveOn {c : Bootloader} (hplaced : b.Placed cursor page c)
    (hcut : ∀ b', c.Confined 0 0 b' → b.Upset cursor page b' → cut host.forget b')
    (hwrong : reachable cursor.next = false → b.Upset cursor page c →
      wrong (.addressOutOfReach cursor.next) host c) :
    Exchange wire (Session.setAddress cursor.next) host c
      (fun _ host' b' => host' = host.trust cursor.next ∧ c.Confined 0 0 b' ∧
        b.Settled cursor page b') wrong cut := by
  have hrest := hplaced.rest
  have hupset : b.Upset cursor page c := hplaced.upset (.refl 0 0 c) hrest.idle (by simp [hrest.heard])
  by_cases hreach : reachable cursor.next = true
  · let moved := c.pointed cursor.next
    have hmoved : moved.AtRest := hrest.ran _ _
    have hconfined : c.Confined 0 0 moved := Bootloader.confined_ran hrest.buffer rfl
    refine (setAddress hrest.ready hreach ?_ ?_).returning ?_
    · exact hcut c (.refl 0 0 c) hupset
    · exact hcut _ (hconfined.with_output [ack])
        (hplaced.upset (hconfined.with_output [ack]) hmoved.idle (by simp))
    · rintro - host' b' ⟨hhost, hb⟩
      subst host' b'
      have hsame : b.SamePages cursor moved := hplaced.same.trans (hconfined.widen (.inl (Nat.le_refl 0)))
      have hacks : moved.wrongAcks = b.wrongAcks := (Bootloader.wrongAcks_ran c _ _).trans hplaced.wrongAcks
      exact ⟨rfl, hconfined, ⟨hmoved, hsame, hacks, hplaced.holds, hplaced.blank⟩,
        Bootloader.addr_pointed hreach, hreach⟩
  · have hunreachable : reachable cursor.next = false := by simpa using hreach
    exact setAddress_of_unreachable hunreachable (hwrong hunreachable hupset)

theorem loadWords (base : Nat) {n : Nat} {words : List UInt8} (hdrop : page.drop n = words)
    (heven : words.length % 2 = 0) (hn : n ≤ page.length) (hfilling : b.Filling page base n)
    (hcut : ∀ b', b'.stage = .idle → b'.output.length ≤ 5 → b.Confined 0 0 b' → cut host.forget b') :
    Exchange wire (loadWords words) host b
      (fun _ host' b' => host'.forget = host.forget ∧ b'.Filling page base page.length ∧ b.Confined 0 0 b' ∧
        b'.wrongAcks = b.wrongAcks) wrong cut := by
  induction words using Session.loadWords.induct generalizing n b host with
  | case1 low high rest ih =>
    have hwords : (low :: high :: rest).length = page.length - n := by rw [← hdrop, List.length_drop]
    simp only [List.length_cons] at hwords heven
    have hconfined := hfilling.rest.confined_loadWord low high
    have hdrop' : page.drop (n + 2) = rest := by
      rw [← List.drop_drop, hdrop]
      rfl
    refine bind (loadWord hfilling.rest hcut) ?_
    rintro - host' c ⟨hhost, hc⟩
    subst host' c
    refine (ih hdrop' (by omega) (by omega) (hfilling.step hdrop) ?_).returning ?_
    · intro c hidle houtput hc
      exact hcut c hidle houtput (hconfined.trans hc)
    · rintro - host' c ⟨hhost, hfilled, hc, hacks⟩
      exact ⟨hhost, hfilled, hconfined.trans hc, by simpa using hacks⟩
  | case2 words hshort =>
    obtain ⟨rfl, rfl⟩ := Bootloader.eq_nil_of_drop_eq hdrop heven hn hshort
    exact pure ⟨rfl, hfilling, .refl 0 0 b, rfl⟩

/-- A page that is sent byte by byte is in the flash as it was sent once the commit is acknowledged. -/
theorem writeSlowly (hrest : b.AtRest) (haddr : b.addr = cursor.current.toNat) (hpage : cursor.OnPage b)
    (hlength : page.length = cursor.pageSize.toNat) (hblank : isBlank page = false)
    (hcut : ∀ host' b', host'.mode = host.mode → b.Upset cursor page b' → cut host' b')
    (hwrong : reachable cursor.next = false →
      ∀ host' b', host'.mode = host.mode → b.Upset cursor page b' →
        wrong (.addressOutOfReach cursor.next) host' b') :
    Exchange wire (writeSlowly cursor page) host b
      (fun _ host' b' => host' = host.trust cursor.next ∧ b.Settled cursor page b') wrong cut := by
  refine bind (loadWords cursor.current.toNat (n := 0) rfl (hlength ▸ hpage.even) (Nat.zero_le _)
    (hrest.filling hpage haddr hlength) ?_) ?_
  · intro c hidle houtput hc
    exact hcut _ _ rfl (hc.upset hidle (by omega))
  rintro - host₁ b₁ ⟨hhost, hfilled, hconfined, hacks⟩
  have hmode : host₁.mode = host.mode := by
    have h : host₁.forget.mode = host.forget.mode := by rw [hhost]
    exact h
  -- The pointer is put back, and the page is committed under it.
  let b₂ := b₁.pointed cursor.current
  have hrest₂ : b₂.AtRest := hfilled.rest.ran _ _
  have hconfined₂ : b.Confined 0 0 b₂ := hconfined.trans (Bootloader.confined_ran hfilled.rest.buffer rfl)
  refine bind (setAddress hfilled.rest.ready hpage.reach ?_ ?_) ?_
  · exact hcut _ _ hmode (hconfined.upset hfilled.rest.idle (by simp [hfilled.rest.heard]))
  · exact hcut _ _ hmode ((hconfined₂.with_output [ack]).upset hrest₂.idle (by simp))
  rintro - host' b' ⟨hhost', hb'⟩
  subst host' b'
  let b₃ := b₂.ran .writePage []
  have hplaced : b.Placed cursor page b₃ := hfilled.placed hpage hconfined hacks hblank
  refine bind (commitPage hrest₂ ?_ ?_) ?_
  · exact hcut _ _ hmode (hconfined₂.upset hrest₂.idle (by simp [hrest₂.heard]))
  · exact hcut _ _ hmode
      (hplaced.upset ((Bootloader.Confined.refl 0 0 b₃).with_output [ack]) hplaced.rest.idle (by simp))
  rintro - host' b' ⟨hhost', hb'⟩
  subst host' b'
  refine (moveOn hplaced ?_ ?_).returning ?_
  · intro b' _ hupset
    exact hcut _ b' hmode hupset
  · intro hreach hupset
    exact hwrong hreach _ _ hmode hupset
  · rintro - host' b' ⟨hhost', -, hsettled⟩
    refine ⟨?_, hsettled⟩
    rw [hhost']
    change (host₁.forget).trust cursor.next = _
    rw [hhost]
    rfl

theorem offerBlock_of_refuses (hrest : b.AtRest) (hrefuses : b.firmware.refusesBlocks = true)
    (hcut : ∀ b', b.Upset cursor page b' → cut host.forget b') :
    Exchange wire (Session.offerBlock false) host b
      (fun accepted host' b' => accepted = false ∧ host' = host.forget ∧ b' = b.ran .writeBlock [])
        wrong cut := by
  have hrest' := hrest.ran .writeBlock []
  have hconfined : b.Confined 0 0 (b.ran .writeBlock []) := Bootloader.confined_ran hrest.buffer rfl
  have hreceive := hrest.receive_writeBlock_of_refuses hrefuses
  have hidle : b.Upset cursor page b :=
    (Bootloader.Confined.refl 0 0 b).upset hrest.idle (by simp [hrest.heard])
  have hupset : b.Upset cursor page { b.ran .writeBlock [] with output := [reject] } :=
    (hconfined.with_output [reject]).upset hrest'.idle (by simp)
  refine bind (transmit Host.forget (hcut b hidle) (by rw [hreceive]; exact hcut _ hupset)) ?_
  rintro - _ _ ⟨rfl, rfl⟩
  rw [hreceive]
  refine (blockAccepted (hcut _ hupset)).returning ?_
  rintro _ _ _ ⟨rfl, rfl, rfl⟩
  exact ⟨by simp, rfl, Bootloader.with_output_nil hrest'.heard⟩

theorem offerBlock_of_takes {probed : Bool} (hrest : b.AtRest) (haddr : b.addr = cursor.current.toNat)
    (hblank : isBlank page = false) (htakes : b.firmware.refusesBlocks = false)
    (hprobed : probed = true → b.probed = true) (hcut : ∀ b', b.Upset cursor page b' → cut host.forget b') :
    Exchange wire (Session.offerBlock probed) host b
      (fun accepted host' b' => accepted = true ∧ host' = host.forget ∧ b' = b.awaiting) wrong cut := by
  have hreceive := hrest.receive_writeBlock_of_takes htakes
  have hlength : (if b.probed then ([] : List UInt8) else [0x21]).length ≤ 8 := by cases b.probed <;> simp
  have hidle : b.Upset cursor page b :=
    (Bootloader.Confined.refl 0 0 b).upset hrest.idle (by simp [hrest.heard])
  have hupset := hrest.upset_awaiting haddr hblank _ hlength
  refine bind (transmit Host.forget (hcut b hidle) (by rw [hreceive]; exact hcut _ hupset)) ?_
  rintro - _ _ ⟨rfl, rfl⟩
  rw [hreceive]
  cases probed with
  | true =>
    rw [hprobed rfl]
    exact pure ⟨rfl, rfl, Bootloader.with_output_nil hrest.output_awaiting⟩
  | false =>
    refine (blockAccepted (hcut _ hupset)).returning ?_
    rintro _ _ _ ⟨rfl, rfl, rfl⟩
    refine ⟨?_, rfl, ?_⟩
    · cases b.probed <;> rfl
    · have hnil : (if b.probed then ([] : List UInt8) else [0x21]).tail = [] := by cases b.probed <;> rfl
      simp only [hnil]
      exact Bootloader.with_output_nil hrest.output_awaiting

/-- A device at rest whose pointer is at the page hears the offer of a block, and the host learns
what it makes of it. -/
theorem offerBlock {probed : Bool} (hrest : b.AtRest) (haddr : b.addr = cursor.current.toNat)
    (hblank : isBlank page = false)
    (hprobed : probed = true → b.probed = true ∧ b.firmware.refusesBlocks = false)
    (hcut : ∀ b', b.Upset cursor page b' → cut host.forget b') :
    Exchange wire (offerBlock probed) host b
      (fun accepted host' b' => host' = host.forget ∧
        ((b.firmware.refusesBlocks = true ∧ accepted = false ∧ b' = b.ran .writeBlock []) ∨
          (b.firmware.refusesBlocks = false ∧ accepted = true ∧ b' = b.awaiting))) wrong cut := by
  cases hrefuses : b.firmware.refusesBlocks with
  | true =>
    have hfalse : probed = false := by
      cases probed with
      | false => rfl
      | true => simp [(hprobed rfl).2] at hrefuses
    subst hfalse
    refine (offerBlock_of_refuses hrest hrefuses hcut).returning ?_
    rintro accepted host' b' ⟨haccepted, hhost, hb⟩
    exact ⟨hhost, .inl ⟨rfl, haccepted, hb⟩⟩
  | false =>
    refine (offerBlock_of_takes hrest haddr hblank hrefuses (fun h => (hprobed h).1) hcut).returning ?_
    rintro accepted host' b' ⟨haccepted, hhost, hb⟩
    exact ⟨hhost, .inr ⟨rfl, haccepted, hb⟩⟩

/-- The data of a block ends up in the page under the pointer, whatever is answered. -/
theorem blockData (hrest : b.AtRest) (haddr : b.addr = cursor.current.toNat) (hpage : cursor.OnPage b)
    (hlength : page.length = cursor.pageSize.toNat) (hblank : isBlank page = false)
    (hcut : ∀ b', b.Upset cursor page b' → cut host b')
    (hwrong : ∀ byte b', b.Upset cursor page b' → b'.wrongAcks = b.wrongAcks + 1 →
      wrong (.command "fastWrite" [byte]) host b') :
    Exchange wire (Session.sendBlock page) host b.awaiting
      (fun _ host' b' => host' = host ∧ b'.probed = true ∧ b.Placed cursor page b') wrong cut := by
  let c := b.ran .writeBlock []
  have hc : c.AtRest := hrest.ran _ _
  have hidle : { b.awaiting with stage := .idle } = c := by
    change { c with stage := .idle } = c
    rw [← hc.idle]
  have hfirmware : c.firmware = b.firmware := Bootloader.firmware_ran _ _ _
  have hsize : page.length = c.firmware.pageSize := by rw [hfirmware, hpage.pageSize, hlength]
  have hsame : b.SamePages cursor (c.stored page) := hrest.same_stored haddr hlength
  have hupset : ∀ output : List UInt8, output.length ≤ 8 →
      b.Upset cursor page { c.stored page with output } := by
    intro output houtput
    exact ⟨hsame.with_output output, .inl hc.idle, houtput, by simp [hblank]⟩
  have hacks : c.wrongAcks = b.wrongAcks := Bootloader.wrongAcks_ran _ _ _
  have hwaiting : b.Upset cursor page b.awaiting := by
    have h := hrest.upset_awaiting haddr hblank [] (Nat.zero_le 8)
    rwa [Bootloader.with_output_nil hrest.output_awaiting] at h
  have hstage : b.awaiting.stage = .collecting .block b.awaiting.firmware.pageSize [] := by
    change Stage.collecting .block b.firmware.pageSize [] = .collecting .block c.firmware.pageSize []
    rw [hfirmware]
  have htame : b.awaiting.firmware.Tame := hc.tame
  refine (sendBlock hstage hrest.output_awaiting htame hsize (hsize ▸ hlength ▸ hpage.positive)
    (hcut _ hwaiting) ?_ ?_).returning ?_
  · rw [hidle]
    exact hcut _ (hupset _ (by rw [Bootloader.length_blockReply htame.attentive]; omega))
  · intro byte hbyte hreply
    rw [hidle]
    have hstored := hupset [] (by simp)
    rw [Bootloader.with_output_nil (b := c.stored page) hc.heard] at hstored
    obtain ⟨hack, -⟩ | ⟨-, -, -, hcount⟩ := Bootloader.blockReply_cases hc.tame page
    · have heq : [byte] = [ack] := hreply.symm.trans hack
      exact absurd (List.singleton_inj.mp heq) hbyte
    · exact hwrong byte _ hstored (by rw [hcount, hacks])
  · rintro - host' b' ⟨hreply, hhost, hb⟩
    rw [hidle] at hb
    subst host' b'
    have hack : c.blockReply = [ack] := hreply
    have hprobed : (c.stored page).probed = true := by simp [Bootloader.stored, hack]
    exact ⟨rfl, hprobed, hrest.placed_stored haddr hpage hlength hblank hack⟩

/-- From whatever a try at the page has left, recovery brings the device back to rest at the start
of the page. A page that was erased, on a device that did not wait for a block, is still erased. -/
theorem recoverPage (htame : b.firmware.Tame) (hbuffer : b.buffer.size = b.firmware.pageSize)
    (hpage : cursor.OnPage b)
    (hstage : b.stage = .idle ∨
      (b.stage = .collecting .block b.firmware.pageSize [] ∧ b.addr = cursor.current.toNat))
    (houtput : b.output.length ≤ 8) (hcut : ∀ host' b', b.SamePages cursor b' → cut host' b') :
    Exchange wire (recoverPage cursor.current cursor.pageSize) host b
      (fun _ host' b' => host' = host.trust cursor.current ∧ b'.AtRest ∧ b'.addr = cursor.current.toNat ∧
        b.SamePages cursor b' ∧ (b.stage = .idle → b.PageErased cursor → b'.PageErased cursor))
          wrong cut := by
  have hpositive : 0 < b.firmware.pageSize := hpage.pageSize ▸ hpage.positive
  obtain ⟨hproper, hblock, howed⟩ : b.stage.Proper b.firmware.pageSize ∧
      (b.stage.isBlock = true → b.addr = cursor.current.toNat) ∧ b.stage.owed b.firmware.fillers ≤ 1 := by
    rcases hstage with hidle | ⟨hblock, haddr⟩
    · simp [hidle, Stage.Proper, Stage.isBlock, Stage.owed]
    · simp [hblock, haddr, Stage.Proper, Pending.length, Stage.owed, Pending.owed, hpositive]
  unfold Session.recoverPage
  rw [← hpage.pageSize]
  refine bind (resync htame.attentive hproper hblock ?_ hpage.reach ?_) ?_
  · simp only [flushLength]
    omega
  · intro host' b' _ hconfined
    rw [hpage.pageSize] at hconfined
    exact hcut host' b' hconfined
  rintro - host' b' ⟨hhost, c, hready, hconfined, hflash, hb⟩
  subst host' b'
  have hrest : c.AtRest := ⟨hready.idle, hready.heard, hconfined.firmware ▸ htame, by
    rw [hconfined.buffer, hbuffer, hconfined.firmware]⟩
  rw [hpage.pageSize] at hconfined
  let pointed := c.pointed cursor.current
  have hrest' : pointed.AtRest := hrest.ran _ _
  have haddr : pointed.addr = cursor.current.toNat := Bootloader.addr_pointed hpage.reach
  have hsame : b.SamePages cursor pointed := hconfined.trans (Bootloader.confined_ran hrest.buffer rfl)
  refine bind host? ?_
  rintro _ host' b' ⟨rfl, hhost, hb⟩
  subst host' b'
  by_cases hfast : (host.trust cursor.current).mode = .fast
  · rw [if_pos hfast]
    let blank := pointed.ran .erasePage []
    have hblank : blank.AtRest := hrest'.ran _ _
    obtain ⟨herase, herased⟩ := hrest'.erasedPage haddr (hsame.onPage hpage)
    refine bind (erasePage hrest'.ready (hcut _ _ hsame)
      (hcut _ _ ((hsame.trans herase).with_output [ack]))) ?_
    rintro - host' b' ⟨hhost, hb⟩
    subst host' b'
    let final := blank.pointed cursor.current
    have hfinal : b.SamePages cursor final :=
      (hsame.trans herase).trans (Bootloader.confined_ran hblank.buffer rfl)
    refine (setAddress hblank.ready hpage.reach (hcut _ _ (hsame.trans herase))
      (hcut _ _ (hfinal.with_output [ack]))).returning ?_
    rintro - host' b' ⟨hhost, hb⟩
    subst host' b'
    exact ⟨rfl, hblank.ran _ _, Bootloader.addr_pointed hpage.reach, hfinal, fun _ _ => herased⟩
  · rw [if_neg hfast]
    refine pure ⟨rfl, hrest', haddr, hsame, ?_⟩
    intro hidle herased
    have hsameFlash : pointed.flash = b.flash := hflash (by simp [hidle, Stage.isBlock])
    rwa [Bootloader.PageErased, hsameFlash]

end Session.Exchange

end Bootflash
