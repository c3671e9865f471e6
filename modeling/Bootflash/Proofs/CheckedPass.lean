import Bootflash.Link.Scripted
import Bootflash.Programming.Pass
import Bootflash.Proofs.Memory
import Bootflash.Proofs.PageRange

namespace Bootflash

namespace PageCursor

/-- The cursor moved on so many times. -/
def moved (cursor : PageCursor) (moves : Nat) : PageCursor :=
  Nat.repeat advance moves cursor

/-- An address lies in the page under the cursor. -/
def Covers (cursor : PageCursor) (addr : UInt32) : Prop :=
  cursor.current ≤ addr ∧ addr < cursor.next

/-- Moved on from the start of its range, the cursor stands at the start of one page after the other
until it is done, at the end. No address on the way wraps around, and the pages are the range, each
address of it once. -/
structure Walks (cursor : PageCursor) (start stop pageSize : UInt32) : Prop where
  pages : cursor.pagesFrom start = (stop.toNat - start.toNat) / pageSize.toNat
  visits : ∀ n < cursor.pagesFrom start, (cursor.moved n).done = false ∧
    (cursor.moved n).current.toNat = start.toNat + n * pageSize.toNat ∧
    (cursor.moved n).next.toNat = (cursor.moved n).current.toNat + pageSize.toNat
  arrives : (cursor.moved (cursor.pagesFrom start)).done = true ∧
    (cursor.moved (cursor.pagesFrom start)).current = stop
  covers : ∀ addr, start ≤ addr ∧ addr < stop ↔ ∃ n < cursor.pagesFrom start, (cursor.moved n).Covers addr
  apart : ∀ n < cursor.pagesFrom start, ∀ k < cursor.pagesFrom start, ∀ addr,
    (cursor.moved n).Covers addr → (cursor.moved k).Covers addr → n = k

end PageCursor

namespace Span

variable {span : Span} {n : Nat} {cursor : PageCursor} {addr : UInt32}

/-- The cursor is done behind the last page, and not before. -/
theorem At.done_iff (hat : span.At n cursor) (h : span.Sound)
    (hn : n ≤ span.total) : cursor.done = true ↔ n = span.total := by
  rw [PageCursor.done, decide_eq_true_iff, ge_iff_le, UInt32.le_iff_toNat_le, hat.stop,
    hat.current, h.stop_eq, Nat.add_le_add_iff_left, Nat.mul_le_mul_right_iff h.positive]
  omega

/-- The number of the page that an address lies in is how many whole pages there are between the
start and it. -/
theorem At.covers_iff (hat : span.At n cursor) (h : span.Sound) (hn : n < span.total) :
    cursor.Covers addr ↔ span.start ≤ addr ∧ (addr.toNat - span.start.toNat) / span.pageSize.toNat = n := by
  have hpositive := h.positive
  have hnext := hat.toNat_next h hn
  rw [hat.pageSize] at hnext
  rw [PageCursor.Covers, UInt32.le_iff_toNat_le, UInt32.lt_iff_toNat_lt, UInt32.le_iff_toNat_le,
    hnext, hat.current, Nat.div_eq_iff h.positive]
  omega

theorem At.moved (hat : span.At 0 cursor) (h : span.Sound)
    (hn : n ≤ span.total) : span.At n (cursor.moved n) := by
  induction n with
  | zero => exact hat
  | succ n ih => exact (ih (Nat.le_of_succ_le hn)).advance h hn

/-- An address from the start on lies in the range just if the number of its page is one. -/
theorem Sound.lt_stop_iff (h : span.Sound) (hlow : span.start ≤ addr) :
    addr < span.stop ↔ (addr.toNat - span.start.toNat) / span.pageSize.toNat < span.total := by
  have hstop := h.stop_eq
  rw [UInt32.le_iff_toNat_le] at hlow
  rw [UInt32.lt_iff_toNat_lt, Nat.div_lt_iff_lt_mul h.positive]
  omega

theorem Sound.walks (h : span.Sound) :
    PageCursor.Walks ⟨span.start, span.stop, span.pageSize⟩ span.start span.stop span.pageSize := by
  have hpages := h.pagesFrom_eq
  have hat : ∀ n ≤ span.total, span.At n (PageCursor.moved ⟨span.start, span.stop, span.pageSize⟩ n) :=
    fun n hn => (at_start span).moved h hn
  have hcovers : ∀ n < span.total, ∀ addr,
      (PageCursor.moved ⟨span.start, span.stop, span.pageSize⟩ n).Covers addr ↔
      span.start ≤ addr ∧ (addr.toNat - span.start.toNat) / span.pageSize.toNat = n :=
    fun n hn addr => (hat n (Nat.le_of_lt hn)).covers_iff h hn
  constructor
  case pages => exact hpages
  case visits =>
    rw [hpages]
    intro n hn
    have hn' := Nat.le_of_lt hn
    refine ⟨?_, (hat n hn').current, ?_⟩
    · rw [← Bool.not_eq_true, (hat n hn').done_iff h hn']
      exact Nat.ne_of_lt hn
    · rw [(hat n hn').toNat_next h hn, (hat n hn').pageSize]
  case arrives =>
    rw [hpages]
    have hend := hat span.total (Nat.le_refl _)
    refine ⟨(hend.done_iff h (Nat.le_refl _)).mpr rfl, UInt32.toNat_inj.mp ?_⟩
    rw [hend.current, h.stop_eq]
  case covers =>
    rw [hpages]
    intro addr
    constructor
    · rintro ⟨hlow, hhigh⟩
      have hn := (h.lt_stop_iff hlow).mp hhigh
      exact ⟨_, hn, (hcovers _ hn addr).mpr ⟨hlow, rfl⟩⟩
    · rintro ⟨n, hn, hcovered⟩
      obtain ⟨hlow, rfl⟩ := (hcovers n hn addr).mp hcovered
      exact ⟨hlow, (h.lt_stop_iff hlow).mpr hn⟩
  case apart =>
    rw [hpages]
    intro n hn k hk addr hcovered hcovered'
    obtain ⟨-, rfl⟩ := (hcovers n hn addr).mp hcovered
    exact ((hcovers k hk addr).mp hcovered').2

end Span

/-- The bytes of `[low, high)`, if the ends are in order and the image reaches that far. -/
def Image.slice? (image : Image) (low high : UInt32) : Option (List UInt8) :=
  if low ≤ high ∧ high.toNat ≤ image.size then
    some ((List.range' low.toNat (high.toNat - low.toNat)).map fun a => image.getD a erased)
  else none

/-- A page that the image has is what its ends cut out. -/
theorem Image.slice?_page {image : Image} {addr pageSize : UInt32}
    (hnext : (addr + pageSize).toNat = addr.toNat + pageSize.toNat)
    (hsize : addr.toNat + pageSize.toNat ≤ image.size) :
    image.slice? addr (addr + pageSize) = some (image.page addr pageSize) := by
  have hends : addr ≤ addr + pageSize ∧ (addr + pageSize).toNat ≤ image.size := by
    rw [UInt32.le_iff_toNat_le]
    omega
  have hlength : addr.toNat + pageSize.toNat - addr.toNat =
      min pageSize.toNat (image.size - addr.toNat) := by omega
  rw [Image.slice?, if_pos hends, hnext, hlength, Image.page]

example : (Image.ofBytes ⟨#[1, 2, 3]⟩).slice? 1 3 = some [2, 3] ∧
    (Image.ofBytes ⟨#[1, 2, 3]⟩).slice? 2 4 = none ∧
    (Image.ofBytes ⟨#[1, 2, 3]⟩).slice? 2 1 = none := by
  decide

namespace Session

/-- A step of a session that an access out of bounds leaves without a result. -/
abbrev CheckedM (ω : Type) := OptionT (StateM (Session ω))

/-- The failure of two operations in a row is that of the first, or else that of the second. -/
theorem failureOf_seq {ω : Type} (first second : SessionM ω Unit) :
    failureOf (do first; second) = (do
      match ← failureOf first with
      | some failure => return some failure
      | none => failureOf second) := by
  simp only [failureOf, ExceptT.run_bind, bind_assoc]
  refine bind_congr fun result => ?_
  cases result with
  | ok _ => rfl
  | error failure => rfl

namespace Checked

variable {ω : Type}

/-- The byte at a position of a page. -/
def byteAt (page : List UInt8) (i : Nat) : CheckedM ω UInt8 :=
  OptionT.mk (pure page[i]?)

/-- The bytes of an image between two addresses. -/
def slice (image : Image) (low high : UInt32) : CheckedM ω (List UInt8) :=
  OptionT.mk (pure (image.slice? low high))

theorem byteAt_of_lt {page : List UInt8} {i : Nat}
    (h : i < page.length) : (byteAt page i : CheckedM ω UInt8) = pure page[i] := by
  rw [byteAt, List.getElem?_eq_getElem h]
  rfl

theorem slice_page {image : Image} {addr pageSize : UInt32}
    (hnext : (addr + pageSize).toNat = addr.toNat + pageSize.toNat)
    (hsize : addr.toNat + pageSize.toNat ≤ image.size) :
    (slice image addr (addr + pageSize) : CheckedM ω (List UInt8)) = pure (image.page addr pageSize) := by
  rw [slice, Image.slice?_page hnext hsize]
  rfl

variable [Link ω]

/-- Loads the words of a page from a position on, as long as there are two bytes, and returns the
failure that ended it. -/
def loadWords (page : List UInt8) (i : Nat) : CheckedM ω (Option Failure) := do
  if i + 1 < page.length then
    let low ← byteAt page i
    let high ← byteAt page (i + 1)
    match ← OptionT.lift (failureOf (loadWord low high)) with
    | some failure => return some failure
    | none => loadWords page (i + 2)
  else
    return none
termination_by page.length - i

/-- Sends the page under the cursor byte by byte and commits it. -/
def writeSlowly (cursor : PageCursor) (page : List UInt8) : CheckedM ω (Option Failure) := do
  match ← loadWords page 0 with
  | some failure => return some failure
  | none =>
    OptionT.lift <| failureOf do
      setAddress cursor.current
      commitPage
      setAddress cursor.next

/-- Deals with the pages from the cursor on until the cursor is done, each cut out of the image by
its own address and that of the next page. There is no result either if there are more pages than
`left`. -/
def programPages (image : Image) (retries total : Nat) :
    (left : Nat) → PageCursor → PassState → CheckedM ω (PassState × Option Failure)
  | 0, cursor, state => if cursor.done then return (state, none) else OptionT.fail
  | left + 1, cursor, state => do
    if cursor.done then
      return (state, none)
    let page ← slice image cursor.current cursor.next
    match ← OptionT.lift (settlePage cursor page (.forPage retries) state) with
    | ⟨.error failure, _, state⟩ => return (state, some (.pageWrite cursor.current failure))
    | ⟨.ok handling, _, state⟩ =>
      OptionT.lift (record (.progressed (total - left) total))
      programPages image retries total left cursor.advance (state.count handling)

/-- Programs the part of an image in `[start, stop)` page by page. -/
def programRange (image : Image) (start stop : UInt32) (device : Device)
    (options : Options) : CheckedM ω Pass := do
  match PageCursor.spanning start stop device.geometry.flashPageSize with
  | .error failure => return .refused failure
  | .ok cursor =>
    if image.length32 < stop then
      return .refused (.imageEndsEarly image.size stop)
    OptionT.lift (note (.programming start stop device.name))
    OptionT.lift (setMode .unknown)
    match ← OptionT.lift (beginPass start).run with
    | .error failure => return .stopped .empty failure
    | .ok () =>
      OptionT.lift (setMode .fast)
      let total := cursor.pagesFrom start
      match ← programPages image options.retries total total cursor .start with
      | (state, some failure) => return .stopped state.tally failure
      | (state, none) => return .complete (← OptionT.lift (endPass state.tally))

theorem loadWords_eq_lift (page : List UInt8) (i : Nat) :
    (loadWords page i : CheckedM ω (Option Failure)) =
      OptionT.lift (failureOf (Session.loadWords (page.drop i))) := by
  rw [loadWords]
  split
  · next h =>
    have hdrop : page.drop i = page[i] :: page[i + 1] :: page.drop (i + 2) := by
      rw [List.drop_eq_getElem_cons (by omega), List.drop_eq_getElem_cons h]
    rw [byteAt_of_lt h, byteAt_of_lt (Nat.lt_of_succ_lt h), pure_bind, pure_bind, hdrop,
      Session.loadWords, failureOf_seq, OptionT.lift_bind]
    refine bind_congr fun failure => ?_
    cases failure with
    | some failure => rfl
    | none => exact loadWords_eq_lift page (i + 2)
  · next h =>
    have hlength : (page.drop i).length ≤ 1 := by
      rw [List.length_drop]
      omega
    cases hrest : page.drop i with
    | nil => rfl
    | cons b rest =>
      obtain rfl : rest = [] := by
        rw [hrest, List.length_cons] at hlength
        exact List.eq_nil_of_length_eq_zero (by omega)
      rfl
termination_by page.length - i

/-- A page that is sent byte by byte is looked into at positions it has. -/
theorem writeSlowly_eq_lift (cursor : PageCursor) (page : List UInt8) :
    (writeSlowly cursor page : CheckedM ω (Option Failure)) =
      OptionT.lift (failureOf (Session.writeSlowly cursor page)) := by
  rw [writeSlowly, loadWords_eq_lift, List.drop_zero, Session.writeSlowly,
    failureOf_seq (Session.loadWords page), OptionT.lift_bind]
  refine bind_congr fun failure => ?_
  cases failure with
  | some failure => rfl
  | none => rfl

theorem programPages_eq_lift {span : Span} {image : Image} {n left : Nat} {cursor : PageCursor}
    {state : PassState} (h : span.Sound) (himage : span.stop.toNat ≤ image.size)
    (hat : span.At n cursor) (hleft : n + left = span.total)
    (retries total : Nat) :
    (programPages image retries total left cursor state : CheckedM ω (PassState × Option Failure)) =
      OptionT.lift (Session.programPages image retries total left cursor state) := by
  induction left generalizing n cursor state with
  | zero =>
    rw [programPages, if_pos ((hat.done_iff h (by omega)).mpr hleft)]
    rfl
  | succ left ih =>
    have hn : n < span.total := by omega
    have hdone : ¬cursor.done = true := fun hdone =>
      Nat.ne_of_lt hn ((hat.done_iff h (Nat.le_of_lt hn)).mp hdone)
    have hnext := hat.toNat_next h hn
    have hsize : cursor.current.toNat + cursor.pageSize.toNat ≤ image.size := by
      have hle := h.le_stop hn
      rw [hat.current, hat.pageSize]
      omega
    rw [programPages, if_neg hdone, PageCursor.next, slice_page hnext hsize, pure_bind,
      Session.programPages, OptionT.lift_bind]
    refine bind_congr fun retried => ?_
    obtain ⟨result, allowance, state'⟩ := retried
    cases result with
    | error failure => rfl
    | ok handling =>
      dsimp only
      rw [OptionT.lift_bind]
      exact bind_congr fun _ => ih (hat.advance h hn) (by omega)

/-- A pass finds in the image all the pages that it looks for: with its accesses checked it comes to
the same. -/
theorem programRange_eq_lift (image : Image) (start stop : UInt32) (device : Device) (options : Options) :
    (programRange image start stop device options : CheckedM ω Pass) =
      OptionT.lift (Session.programRange image start stop device options) := by
  unfold programRange Session.programRange
  cases hcursor : PageCursor.spanning start stop device.geometry.flashPageSize with
  | error failure => rfl
  | ok cursor =>
    dsimp only
    split
    · rfl
    · next hlength =>
      have hpages (total : Nat) : programPages image options.retries total (cursor.pagesFrom start)
          cursor .start =
          (OptionT.lift (Session.programPages image options.retries total (cursor.pagesFrom start)
            cursor .start) :
            CheckedM ω (PassState × Option Failure)) := by
        obtain ⟨rfl, hsound⟩ := Span.sound_of_spanning hcursor
        refine programPages_eq_lift hsound (Image.le_size_of_not_lt hlength) (Span.at_start _) ?_ _ _
        rw [Nat.zero_add]
        exact hsound.pagesFrom_eq
      simp only [OptionT.lift_bind, hpages]
      refine bind_congr fun _ => bind_congr fun _ => bind_congr fun begun => ?_
      cases begun with
      | error failure => rfl
      | ok _ =>
        simp only [OptionT.lift_bind]
        refine bind_congr fun _ => bind_congr fun ended => ?_
        obtain ⟨state, failure⟩ := ended
        cases failure with
        | some failure => rfl
        | none => rw [OptionT.lift_bind]; rfl

end Checked

/-- The cursor over a range that is accepted walks it page by page, without wrapping around and
without leaving anything out. Hence no access of a pass is out of bounds, whatever the link does:
not where it cuts a page out of the image, and not where a page that is sent byte by byte is looked
into. -/
theorem programRange_in_bounds {start stop pageSize : UInt32} {cursor : PageCursor}
    (hcursor : PageCursor.spanning start stop pageSize = .ok cursor) :
    cursor.Walks start stop pageSize ∧
    ∀ (ω : Type) [Link ω],
      (∀ image device options, (Checked.programRange image start stop device options : CheckedM ω Pass) =
        OptionT.lift (programRange image start stop device options)) ∧
      ∀ cursor page, (Checked.writeSlowly cursor page : CheckedM ω (Option Failure)) =
        OptionT.lift (failureOf (writeSlowly cursor page)) := by
  obtain ⟨rfl, hsound⟩ := Span.sound_of_spanning hcursor
  refine ⟨hsound.walks, fun ω _ => ⟨fun image device options => ?_, fun cursor page => ?_⟩⟩
  · exact Checked.programRange_eq_lift image start stop device options
  · exact Checked.writeSlowly_eq_lift cursor page

/-- The last two of the three pages that all addresses but the last make up. -/
theorem programRange_in_bounds_topmost :
    PageCursor.spanning 0x55555555 0xffffffff 0x55555555 = .ok ⟨0x55555555, 0xffffffff, 0x55555555⟩ ∧
      PageCursor.Walks ⟨0x55555555, 0xffffffff, 0x55555555⟩ 0x55555555 0xffffffff 0x55555555 ∧
      ∀ image device options, (Checked.programRange image 0x55555555 0xffffffff device options :
        CheckedM Script Pass) =
        OptionT.lift (programRange image 0x55555555 0xffffffff device options) := by
  have hcursor : PageCursor.spanning 0x55555555 0xffffffff 0x55555555 =
      .ok ⟨0x55555555, 0xffffffff, 0x55555555⟩ := rfl
  obtain ⟨hwalks, hpass⟩ := programRange_in_bounds hcursor
  exact ⟨hcursor, hwalks, (hpass Script).1⟩

end Session

end Bootflash
