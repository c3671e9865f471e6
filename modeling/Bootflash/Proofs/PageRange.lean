import Bootflash.PageCursor

namespace Bootflash

/-- The addresses of the first `n` pages from `start` on. -/
def firstPages (start pageSize : UInt32) (n : Nat) : List UInt32 :=
  (List.range n).map fun k => UInt32.ofNat (start.toNat + k * pageSize.toNat)

/-- The addresses of the pages in `[start, stop)`. -/
def pageAddresses (start stop pageSize : UInt32) : List UInt32 :=
  firstPages start pageSize ((stop.toNat - start.toNat) / pageSize.toNat)

/-- A page in `[start, stop)` begins at this address. -/
def IsPage (start stop pageSize addr : UInt32) : Prop :=
  start ≤ addr ∧ addr < stop ∧ addr % pageSize = 0

/-- Two pages do not overlap. -/
theorem IsPage.apart {start stop pageSize addr addr' : UInt32} (h : IsPage start stop pageSize addr)
    (h' : IsPage start stop pageSize addr') (hne : addr ≠ addr') :
    addr.toNat + pageSize.toNat ≤ addr'.toNat ∨ addr'.toNat + pageSize.toNat ≤ addr.toNat := by
  obtain ⟨k, hk⟩ : pageSize.toNat ∣ addr.toNat := Nat.dvd_of_mod_eq_zero (congrArg UInt32.toNat h.2.2)
  obtain ⟨k', hk'⟩ : pageSize.toNat ∣ addr'.toNat := Nat.dvd_of_mod_eq_zero (congrArg UInt32.toNat h'.2.2)
  rcases Nat.lt_trichotomy k k' with hlt | rfl | hlt
  · have hmul := Nat.mul_le_mul_left pageSize.toNat (Nat.succ_le_of_lt hlt)
    rw [Nat.mul_succ] at hmul
    omega
  · exact absurd (UInt32.toNat_inj.mp (hk.trans hk'.symm)) hne
  · have hmul := Nat.mul_le_mul_left pageSize.toNat (Nat.succ_le_of_lt hlt)
    rw [Nat.mul_succ] at hmul
    omega

/-- An address range, and the size of the pages it is cut into. -/
structure Span where
  start : UInt32
  stop : UInt32
  pageSize : UInt32

/-- A range that a cursor does not accept is refused for being what it is. -/
theorem PageCursor.root_of_spanning {start stop pageSize : UInt32} {failure : Failure}
    (h : spanning start stop pageSize = .error failure) : failure.root = .invalidRange := by
  unfold spanning at h
  split at h
  · cases h
    rfl
  · split at h
    · cases h
      rfl
    · cases h

namespace Span

/-- How many pages there are. -/
def total (span : Span) : Nat :=
  (span.stop.toNat - span.start.toNat) / span.pageSize.toNat

/-- The range has pages, and whole ones only. -/
structure Sound (span : Span) : Prop where
  positive : 0 < span.pageSize.toNat
  start : span.start.toNat % span.pageSize.toNat = 0
  stop : span.stop.toNat % span.pageSize.toNat = 0
  nonempty : span.start.toNat < span.stop.toNat

variable {span : Span} {n : Nat} {addr : UInt32}

/-- A range that a cursor accepts is sound. -/
theorem sound_of_spanning {start stop pageSize : UInt32} {cursor : PageCursor}
    (hcursor : PageCursor.spanning start stop pageSize = .ok cursor) :
    cursor = ⟨start, stop, pageSize⟩ ∧ (⟨start, stop, pageSize⟩ : Span).Sound := by
  obtain ⟨rfl, hzero, hstart, hstop, hlt⟩ := PageCursor.spanning_eq_ok_iff.mp hcursor
  refine ⟨rfl, ?_, congrArg UInt32.toNat hstart, congrArg UInt32.toNat hstop, UInt32.lt_iff_toNat_lt.mp hlt⟩
  exact Nat.pos_of_ne_zero fun h => hzero (UInt32.toNat_inj.mp h)

/-- A cursor accepts every sound range. -/
theorem Sound.spanning_eq_ok (h : span.Sound) :
    PageCursor.spanning span.start span.stop span.pageSize = .ok ⟨span.start, span.stop, span.pageSize⟩ := by
  refine PageCursor.spanning_eq_ok_iff.mpr ⟨rfl, ?_, ?_, ?_, UInt32.lt_iff_toNat_lt.mpr h.nonempty⟩
  · intro hzero
    have hpositive := h.positive
    rw [hzero] at hpositive
    exact absurd hpositive (by decide)
  · exact UInt32.toNat_inj.mp h.start
  · exact UInt32.toNat_inj.mp h.stop

theorem Sound.stop_eq (h : span.Sound) : span.stop.toNat =
    span.start.toNat + span.total * span.pageSize.toNat := by
  have hdvd : span.pageSize.toNat ∣ span.stop.toNat - span.start.toNat :=
    Nat.dvd_sub (Nat.dvd_of_mod_eq_zero h.stop) (Nat.dvd_of_mod_eq_zero h.start)
  have hlt := h.nonempty
  rw [total, Nat.div_mul_cancel hdvd]
  omega

theorem Sound.total_pos (h : span.Sound) : 0 < span.total := by
  have hlt := h.nonempty
  have hstop := h.stop_eq
  refine Nat.pos_of_ne_zero fun hzero => ?_
  rw [hzero] at hstop
  omega

theorem Sound.pagesFrom_eq (h : span.Sound) :
    PageCursor.pagesFrom ⟨span.start, span.stop, span.pageSize⟩ span.start = span.total := by
  have hle : span.start ≤ span.stop := UInt32.le_iff_toNat_le.mpr (Nat.le_of_lt h.nonempty)
  rw [PageCursor.pagesFrom, UInt32.toNat_div, UInt32.toNat_sub_of_le _ _ hle]
  rfl

/-- A page of the range ends inside it. -/
theorem Sound.le_stop (h : span.Sound) (hn : n < span.total) :
    span.start.toNat + n * span.pageSize.toNat + span.pageSize.toNat ≤ span.stop.toNat := by
  have hmul := Nat.mul_le_mul_right span.pageSize.toNat (Nat.succ_le_of_lt hn)
  rw [Nat.succ_mul] at hmul
  have := h.stop_eq
  omega

theorem Sound.toNat_page (h : span.Sound) (hn : n < span.total) :
    (UInt32.ofNat (span.start.toNat + n * span.pageSize.toNat)).toNat =
      span.start.toNat + n * span.pageSize.toNat := by
  have hle := h.le_stop hn
  have hsize := span.stop.toNat_lt
  simp only [UInt32.toNat_ofNat']
  omega

/-- Moving on from a page of the range does not wrap around. -/
theorem Sound.toNat_next (h : span.Sound) (hn : n < span.total)
    (haddr : addr.toNat = span.start.toNat + n * span.pageSize.toNat) :
    (addr + span.pageSize).toNat = span.start.toNat + (n + 1) * span.pageSize.toNat := by
  have hle := h.le_stop hn
  have hsize := span.stop.toNat_lt
  rw [UInt32.toNat_add, Nat.succ_mul]
  omega

theorem Sound.mod_eq_zero (h : span.Sound) (haddr : addr.toNat = span.start.toNat + n * span.pageSize.toNat) :
    addr % span.pageSize = 0 := by
  rw [← UInt32.toNat_inj, UInt32.toNat_mod, haddr, Nat.add_mul_mod_self_right]
  exact h.start

theorem Sound.isPage (h : span.Sound) (hn : n < span.total)
    (haddr : addr.toNat = span.start.toNat + n * span.pageSize.toNat) :
    IsPage span.start span.stop span.pageSize addr := by
  have hle := h.le_stop hn
  have hpos := h.positive
  refine ⟨?_, ?_, h.mod_eq_zero haddr⟩
  · rw [UInt32.le_iff_toNat_le]
    omega
  · rw [UInt32.lt_iff_toNat_lt]
    omega

theorem Sound.mem_firstPages (h : span.Sound) (hn : n ≤ span.total) :
    addr ∈ firstPages span.start span.pageSize n ↔
      ∃ k, k < n ∧ addr.toNat = span.start.toNat + k * span.pageSize.toNat := by
  simp only [firstPages, List.mem_map, List.mem_range]
  constructor
  · rintro ⟨k, hk, rfl⟩
    exact ⟨k, hk, h.toNat_page (by omega)⟩
  · rintro ⟨k, hk, haddr⟩
    exact ⟨k, hk, by rw [← haddr, UInt32.ofNat_toNat]⟩

/-- The first pages are the ones that begin below where they end. -/
theorem Sound.mem_firstPages_iff_isPage (h : span.Sound) (hn : n ≤ span.total) {bound : UInt32}
    (hbound : bound.toNat = span.start.toNat + n * span.pageSize.toNat) :
    addr ∈ firstPages span.start span.pageSize n ↔ IsPage span.start bound span.pageSize addr := by
  rw [h.mem_firstPages hn]
  constructor
  · rintro ⟨k, hk, haddr⟩
    have hmul := Nat.mul_lt_mul_of_pos_right hk h.positive
    refine ⟨?_, ?_, h.mod_eq_zero haddr⟩
    · rw [UInt32.le_iff_toNat_le]
      omega
    · rw [UInt32.lt_iff_toNat_lt]
      omega
  · rintro ⟨hlow, hhigh, haligned⟩
    rw [UInt32.le_iff_toNat_le] at hlow
    rw [UInt32.lt_iff_toNat_lt] at hhigh
    rw [← UInt32.toNat_inj, UInt32.toNat_mod] at haligned
    have hdvd : span.pageSize.toNat ∣ addr.toNat - span.start.toNat :=
      Nat.dvd_sub (Nat.dvd_of_mod_eq_zero haligned) (Nat.dvd_of_mod_eq_zero h.start)
    refine ⟨(addr.toNat - span.start.toNat) / span.pageSize.toNat, ?_, ?_⟩
    · apply Nat.div_lt_of_lt_mul
      rw [Nat.mul_comm]
      omega
    · rw [Nat.div_mul_cancel hdvd]
      omega

theorem Sound.mem_pageAddresses (h : span.Sound) :
    addr ∈ pageAddresses span.start span.stop span.pageSize ↔
      IsPage span.start span.stop span.pageSize addr :=
  h.mem_firstPages_iff_isPage (Nat.le_refl _) h.stop_eq

theorem Sound.page_le_stop (h : span.Sound) (hpage : IsPage span.start span.stop span.pageSize addr) :
    addr.toNat + span.pageSize.toNat ≤ span.stop.toNat := by
  obtain ⟨k, hk, haddr⟩ := (h.mem_firstPages (Nat.le_refl _)).mp (h.mem_pageAddresses.mpr hpage)
  rw [haddr]
  exact h.le_stop hk

/-- Every address of the range lies in one of its pages. -/
theorem Sound.exists_page (h : span.Sound) {i : Nat} (hlow : span.start.toNat ≤ i)
    (hhigh : i < span.stop.toNat) :
    ∃ addr ∈ firstPages span.start span.pageSize span.total,
      addr.toNat + span.pageSize.toNat ≤ span.stop.toNat ∧ span.start.toNat ≤ addr.toNat ∧
        ∃ j, j < span.pageSize.toNat ∧ i = addr.toNat + j := by
  have hstop := h.stop_eq
  have hdiv := Nat.div_add_mod' (i - span.start.toNat) span.pageSize.toNat
  have hmod := Nat.mod_lt (i - span.start.toNat) h.positive
  have hk : (i - span.start.toNat) / span.pageSize.toNat < span.total := by
    apply Nat.div_lt_of_lt_mul
    rw [Nat.mul_comm]
    omega
  generalize (i - span.start.toNat) / span.pageSize.toNat = k at hdiv hk
  have haddr := h.toNat_page hk
  have hle := h.le_stop hk
  refine ⟨_, (h.mem_firstPages (Nat.le_refl _)).mpr ⟨k, hk, haddr⟩, by omega, by omega,
    (i - span.start.toNat) % span.pageSize.toNat, hmod, by omega⟩

/-- The cursor is at the page with this number, or at the end behind the last. -/
structure At (span : Span) (n : Nat) (cursor : PageCursor) : Prop where
  current : cursor.current.toNat = span.start.toNat + n * span.pageSize.toNat
  stop : cursor.stop = span.stop
  pageSize : cursor.pageSize = span.pageSize

theorem At.toNat_next (hat : span.At n cursor) (h : span.Sound) (hn : n < span.total) :
    cursor.next.toNat = cursor.current.toNat + cursor.pageSize.toNat := by
  have hnext := h.toNat_next hn hat.current
  rw [PageCursor.next, hat.pageSize, hnext, hat.current, Nat.succ_mul, Nat.add_assoc]

theorem At.advance (hat : span.At n cursor) (h : span.Sound) (hn : n < span.total) :
    span.At (n + 1) cursor.advance := by
  refine ⟨?_, hat.stop, hat.pageSize⟩
  change (cursor.current + cursor.pageSize).toNat = _
  rw [hat.pageSize]
  exact h.toNat_next hn hat.current

/-- A page lies in the range. -/
theorem At.bounds (hat : span.At n cursor) (h : span.Sound) (hn : n < span.total) :
    span.start.toNat ≤ cursor.current.toNat ∧
      cursor.current.toNat + cursor.pageSize.toNat ≤ span.stop.toNat := by
  have hle := h.le_stop hn
  rw [hat.current, hat.pageSize]
  omega

theorem at_start (span : Span) : span.At 0 ⟨span.start, span.stop, span.pageSize⟩ :=
  ⟨by rw [Nat.zero_mul, Nat.add_zero], rfl, rfl⟩

end Span

theorem firstPages_add_one {start pageSize addr : UInt32} {n : Nat}
    (haddr : addr.toNat = start.toNat + n * pageSize.toNat) :
    firstPages start pageSize (n + 1) = firstPages start pageSize n ++ [addr] := by
  rw [firstPages, List.range_succ, List.map_append, List.map_singleton, ← haddr, UInt32.ofNat_toNat]
  rfl

end Bootflash
