import Bootflash.Failure

namespace Bootflash

structure PageCursor where
  current : UInt32
  stop : UInt32
  pageSize : UInt32
deriving DecidableEq, Repr, Inhabited

namespace PageCursor

/-- A cursor at the start of `[start, stop)`. Refuses ends that are not page addresses, and a range
without pages. -/
def spanning (start stop pageSize : UInt32) : Except Failure PageCursor :=
  if pageSize = 0 ∨ start % pageSize ≠ 0 ∨ stop % pageSize ≠ 0 then .error (.misaligned start stop pageSize)
  else if start ≥ stop then .error (.emptyRange start stop)
  else .ok ⟨start, stop, pageSize⟩

/-- Whether the cursor has reached the end of its range. -/
def done (cursor : PageCursor) : Bool :=
  cursor.current ≥ cursor.stop

/-- The address of the page after the current one. -/
def next (cursor : PageCursor) : UInt32 :=
  cursor.current + cursor.pageSize

/-- Moves on to the next page. -/
def advance (cursor : PageCursor) : PageCursor :=
  { cursor with current := cursor.next }

/-- How many pages there are from an address to the end of the range. -/
def pagesFrom (cursor : PageCursor) (start : UInt32) : Nat :=
  ((cursor.stop - start) / cursor.pageSize).toNat

/-- What an accepted range looks like. -/
theorem spanning_eq_ok_iff {start stop pageSize : UInt32} {cursor : PageCursor} :
    spanning start stop pageSize = .ok cursor ↔
      cursor = ⟨start, stop, pageSize⟩ ∧ pageSize ≠ 0 ∧ start % pageSize = 0 ∧ stop % pageSize = 0 ∧
        start < stop := by
  unfold spanning
  split
  · next h =>
    simp only [reduceCtorEq, false_iff, not_and]
    rintro - h0 h1 h2
    rcases h with h | h | h <;> contradiction
  · next h =>
    obtain ⟨hsize, hstart, hstop⟩ : pageSize ≠ 0 ∧ start % pageSize = 0 ∧ stop % pageSize = 0 := by
      simpa only [not_or, ne_eq, Decidable.not_not] using h
    split
    · next hge =>
      simp only [reduceCtorEq, false_iff, not_and]
      intros
      exact UInt32.not_lt.mpr hge
    · next hlt =>
      simp only [ge_iff_le, UInt32.not_le] at hlt
      simp only [Except.ok.injEq, hsize, hstart, hstop, hlt, ne_eq, not_false_eq_true, and_true]
      exact eq_comm

end PageCursor

end Bootflash
