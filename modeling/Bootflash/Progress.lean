namespace Bootflash

/-- The value of `[lo, hi]` nearest to `v`. The lower bound wins if the bounds are the wrong way
round and `v` is below it. -/
def clamp {α : Type} [LT α] [DecidableLT α] (v lo hi : α) : α :=
  if v < lo then lo else if hi < v then hi else v

namespace Progress

/-- The nearest natural number; a half is rounded up. What stands behind the point is split off exactly. -/
def roundNat (x : Float) : Nat :=
  let whole := x.toUInt64
  if x - whole.toFloat ≥ 0.5 then whole.toNat + 1 else whole.toNat

/-- How much is done, in percent. Nothing to do counts as done. -/
def percent (done total : Int) : Nat :=
  if total > 0 then roundNat (Float.ofInt (clamp done 0 total) / Float.ofInt total * 100) else 100

/-- How many places the bar of a given width has. -/
def places (width : Int) : Nat :=
  (max (width - 2) 1).toNat

/-- How many of the places are filled. -/
def hashes (percent places : Nat) : Nat :=
  roundNat (Float.ofNat percent / 100 * Float.ofNat places)

/-- The bar without its label. -/
def bar (places hashes : Nat) : List Char :=
  [' ', '['] ++ List.replicate hashes '#' ++ List.replicate (places - hashes) ' ' ++ [']']

/-- Writes a label over a text from a place on. -/
def overwrite (text label : List Char) (place : Nat) : List Char :=
  text.take place ++ label ++ text.drop (place + label.length)

/-- The bar with the percentage over its middle, or without it where it does not fit. -/
def frame (percent places hashes : Nat) : List Char :=
  let bar := bar places hashes
  let digits := Nat.toDigits 10 percent
  let label := [' '] ++ digits ++ ['%', ' ']
  let middle := bar.length / 2
  if middle < digits.length ∨ middle - digits.length + label.length > bar.length then bar
  else overwrite bar label (middle - digits.length)

/-- The bar of a given width when `done` of `total` are done. -/
def render (done total width : Int) : String :=
  let percent := percent done total
  let places := places width
  String.ofList (frame percent places (hashes percent places))

/-- What drawing a bar anew writes: the bar, back to the start of the line, and on to the next line
once all is done. -/
def redraw (width done total : Int) : String :=
  render done total width ++ "\r" ++ if done ≥ total then "\n" else ""

end Progress

end Bootflash
