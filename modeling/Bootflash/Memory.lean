import Bootflash.Opcode

namespace Bootflash

structure Memory where
  size : Nat
  cells : Vector UInt8 size
deriving DecidableEq, Inhabited

namespace Memory

/-- A memory with the same byte everywhere. -/
def filled (size : Nat) (value : UInt8) : Memory :=
  ⟨size, Vector.replicate size value⟩

/-- The byte at an address. -/
def byteAt (m : Memory) (addr : Nat) : UInt8 :=
  if h : addr < m.size then m.cells[addr] else erased

/-- Sets one byte. -/
def put (m : Memory) (addr : Nat) (value : UInt8) : Memory :=
  ⟨m.size, if h : addr < m.size then m.cells.set addr value else m.cells⟩

/-- Writes bytes at ascending addresses. -/
def store (m : Memory) (addr : Nat) : List UInt8 → Memory
  | [] => m
  | value :: rest => (m.put addr value).store (addr + 1) rest

/-- The bytes from an address on, `count` of them. -/
def slice (m : Memory) (addr count : Nat) : List UInt8 :=
  (List.range' addr count).map m.byteAt

def toList (m : Memory) : List UInt8 :=
  m.cells.toList

@[simp]
theorem size_filled (size : Nat) (value : UInt8) : (filled size value).size = size :=
  rfl

@[simp]
theorem size_put (m : Memory) (addr : Nat) (value : UInt8) : (m.put addr value).size = m.size :=
  rfl

@[simp]
theorem size_store (m : Memory) (addr : Nat) (values : List UInt8) : (m.store addr values).size = m.size := by
  induction values generalizing m addr with
  | nil => rfl
  | cons value rest ih => rw [store, ih, size_put]

theorem byteAt_of_size_le {m : Memory} {addr : Nat} (h : m.size ≤ addr) : m.byteAt addr = erased :=
  dif_neg (Nat.not_lt.mpr h)

theorem byteAt_filled (size addr : Nat) (value : UInt8) :
    (filled size value).byteAt addr = if addr < size then value else erased := by
  by_cases h : addr < size <;> simp [filled, byteAt, h]

theorem byteAt_put (m : Memory) (addr i : Nat) (value : UInt8) :
    (m.put addr value).byteAt i = if i = addr ∧ i < m.size then value else m.byteAt i := by
  by_cases hi : i < m.size
  · by_cases ha : i = addr
    · subst ha
      simp [put, byteAt, hi]
    · by_cases haddr : addr < m.size <;> simp [put, byteAt, haddr, ha, Ne.symm ha]
  · have hle : m.size ≤ i := by omega
    rw [byteAt_of_size_le (by rwa [size_put]), byteAt_of_size_le hle]
    simp [hi]

/-- A store reaches exactly the cells it names that exist; every other cell keeps its byte. -/
theorem byteAt_store (m : Memory) (addr i : Nat) (values : List UInt8) :
    (m.store addr values).byteAt i =
      if addr ≤ i ∧ i < addr + values.length ∧ i < m.size then values.getD (i - addr) erased
      else m.byteAt i := by
  induction values generalizing m addr with
  | nil =>
    have hnot : ¬(addr ≤ i ∧ i < addr + ([] : List UInt8).length ∧ i < m.size) := by
      simp only [List.length_nil]
      omega
    rw [store, if_neg hnot]
  | cons value rest ih =>
    rw [store, ih, size_put, byteAt_put]
    simp only [List.length_cons]
    by_cases hfirst : i = addr
    · subst hfirst
      have hnot : ¬(i + 1 ≤ i ∧ i < i + 1 + rest.length ∧ i < m.size) := by omega
      rw [if_neg hnot]
      by_cases hi : i < m.size <;> simp [hi]
    · by_cases hlow : addr ≤ i
      · have hsub : i - addr = (i - (addr + 1)) + 1 := by omega
        rw [hsub, List.getD_cons_succ]
        have hiff : (addr + 1 ≤ i ∧ i < addr + 1 + rest.length ∧ i < m.size) ↔
            (addr ≤ i ∧ i < addr + (rest.length + 1) ∧ i < m.size) := by omega
        simp only [hiff, hfirst, false_and, if_false]
      · have hnot : ¬(addr + 1 ≤ i ∧ i < addr + 1 + rest.length ∧ i < m.size) := by omega
        have hnot' : ¬(addr ≤ i ∧ i < addr + (rest.length + 1) ∧ i < m.size) := by omega
        rw [if_neg hnot, if_neg hnot']
        simp [hfirst]

end Memory

end Bootflash
