import Mathlib.Data.List.GetD
import Bootflash.Image
import Bootflash.Memory

namespace Bootflash.Memory

/-- The second memory differs from the first at most inside `[lo, hi)`. -/
structure AgreesOutside (lo hi : Nat) (before after : Memory) : Prop where
  size : after.size = before.size
  byteAt : ∀ i, i < lo ∨ hi ≤ i → after.byteAt i = before.byteAt i

namespace AgreesOutside

variable {lo hi : Nat} {m m' m'' : Memory}

theorem refl (lo hi : Nat) (m : Memory) : AgreesOutside lo hi m m :=
  ⟨rfl, fun _ _ => rfl⟩

theorem trans (h : AgreesOutside lo hi m m') (h' : AgreesOutside lo hi m' m'') : AgreesOutside lo hi m m'' :=
  ⟨h'.size.trans h.size, fun i hi => (h'.byteAt i hi).trans (h.byteAt i hi)⟩

/-- A change confined to a range is confined to every wider one, and no change at all to any. -/
theorem widen {lo' hi' : Nat} (h : AgreesOutside lo hi m m') (hrange : hi ≤ lo ∨ (lo' ≤ lo ∧ hi ≤ hi')) :
    AgreesOutside lo' hi' m m' :=
  ⟨h.size, fun i hi => h.byteAt i (by omega)⟩

/-- Outside of an empty range is everywhere. -/
theorem eq_of_le (h : AgreesOutside lo hi m m') (hle : hi ≤ lo) : m' = m := by
  obtain ⟨size, cells⟩ := m
  obtain ⟨size', cells'⟩ := m'
  obtain rfl : size' = size := h.size
  congr 1
  apply Vector.ext
  intro i hi
  have hbyte := h.byteAt i (by omega)
  simpa [Memory.byteAt, hi] using hbyte

/-- A stretch that the change does not reach reads as before. -/
theorem slice_eq (h : AgreesOutside lo hi m m') {addr count : Nat} (hapart : addr + count ≤ lo ∨ hi ≤ addr) :
    m'.slice addr count = m.slice addr count := by
  apply List.map_congr_left
  intro i hi
  obtain ⟨hlow, hhigh⟩ := List.mem_range'_1.mp hi
  exact h.byteAt i (by omega)

end AgreesOutside

@[simp]
theorem length_slice (m : Memory) (addr count : Nat) : (m.slice addr count).length = count := by
  simp [slice]

theorem getElem_slice (m : Memory) (addr count i : Nat) (hi : i < (m.slice addr count).length) :
    (m.slice addr count)[i] = m.byteAt (addr + i) := by
  simp [slice]

/-- A stretch holds the given bytes exactly when each of its cells does. -/
theorem slice_eq_iff {m : Memory} {addr : Nat} {values : List UInt8} {count : Nat}
    (hlength : values.length = count) :
    m.slice addr count = values ↔ ∀ i, i < count → m.byteAt (addr + i) = values.getD i erased := by
  constructor
  · rintro rfl i hi
    have hbound : i < (m.slice addr count).length := by simpa using hi
    rw [List.getD_eq_getElem _ _ hbound, getElem_slice]
  · intro h
    apply List.ext_getElem (by simpa using hlength.symm)
    intro i hslice hvalues
    have hi : i < count := by simpa using hslice
    rw [getElem_slice, h i hi, List.getD_eq_getElem _ _ hvalues]

theorem agreesOutside_store (m : Memory) (addr : Nat) (values : List UInt8) :
    AgreesOutside addr (addr + values.length) m (m.store addr values) := by
  refine ⟨size_store m addr values, fun i hi => ?_⟩
  rw [byteAt_store, if_neg (by omega)]

/-- What was stored inside the memory is read back. -/
theorem slice_store {m : Memory} {addr : Nat} {values : List UInt8} (hfits : addr + values.length ≤ m.size) :
    (m.store addr values).slice addr values.length = values := by
  rw [slice_eq_iff rfl]
  intro i hi
  rw [byteAt_store, if_pos (by omega)]
  congr 1
  omega

/-- The stretch `[addr, addr + count)` is erased. -/
def ErasedAt (m : Memory) (addr count : Nat) : Prop :=
  m.slice addr count = List.replicate count erased

theorem erasedAt_store {m : Memory} {addr count : Nat} (hfits : addr + count ≤ m.size) :
    (m.store addr (List.replicate count erased)).ErasedAt addr count := by
  have h : (m.store addr (List.replicate count erased)).slice addr (List.replicate count erased).length = _ :=
    slice_store (by simpa using hfits)
  simpa [ErasedAt] using h

theorem toList_eq_slice (m : Memory) : m.toList = m.slice 0 m.size := by
  apply List.ext_getElem (by simp [toList])
  intro i hlist hslice
  have hi : i < m.size := by simpa using hslice
  rw [getElem_slice]
  simp [toList, Memory.byteAt, hi]

end Bootflash.Memory

namespace Bootflash

/-- A page is blank exactly when it holds nothing but erased bytes. -/
theorem isBlank_iff {page : List UInt8} : isBlank page = true ↔ page = List.replicate page.length erased := by
  rw [isBlank, List.all_eq_true, List.eq_replicate_iff]
  simp

theorem Image.length_page {image : Image} {addr pageSize : UInt32}
    (h : addr.toNat + pageSize.toNat ≤ image.size) :
    (image.page addr pageSize).length = pageSize.toNat := by
  simp only [Image.page, List.length_map, List.length_range']
  omega

theorem Image.getD_page {image : Image} {addr pageSize : UInt32}
    (h : addr.toNat + pageSize.toNat ≤ image.size) {j : Nat} (hj : j < pageSize.toNat) :
    (image.page addr pageSize).getD j erased = image.getD (addr.toNat + j) erased := by
  have hlength : j < (image.page addr pageSize).length := by rwa [Image.length_page h]
  rw [List.getD_eq_getElem _ _ hlength]
  simp [Image.page]

theorem Image.toNat_length32_le (image : Image) : image.length32.toNat ≤ image.size := by
  rw [length32, UInt32.toNat_ofNat']
  exact Nat.mod_le _ _

theorem Image.toNat_length32 {image : Image} (hsize : image.size < 4294967296) :
    image.length32.toNat = image.size := by
  rw [length32, UInt32.toNat_ofNat', Nat.mod_eq_of_lt hsize]

theorem Image.le_size_of_not_lt {image : Image} {stop : UInt32} (h : ¬image.length32 < stop) :
    stop.toNat ≤ image.size := by
  rw [UInt32.not_lt, UInt32.le_iff_toNat_le] at h
  exact Nat.le_trans h image.toNat_length32_le

theorem Image.not_lt_of_le_size {image : Image} {stop : UInt32} (hsize : image.size < 4294967296)
    (h : stop.toNat ≤ image.size) :
    ¬image.length32 < stop := by
  rw [UInt32.not_lt, UInt32.le_iff_toNat_le, Image.toNat_length32 hsize]
  exact h

end Bootflash
