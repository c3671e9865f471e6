import Bootflash.Opcode

namespace Bootflash

/-- How many bytes there are, and which. -/
structure Image where
  size : Nat
  byte : Fin size → UInt8

/-- Whether a page needs no programming. -/
def isBlank (page : List UInt8) : Bool :=
  page.all (· == erased)

namespace Image

instance : GetElem Image Nat UInt8 fun image i => i < image.size where
  getElem image i h := image.byte ⟨i, h⟩

/-- The image with these bytes. -/
def ofBytes (bytes : ByteArray) : Image :=
  ⟨bytes.size, fun i => bytes[i]⟩

/-- The byte at an address, or what is said to stand where the image has none. -/
def getD (image : Image) (addr : Nat) (otherwise : UInt8) : UInt8 :=
  image[addr]?.getD otherwise

/-- Extends an image with erased bytes up to a size. A longer image stays as it is. -/
def pad (image : Image) (size : Nat) : Image :=
  ⟨max image.size size, fun i => image.getD i erased⟩

/-- The length of an image as a 32 bit count, which is what ranges are compared with. -/
def length32 (image : Image) : UInt32 :=
  UInt32.ofNat image.size

/-- The bytes of a page, as far as the image has them. -/
def page (image : Image) (addr pageSize : UInt32) : List UInt8 :=
  (List.range' addr.toNat (min pageSize.toNat (image.size - addr.toNat))).map fun a => image.getD a erased

/-- The first address in `[start, stop)` at which the image holds anything but an erased byte. -/
def firstData? (image : Image) (start stop : UInt32) : Option UInt32 :=
  ((List.range' start.toNat (stop.toNat - start.toNat)).find? fun a =>
    image.getD a erased != erased).map UInt32.ofNat

theorem size_ofBytes (bytes : ByteArray) : (ofBytes bytes).size = bytes.data.size := rfl

theorem getD_of_size_le {image : Image} {addr : Nat} (h : image.size ≤ addr) (otherwise : UInt8) :
    image.getD addr otherwise = otherwise := by
  rw [getD, getElem?_neg image addr (by omega)]
  rfl

theorem size_pad (image : Image) (size : Nat) : (image.pad size).size = max image.size size := rfl

/-- A padded image keeps its own bytes and is erased from there on. -/
theorem getD_pad (image : Image) (size i : Nat) : (image.pad size).getD i erased = image.getD i erased := by
  by_cases h : i < max image.size size
  · rw [getD, getElem?_pos (image.pad size) i h]
    rfl
  · rw [getD_of_size_le (by rw [size_pad]; omega), getD_of_size_le (by omega)]

end Image

end Bootflash
