import Genesis.Word

/-!
# Cartridges

A cartridge port is a buffer of fixed capacity, of which the bytes of the current image are mapped.
Bytes beyond the current image keep what earlier images left there.
-/

namespace Genesis

def Cartridge.capacity : Nat := 4 * 1024 * 1024

structure Cartridge where
  /-- The buffer up to its last byte ever written; it is zero beyond. -/
  buffer : Array UInt8 := #[]
  /-- How many bytes are mapped. -/
  size : Nat := 0
  /-- Kept for hosts that set it; the bus never lets the cartridge be written. -/
  writeable : Bool := false
  size_le_buffer : size ≤ buffer.size := by decide
  buffer_le_capacity : buffer.size ≤ Cartridge.capacity := by decide
deriving DecidableEq

namespace Cartridge

def empty : Cartridge := {}

/-- Any byte of the buffer. -/
def byte (c : Cartridge) (offset : Nat) : UInt8 := c.buffer.getD offset 0

/-- The word at an offset; its low byte is the byte that follows in the buffer, mapped or not. -/
def word (c : Cartridge) (offset : Nat) : UInt16 := wordOf (c.byte offset) (c.byte (offset + 1))

def contains (c : Cartridge) (address : UInt32) : Bool := address.toNat < c.size

def mapped (c : Cartridge) : Array UInt8 := c.buffer.extract 0 c.size

/-- Copy an image over the start of the buffer, unless it is larger than the buffer. -/
def install? (c : Cartridge) (image : Array UInt8) : Option Cartridge :=
  if h : image.size ≤ capacity then
    some { c with
      buffer := image ++ c.buffer.extract image.size c.buffer.size
      size := image.size
      size_le_buffer := by simp
      buffer_le_capacity := by have := c.buffer_le_capacity; simp; omega }
  else none

/-- Unmap the image; the buffer keeps it. -/
def eject (c : Cartridge) : Cartridge := { c with size := 0, size_le_buffer := Nat.zero_le _ }

theorem size_le_capacity (c : Cartridge) : c.size ≤ capacity :=
  Nat.le_trans c.size_le_buffer c.buffer_le_capacity

theorem install?_eq_none_iff (c : Cartridge) (image : Array UInt8) :
    c.install? image = none ↔ capacity < image.size := by
  simp only [install?]
  split <;> simp <;> omega

theorem size_of_install? {c c' : Cartridge} {image : Array UInt8} (h : c.install? image = some c') :
    c'.size = image.size := by
  simp only [install?] at h
  split at h
  · rw [← Option.some.inj h]
  · simp at h

theorem byte_of_install? {c c' : Cartridge} {image : Array UInt8} (h : c.install? image = some c')
    (offset : Nat) :
    c'.byte offset = if offset < image.size then image.getD offset 0 else c.byte offset := by
  simp only [install?] at h
  split at h
  · rw [← Option.some.inj h]
    simp only [byte, Array.getD_eq_getD_getElem?, Array.getElem?_append]
    split
    · rfl
    · rename_i ho
      rw [Array.getElem?_extract]
      have : image.size + (offset - image.size) = offset := by omega
      rw [this]
      split
      · rfl
      · rename_i hlt
        rw [Array.getElem?_eq_none (by omega)]
  · simp at h

end Cartridge
end Genesis
