import Genesis.Lanes
import Genesis.Word
import Std.Data.HashMap

/-!
# A memory without devices

Every address holds a byte, and a word is two neighbouring bytes, wrapping around at the end of the
address space. It is the simplest bus that a processor can be put on.
-/

namespace Genesis

/-- One byte for each 32-bit address: the last one written there, or the one that stood everywhere
before. -/
structure FlatMemory where
  background : UInt8
  written : Std.HashMap UInt32 UInt8 := {}

namespace FlatMemory

def fill (x : UInt8) : FlatMemory := { background := x }

def byte (m : FlatMemory) (address : UInt32) : UInt8 := m.written.getD address m.background

def store (m : FlatMemory) (address : UInt32) (x : UInt8) : FlatMemory :=
  { m with written := m.written.insert address x }

def storeAll (m : FlatMemory) (address : UInt32) : List UInt8 → FlatMemory
  | [] => m
  | x :: xs => (m.store address x).storeAll (address + 1) xs

def read (m : FlatMemory) (address : UInt32) (lanes : Lanes) : UInt16 :=
  wordOf (m.byte address) (m.byte (address + 1)) &&& lanes.mask

def write (m : FlatMemory) (address : UInt32) (lanes : Lanes) (value : UInt16) : FlatMemory :=
  let m := if lanes.hasHigh then m.store address (highByte value) else m
  if lanes.hasLow then m.store (address + 1) (lowByte value) else m

@[simp] theorem byte_fill (x : UInt8) (a : UInt32) : (fill x).byte a = x := by
  simp [fill, byte]

@[simp] theorem byte_store (m : FlatMemory) (a b : UInt32) (x : UInt8) :
    (m.store a x).byte b = if b = a then x else m.byte b := by
  by_cases h : b = a
  · simp [byte, store, h]
  · simp [byte, store, Std.HashMap.getD_insert, h, Ne.symm h]

end FlatMemory
end Genesis
