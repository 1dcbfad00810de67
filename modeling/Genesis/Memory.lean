import Genesis.Bank
import Genesis.Cartridge
import Genesis.Pad

/-!
# Everything on the bus

The devices that the processor can reach: cartridge, memories, pad ports and the video unit.
-/

namespace Genesis

structure Memory (ν : Type) where
  cartridge : Cartridge := Cartridge.empty
  workRam : Ram := Ram.zero
  z80Ram : Bank UInt8 0x2000 := Bank.fill 0x2000 0
  /-- Ports 1 and 2 and the expansion port. -/
  pads : Bank Pad 3 := Bank.fill 3 {}
  video : ν

/-- The word at an address of work RAM, repeated every 64 kilobytes. -/
def Ram.word (ram : Ram) (address : UInt32) : UInt16 :=
  wordOf (ram.read address.toUInt16) (ram.read (address.toUInt16 + 1))

namespace Memory

variable {ν : Type}

def initial (video : ν) : Memory ν := { video }

/-- Mark the cartridge as writeable or not. -/
def mark (writeable : Bool) (m : Memory ν) : Memory ν :=
  { m with cartridge := { m.cartridge with writeable } }

@[simp] theorem size_mark (writeable : Bool) (m : Memory ν) :
    (m.mark writeable).cartridge.size = m.cartridge.size := rfl

def bufferBytes : Nat := Cartridge.capacity + UInt16.size + 0x2000

end Memory
end Genesis
