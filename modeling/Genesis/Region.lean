/-!
# The address map

The bus has 24 address bits. The mapped part of the cartridge lies at the bottom and is looked up
first; everything else has a fixed place.
-/

namespace Genesis

/-- What an address selects. -/
inductive Region where
  | cartridge
  /-- A byte offset into the sound processor's memory. -/
  | z80Ram (offset : Fin 0x2000)
  | soundChip
  /-- The data register of a pad port. -/
  | padData (port : Fin 3)
  /-- The control register of a pad port. -/
  | padControl (port : Fin 3)
  /-- The rest of the input and output block. -/
  | ioUnused
  | memoryMode
  | z80BusRequest
  | z80Reset
  | videoData
  | videoControl
  | rasterCounter
  | toneGenerator
  | workRam
  | invalid
deriving DecidableEq, Repr

namespace Region

/-- The port that a pad is connected to. -/
def firstPort : Fin 3 := 0

def ioBlock (a : Nat) : Region :=
  if a = 0xA10002 then padData 0
  else if a = 0xA10004 then padData 1
  else if a = 0xA10006 then padData 2
  else if a = 0xA10008 then padControl 0
  else if a = 0xA1000A then padControl 1
  else if a = 0xA1000C then padControl 2
  else ioUnused

def videoBlock (a : Nat) : Region :=
  if a = 0xC00000 ∨ a = 0xC00002 then videoData
  else if a = 0xC00004 ∨ a = 0xC00006 then videoControl
  else if a = 0xC00008 then rasterCounter
  else if a = 0xC00010 then toneGenerator
  else invalid

/-- The region of a 24-bit address outside the cartridge. -/
def fixed (a : Nat) : Region :=
  if h : 0xA00000 ≤ a ∧ a < 0xA02000 then z80Ram ⟨a - 0xA00000, by omega⟩
  else if a = 0xA04000 ∨ a = 0xA04002 then soundChip
  else if 0xA10000 ≤ a ∧ a < 0xA10020 then ioBlock a
  else if a = 0xA11000 then memoryMode
  else if a = 0xA11100 then z80BusRequest
  else if a = 0xA11200 then z80Reset
  else if 0xE00000 ≤ a then workRam
  else videoBlock a

/-- The region that an address selects while `mapped` bytes of cartridge are mapped. -/
def decode (address : UInt32) (mapped : Nat) : Region :=
  let a := address.toNat % 0x1000000
  if a < mapped then cartridge else fixed a

theorem ioBlock_ne_cartridge (a : Nat) : ioBlock a ≠ cartridge := by
  unfold ioBlock
  grind

theorem videoBlock_ne_cartridge (a : Nat) : videoBlock a ≠ cartridge := by
  unfold videoBlock
  grind

theorem fixed_ne_cartridge (a : Nat) : fixed a ≠ cartridge := by
  unfold fixed
  grind [ioBlock_ne_cartridge, videoBlock_ne_cartridge]

theorem decode_eq_cartridge_iff (address : UInt32) (mapped : Nat) :
    decode address mapped = cartridge ↔ address.toNat % 0x1000000 < mapped := by
  simp only [decode]
  split
  · simp [*]
  · simp [*, fixed_ne_cartridge]

end Region
end Genesis
