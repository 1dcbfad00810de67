import Genesis.Bank
import Genesis.Word

/-!
# State of the video processor

Twenty-four registers, three memories and the command latch. The command code selects a memory, and
the command address moves on by the automatic increment with every access.
-/

namespace Genesis

structure Vdp where
  vram : Ram := Ram.zero
  cram : Bank UInt16 64 := Bank.fill 64 0
  vsram : Bank UInt16 40 := Bank.fill 40 0
  registers : Bank UInt8 24 := Bank.fill 24 0
  /-- Command address. -/
  address : UInt16 := 0
  /-- Command code, six bits. -/
  code : UInt8 := 0
  /-- The first half of a command has arrived. -/
  latched : Bool := false
  /-- The next data word starts a fill. -/
  fillArmed : Bool := false
  /-- The last line has been rendered and the status not read since. -/
  framePending : Bool := false
  /-- The line rendered last is the last of the picture. -/
  inBlank : Bool := false
deriving DecidableEq

namespace Vdp

def initial : Vdp := {}

def screenHeight : UInt16 := 224

def displayEnabled (v : Vdp) : Bool := v.registers.get 1 &&& 0x40 != 0

def transferEnabled (v : Vdp) : Bool := v.registers.get 1 &&& 0x10 != 0

def lineInterruptEnabled (v : Vdp) : Bool := v.registers.get 0 &&& 0x10 != 0

def frameInterruptEnabled (v : Vdp) : Bool := v.registers.get 1 &&& 0x20 != 0

def lineWidth (v : Vdp) : UInt16 := if v.registers.get 12 &&& 0x01 != 0 then 320 else 256

def autoIncrement (v : Vdp) : UInt16 := (v.registers.get 15).toUInt16

/-- Words or bytes that a transfer moves; a length of zero stands for all. -/
def transferLength (v : Vdp) : Nat :=
  match (wordOf (v.registers.get 20) (v.registers.get 19)).toNat with
  | 0 => 0x10000
  | length => length

inductive Transfer where
  /-- Words from the console's memory. -/
  | bus
  /-- One byte repeated, once a data word gives it. -/
  | fill
  /-- Bytes within the video memory. -/
  | copy
deriving DecidableEq

def transferKind (v : Vdp) : Transfer :=
  if v.registers.get 23 < 0x80 then .bus
  else if v.registers.get 23 < 0xC0 then .fill
  else .copy

/-- Where a transfer from the console's memory starts, an even address of 24 bits. -/
def busSource (v : Vdp) : UInt32 :=
  (v.registers.get 23 &&& 0x7F).toUInt32 <<< 17 ||| (v.registers.get 22).toUInt32 <<< 9 |||
    (v.registers.get 21).toUInt32 <<< 1

def copySource (v : Vdp) : UInt16 := wordOf (v.registers.get 22) (v.registers.get 21)

inductive Store where
  | vram
  | cram
  | vsram
deriving DecidableEq

/-- The memory that a command code writes. -/
def writeStore? (code : UInt8) : Option Store :=
  if code &&& 0x0F = 0x01 then some .vram
  else if code &&& 0x0F = 0x03 then some .cram
  else if code &&& 0x0F = 0x05 then some .vsram
  else none

/-- The memory that a command code reads. -/
def readStore? (code : UInt8) : Option Store :=
  if code &&& 0x0F = 0x00 then some .vram
  else if code &&& 0x0F = 0x08 then some .cram
  else if code &&& 0x0F = 0x04 then some .vsram
  else none

def advance (v : Vdp) : Vdp := { v with address := v.address + v.autoIncrement }

/-- The colour entry of a number, counted around. -/
def cramEntry (n : Nat) : Fin 64 := ⟨n % 64, Nat.mod_lt n (by decide)⟩

def backdropEntry (v : Vdp) : Fin 64 := cramEntry (v.registers.get 7).toNat

/-- The colour entry that an address selects. -/
def cramIndex (address : UInt16) : Fin 64 := cramEntry (address.toNat / 2)

/-- The scroll entry that an address selects, which need not exist. -/
def vsramIndex (address : UInt16) : Nat := address.toNat / 2

end Vdp
end Genesis
