import Genesis.Log.Level
import Genesis.Log.Category
import Genesis.Text.Hex

/-!
# What the console has to say

A notice is a cause with its data. Its category, level and wording follow from it, and the wording
is only built for notices that are wanted.
-/

namespace Genesis

open Log

/-- Something worth telling the host. -/
inductive Notice where
  | unknownOpcode (opcode : UInt16) (pc : UInt32)
  | unmappedRead (address : UInt32)
  | unmappedWrite (address : UInt32)
  | cartridgeWrite (address : UInt32)
  | z80WordRead (address : UInt32)
  | z80WordWrite (address : UInt32)
  | unmappedFetch (address : UInt32)
  | cartridgeTooLarge (size capacity : Nat)
  | missingRegister (index : Nat) (value : UInt8)
  | storeWithReadCode (code : UInt8)
  | loadWithWriteCode (code : UInt8)
  | transferStart (source : UInt32) (destination : UInt16) (length : Nat) (code : UInt8)
  | padRead (data control lines : UInt8)
  | lineInterrupt (line : UInt16)
  | frameInterrupt
  /-- A component's own words; at level `off` they reach the host but no log. -/
  | remark (category : Category) (level : Level) (text : String)
deriving DecidableEq

namespace Notice

def category : Notice → Category
  | unknownOpcode .. => .cpu
  | missingRegister .. | storeWithReadCode .. | loadWithWriteCode .. | transferStart .. => .video
  | padRead .. => .pads
  | lineInterrupt .. | frameInterrupt => .interrupts
  | remark category .. => category
  | _ => .bus

def level : Notice → Level
  | unknownOpcode .. | padRead .. | lineInterrupt .. | frameInterrupt => .trace
  | missingRegister .. | storeWithReadCode .. | loadWithWriteCode .. | transferStart .. => .debug
  | remark _ level _ => level
  | _ => .error

open Text (hex)

def text : Notice → String
  | unknownOpcode opcode pc =>
    s!"68k: unimplemented opcode {hex 4 opcode.toNat} at {hex 6 pc.toNat}"
  | unmappedRead address => s!"68k attempted to read invalid memory at 0x{hex 6 address.toNat}"
  | unmappedWrite address => s!"68k attempted to write invalid memory at 0x{hex 6 address.toNat}"
  | cartridgeWrite address => s!"68k attempted to write to ROM at 0x{hex 6 address.toNat}"
  | z80WordRead address =>
    s!"68k attempted to perform word-sized read of Z80 memory at 0x{hex 6 address.toNat}"
  | z80WordWrite address =>
    s!"68k attempted to perform word-sized write of Z80 memory at 0x{hex 6 address.toNat}"
  | unmappedFetch address => s!"VDP attempted to read invalid memory at 0x{hex 6 address.toNat}"
  | cartridgeTooLarge size capacity =>
    s!"ROM image of {size} bytes is larger than the {capacity} byte cartridge buffer"
  | missingRegister index value =>
    s!"VDP: write to nonexistent register {index} ({hex 2 value.toNat})"
  | storeWithReadCode code => s!"VDP: data write with read code {hex 2 code.toNat}"
  | loadWithWriteCode code => s!"VDP: data read with write code {hex 2 code.toNat}"
  | transferStart source destination length code =>
    s!"VDP: 68k DMA {hex 6 source.toNat} -> {hex 4 destination.toNat} " ++
      s!"({length} words, code {hex 2 code.toNat})"
  | padRead data control lines =>
    s!"Joypad read: data={hex 2 data.toNat} control={hex 2 control.toNat} lines={hex 2 lines.toNat}"
  | lineInterrupt line => s!"H-INT after line {line.toNat}"
  | frameInterrupt => "V-INT"
  | remark _ _ text => text

end Notice

/-- A result together with the notices that arose on the way, in order. -/
structure Reported (α : Type) where
  value : α
  notices : List Notice := []

end Genesis
