/-!
# The instructions of the 68000 that are carried out

A first word selects one of five instructions; every other word counts as a short pause.
-/

namespace Genesis
namespace Cpu

/-- What a first instruction word asks for. -/
inductive Instruction where
  | nop
  /-- Load the status register from the next word and stop. -/
  | stop
  | returnFromException
  /-- Load the status register from the next word. -/
  | loadStatus
  /-- Branch by a signed byte; zero stands for a displacement in the next word. -/
  | branch (displacement : UInt8)
  | unknown (opcode : UInt16)
deriving DecidableEq, Repr

namespace Instruction

def decode (opcode : UInt16) : Instruction :=
  if opcode = 0x4E71 then nop
  else if opcode = 0x4E72 then stop
  else if opcode = 0x4E73 then returnFromException
  else if opcode = 0x46FC then loadStatus
  else if opcode >>> 8 = 0x60 then branch opcode.toUInt8
  else unknown opcode

def cost : Instruction → UInt32
  | nop | stop | unknown _ => 4
  | returnFromException => 20
  | loadStatus => 12
  | branch _ => 10

theorem four_le_cost (i : Instruction) : 4 ≤ i.cost.toNat := by cases i <;> simp [cost]

theorem cost_le_twenty (i : Instruction) : i.cost.toNat ≤ 20 := by cases i <;> simp [cost]

end Instruction
end Cpu
end Genesis
