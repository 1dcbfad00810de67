import Genesis.Cpu.Basic
import Genesis.Cpu.Instruction
import Genesis.Processor
import Genesis.Word

/-!
# Running the 68000

An instruction is carried out in full on the clock that fetches it; its cost is then counted down.
Interrupts push the program counter and the status register, and only a level above the mask, or the
seventh, is accepted.
-/

namespace Genesis
namespace Cpu

open BusProgram

def readLong (address : UInt32) : BusProgram UInt32 := do
  let high ← read address .both
  let low ← read (address + 2) .both
  return longOf high low

def fetchWord (cpu : Cpu) : BusProgram (UInt16 × Cpu) := do
  let word ← read cpu.pc .both
  return (word, { cpu with pc := cpu.pc + 2 })

def pushWord (value : UInt16) (cpu : Cpu) : BusProgram Cpu := do
  let cpu := cpu.setSp (cpu.sp - 2)
  write cpu.sp .both value
  return cpu

/-- Push a long word, lower half first. -/
def pushLong (value : UInt32) (cpu : Cpu) : BusProgram Cpu := do
  let cpu ← cpu.pushWord (lowWord value)
  cpu.pushWord (highWord value)

def popWord (cpu : Cpu) : BusProgram (UInt16 × Cpu) := do
  let value ← read cpu.sp .both
  return (value, cpu.setSp (cpu.sp + 2))

def popLong (cpu : Cpu) : BusProgram (UInt32 × Cpu) := do
  let (high, cpu) ← cpu.popWord
  let (low, cpu) ← cpu.popWord
  return (longOf high low, cpu)

def extendByte (b : UInt8) : UInt32 := b.toInt8.toInt32.toUInt32

def extendWord (w : UInt16) : UInt32 := w.toInt16.toInt32.toUInt32

def branchDisplacement (short : UInt8) (cpu : Cpu) : BusProgram (UInt32 × Cpu) :=
  if short = 0 then do
    let (word, cpu) ← cpu.fetchWord
    return (extendWord word, cpu)
  else
    return (extendByte short, cpu)

def perform (start : UInt32) (cpu : Cpu) : Instruction → BusProgram Cpu
  | .nop => return cpu
  | .stop => do
    let (sr, cpu) ← cpu.fetchWord
    return { cpu.setSr sr with stopped := true }
  | .returnFromException => do
    let (sr, cpu) ← cpu.popWord
    let (pc, cpu) ← cpu.popLong
    return { cpu.setSr sr with pc := pc }
  | .loadStatus => do
    let (sr, cpu) ← cpu.fetchWord
    return cpu.setSr sr
  | .branch short => do
    let (displacement, cpu) ← cpu.branchDisplacement short
    return { cpu with pc := start + 2 + displacement }
  | .unknown opcode => do
    note (.unknownOpcode opcode start)
    return cpu

/-- Fetch and carry out one instruction. -/
def execute (cpu : Cpu) : BusProgram (Instruction × Cpu) := do
  let start := cpu.pc
  let (opcode, cpu) ← cpu.fetchWord
  let instruction := Instruction.decode opcode
  let cpu ← cpu.perform start instruction
  return (instruction, cpu)

/-- One clock: count down, wait while stopped, or execute. -/
def cycle (cpu : Cpu) : BusProgram Cpu :=
  let cpu := { cpu with clock := cpu.clock + 1 }
  if 0 < cpu.countdown then return { cpu with countdown := cpu.countdown - 1 }
  else if cpu.stopped then return cpu
  else do
    let (instruction, cpu) ← cpu.execute
    return { cpu with countdown := instruction.cost - 1 }

/-- Enter supervisor mode with all interrupts masked and load the stack pointer and the program
counter from the first two long words. -/
def reset (cpu : Cpu) : BusProgram Cpu := do
  let cpu := { cpu with sr := supervisorBit ||| maskBits }
  let stack ← readLong 0
  let start ← readLong 4
  return { cpu.setSp stack with pc := start, stopped := false, countdown := 0, clock := 0 }

def accepts (cpu : Cpu) (level : UInt8) : Bool :=
  level == 7 || (level != 0 && cpu.interruptMask < level)

def serviceSr (sr : UInt16) (level : UInt8) : UInt16 :=
  ((sr ||| supervisorBit) &&& ~~~maskBits) ||| level.toUInt16 <<< 8

/-- Clocks that the entry of an interrupt takes, less the one it starts on. -/
def entryCost : UInt32 := 43

def interrupt (level : UInt8) (cpu : Cpu) : BusProgram Cpu :=
  let level := level &&& 7
  if cpu.accepts level then do
    let sr := cpu.sr
    let cpu := cpu.setSr (serviceSr sr level)
    let cpu ← cpu.pushLong cpu.pc
    let cpu ← cpu.pushWord sr
    let handler ← readLong ((24 + level.toUInt32) * 4)
    return { cpu with pc := handler, stopped := false, countdown := entryCost }
  else return cpu

instance : Processor Cpu where
  reset := reset
  cycle := cycle
  interrupt := interrupt

end Cpu
end Genesis
