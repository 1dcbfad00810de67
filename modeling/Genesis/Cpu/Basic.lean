import Genesis.Bank

/-!
# Registers of the 68000

Address register 7 is the stack pointer of the current mode; the pointer of the other mode waits
beside it. `usp` and `ssp` name the two pointers independently of the mode.
-/

namespace Genesis

structure Cpu where
  /-- Data registers. -/
  d : Bank UInt32 8 := Bank.fill 8 0
  /-- Address registers; the last one is the active stack pointer. -/
  a : Bank UInt32 8 := Bank.fill 8 0
  /-- Stack pointer of the mode that is not active. -/
  inactiveSp : UInt32 := 0
  pc : UInt32 := 0
  sr : UInt16 := 0
  stopped : Bool := false
  /-- Clocks left before the next instruction is fetched. -/
  countdown : UInt32 := 0
  /-- Clocks since the last reset. -/
  clock : UInt64 := 0
deriving DecidableEq

namespace Cpu

def supervisorBit : UInt16 := 0x2000

/-- The bits of the status register that hold the interrupt mask. -/
def maskBits : UInt16 := 0x0700

def isSupervisor (cpu : Cpu) : Bool := cpu.sr &&& supervisorBit != 0

/-- Requests at or below this level are ignored. -/
def interruptMask (cpu : Cpu) : UInt8 := ((cpu.sr &&& maskBits) >>> 8).toUInt8

/-- The active stack pointer. -/
def sp (cpu : Cpu) : UInt32 := cpu.a.get 7

def setSp (cpu : Cpu) (value : UInt32) : Cpu := { cpu with a := cpu.a.put 7 value }

def usp (cpu : Cpu) : UInt32 := if cpu.isSupervisor then cpu.inactiveSp else cpu.sp

def ssp (cpu : Cpu) : UInt32 := if cpu.isSupervisor then cpu.sp else cpu.inactiveSp

/-- Replace the status register; the stack pointers change places when the supervisor bit changes.
-/
def setSr (cpu : Cpu) (value : UInt16) : Cpu :=
  if (cpu.sr ^^^ value) &&& supervisorBit = 0 then { cpu with sr := value }
  else { cpu.setSp cpu.inactiveSp with inactiveSp := cpu.sp, sr := value }

@[simp] theorem sp_setSp (cpu : Cpu) (value : UInt32) : (cpu.setSp value).sp = value := by
  simp [sp, setSp]

@[simp] theorem sr_setSr (cpu : Cpu) (value : UInt16) : (cpu.setSr value).sr = value := by
  simp only [setSr]
  split <;> rfl

end Cpu
end Genesis
