import Genesis.Cpu.Execution
import Genesis.Proofs.Guarded.Basic

/-!
# The processor under guard

The stack pointer is reached by its number among the address registers, and the clocks left to an
instruction are counted without going below zero. Every instruction costs at least one clock, so
the processor never fails a check, whatever the bus answers.
-/

namespace Genesis
namespace Guarded

open BusProgram (read write)
open Genesis.Cpu (Instruction supervisorBit maskBits serviceSr entryCost readLong)

section Registers

def sp (cpu : Cpu) : Guarded UInt32 := peek cpu.a 7

def setSp (cpu : Cpu) (value : UInt32) : Guarded Cpu := do
  let a ← poke cpu.a 7 value
  return { cpu with a }

def setSr (cpu : Cpu) (value : UInt16) : Guarded Cpu :=
  if (cpu.sr ^^^ value) &&& supervisorBit = 0 then return { cpu with sr := value }
  else do
    let active ← sp cpu
    let cpu ← setSp cpu cpu.inactiveSp
    return { cpu with inactiveSp := active, sr := value }

variable (cpu : Cpu)

@[simp] theorem sp_eq : sp cpu = .ok cpu.sp := peek_of_eq cpu.a 7 rfl

@[simp] theorem setSp_eq (value : UInt32) : setSp cpu value = .ok (cpu.setSp value) := by
  have stored : poke cpu.a 7 value = .ok (cpu.a.put 7 value) := poke_of_eq cpu.a 7 rfl value
  rw [setSp, stored]
  rfl

@[simp] theorem setSr_eq (value : UInt16) : setSr cpu value = .ok (cpu.setSr value) := by
  simp only [setSr, sp_eq, setSp_eq, ok_bind]
  exact (apply_ite _ _ _ _).symm

end Registers

section Execution

def pushWord (value : UInt16) (cpu : Cpu) : Program BusRequest BusRequest.Answer Cpu := do
  let top ← sp cpu
  let cpu ← setSp cpu (top - 2)
  let top ← sp cpu
  write top .both value
  return cpu

def pushLong (value : UInt32) (cpu : Cpu) : Program BusRequest BusRequest.Answer Cpu := do
  let cpu ← pushWord (lowWord value) cpu
  pushWord (highWord value) cpu

def popWord (cpu : Cpu) : Program BusRequest BusRequest.Answer (UInt16 × Cpu) := do
  let top ← sp cpu
  let value ← read top .both
  let cpu ← setSp cpu (top + 2)
  return (value, cpu)

def popLong (cpu : Cpu) : Program BusRequest BusRequest.Answer (UInt32 × Cpu) := do
  let (high, cpu) ← popWord cpu
  let (low, cpu) ← popWord cpu
  return (longOf high low, cpu)

def perform (start : UInt32) (cpu : Cpu) : Instruction → Program BusRequest BusRequest.Answer Cpu
  | .nop => return cpu
  | .stop => do
    let (sr, cpu) ← cpu.fetchWord
    let cpu ← setSr cpu sr
    return { cpu with stopped := true }
  | .returnFromException => do
    let (sr, cpu) ← popWord cpu
    let (pc, cpu) ← popLong cpu
    let cpu ← setSr cpu sr
    return { cpu with pc }
  | .loadStatus => do
    let (sr, cpu) ← cpu.fetchWord
    setSr cpu sr
  | .branch short => do
    let (displacement, cpu) ← cpu.branchDisplacement short
    return { cpu with pc := start + 2 + displacement }
  | .unknown opcode => do
    BusProgram.note (.unknownOpcode opcode start)
    return cpu

def execute (cpu : Cpu) : Program BusRequest BusRequest.Answer (Instruction × Cpu) := do
  let start := cpu.pc
  let (opcode, cpu) ← cpu.fetchWord
  let instruction := Instruction.decode opcode
  let cpu ← perform start cpu instruction
  return (instruction, cpu)

/-- One clock. The clock counter has 64 bits and is left to wrap around. -/
def cycle (cpu : Cpu) : Program BusRequest BusRequest.Answer Cpu :=
  let cpu := { cpu with clock := cpu.clock + 1 }
  if 0 < cpu.countdown then do
    let countdown ← sub cpu.countdown 1
    return { cpu with countdown }
  else if cpu.stopped then return cpu
  else do
    let (instruction, cpu) ← execute cpu
    let countdown ← sub instruction.cost 1
    return { cpu with countdown }

def reset (cpu : Cpu) : Program BusRequest BusRequest.Answer Cpu := do
  let cpu := { cpu with sr := supervisorBit ||| maskBits }
  let stack ← readLong 0
  let start ← readLong 4
  let cpu ← setSp cpu stack
  return { cpu with pc := start, stopped := false, countdown := 0, clock := 0 }

def vector (level : UInt8) : Guarded UInt32 := do
  let number ← add 24 level.toUInt32
  mul number 4

def interrupt (level : UInt8) (cpu : Cpu) : Program BusRequest BusRequest.Answer Cpu :=
  let level := level &&& 7
  if cpu.accepts level then do
    let sr := cpu.sr
    let cpu ← setSr cpu (serviceSr sr level)
    let cpu ← pushLong cpu.pc cpu
    let cpu ← pushWord sr cpu
    let address ← vector level
    let handler ← readLong address
    return { cpu with pc := handler, stopped := false, countdown := entryCost }
  else return cpu

variable (cpu : Cpu)

@[simp] theorem pushWord_eq (value : UInt16) : pushWord value cpu = liftM (cpu.pushWord value) := by
  simp only [pushWord, sp_eq, setSp_eq, liftM_ok, pure_bind, Genesis.Cpu.pushWord, liftM_bind,
    liftM_pure]

@[simp] theorem pushLong_eq (value : UInt32) : pushLong value cpu = liftM (cpu.pushLong value) := by
  simp only [pushLong, pushWord_eq, Genesis.Cpu.pushLong, liftM_bind]

@[simp] theorem popWord_eq : popWord cpu = liftM cpu.popWord := by
  simp only [popWord, sp_eq, setSp_eq, liftM_ok, pure_bind, Genesis.Cpu.popWord, liftM_bind,
    liftM_pure]

@[simp] theorem popLong_eq : popLong cpu = liftM cpu.popLong := by
  simp only [popLong, popWord_eq, Genesis.Cpu.popLong, liftM_bind, liftM_pure]

@[simp] theorem perform_eq (start : UInt32) (i : Instruction) :
    perform start cpu i = liftM (cpu.perform start i) := by
  cases i with
  | returnFromException =>
    simp only [perform, popWord_eq, popLong_eq, setSr_eq, liftM_ok, pure_bind, Genesis.Cpu.perform,
      liftM_bind, liftM_pure]
  | _ =>
    simp only [perform, setSr_eq, liftM_ok, pure_bind, Genesis.Cpu.perform, liftM_bind, liftM_pure]

@[simp] theorem execute_eq : execute cpu = liftM cpu.execute := by
  simp only [execute, perform_eq, Genesis.Cpu.execute, liftM_bind, liftM_pure]

theorem sub_cost (i : Instruction) : sub i.cost 1 = .ok (i.cost - 1) := by
  have dear := i.four_le_cost
  have one : (1 : UInt32).toNat = 1 := rfl
  exact sub_of_le (by omega)

theorem sub_countdown {n : UInt32} (h : 0 < n) : sub n 1 = .ok (n - 1) :=
  sub_of_le (UInt32.lt_iff_toNat_lt.1 h)

@[simp] theorem cycle_eq : cycle cpu = liftM cpu.cycle := by
  simp only [cycle, Genesis.Cpu.cycle]
  split
  · rename_i waiting
    rw [sub_countdown waiting]
    rfl
  · split
    · rfl
    · simp only [execute_eq, sub_cost, liftM_ok, pure_bind, liftM_bind, liftM_pure]

@[simp] theorem reset_eq : reset cpu = liftM cpu.reset := by
  simp only [reset, setSp_eq, liftM_ok, pure_bind, Genesis.Cpu.reset, liftM_bind, liftM_pure]

theorem vector_eq {level : UInt8} (h : level.toNat < 8) :
    vector level = .ok ((24 + level.toUInt32) * 4) := by
  have number : (24 + level.toUInt32).toNat = 24 + level.toNat := by
    rw [UInt32.toNat_add, UInt8.toNat_toUInt32]
    exact Nat.mod_eq_of_lt (by simp; omega)
  have sum : (24 : UInt32).toNat + level.toUInt32.toNat < 4294967296 := by
    rw [UInt8.toNat_toUInt32]
    simp
    omega
  have product : (24 + level.toUInt32).toNat * (4 : UInt32).toNat < 4294967296 := by
    rw [number]
    simp
    omega
  rw [vector, add_of_lt sum, ok_bind, mul_of_lt product]

@[simp] theorem interrupt_eq (level : UInt8) :
    interrupt level cpu = liftM (cpu.interrupt level) := by
  have low : (level &&& 7).toNat < 8 := by
    rw [UInt8.toNat_and]
    exact Nat.lt_succ_of_le Nat.and_le_right
  simp only [interrupt, setSr_eq, pushLong_eq, pushWord_eq, vector_eq low, liftM_ok, pure_bind,
    Genesis.Cpu.interrupt]
  split
  · simp only [liftM_bind, liftM_pure]
  · rfl

end Execution

end Guarded
end Genesis
