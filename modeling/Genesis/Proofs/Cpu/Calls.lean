import Genesis.Cpu.Execution
import Genesis.Proofs.Dialogue

/-!
# Calls on the processor

A processor is clocked and asked for interrupts, one call after the other, on any bus: `answer` says
what each request gets, from a state of any type. A call does one of three things (`Deed`), and an
instruction neither reads nor changes the two counters (`execute_withCounters`).
-/

namespace Genesis
namespace Cpu

/-- A call on a processor that has been started. -/
inductive Call where
  | clock
  | interrupt (level : UInt8)
deriving DecidableEq

/-- What a call does on the bus. -/
def Call.program (cpu : Cpu) : Call → BusProgram Cpu
  | clock => cpu.cycle
  | interrupt level => cpu.interrupt level

/-- A request on the bus and what came back. -/
abbrev Exchange := (q : BusRequest) × q.Answer

def Exchange.stores (address : UInt32) (word : UInt16) : Exchange :=
  ⟨.write address .both word, ()⟩

def Exchange.loads (address : UInt32) (word : UInt16) : Exchange := ⟨.read address .both, word⟩

/-- The same registers with other counters. -/
def withCounters (cpu : Cpu) (countdown : UInt32) (clock : UInt64) : Cpu :=
  { cpu with countdown, clock }

@[simp] theorem withCounters_withCounters (cpu : Cpu) (m n : UInt32) (c d : UInt64) :
    (cpu.withCounters m c).withCounters n d = cpu.withCounters n d := rfl

@[simp] theorem countdown_withCounters (cpu : Cpu) (n : UInt32) (c : UInt64) :
    (cpu.withCounters n c).countdown = n := rfl

@[simp] theorem clock_withCounters (cpu : Cpu) (n : UInt32) (c : UInt64) :
    (cpu.withCounters n c).clock = c := rfl

@[simp] theorem stopped_withCounters (cpu : Cpu) (n : UInt32) (c : UInt64) :
    (cpu.withCounters n c).stopped = cpu.stopped := rfl

def counted (cpu : Cpu) : Cpu :=
  cpu.withCounters (if 0 < cpu.countdown then cpu.countdown - 1 else 0) (cpu.clock + 1)

theorem toNat_countdown_counted (cpu : Cpu) :
    cpu.counted.countdown.toNat = cpu.countdown.toNat - 1 := by
  simp only [counted, countdown_withCounters]
  split
  · rename_i waiting
    exact UInt32.toNat_sub_of_le _ _ (UInt32.le_iff_toNat_le.2 (UInt32.lt_iff_toNat_lt.1 waiting))
  · rename_i due
    have : ¬ 0 < cpu.countdown.toNat := fun h => due (UInt32.lt_iff_toNat_lt.2 h)
    simp only [UInt32.toNat_zero]
    omega

theorem cycle_of_idle {cpu : Cpu} (idle : cpu.countdown = 0 → cpu.stopped = true) :
    cpu.cycle = pure cpu.counted := by
  by_cases due : cpu.countdown = 0
  · simp [cycle, counted, withCounters, due, idle due]
  · have waiting : 0 < cpu.countdown := by grind
    simp [cycle, counted, withCounters, waiting]

/-- A clock that is not due for an instruction carries none out. -/
theorem stopped_of_not_ready {cpu : Cpu} (notReady : ¬ (cpu.countdown = 0 ∧ cpu.stopped = false)) :
    cpu.countdown = 0 → cpu.stopped = true := fun due =>
  Bool.of_not_eq_false fun running => notReady ⟨due, running⟩

theorem execute_eq (cpu : Cpu) :
    cpu.execute = Dialogue.ask (.read cpu.pc .both) fun word =>
      perform cpu.pc { cpu with pc := cpu.pc + 2 } (Instruction.decode word) >>= fun c =>
        pure (Instruction.decode word, c) := rfl

section Counters

variable (cpu : Cpu) (n : UInt32) (c : UInt64)

theorem fetchWord_withCounters :
    (cpu.withCounters n c).fetchWord =
      cpu.fetchWord >>= fun r => pure (r.1, r.2.withCounters n c) := rfl

theorem popWord_withCounters :
    (cpu.withCounters n c).popWord =
      cpu.popWord >>= fun r => pure (r.1, r.2.withCounters n c) := rfl

theorem popLong_withCounters :
    (cpu.withCounters n c).popLong =
      cpu.popLong >>= fun r => pure (r.1, r.2.withCounters n c) := rfl

theorem branchDisplacement_withCounters (short : UInt8) :
    (cpu.withCounters n c).branchDisplacement short =
      cpu.branchDisplacement short >>= fun r => pure (r.1, r.2.withCounters n c) := by
  unfold branchDisplacement
  split <;> rfl

theorem setSr_withCounters (w : UInt16) :
    (cpu.withCounters n c).setSr w = (cpu.setSr w).withCounters n c := by
  unfold setSr withCounters
  split <;> rfl

theorem perform_withCounters (start : UInt32) (i : Instruction) :
    (cpu.withCounters n c).perform start i =
      cpu.perform start i >>= fun r => pure (r.withCounters n c) := by
  cases i with
  | nop => rfl
  | stop =>
    simp only [perform, fetchWord_withCounters, bind_assoc, pure_bind, setSr_withCounters]
    rfl
  | returnFromException =>
    simp only [perform, popWord_withCounters, popLong_withCounters, bind_assoc, pure_bind,
      setSr_withCounters]
    rfl
  | loadStatus =>
    simp only [perform, fetchWord_withCounters, bind_assoc, pure_bind, setSr_withCounters]
  | branch short =>
    simp only [perform, branchDisplacement_withCounters, bind_assoc, pure_bind]
    rfl
  | unknown opcode => rfl

/-- What the counters hold makes no difference to an instruction, which leaves them alone. -/
theorem execute_withCounters :
    (cpu.withCounters n c).execute =
      cpu.execute >>= fun r => pure (r.1, r.2.withCounters n c) := by
  have same : (cpu.withCounters n c).pc = cpu.pc := rfl
  simp only [execute, same, fetchWord_withCounters, perform_withCounters, bind_assoc, pure_bind]

end Counters

theorem cycle_of_due {cpu : Cpu} (due : cpu.countdown = 0) (running : cpu.stopped = false) :
    cpu.cycle = cpu.execute >>= fun r =>
      pure (r.2.withCounters (r.1.cost - 1) (cpu.clock + 1)) := by
  have counting := execute_withCounters cpu cpu.countdown (cpu.clock + 1)
  have waiting : ¬ 0 < cpu.countdown := by simp [due]
  have halted : ¬ cpu.stopped = true := by simp [running]
  simp only [cycle]
  rw [if_neg waiting, if_neg halted]
  change ((cpu.withCounters cpu.countdown (cpu.clock + 1)).execute >>= fun r => _) = _
  rw [counting]
  simp only [bind_assoc, pure_bind]
  rfl

theorem ends_cycle_clock (cpu : Cpu) : cpu.cycle.Ends fun c => c.clock = cpu.clock + 1 := by
  by_cases ready : cpu.countdown = 0 ∧ cpu.stopped = false
  · rw [cycle_of_due ready.1 ready.2]
    exact (Dialogue.ends_of_forall (fun _ => trivial) _).bind fun _ (_ : True) => rfl
  · rw [cycle_of_idle (stopped_of_not_ready ready)]
    rfl

section Runs

variable {μ : Type} (answer : (q : BusRequest) → μ → q.Answer × μ)

def call (s : Cpu × μ) (c : Call) : Cpu × μ := (c.program s.1).run answer s.2

def callAll (calls : List Call) (s : Cpu × μ) : Cpu × μ := calls.foldl (call answer) s

/-- What a call exchanges with the bus. -/
def exchanges (s : Cpu × μ) (c : Call) : List Exchange := (c.program s.1).transcript answer s.2

def exchangesAll : List Call → Cpu × μ → List Exchange
  | [], _ => []
  | c :: calls, s => exchanges answer s c ++ exchangesAll calls (call answer s c)

theorem callAll_append (calls more : List Call) (s : Cpu × μ) :
    callAll answer (calls ++ more) s = callAll answer more (callAll answer calls s) :=
  List.foldl_append

theorem exchangesAll_append (calls more : List Call) (s : Cpu × μ) :
    exchangesAll answer (calls ++ more) s =
      exchangesAll answer calls s ++ exchangesAll answer more (callAll answer calls s) := by
  induction calls generalizing s with
  | nil => rfl
  | cons c calls ih =>
    rw [List.cons_append, exchangesAll, ih, exchangesAll, List.append_assoc]
    rfl

/-- What a call makes the processor do. -/
inductive Deed where
  /-- Count a clock, or ignore a request. -/
  | idle
  | instruction (i : Instruction)
  /-- Enter the handler of an accepted request. -/
  | entry (level : UInt8)
deriving DecidableEq

/-- A clock on which nothing is left to count carries out an instruction, unless the processor has
stopped; a request enters its handler if it is accepted. -/
def deed (s : Cpu × μ) : Call → Deed
  | .clock =>
    if s.1.countdown = 0 ∧ s.1.stopped = false then
      .instruction (s.1.execute.run answer s.2).1.1
    else .idle
  | .interrupt level =>
    if s.1.accepts (level &&& 7) then .entry (level &&& 7) else .idle

/-- What calls in order make the processor do, each with the mode that it finds: true is supervisor
mode. -/
def history : List Call → Cpu × μ → List (Bool × Deed)
  | [], _ => []
  | c :: calls, s => (s.1.isSupervisor, deed answer s c) :: history calls (call answer s c)

variable {s : Cpu × μ}

theorem call_clock_of_idle (idle : s.1.countdown = 0 → s.1.stopped = true) :
    call answer s .clock = (s.1.counted, s.2) ∧ exchanges answer s .clock = [] := by
  simp [call, exchanges, Call.program, cycle_of_idle idle]

theorem call_clock_of_due (due : s.1.countdown = 0) (running : s.1.stopped = false) :
    let r := s.1.execute.run answer s.2
    call answer s .clock =
        (r.1.2.withCounters (r.1.1.cost - 1) (s.1.clock + 1), r.2) ∧
      exchanges answer s .clock = s.1.execute.transcript answer s.2 := by
  simp [call, exchanges, Call.program, cycle_of_due due running, Dialogue.run_bind,
    Dialogue.transcript_bind]

end Runs

/-- The states that resets and calls can lead to from a new processor, each on any memory. -/
inductive Reachable : Cpu → Prop where
  | initial : Reachable {}
  | reset {cpu : Cpu} {μ : Type} (answer : (q : BusRequest) → μ → q.Answer × μ) (x : μ) :
    Reachable cpu → Reachable (cpu.reset.run answer x).1
  | call {cpu : Cpu} {μ : Type} (answer : (q : BusRequest) → μ → q.Answer × μ) (x : μ) (c : Call) :
    Reachable cpu → Reachable (call answer (cpu, x) c).1

end Cpu
end Genesis
