import Genesis.Proofs.Cpu.StackPointers

/-!
# The user's stack pointer and a reset

A reset selects supervisor mode and loads the active stack pointer from the first vector; the
waiting one stays where it is. In supervisor mode that is the user's pointer. In user mode it is the
supervisor's, which then waits in the place of the user's, and the user's own is overwritten
(`user_pointer_survives_reset_iff`).
-/

namespace Genesis
namespace Cpu

def restarted (cpu : Cpu) (stack start : UInt32) : Cpu :=
  { cpu.setSp stack with
    sr := supervisorBit ||| maskBits, pc := start, stopped := false, countdown := 0, clock := 0 }

theorem isSupervisor_restarted (cpu : Cpu) (stack start : UInt32) :
    (cpu.restarted stack start).isSupervisor = true := by
  have sr : (cpu.restarted stack start).sr = supervisorBit ||| maskBits := rfl
  rw [isSupervisor_eq, sr]
  decide

theorem sp_restarted (cpu : Cpu) (stack start : UInt32) :
    (cpu.restarted stack start).sp = stack := sp_setSp cpu stack

theorem inactiveSp_eq_ite (cpu : Cpu) :
    cpu.inactiveSp = if cpu.isSupervisor then cpu.usp else cpu.ssp := by
  unfold usp ssp
  split <;> rfl

theorem inactiveSp_eq_usp_iff (cpu : Cpu) :
    cpu.inactiveSp = cpu.usp ↔ cpu.isSupervisor = true ∨ cpu.usp = cpu.ssp := by
  rw [inactiveSp_eq_ite]
  cases mode : cpu.isSupervisor with
  | true => simp
  | false => simp [eq_comm]

theorem run_reset {μ : Type} (answer : (q : BusRequest) → μ → q.Answer × μ) (cpu : Cpu) (x : μ) :
    ∃ high low high' low',
      cpu.reset.transcript answer x =
        [Exchange.loads 0 high, Exchange.loads 2 low,
         Exchange.loads 4 high', Exchange.loads 6 low'] ∧
      (cpu.reset.run answer x).1 = cpu.restarted (longOf high low) (longOf high' low') :=
  ⟨_, _, _, _, rfl, rfl⟩

/-- On any memory and from any state, a reset leaves the processor in supervisor mode with the long
word at address 0 for its stack pointer. The pointer that then waits for the user is the user's own
if the processor was in supervisor mode, and the supervisor's if it was in user mode; so the user's
pointer survives just in supervisor mode, or where the two are equal. -/
theorem user_pointer_survives_reset_iff {μ : Type}
    (answer : (q : BusRequest) → μ → q.Answer × μ) (cpu : Cpu) (x : μ) :
    let next := (cpu.reset.run answer x).1
    (∃ high low high' low',
      cpu.reset.transcript answer x =
        [Exchange.loads 0 high, Exchange.loads 2 low,
         Exchange.loads 4 high', Exchange.loads 6 low'] ∧
      next.isSupervisor = true ∧ next.sp = longOf high low) ∧
    next.inactiveSp = (if cpu.isSupervisor then cpu.usp else cpu.ssp) ∧
    (next.inactiveSp = cpu.usp ↔ cpu.isSupervisor = true ∨ cpu.usp = cpu.ssp) := by
  obtain ⟨high, low, high', low', reads, restarts⟩ := run_reset answer cpu x
  intro next
  have next_eq : next = cpu.restarted (longOf high low) (longOf high' low') := restarts
  have waits : next.inactiveSp = cpu.inactiveSp := by
    rw [next_eq]
    rfl
  refine ⟨⟨high, low, high', low', reads, ?_, ?_⟩, ?_, ?_⟩
  · rw [next_eq, isSupervisor_restarted]
  · rw [next_eq, sp_restarted]
  · rw [waits, inactiveSp_eq_ite]
  · rw [waits, inactiveSp_eq_usp_iff]

/-- A program that goes to user mode at once: its stack pointer is 0, and after a reset the
supervisor's waits in its place. -/
theorem reset_overwrites_user_pointer :
    let answer : (q : BusRequest) → (UInt32 → UInt16) → q.Answer × (UInt32 → UInt16) := fun
      | .read address _, words => (words address, words)
      | .write address _ word, words => ((), fun a => if a = address then word else words a)
      | .note _, words => ((), words)
    let words : UInt32 → UInt16 := fun a =>
      if a = 2 then 0xF000 else if a = 6 then 0x0200 else if a = 0x0200 then 0x46FC else 0
    let user := (call answer (({} : Cpu).reset.run answer words) .clock).1
    user.Reachable ∧ user.isSupervisor = false ∧ user.usp = 0 ∧ user.ssp = 0xF000 ∧
      (user.reset.run answer words).1.inactiveSp = 0xF000 := by
  intro answer words user
  refine ⟨?_, by decide, by decide, by decide, by decide⟩
  exact .call answer _ .clock (.reset answer words .initial)

end Cpu
end Genesis
