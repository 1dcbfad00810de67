import Genesis.Proofs.Cpu.Calls
import Genesis.Proofs.Cpu.Interrupt
import Genesis.Vdp.Raster

/-!
# The two stack pointers

The active stack pointer and the waiting one change places with the mode. Named by their modes they
never do: a frame is pushed below the supervisor's pointer, a frame is popped above the pointer of
the mode that returns, and nothing else moves either of them (`pointers_call`). So a run is known
from its returns in each mode and its accepted requests (`stack_pointers_count_frames`).
-/

namespace Genesis
namespace Cpu

open Dialogue (Ends)

def pointers (cpu : Cpu) : UInt32 × UInt32 := (cpu.usp, cpu.ssp)

@[simp] theorem pointers_setSr (cpu : Cpu) (w : UInt16) :
    (cpu.setSr w).pointers = cpu.pointers := by
  have mode : supervises (cpu.setSr w).sr = supervises w := congrArg supervises (sr_setSr cpu w)
  simp only [pointers, usp, ssp, isSupervisor_eq, mode]
  rw [setSr_eq_ite]
  cases hw : supervises w <;> cases hs : supervises cpu.sr <;> simp [sp, setSp]

theorem pointers_setSp (cpu : Cpu) (value : UInt32) :
    (cpu.setSp value).pointers =
      if cpu.isSupervisor then (cpu.usp, value) else (value, cpu.ssp) := by
  have mode : (cpu.setSp value).isSupervisor = cpu.isSupervisor := rfl
  simp only [pointers, usp, ssp, mode, sp_setSp]
  split <;> rfl

def Deed.move (supervisor : Bool) : Deed → UInt32 × UInt32 → UInt32 × UInt32
  | instruction .returnFromException, (user, system) =>
    if supervisor then (user, system + 6) else (user + 6, system)
  | entry _, (user, system) => (user, system - 6)
  | _, pointers => pointers

/-- The handler of a request was entered. -/
def Deed.isEntry : Deed → Bool
  | entry _ => true
  | _ => false

theorem Deed.move_instruction {i : Instruction} (other : i ≠ .returnFromException)
    (supervisor : Bool) (pointers : UInt32 × UInt32) :
    (Deed.instruction i).move supervisor pointers = pointers := by
  cases i with
  | returnFromException => exact absurd rfl other
  | _ => rfl

def returns (supervisor : Bool) (deeds : List (Bool × Deed)) : Nat :=
  deeds.count (supervisor, .instruction .returnFromException)

def entries (deeds : List (Bool × Deed)) : Nat := deeds.countP fun d => d.2.isEntry

/-- Six for every return in its mode, and six back for every entry. -/
def tally (deeds : List (Bool × Deed)) (pointers : UInt32 × UInt32) : UInt32 × UInt32 :=
  (pointers.1 + 6 * UInt32.ofNat (returns false deeds),
    pointers.2 + 6 * UInt32.ofNat (returns true deeds) - 6 * UInt32.ofNat (entries deeds))

theorem tally_cons (supervisor : Bool) (d : Deed) (deeds : List (Bool × Deed))
    (pointers : UInt32 × UInt32) :
    tally ((supervisor, d) :: deeds) pointers = tally deeds (d.move supervisor pointers) := by
  have one : UInt32.ofNat 1 = 1 := rfl
  by_cases back : d = .instruction .returnFromException
  · subst back
    cases supervisor <;>
      simp [tally, returns, entries, Deed.move, Deed.isEntry, UInt32.ofNat_add, one] <;> grind
  · have none : ∀ mode, returns mode ((supervisor, d) :: deeds) = returns mode deeds := fun mode =>
      List.count_cons_of_ne fun same => back (congrArg Prod.snd same)
    cases d with
    | idle => simp [tally, none, entries, Deed.move, Deed.isEntry]
    | instruction i =>
      have other : i ≠ .returnFromException := fun same => back (congrArg Deed.instruction same)
      simp [tally, none, entries, Deed.move_instruction other, Deed.isEntry]
    | entry level =>
      simp [tally, none, entries, Deed.move, Deed.isEntry, UInt32.ofNat_add, one]
      grind

section Programs

variable (cpu : Cpu)

theorem ends_popWord : cpu.popWord.Ends fun r => r.2 = cpu.setSp (cpu.sp + 2) := fun _ => rfl

theorem ends_popLong : cpu.popLong.Ends fun r => r.2 = cpu.setSp (cpu.sp + 4) := by
  refine (ends_popWord cpu).bind fun r first => (ends_popWord r.2).bind fun r' second => ?_
  refine second.trans ?_
  rw [first, sp_setSp, setSp_setSp, show cpu.sp + 2 + 2 = cpu.sp + 4 by grind]

theorem ends_perform_return (start : UInt32) :
    (cpu.perform start .returnFromException).Ends fun c => ∃ pc sr, c = cpu.unwound pc sr := by
  refine (ends_popWord cpu).bind fun r first => (ends_popLong r.2).bind fun r' second => ?_
  refine ⟨r'.1, r.1, ?_⟩
  rw [second, first, sp_setSp, setSp_setSp, show cpu.sp + 2 + 4 = cpu.sp + 6 by grind]
  rfl

theorem pointers_unwound (pc : UInt32) (sr : UInt16) :
    (cpu.unwound pc sr).pointers =
      (Deed.instruction .returnFromException).move cpu.isSupervisor cpu.pointers := by
  have moved : (cpu.unwound pc sr).pointers = (cpu.setSp (cpu.sp + 6)).pointers :=
    pointers_setSr (cpu.setSp (cpu.sp + 6)) sr
  rw [moved, pointers_setSp]
  cases mode : cpu.isSupervisor <;> simp [Deed.move, pointers, usp, ssp, mode]

/-- Every other instruction leaves both pointers alone, whatever it loads. -/
theorem ends_perform_pointers (start : UInt32) {i : Instruction}
    (other : i ≠ .returnFromException) :
    (cpu.perform start i).Ends fun c => c.pointers = cpu.pointers := by
  cases i with
  | nop => rfl
  | stop => exact fun w => pointers_setSr _ w
  | returnFromException => exact absurd rfl other
  | loadStatus => exact fun w => pointers_setSr _ w
  | branch short =>
    simp only [perform, branchDisplacement]
    split
    · exact fun _ => rfl
    · rfl
  | unknown opcode => exact fun _ => rfl

theorem ends_execute_pointers :
    cpu.execute.Ends fun r =>
      r.2.pointers = (Deed.instruction r.1).move cpu.isSupervisor cpu.pointers := by
  intro word
  let fetched : Cpu := { cpu with pc := cpu.pc + 2 }
  change (fetched.perform cpu.pc (Instruction.decode word) >>= fun c =>
    pure (Instruction.decode word, c)).Ends _
  by_cases returns : Instruction.decode word = .returnFromException
  · rw [returns]
    refine (ends_perform_return fetched cpu.pc).bind ?_
    rintro c ⟨pc, sr, rfl⟩
    exact pointers_unwound fetched pc sr
  · refine (ends_perform_pointers fetched cpu.pc returns).bind fun c same => ?_
    exact same.trans (Deed.move_instruction returns _ _).symm

theorem pointers_entered (level : UInt8) (handler : UInt32) :
    (cpu.entered level handler).pointers =
      (Deed.entry level).move cpu.isSupervisor cpu.pointers := by
  let service := cpu.setSr (serviceSr cpu.sr level)
  have moved : (cpu.entered level handler).pointers = (service.setSp (cpu.ssp - 6)).pointers := rfl
  have mode : service.isSupervisor = true := by
    rw [isSupervisor_eq, sr_setSr, supervises_serviceSr]
  have user : service.usp = cpu.usp := congrArg Prod.fst (pointers_setSr cpu _)
  rw [moved, pointers_setSp, if_pos mode, user]
  rfl

end Programs

section Calls

variable {μ : Type} (answer : (q : BusRequest) → μ → q.Answer × μ) (s : Cpu × μ)

theorem transcript_pushWord (cpu : Cpu) (value : UInt16) (x : μ) :
    (cpu.pushWord value).transcript answer x = [Exchange.stores (cpu.sp - 2) value] := by
  simp only [pushWord, sp_setSp]
  rfl

theorem transcript_pushLong (cpu : Cpu) (value : UInt32) (x : μ) :
    (cpu.pushLong value).transcript answer x =
      [Exchange.stores (cpu.sp - 2) (lowWord value),
       Exchange.stores (cpu.sp - 4) (highWord value)] := by
  have first := (ends_pushWord cpu (lowWord value)).run answer x
  have four : cpu.sp - 2 - 2 = cpu.sp - 4 := by grind
  simp only [pushLong, Dialogue.transcript_bind, transcript_pushWord, first, sp_setSp, four]
  rfl

theorem pointers_call (c : Call) :
    (call answer s c).1.pointers =
      (deed answer s c).move s.1.isSupervisor s.1.pointers := by
  cases c with
  | clock =>
    by_cases ready : s.1.countdown = 0 ∧ s.1.stopped = false
    · rw [deed, if_pos ready, (call_clock_of_due answer ready.1 ready.2).1]
      exact (ends_execute_pointers s.1).run answer s.2
    · rw [deed, if_neg ready, (call_clock_of_idle answer (stopped_of_not_ready ready)).1]
      rfl
  | interrupt level =>
    by_cases accepts : s.1.accepts (level &&& 7) = true
    · rw [deed, if_pos accepts]
      obtain ⟨handler, entered⟩ := (ends_interrupt_of_accepts s.1 accepts).run answer s.2
      exact (congrArg pointers entered).trans (pointers_entered s.1 _ handler)
    · have ignored : call answer s (.interrupt level) = s := by
        simp only [call, Call.program, interrupt, if_neg accepts]
        rfl
      rw [deed, if_neg accepts, ignored]
      rfl

theorem exchanges_of_accepts {level : UInt8} (accepts : s.1.accepts (level &&& 7) = true) :
    ∃ high low,
      let vector := (24 + (level &&& 7).toUInt32) * 4
      exchanges answer s (.interrupt level) =
        [Exchange.stores (s.1.ssp - 2) (lowWord s.1.pc),
         Exchange.stores (s.1.ssp - 4) (highWord s.1.pc),
         Exchange.stores (s.1.ssp - 6) s.1.sr,
         Exchange.loads vector high, Exchange.loads (vector + 2) low] := by
  have sp := sp_setSr_of_supervises s.1 (supervises_serviceSr s.1.sr (level &&& 7))
  have six : s.1.ssp - 4 - 2 = s.1.ssp - 6 := by grind
  simp only [exchanges, Call.program, interrupt, if_pos accepts, Dialogue.transcript_bind,
    transcript_pushLong, transcript_pushWord, (ends_pushLong _ _).run answer _, sp_setSp, sp, six,
    pc_setSr]
  exact ⟨_, _, rfl⟩

theorem pointers_callAll (calls : List Call) :
    (callAll answer calls s).1.pointers = tally (history answer calls s) s.1.pointers := by
  induction calls generalizing s with
  | nil => simp [callAll, history, tally, returns, entries, pointers]
  | cons c calls ih =>
    rw [history, tally_cons, ← pointers_call]
    exact ih (call answer s c)

end Calls

/-- The active stack pointer and the waiting one are the user's and the supervisor's, on any memory
and in any run: an accepted request takes exactly six bytes off the supervisor's and writes its
three words there, whichever mode it interrupts; a return gives six bytes back to the pointer of
the mode that carries it out, whichever mode it selects; every other instruction, and every clock
and request that does nothing, leaves both alone. So after any calls the pointers are known from
how often each mode returned and how often a request was accepted. -/
theorem stack_pointers_count_frames {μ : Type} (answer : (q : BusRequest) → μ → q.Answer × μ) :
    (∀ (s : Cpu × μ) (level : UInt8), s.1.accepts (level &&& 7) = true →
      let next := call answer s (.interrupt level)
      next.1.ssp = s.1.ssp - 6 ∧ next.1.usp = s.1.usp ∧
      ∃ high low,
        let vector := (24 + (level &&& 7).toUInt32) * 4
        exchanges answer s (.interrupt level) =
          [Exchange.stores (s.1.ssp - 2) (lowWord s.1.pc),
           Exchange.stores (s.1.ssp - 4) (highWord s.1.pc),
           Exchange.stores (s.1.ssp - 6) s.1.sr,
           Exchange.loads vector high, Exchange.loads (vector + 2) low]) ∧
    (∀ s : Cpu × μ, deed answer s .clock = .instruction .returnFromException →
      let next := call answer s .clock
      if s.1.isSupervisor then next.1.ssp = s.1.ssp + 6 ∧ next.1.usp = s.1.usp
      else next.1.usp = s.1.usp + 6 ∧ next.1.ssp = s.1.ssp) ∧
    (∀ (s : Cpu × μ) (c : Call), deed answer s c ≠ .instruction .returnFromException →
      (deed answer s c).isEntry = false →
      (call answer s c).1.usp = s.1.usp ∧ (call answer s c).1.ssp = s.1.ssp) ∧
    ∀ (s : Cpu × μ) (calls : List Call),
      let last := callAll answer calls s
      let deeds := history answer calls s
      last.1.usp = s.1.usp + 6 * UInt32.ofNat (returns false deeds) ∧
      last.1.ssp = s.1.ssp + 6 * UInt32.ofNat (returns true deeds) -
        6 * UInt32.ofNat (entries deeds) := by
  refine ⟨fun s level accepts => ?_, fun s back => ?_, fun s c other stays => ?_, fun s calls => ?_⟩
  · have moved := pointers_call answer s (.interrupt level)
    rw [deed, if_pos accepts] at moved
    exact ⟨congrArg Prod.snd moved, congrArg Prod.fst moved, exchanges_of_accepts answer s accepts⟩
  · have moved := pointers_call answer s .clock
    rw [back] at moved
    cases mode : s.1.isSupervisor with
    | true =>
      rw [mode] at moved
      exact ⟨congrArg Prod.snd moved, congrArg Prod.fst moved⟩
    | false =>
      rw [mode] at moved
      exact ⟨congrArg Prod.fst moved, congrArg Prod.snd moved⟩
  · have moved := pointers_call answer s c
    have none : (deed answer s c).move s.1.isSupervisor s.1.pointers = s.1.pointers := by
      cases h : deed answer s c with
      | idle => rfl
      | instruction i =>
        exact Deed.move_instruction (fun same => other (h.trans (congrArg _ same))) _ _
      | entry level => simp [h, Deed.isEntry] at stays
    rw [none] at moved
    exact ⟨congrArg Prod.fst moved, congrArg Prod.snd moved⟩
  · have moved := pointers_callAll answer s calls
    exact ⟨congrArg Prod.fst moved, congrArg Prod.snd moved⟩

/-- On a memory of words, a supervisor returns to user mode with the frame at the end of the address
space, and a request interrupts the user. -/
theorem stack_pointers_count_frames_across_modes :
    let answer : (q : BusRequest) → (UInt32 → UInt16) → q.Answer × (UInt32 → UInt16) := fun
      | .read address _, words => (words address, words)
      | .write address _ word, words => ((), fun a => if a = address then word else words a)
      | .note _, words => ((), words)
    let words : UInt32 → UInt16 := fun a => if a = 0 then 0x4E73 else 0
    let cpu : Cpu := { sr := 0x2000, inactiveSp := 0x1000, a := (Bank.fill 8 0).put 7 0xFFFFFFFA }
    let user := call answer (cpu, words) .clock
    let served := callAll answer [.clock, .interrupt 7] (cpu, words)
    user.1.isSupervisor = false ∧ user.1.ssp = 0 ∧ user.1.usp = 0x1000 ∧
      (call answer user (.interrupt 0)).1.ssp = 0 ∧
      served.1.ssp = 0xFFFFFFFA ∧ served.1.usp = 0x1000 ∧
      ∃ high low, exchanges answer user (.interrupt 7) =
        [Exchange.stores 0xFFFFFFFE 0, Exchange.stores 0xFFFFFFFC 0, Exchange.stores 0xFFFFFFFA 0,
         Exchange.loads 124 high, Exchange.loads 126 low] := by
  intro answer words cpu user served
  obtain ⟨entered, returned, others, counts⟩ := stack_pointers_count_frames answer
  have back : deed answer (cpu, words) .clock = .instruction .returnFromException := by decide
  have accepts : user.1.accepts (7 &&& 7) = true := by decide
  have ignored : deed answer user (.interrupt 0) = .idle := by decide
  have popped := returned (cpu, words) back
  rw [if_pos (by decide)] at popped
  have ssp : user.1.ssp = 0 := popped.1.trans (by decide)
  have usp : user.1.usp = 0x1000 := popped.2.trans (by decide)
  have idle := others user (.interrupt 0) (by simp [ignored]) (by simp [ignored, Deed.isEntry])
  have deeds : history answer [.clock, .interrupt 7] (cpu, words) =
      [(true, .instruction .returnFromException), (false, .entry 7)] := by decide
  have last := counts (cpu, words) [.clock, .interrupt 7]
  rw [deeds] at last
  have pc : user.1.pc = 0 := by decide
  have sr : user.1.sr = 0 := by decide
  have frame := (entered user 7 accepts).2.2
  rw [ssp, pc, sr] at frame
  exact ⟨by decide, ssp, usp, idle.2.trans ssp, last.2.trans (by decide), last.1.trans (by decide),
    frame⟩

end Cpu
end Genesis
