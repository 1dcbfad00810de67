import Genesis.Proofs.Cpu.Priority

/-!
# A stopped processor

A stopped processor makes no exchange until a request is accepted: clocks count, masked requests are
ignored, and nothing else changes (`callAll_of_stopped`). So the frame of the request that ends the
wait holds the program counter and the status with which it began (`stopped_until_accepted`).
-/

namespace Genesis
namespace Cpu

def Waits (cpu : Cpu) : Call → Prop
  | .clock => True
  | .interrupt level => cpu.Masked level

instance (cpu : Cpu) : (c : Call) → Decidable (cpu.Waits c)
  | .clock => isTrue trivial
  | .interrupt level => inferInstanceAs (Decidable (cpu.Masked level))

def waited (cpu : Cpu) (clocks : Nat) : Cpu :=
  cpu.withCounters (UInt32.ofNat (cpu.countdown.toNat - clocks)) (cpu.clock + UInt64.ofNat clocks)

@[simp] theorem waited_zero (cpu : Cpu) : cpu.waited 0 = cpu := by
  simp [waited, withCounters]

theorem toNat_countdown_waited (cpu : Cpu) (clocks : Nat) :
    (cpu.waited clocks).countdown.toNat = cpu.countdown.toNat - clocks :=
  UInt32.toNat_ofNat_of_lt' (Nat.lt_of_le_of_lt (Nat.sub_le _ _) cpu.countdown.toNat_lt)

theorem waited_waited (cpu : Cpu) (m n : Nat) : (cpu.waited m).waited n = cpu.waited (m + n) := by
  rw [waited, toNat_countdown_waited, Nat.sub_sub]
  simp only [waited, clock_withCounters, withCounters_withCounters, UInt64.ofNat_add,
    UInt64.add_assoc]

theorem counted_eq_waited (cpu : Cpu) : cpu.counted = cpu.waited 1 := by
  have left : cpu.counted.countdown = (cpu.waited 1).countdown := by
    apply UInt32.toNat_inj.1
    rw [toNat_countdown_counted, toNat_countdown_waited]
  exact congrArg (cpu.withCounters · (cpu.clock + 1)) left

/-- What an accepted request exchanges: a program counter and a status go out below a stack pointer,
and the vector of the level comes in. -/
def entryExchanges (sp pc : UInt32) (sr : UInt16) (level : UInt8) (high low : UInt16) :
    List Exchange :=
  let vector := (24 + level.toUInt32) * 4
  [Exchange.stores (sp - 2) (lowWord pc), Exchange.stores (sp - 4) (highWord pc),
   Exchange.stores (sp - 6) sr, Exchange.loads vector high, Exchange.loads (vector + 2) low]

theorem eq_of_decode_stop {word : UInt16} (stops : Instruction.decode word = .stop) :
    word = 0x4E72 := by
  unfold Instruction.decode at stops
  repeat' split at stops
  all_goals first | assumption | cases stops

section Calls

variable {μ : Type} (answer : (q : BusRequest) → μ → q.Answer × μ) {s : Cpu × μ}

theorem call_of_stopped (stopped : s.1.stopped = true) {c : Call} (waits : s.1.Waits c) :
    call answer s c = (s.1.waited ([c].count .clock), s.2) ∧ exchanges answer s c = [] := by
  cases c with
  | clock =>
    obtain ⟨after, quiet⟩ := call_clock_of_idle answer (s := s) fun _ => stopped
    exact ⟨after.trans (congrArg (·, s.2) (counted_eq_waited s.1)), quiet⟩
  | interrupt level =>
    obtain ⟨same, quiet⟩ := call_of_masked answer s waits
    exact ⟨by simp [same], quiet⟩

/-- While it waits, a stopped processor makes no exchange and only counts. -/
theorem callAll_of_stopped (stopped : s.1.stopped = true) {calls : List Call}
    (wait : ∀ c ∈ calls, s.1.Waits c) :
    callAll answer calls s = (s.1.waited (calls.count .clock), s.2) ∧
      exchangesAll answer calls s = [] := by
  induction calls generalizing s with
  | nil => simp [callAll, exchangesAll]
  | cons c calls ih =>
    obtain ⟨now, later⟩ := List.forall_mem_cons.1 wait
    obtain ⟨after, quiet⟩ := call_of_stopped answer stopped now
    -- Counting changes neither the status nor the halt, so the rest of the calls wait as well.
    obtain ⟨last, silent⟩ := ih (s := (s.1.waited ([c].count .clock), s.2)) stopped later
    refine ⟨?_, ?_⟩
    · change callAll answer calls (call answer s c) = _
      rw [after, last, waited_waited, ← List.count_append]
      rfl
    · rw [exchangesAll, quiet, after, silent]
      rfl

/-- The request that ends a wait stacks the program counter and the status that it began with. -/
theorem entry_after_wait (stopped : s.1.stopped = true) {calls : List Call}
    (wait : ∀ c ∈ calls, s.1.Waits c) {level : UInt8} (heard : ¬ s.1.Masked level) :
    let last := callAll answer calls s
    (call answer last (.interrupt level)).1.stopped = false ∧
      ∃ high low, exchanges answer last (.interrupt level) =
        entryExchanges s.1.ssp s.1.pc s.1.sr (level &&& 7) high low := by
  intro last
  have same : last = (s.1.waited (calls.count .clock), s.2) :=
    (callAll_of_stopped answer stopped wait).1
  have accepts : last.1.accepts (level &&& 7) = true := by
    rw [same]
    exact (accepts_iff_not_masked s.1 level).2 heard
  obtain ⟨high, low, frame⟩ := exchanges_of_accepts answer last accepts
  obtain ⟨handler, entered⟩ := (ends_interrupt_of_accepts last.1 accepts).run answer last.2
  refine ⟨congrArg Cpu.stopped entered, high, low, ?_⟩
  rw [frame, same]
  rfl

theorem due_of_instruction {i : Instruction} (did : deed answer s .clock = .instruction i) :
    (s.1.countdown = 0 ∧ s.1.stopped = false) ∧ (s.1.execute.run answer s.2).1.1 = i := by
  rw [deed] at did
  split at did
  · exact ⟨‹_›, Deed.instruction.inj did⟩
  · cases did

theorem call_of_stop (did : deed answer s .clock = .instruction .stop) :
    ∃ sr, let next := (call answer s .clock).1
      exchanges answer s .clock =
        [Exchange.loads s.1.pc 0x4E72, Exchange.loads (s.1.pc + 2) sr] ∧
      next.stopped = true ∧ next.pc = s.1.pc + 4 ∧ next.sr = sr ∧ next.ssp = s.1.ssp := by
  obtain ⟨⟨due, running⟩, stops⟩ := due_of_instruction answer did
  obtain ⟨after, said⟩ := call_clock_of_due answer due running
  let first := answer (.read s.1.pc .both) s.2
  let second := answer (.read (s.1.pc + 2) .both) first.2
  let behind : Cpu := { s.1 with pc := s.1.pc + 2 + 2 }
  rw [execute_eq, Dialogue.run_ask, Dialogue.run_bind] at stops
  have decoded : Instruction.decode first.1 = .stop := stops
  have loaded : (call answer s .clock).1 =
      ({ behind.setSr second.1 with stopped := true } : Cpu).withCounters
        (Instruction.stop.cost - 1) (s.1.clock + 1) := by
    rw [after, execute_eq, Dialogue.run_ask, decoded]
    rfl
  have moved := pointers_call answer s .clock
  rw [did, Deed.move_instruction (by decide)] at moved
  refine ⟨second.1, ?_, congrArg Cpu.stopped loaded, ?_, ?_, congrArg Prod.snd moved⟩
  · rw [said, execute_eq, Dialogue.transcript_ask, decoded, eq_of_decode_stop decoded]
    rfl
  · rw [loaded]
    exact (pc_setSr behind second.1).trans (by grind)
  · rw [loaded]
    exact sr_setSr behind second.1

end Calls

/-- On any memory, a stopped processor makes no exchange while it is clocked and asked for masked
interrupts, however often and in whatever order. Memory and processor stay as they are, but for the
clocks counted, whatever countdown was still running; and the first request that is not masked ends
the wait and stacks the program counter and the status that it began with. For a processor that has
just carried out a stop, these are the address behind its two words and the status that it loaded,
stacked below the supervisor's pointer of before. -/
theorem stopped_until_accepted {μ : Type} (answer : (q : BusRequest) → μ → q.Answer × μ) :
    (∀ (s : Cpu × μ) (calls : List Call), s.1.stopped = true → (∀ c ∈ calls, s.1.Waits c) →
      let last := callAll answer calls s
      exchangesAll answer calls s = [] ∧
      last = (s.1.waited (calls.count .clock), s.2) ∧
      ∀ level, ¬ s.1.Masked level →
        (call answer last (.interrupt level)).1.stopped = false ∧
        ∃ high low, exchanges answer last (.interrupt level) =
          entryExchanges s.1.ssp s.1.pc s.1.sr (level &&& 7) high low) ∧
    ∀ s : Cpu × μ, deed answer s .clock = .instruction .stop →
      let halted := call answer s .clock
      ∃ sr, exchanges answer s .clock =
          [Exchange.loads s.1.pc 0x4E72, Exchange.loads (s.1.pc + 2) sr] ∧
        halted.1.stopped = true ∧ halted.1.pc = s.1.pc + 4 ∧ halted.1.sr = sr ∧
        ∀ calls : List Call, (∀ c ∈ calls, halted.1.Waits c) →
          let last := callAll answer calls halted
          exchangesAll answer calls halted = [] ∧
          ∀ level, ¬ halted.1.Masked level →
            (call answer last (.interrupt level)).1.stopped = false ∧
            ∃ high low, exchanges answer last (.interrupt level) =
              entryExchanges s.1.ssp (s.1.pc + 4) sr (level &&& 7) high low := by
  refine ⟨fun s calls stopped wait => ?_, fun s did => ?_⟩
  · obtain ⟨last, silent⟩ := callAll_of_stopped answer stopped wait
    exact ⟨silent, last, fun level heard => entry_after_wait answer stopped wait heard⟩
  · obtain ⟨sr, fetched, stopped, pc, status, ssp⟩ := call_of_stop answer did
    refine ⟨sr, fetched, stopped, pc, status, fun calls wait => ?_⟩
    refine ⟨(callAll_of_stopped answer stopped wait).2, fun level heard => ?_⟩
    rw [← pc, ← status, ← ssp]
    exact entry_after_wait answer stopped wait heard

/-- A stop across the end of the address space selects user mode with the mask at five, and a
request of level six ends the wait after two clocks and three masked requests. -/
theorem stopped_until_accepted_across_modes :
    let answer : (q : BusRequest) → (UInt32 → UInt16) → q.Answer × (UInt32 → UInt16) := fun
      | .read address _, words => (words address, words)
      | .write address _ word, words => ((), fun a => if a = address then word else words a)
      | .note _, words => ((), words)
    let words : UInt32 → UInt16 := fun a => if a = 0xFFFFFFFE then 0x4E72 else 0x0500
    let cpu : Cpu := { sr := 0x2000, pc := 0xFFFFFFFE, a := (Bank.fill 8 0).put 7 0x1000 }
    let halted := call answer (cpu, words) .clock
    let calls : List Call := [.clock, .interrupt 5, .clock, .interrupt 8, .interrupt 3]
    let last := callAll answer calls halted
    halted.1.isSupervisor = false ∧ last = (halted.1.waited 2, halted.2) ∧
      exchangesAll answer calls halted = [] ∧
      (call answer last (.interrupt 14)).1.stopped = false ∧
      ∃ high low, exchanges answer last (.interrupt 14) =
        entryExchanges 0x1000 2 0x0500 6 high low := by
  intro answer words cpu halted calls last
  obtain ⟨waits, stops⟩ := stopped_until_accepted answer
  obtain ⟨sr, fetched, stopped, pc, status, wakes⟩ := stops (cpu, words) (by decide)
  have wait : ∀ c ∈ calls, halted.1.Waits c := by decide
  obtain ⟨silent, same, -⟩ := waits halted calls stopped wait
  obtain ⟨woken, high, low, frame⟩ := (wakes calls wait).2 14 (by decide)
  have loaded : sr = 0x0500 := status.symm.trans (by decide)
  have pointer : cpu.ssp = 0x1000 := by decide
  have behind : cpu.pc + 4 = 2 := by decide
  rw [loaded, pointer, behind, show (14 &&& 7 : UInt8) = 6 by decide] at frame
  exact ⟨by decide, same, silent, woken, high, low, frame⟩

end Cpu
end Genesis
