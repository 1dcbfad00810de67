import Genesis.Bus
import Genesis.Proofs.Cpu.Calls
import Genesis.Vdp.Raster

/-!
# Clocks and instructions

Clock by clock, a processor carries out the same instructions as a run that knows no clocks: each of
them in full on one clock, after the clocks that the processor had still to count and the costs of
the earlier ones (`clocks_follow_instructions`). On every other clock it only counts. `InStep` is
what holds after any number of clocks, and one clock keeps it.
-/

namespace Genesis
namespace Cpu

variable {μ : Type} (answer : (q : BusRequest) → μ → q.Answer × μ)

section Instructions

variable (s : Cpu × μ)

/-- The processor and its memory after some instructions. A stopped processor carries out none. -/
def afterInstructions : Nat → Cpu × μ
  | 0 => s
  | k + 1 =>
    let now := afterInstructions k
    if now.1.stopped then now
    else
      let r := now.1.execute.run answer now.2
      (r.1.2, r.2)

/-- There is an instruction with this number, counted from zero: the processor has not stopped. -/
def Continues (k : Nat) : Prop := (afterInstructions answer s k).1.stopped = false

instance (k : Nat) : Decidable (Continues answer s k) :=
  inferInstanceAs (Decidable (_ = false))

def instructionAt (k : Nat) : Instruction :=
  let now := afterInstructions answer s k
  (now.1.execute.run answer now.2).1.1

def exchangesAt (k : Nat) : List Exchange :=
  let now := afterInstructions answer s k
  now.1.execute.transcript answer now.2

/-- The clocks before the one on which an instruction is carried out: those that were left to count,
and the cost of every earlier instruction. -/
def clocksBefore : Nat → Nat
  | 0 => s.1.countdown.toNat
  | k + 1 => clocksBefore k + (instructionAt answer s k).cost.toNat

end Instructions

/-- The processor and its memory after some clocks. -/
def clocked (n : Nat) (s : Cpu × μ) : Cpu × μ := callAll answer (List.replicate n .clock) s

theorem clocked_succ (n : Nat) (s : Cpu × μ) :
    clocked answer (n + 1) s = call answer (clocked answer n s) .clock := by
  rw [clocked, List.replicate_succ', callAll_append]
  rfl

theorem exchangesAll_clock_succ (n : Nat) (s : Cpu × μ) :
    exchangesAll answer (List.replicate (n + 1) .clock) s =
      exchangesAll answer (List.replicate n .clock) s ++
        exchanges answer (clocked answer n s) .clock := by
  rw [List.replicate_succ', exchangesAll_append, clocked]
  simp [exchangesAll]

/-- After `n` clocks just the first `k` instructions have been carried out. The processor is where
they lead, apart from its counters, and the bus has seen what they exchange. -/
structure InStep (s : Cpu × μ) (n k : Nat) : Prop where
  begun : ∀ i, i < k ↔ Continues answer s i ∧ clocksBefore answer s i < n
  cpu : (clocked answer n s).1 = (afterInstructions answer s k).1.withCounters
    (clocked answer n s).1.countdown (s.1.clock + UInt64.ofNat n)
  memory : (clocked answer n s).2 = (afterInstructions answer s k).2
  countdown : (clocked answer n s).1.countdown.toNat = clocksBefore answer s k - n
  exchanged : exchangesAll answer (List.replicate n .clock) s =
    (List.range k).flatMap (exchangesAt answer s)

variable {answer} {s : Cpu × μ} {n k : Nat}

theorem inStep_zero : InStep answer s 0 0 where
  begun i := ⟨fun early => absurd early (Nat.not_lt_zero i),
    fun early => absurd early.2 (Nat.not_lt_zero _)⟩
  cpu := by simp [clocked, callAll, afterInstructions, withCounters]
  memory := rfl
  countdown := rfl
  exchanged := rfl

theorem clock_succ (c : UInt64) (n : Nat) :
    c + UInt64.ofNat n + 1 = c + UInt64.ofNat (n + 1) := by
  rw [UInt64.ofNat_add, UInt64.add_assoc]
  rfl

/-- Counting the cost of an instruction down from the clock that carries it out. -/
theorem toNat_cost_sub_one (i : Instruction) : (i.cost - 1).toNat = i.cost.toNat - 1 := by
  have dear := i.four_le_cost
  exact UInt32.toNat_sub_of_le _ _ (UInt32.le_iff_toNat_le.2 (Nat.le_trans (by decide) dear))

theorem afterInstructions_succ (continues : Continues answer s k) :
    afterInstructions answer s (k + 1) =
      let now := afterInstructions answer s k
      let r := now.1.execute.run answer now.2
      (r.1.2, r.2) := by
  have running : ¬ (afterInstructions answer s k).1.stopped = true := by
    rw [continues]
    exact Bool.false_ne_true
  rw [afterInstructions, if_neg running]

theorem Continues.of_succ (continues : Continues answer s (k + 1)) : Continues answer s k := by
  cases stopped : (afterInstructions answer s k).1.stopped with
  | false => exact stopped
  | true =>
    have stays : afterInstructions answer s (k + 1) = afterInstructions answer s k := by
      rw [afterInstructions, if_pos stopped]
    rwa [Continues, stays] at continues

theorem Continues.of_le {i : Nat} (continues : Continues answer s k) (le : i ≤ k) :
    Continues answer s i := by
  induction le with
  | refl => exact continues
  | step _ ih => exact ih continues.of_succ

variable (answer) (s)

theorem clocksBefore_lt_succ (k : Nat) :
    clocksBefore answer s k < clocksBefore answer s (k + 1) := by
  have dear := (instructionAt answer s k).four_le_cost
  rw [clocksBefore]
  omega

theorem clocksBefore_lt {i : Nat} (less : i < k) :
    clocksBefore answer s i < clocksBefore answer s k := by
  induction less with
  | refl => exact clocksBefore_lt_succ answer s i
  | step _ ih => exact Nat.lt_trans ih (clocksBefore_lt_succ answer s _)

variable {answer} {s}

namespace InStep

variable (inStep : InStep answer s n k)

include inStep

/-- The next instruction, if there is one, is not overdue. -/
theorem pending (continues : Continues answer s k) : n ≤ clocksBefore answer s k := by
  have notYet := mt (inStep.begun k).2 (Nat.lt_irrefl k)
  exact Nat.le_of_not_lt fun passed => notYet ⟨continues, passed⟩

theorem stopped_eq : (clocked answer n s).1.stopped = (afterInstructions answer s k).1.stopped :=
  (congrArg Cpu.stopped inStep.cpu).trans (stopped_withCounters _ _ _)

theorem clock_eq : (clocked answer n s).1.clock = s.1.clock + UInt64.ofNat n :=
  (congrArg Cpu.clock inStep.cpu).trans (clock_withCounters _ _ _)

theorem execute_eq :
    let now := afterInstructions answer s k
    let r := now.1.execute.run answer now.2
    (clocked answer n s).1.execute.run answer (clocked answer n s).2 =
        ((r.1.1, r.1.2.withCounters (clocked answer n s).1.countdown
          (s.1.clock + UInt64.ofNat n)), r.2) ∧
      (clocked answer n s).1.execute.transcript answer (clocked answer n s).2 =
        exchangesAt answer s k := by
  have program := execute_withCounters (afterInstructions answer s k).1
    (clocked answer n s).1.countdown (s.1.clock + UInt64.ofNat n)
  rw [← inStep.cpu] at program
  rw [inStep.memory, program]
  simp [Dialogue.run_bind, Dialogue.transcript_bind, exchangesAt]

theorem due (continues : Continues answer s k) (now : n = clocksBefore answer s k) :
    exchanges answer (clocked answer n s) .clock = exchangesAt answer s k ∧
      InStep answer s (n + 1) (k + 1) := by
  have counted : (clocked answer n s).1.countdown = 0 := by
    apply UInt32.toNat_inj.1
    rw [inStep.countdown, now, Nat.sub_self]
    rfl
  have running : (clocked answer n s).1.stopped = false := inStep.stopped_eq.trans continues
  obtain ⟨step, said⟩ := call_clock_of_due answer counted running
  obtain ⟨executed, exchanged⟩ := inStep.execute_eq
  rw [executed, ← clocked_succ, withCounters_withCounters, inStep.clock_eq] at step
  rw [exchanged] at said
  have next := afterInstructions_succ continues
  refine ⟨said, ?_, ?_, ?_, ?_, ?_⟩
  · intro i
    rw [now]
    constructor
    · intro early
      have le := Nat.le_of_lt_succ early
      refine ⟨continues.of_le le, Nat.lt_succ_of_le ?_⟩
      rcases Nat.lt_or_eq_of_le le with before | rfl
      · exact Nat.le_of_lt (clocksBefore_lt answer s before)
      · exact Nat.le_refl _
    · rintro ⟨-, started⟩
      refine Nat.lt_succ_of_le (Nat.le_of_not_lt fun later => ?_)
      have := clocksBefore_lt answer s later
      omega
  · simp only [step, next, countdown_withCounters, clock_succ]
  · simp only [step, next]
  · simp only [step, clocksBefore, countdown_withCounters]
    rw [toNat_cost_sub_one, now]
    simp only [instructionAt]
    omega
  · rw [exchangesAll_clock_succ, said, inStep.exchanged, List.range_succ, List.flatMap_append]
    simp

theorem idle (early : Continues answer s k → n ≠ clocksBefore answer s k) :
    call answer (clocked answer n s) .clock =
        ((clocked answer n s).1.counted, (clocked answer n s).2) ∧
      exchanges answer (clocked answer n s) .clock = [] ∧
      InStep answer s (n + 1) k := by
  have waits : (clocked answer n s).1.countdown = 0 → (clocked answer n s).1.stopped = true := by
    intro counted
    have none : (clocked answer n s).1.countdown.toNat = 0 := congrArg UInt32.toNat counted
    rw [inStep.countdown] at none
    rw [inStep.stopped_eq]
    cases running : (afterInstructions answer s k).1.stopped with
    | true => rfl
    | false =>
      have := inStep.pending running
      have := early running
      omega
  obtain ⟨step, said⟩ := call_clock_of_idle answer waits
  have next : clocked answer (n + 1) s =
      ((clocked answer n s).1.counted, (clocked answer n s).2) := by
    rw [clocked_succ, step]
  refine ⟨step, said, ?_, ?_, ?_, ?_, ?_⟩
  · intro i
    rw [inStep.begun i]
    refine and_congr_right fun continues => ⟨Nat.lt_succ_of_lt, fun started => ?_⟩
    rcases Nat.lt_or_eq_of_le (Nat.le_of_lt_succ started) with before | now
    · exact before
    -- Instruction `i` would be due now, but it is not the next one, and no later one is due
    -- earlier.
    · rcases Nat.lt_trichotomy i k with earlier | rfl | later
      · exact ((inStep.begun i).1 earlier).2
      · exact absurd now.symm (early continues)
      · have := inStep.pending (continues.of_le (Nat.le_of_lt later))
        have := clocksBefore_lt answer s later
        omega
  · rw [next]
    simp only [counted, countdown_withCounters, inStep.clock_eq, clock_succ]
    rw [inStep.cpu]
    simp only [withCounters_withCounters, countdown_withCounters]
  · rw [next]
    exact inStep.memory
  · rw [next, toNat_countdown_counted, inStep.countdown, Nat.sub_sub]
  · rw [exchangesAll_clock_succ, said, List.append_nil, inStep.exchanged]

end InStep

variable (answer) (s)

theorem exists_inStep (n : Nat) : ∃ k, InStep answer s n k := by
  induction n with
  | zero => exact ⟨0, inStep_zero⟩
  | succ n ih =>
    obtain ⟨k, inStep⟩ := ih
    by_cases ready : Continues answer s k ∧ n = clocksBefore answer s k
    · exact ⟨k + 1, (inStep.due ready.1 ready.2).2⟩
    · exact ⟨k, (inStep.idle fun continues now => ready ⟨continues, now⟩).2.2⟩

variable {answer} {s}

/-- Before the clock of an instruction, the earlier ones have been carried out. -/
theorem inStep_clocksBefore (continues : Continues answer s k) :
    InStep answer s (clocksBefore answer s k) k := by
  obtain ⟨i, inStep⟩ := exists_inStep answer s (clocksBefore answer s k)
  rcases Nat.lt_trichotomy i k with earlier | rfl | later
  · exact absurd ((inStep.begun i).2 ⟨continues.of_le (Nat.le_of_lt earlier),
      clocksBefore_lt _ _ earlier⟩) (Nat.lt_irrefl i)
  · exact inStep
  · exact absurd ((inStep.begun k).1 later).2 (Nat.lt_irrefl _)

theorem clocked_of_le (early : n ≤ s.1.countdown.toNat) :
    clocked answer n s =
        (s.1.withCounters (s.1.countdown - UInt32.ofNat n) (s.1.clock + UInt64.ofNat n), s.2) ∧
      exchangesAll answer (List.replicate n .clock) s = [] := by
  obtain ⟨k, inStep⟩ := exists_inStep answer s n
  have none : k = 0 := by
    refine Nat.eq_zero_of_not_pos fun some => ?_
    have started := ((inStep.begun 0).1 some).2
    exact Nat.not_lt_of_le early started
  subst none
  have small : n < UInt32.size := Nat.lt_of_le_of_lt early s.1.countdown.toNat_lt
  have left : (clocked answer n s).1.countdown = s.1.countdown - UInt32.ofNat n := by
    apply UInt32.toNat_inj.1
    rw [inStep.countdown, UInt32.toNat_sub_of_le, UInt32.toNat_ofNat_of_lt' small]
    · rfl
    · rw [UInt32.le_iff_toNat_le, UInt32.toNat_ofNat_of_lt' small]
      exact early
  refine ⟨Prod.ext ?_ inStep.memory, inStep.exchanged⟩
  rw [inStep.cpu, left]
  rfl

/-- From the clock of an instruction on, as long as its cost lasts, nothing else happens. -/
theorem clocked_of_le_cost {cpu : Cpu} {x : μ} (due : cpu.countdown = 0)
    (running : cpu.stopped = false) (pos : 1 ≤ n)
    (within : n ≤ (cpu.execute.run answer x).1.1.cost.toNat) :
    let r := cpu.execute.run answer x
    clocked answer n (cpu, x) =
        (r.1.2.withCounters (r.1.1.cost - UInt32.ofNat n) (cpu.clock + UInt64.ofNat n), r.2) ∧
      exchangesAll answer (List.replicate n .clock) (cpu, x) =
        cpu.execute.transcript answer x := by
  intro r
  obtain ⟨m, rfl⟩ := Nat.exists_eq_add_of_le' pos
  let next : Cpu × μ := (r.1.2.withCounters (r.1.1.cost - 1) (cpu.clock + 1), r.2)
  obtain ⟨first, said⟩ := call_clock_of_due answer (s := (cpu, x)) due running
  have waits : m ≤ next.1.countdown.toNat := by
    rw [countdown_withCounters, toNat_cost_sub_one]
    exact Nat.le_sub_of_add_le within
  obtain ⟨rest, silent⟩ := clocked_of_le waits
  have remaining : r.1.1.cost - 1 - UInt32.ofNat m = r.1.1.cost - UInt32.ofNat (m + 1) := by
    rw [UInt32.ofNat_add]
    grind
  have clock : cpu.clock + 1 + UInt64.ofNat m = cpu.clock + UInt64.ofNat (m + 1) := by
    rw [← clock_succ]
    grind
  constructor
  · change clocked answer m (call answer (cpu, x) .clock) = _
    rw [first, rest, withCounters_withCounters, countdown_withCounters, clock_withCounters,
      remaining, clock]
  · change exchanges answer (cpu, x) .clock ++
      exchangesAll answer (List.replicate m .clock) (call answer (cpu, x) .clock) = _
    rw [said, first, silent, List.append_nil]

section Countdown

variable (answer) {cpu : Cpu} (x : μ)

theorem countdown_reset : (cpu.reset.run answer x).1.countdown = 0 := by
  simp only [reset, Dialogue.run_bind]
  rfl

theorem countdown_interrupt (level : UInt8) :
    (call answer (cpu, x) (.interrupt level)).1.countdown = entryCost ∨
      (call answer (cpu, x) (.interrupt level)).1.countdown = cpu.countdown := by
  simp only [call, Call.program, interrupt]
  split
  · left
    simp only [Dialogue.run_bind]
    rfl
  · exact .inr rfl

/-- The clock of an instruction counts as one of its cost. -/
theorem countdown_clock_of_due (due : cpu.countdown = 0) (running : cpu.stopped = false) :
    (call answer (cpu, x) .clock).1.countdown.toNat + 1 =
      (cpu.execute.run answer x).1.1.cost.toNat := by
  have dear := (cpu.execute.run answer x).1.1.four_le_cost
  rw [(call_clock_of_due answer due running (s := (cpu, x))).1, countdown_withCounters,
    toNat_cost_sub_one]
  exact Nat.sub_add_cancel (Nat.le_trans (by decide) dear)

theorem countdown_clock_le (h : cpu.countdown.toNat ≤ 43) :
    (call answer (cpu, x) .clock).1.countdown.toNat ≤ 43 := by
  by_cases ready : cpu.countdown = 0 ∧ cpu.stopped = false
  · have counted := countdown_clock_of_due answer x ready.1 ready.2
    have cheap := (cpu.execute.run answer x).1.1.cost_le_twenty
    omega
  · have waits := stopped_of_not_ready ready
    rw [(call_clock_of_idle answer waits (s := (cpu, x))).1, toNat_countdown_counted]
    exact Nat.le_trans (Nat.sub_le _ _) h

end Countdown

/-- No call leaves more to count than the entry of an interrupt takes. -/
theorem Reachable.countdown_le {cpu : Cpu} (reachable : Reachable cpu) :
    cpu.countdown.toNat ≤ 43 := by
  induction reachable with
  | initial => decide
  | reset answer x _ _ =>
    rw [countdown_reset]
    decide
  | call answer x c _ ih =>
    cases c with
    | clock => exact countdown_clock_le answer x ih
    | interrupt level =>
      rcases countdown_interrupt answer x level with entered | ignored
      · rw [entered]
        decide
      · rwa [ignored]

/-- Clocks carry out the instructions of the run without clocks, on any memory and for any number of
clocks: nothing happens while there are clocks left to count; each instruction is carried out, with
all that it exchanges with the bus, on the clock that follows those and the costs of the earlier
instructions; every other clock is only counted; so after `n` clocks the registers, the memory and
the exchanges are those of the instructions that were due before. In no reachable state are more
than 43 clocks left to count, and counting a cost down never starts below zero. -/
theorem clocks_follow_instructions :
    (∀ {μ : Type} (answer : (q : BusRequest) → μ → q.Answer × μ) (s : Cpu × μ),
      (∀ n ≤ s.1.countdown.toNat,
        clocked answer n s =
          (s.1.withCounters (s.1.countdown - UInt32.ofNat n) (s.1.clock + UInt64.ofNat n), s.2) ∧
        exchangesAll answer (List.replicate n .clock) s = []) ∧
      (∀ k, Continues answer s k →
        let n := clocksBefore answer s k
        InStep answer s n k ∧
          exchanges answer (clocked answer n s) .clock = exchangesAt answer s k ∧
          InStep answer s (n + 1) (k + 1)) ∧
      (∀ n, (∀ k, Continues answer s k → n ≠ clocksBefore answer s k) →
        exchanges answer (clocked answer n s) .clock = [] ∧
          clocked answer (n + 1) s = ((clocked answer n s).1.counted, (clocked answer n s).2)) ∧
      ∀ n, ∃ k, InStep answer s n k) ∧
    (∀ cpu, Reachable cpu → cpu.countdown ≤ 43 ∧
      ∀ {μ : Type} (answer : (q : BusRequest) → μ → q.Answer × μ) (x : μ),
        cpu.countdown = 0 → cpu.stopped = false →
        (call answer (cpu, x) .clock).1.countdown.toNat + 1 =
          (cpu.execute.run answer x).1.1.cost.toNat) := by
  refine ⟨fun answer s => ⟨fun n early => clocked_of_le early, fun k continues => ?_,
    fun n early => ?_, exists_inStep answer s⟩, fun cpu reachable => ⟨?_, ?_⟩⟩
  · have ready := inStep_clocksBefore continues
    exact ⟨ready, ready.due continues rfl⟩
  · obtain ⟨k, inStep⟩ := exists_inStep answer s n
    obtain ⟨step, silent, -⟩ := inStep.idle (early k)
    exact ⟨silent, (clocked_succ answer n s).trans step⟩
  · exact UInt32.le_iff_toNat_le.2 reachable.countdown_le
  · exact fun answer x due running => countdown_clock_of_due answer x due running

/-- Two clocks left to count, a pause and a stop: the first two clocks are silent, and the stop is
fetched on the seventh. An accepted request leaves 43 clocks to count and the clock of a pause
three. -/
theorem clocks_follow_instructions_to_stop :
    let answer : (q : BusRequest) → Memory Vdp × Unit → q.Answer × (Memory Vdp × Unit) :=
      Bus.answer Host.idle
    let memory : Memory Vdp := {
      cartridge := { buffer := #[0x4E, 0x71, 0x4E, 0x72, 0x20, 0x00], size := 6 }
      video := Vdp.initial }
    let s : Cpu × Memory Vdp × Unit := ({ countdown := 2 }, memory, ())
    exchangesAll answer [.clock, .clock] s = [] ∧
      exchanges answer (clocked answer 1 s) .clock = [] ∧
      (exchanges answer (clocked answer 6 s) .clock).map Sigma.fst =
        [.read 2 .both, .read 4 .both] ∧
      (call answer ({}, s.2) (.interrupt 7)).1.countdown ≤ 43 ∧
      (call answer ({}, s.2) .clock).1.countdown.toNat + 1 = 4 := by
  intro answer memory s
  obtain ⟨runs, states⟩ := clocks_follow_instructions
  obtain ⟨waits, carriedOut, counted, -⟩ := runs answer s
  have continues : Continues answer s 1 := by decide
  have before : clocksBefore answer s 1 = 6 := by decide
  have said : (exchangesAt answer s 1).map Sigma.fst = [.read 2 .both, .read 4 .both] := by decide
  have seventh := (carriedOut 1 continues).2.1
  rw [before] at seventh
  have early : ∀ k, Continues answer s k → 1 ≠ clocksBefore answer s k := by
    intro k _
    cases k with
    | zero => decide
    | succ k =>
      have later : 2 < clocksBefore answer s (k + 1) := clocksBefore_lt answer s (Nat.succ_pos k)
      exact Nat.ne_of_lt (Nat.lt_trans (by decide) later)
  have entered : Reachable (call answer ({}, s.2) (.interrupt 7)).1 := .call answer _ _ .initial
  have pause : (Cpu.execute {} |>.run answer s.2).1.1.cost.toNat = 4 := by decide
  exact ⟨(waits 2 (by decide)).2, (counted 1 early).1,
    (congrArg (List.map Sigma.fst) seventh).trans said, (states _ entered).1,
    ((states {} .initial).2 answer s.2 rfl rfl).trans pause⟩

end Cpu
end Genesis
