import Genesis.Machine.Schedule
import Genesis.Vdp.Ports
import Genesis.Proofs.Cpu.Interrupt

/-!
# Nested interrupts

Interrupts accepted one after the other leave a chain of frames on the supervisor stack. If every
handler just returns, the returns take the frames off again in the opposite order, and the processor
ends where it was before the first request (`nested_interrupts_return`).
-/

namespace Genesis
namespace Cpu

variable {ν η : Type} [VideoUnit ν] (host : Host η)

open Machine

/-- The next clock carries out a return from an exception. -/
def atReturn (cpu : Cpu) (s : Memory ν × η) : Bool :=
  cpu.countdown == 0 && !cpu.stopped &&
    Instruction.decode (Bus.read host cpu.pc .both s.1 s.2).1 == .returnFromException

def returnsWithin : Nat → Cpu → Memory ν × η → Nat
  | 0, _, _ => 0
  | n + 1, cpu, s =>
    let next := cpu.cycle.run (Bus.answer host) s
    (if atReturn host cpu s then 1 else 0) + returnsWithin n next.1 next.2

/-- Running for `k` clocks leads from one state to another, and the last of them is the one that
carries out the return number `r`. -/
structure CompletesReturns (k r : Nat) (start finish : Cpu × Memory ν × η) : Prop where
  run : runClocks host k start.1 start.2 = finish
  count : returnsWithin host k start.1 start.2 = r
  first : ∀ j < k, returnsWithin host j start.1 start.2 < r

theorem runClocks_add (j k : Nat) (cpu : Cpu) (s : Memory ν × η) :
    runClocks host (j + k) cpu s =
      runClocks host k (runClocks host j cpu s).1 (runClocks host j cpu s).2 := by
  induction j generalizing cpu s with
  | zero => rw [Nat.zero_add]; rfl
  | succ j ih =>
    rw [Nat.succ_add]
    exact ih _ _

theorem returnsWithin_add (j k : Nat) (cpu : Cpu) (s : Memory ν × η) :
    returnsWithin host (j + k) cpu s = returnsWithin host j cpu s +
      returnsWithin host k (runClocks host j cpu s).1 (runClocks host j cpu s).2 := by
  induction j generalizing cpu s with
  | zero => simp [returnsWithin, runClocks]
  | succ j ih =>
    have h := ih (cpu.cycle.run (Bus.answer host) s).1 (cpu.cycle.run (Bus.answer host) s).2
    rw [Nat.succ_add]
    simp only [returnsWithin, h, Nat.add_assoc]
    rfl

variable {host}

/-- Stretches of a run join; the second one has a return at its end. -/
theorem CompletesReturns.trans {j k r r' : Nat} {start middle finish : Cpu × Memory ν × η}
    (h : CompletesReturns host j r start middle)
    (h' : CompletesReturns host k (r' + 1) middle finish) :
    CompletesReturns host (j + k) (r + (r' + 1)) start finish where
  run := by rw [runClocks_add, h.run, h'.run]
  count := by rw [returnsWithin_add, h.run, h.count, h'.count]
  first i hi := by
    by_cases early : i < j
    · have := h.first i early
      omega
    · obtain ⟨l, rfl⟩ := Nat.exists_eq_add_of_le (Nat.le_of_not_lt early)
      have := h'.first l (by omega)
      rw [returnsWithin_add, h.run, h.count]
      omega

/-- A clock that carries out no return comes first. -/
theorem CompletesReturns.wait {k r : Nat} {cpu : Cpu} {s : Memory ν × η}
    {finish : Cpu × Memory ν × η} (idle : atReturn host cpu s = false)
    (h : CompletesReturns host k (r + 1) (cpu.cycle.run (Bus.answer host) s) finish) :
    CompletesReturns host (k + 1) (r + 1) (cpu, s) finish where
  run := h.run
  count := by
    have := h.count
    simpa [returnsWithin, idle] using this
  first j hj := by
    cases j with
    | zero => exact Nat.succ_pos r
    | succ j =>
      have := h.first j (by omega)
      simpa [returnsWithin, idle] using this

variable (host)

theorem run_cycle_of_countdown {cpu : Cpu} (waiting : 0 < cpu.countdown) (s : Memory ν × η) :
    cpu.cycle.run (Bus.answer host) s =
      ({ cpu with countdown := cpu.countdown - 1, clock := cpu.clock + 1 }, s) := by
  simp [cycle, waiting]

/-- The processor is about to carry out a return to `pc` with status `sr`. -/
structure AboutToReturn (cpu : Cpu) (m : Memory ν) (pc : UInt32) (sr : UInt16) : Prop where
  running : cpu.stopped = false
  mapped : Region.decode cpu.pc m.cartridge.size = .cartridge
  opcode : m.cartridge.word (cpu.pc.toNat % 0x1000000) = 0x4E73
  frame : HoldsFrame m.workRam cpu.sp pc sr
  ram0 : Region.decode cpu.sp m.cartridge.size = .workRam
  ram2 : Region.decode (cpu.sp + 2) m.cartridge.size = .workRam
  ram4 : Region.decode (cpu.sp + 4) m.cartridge.size = .workRam

variable {cpu : Cpu} {m : Memory ν} {pc : UInt32} {sr : UInt16}

theorem AboutToReturn.read (ready : AboutToReturn cpu m pc sr) (h : η) :
    Bus.read host cpu.pc .both m h = (0x4E73, m, h) := by
  rw [Bus.read_cartridge host .both h ready.mapped, ready.opcode, Lanes.and_mask_both]

theorem AboutToReturn.run_execute (ready : AboutToReturn cpu m pc sr) (h : η) :
    cpu.execute.run (Bus.answer host) (m, h) =
      ((.returnFromException, cpu.unwound pc sr), m, h) := by
  have fetched : cpu.fetchWord.run (Bus.answer host) (m, h) =
      ((0x4E73, { cpu with pc := cpu.pc + 2 }), m, h) := by
    simp only [fetchWord, BusProgram.read, Dialogue.query_bind, Dialogue.run_ask, Bus.answer,
      ready.read host h]
    rfl
  have decoded : Instruction.decode 0x4E73 = .returnFromException := rfl
  have performed : (perform cpu.pc { cpu with pc := cpu.pc + 2 } .returnFromException).run
      (Bus.answer host) (m, h) = (cpu.unwound pc sr, m, h) :=
    (run_perform_return host cpu.pc { cpu with pc := cpu.pc + 2 } h ready.frame ready.ram0
      ready.ram2 ready.ram4).trans (by rw [unwound_with_pc])
  simp only [execute, Dialogue.run_bind, fetched, decoded, performed]
  rfl

theorem AboutToReturn.run_cycle (ready : AboutToReturn cpu m pc sr) (due : cpu.countdown = 0)
    (h : η) :
    cpu.cycle.run (Bus.answer host) (m, h) =
      ({ cpu.unwound pc sr with stopped := false, countdown := 19, clock := cpu.clock + 1 },
        m, h) := by
  have ready' : AboutToReturn { cpu with clock := cpu.clock + 1 } m pc sr :=
    ⟨ready.running, ready.mapped, ready.opcode, ready.frame, ready.ram0, ready.ram2, ready.ram4⟩
  have executed := ready'.run_execute host h
  rw [unwound_with] at executed
  have idle : ¬ 0 < cpu.countdown := by rw [due]; decide
  simp only [ready.running] at executed
  simp only [cycle, idle, ready.running, if_false, Bool.false_eq_true, Dialogue.run_bind, executed]
  rfl

theorem AboutToReturn.completes (ready : AboutToReturn cpu m pc sr) (h : η) :
    CompletesReturns host (cpu.countdown.toNat + 1) 1 (cpu, m, h)
      ({ cpu.unwound pc sr with
        stopped := false, countdown := 19,
        clock := cpu.clock + UInt64.ofNat (cpu.countdown.toNat + 1) }, m, h) := by
  generalize hk : cpu.countdown.toNat = k
  induction k generalizing cpu with
  | zero =>
    have due : cpu.countdown = 0 := UInt32.toNat_inj.1 hk
    have ends : atReturn host cpu (m, h) = true := by
      simp [atReturn, due, ready.running, ready.read host h, Instruction.decode]
    have step := ready.run_cycle host due h
    constructor
    · exact step
    · simp [returnsWithin, ends]
    · intro j hj
      rw [Nat.lt_one_iff.1 hj]
      exact Nat.one_pos
  | succ k ih =>
    have waiting : 0 < cpu.countdown := by
      apply UInt32.lt_iff_toNat_lt.2
      simp [hk]
    have less : (cpu.countdown - 1).toNat = k := by
      rw [UInt32.toNat_sub_of_le _ _ (UInt32.le_iff_toNat_le.2 (by simp [hk]))]
      simp [hk]
    have step := run_cycle_of_countdown host waiting (m, h)
    have idle : atReturn host cpu (m, h) = false := by
      have : cpu.countdown ≠ 0 := by grind
      simp [atReturn, this]
    have ready' : AboutToReturn { cpu with countdown := cpu.countdown - 1, clock := cpu.clock + 1 }
        m pc sr :=
      ⟨ready.running, ready.mapped, ready.opcode, ready.frame, ready.ram0, ready.ram2, ready.ram4⟩
    have rest := ih ready' less
    have clock : cpu.clock + 1 + UInt64.ofNat (k + 1) = cpu.clock + UInt64.ofNat (k + 1 + 1) := by
      rw [UInt64.ofNat_add (k + 1)]
      grind
    rw [unwound_with, ← step] at rest
    simp only [clock] at rest
    exact rest.wait idle

/-- The vector of a level leads to a return from an exception in the cartridge. -/
structure LeadsToReturn (c : Cartridge) (level : UInt8) : Prop where
  mapped : Region.decode (autovector c level) c.size = .cartridge
  opcode : c.word ((autovector c level).toNat % 0x1000000) = 0x4E73

/-- A handler that returns at once, entered with its frame in place, counts down and gives the
interrupted processor back. -/
theorem completes_entered {level : UInt8} {ram : Ram} (returns : LeadsToReturn m.cartridge level)
    (frame : HoldsFrame ram (cpu.ssp - 6) cpu.pc cpu.sr) {n : Nat}
    (fit : cpu.FramesFit m.cartridge.size (n + 1)) (countdown : UInt32) (clock : UInt64) (h : η) :
    CompletesReturns host (countdown.toNat + 1) 1
      ({ cpu.entered level (autovector m.cartridge level) with countdown, clock },
        { m with workRam := ram }, h)
      ({ cpu with
        stopped := false, countdown := 19, clock := clock + UInt64.ofNat (countdown.toNat + 1) },
        { m with workRam := ram }, h) := by
  have ready : AboutToReturn
      { cpu.entered level (autovector m.cartridge level) with countdown, clock }
      { m with workRam := ram } cpu.pc cpu.sr := by
    have sp : ({ cpu.entered level (autovector m.cartridge level) with
        countdown, clock } : Cpu).sp = cpu.ssp - 6 :=
      sp_entered cpu level (autovector m.cartridge level)
    obtain ⟨h2, h4, h6⟩ := fit.first
    constructor
    · rfl
    · exact returns.mapped
    · exact returns.opcode
    · rwa [sp]
    · rwa [sp]
    · rwa [sp, show cpu.ssp - 6 + 2 = cpu.ssp - 4 by grind]
    · rwa [sp, show cpu.ssp - 6 + 4 = cpu.ssp - 2 by grind]
  have done := ready.completes host h
  rw [unwound_with, unwound_entered] at done
  exact done

def requestAll : List UInt8 → Cpu → Memory ν × η → Cpu × Memory ν × η
  | [], cpu, s => (cpu, s)
  | level :: levels, cpu, s =>
    let next := (cpu.interrupt level).run (Bus.answer host) s
    requestAll levels next.1 next.2

def AcceptedInTurn : List UInt8 → Cpu → Memory ν × η → Prop
  | [], _, _ => True
  | level :: levels, cpu, s =>
    let next := (cpu.interrupt level).run (Bus.answer host) s
    cpu.Admits level ∧ AcceptedInTurn levels next.1 next.2

instance decidableAcceptedInTurn : (levels : List UInt8) → (cpu : Cpu) → (s : Memory ν × η) →
    Decidable (AcceptedInTurn host levels cpu s)
  | [], _, _ => .isTrue trivial
  | level :: levels, cpu, s =>
    let next := (cpu.interrupt level).run (Bus.answer host) s
    have := decidableAcceptedInTurn levels next.1 next.2
    decidable_of_iff (cpu.Admits level ∧ AcceptedInTurn host levels next.1 next.2) Iff.rfl

theorem requestAll_cons {level : UInt8} {levels : List UInt8} (admits : cpu.Admits level) (h : η)
    {n : Nat} (fit : cpu.FramesFit m.cartridge.size (n + 1)) :
    ∃ h', requestAll host (level :: levels) cpu (m, h) =
        requestAll host levels (cpu.entered level (autovector m.cartridge level))
          ({ m with workRam := pushFrame cpu.ssp cpu.pc cpu.sr m.workRam }, h') ∧
      (AcceptedInTurn host (level :: levels) cpu (m, h) →
        AcceptedInTurn host levels (cpu.entered level (autovector m.cartridge level))
          ({ m with workRam := pushFrame cpu.ssp cpu.pc cpu.sr m.workRam }, h')) := by
  obtain ⟨h', run⟩ := run_interrupt host admits h fit
  refine ⟨h', ?_, fun accepted => ?_⟩
  · rw [requestAll, run]
  · have rest := accepted.2
    rwa [run] at rest

/-- Interrupts that follow each other without a clock in between, all of whose handlers just return:
the clock of the last return finds the registers as the first request did, and no byte of memory
differs from then except those of the frames. -/
theorem nested_interrupts_return (levels : List UInt8) (cpu : Cpu) (m : Memory ν) (h : η)
    (some : levels ≠ []) (room : 6 * levels.length ≤ 65536)
    (accepted : AcceptedInTurn host levels cpu (m, h))
    (fit : cpu.FramesFit m.cartridge.size levels.length)
    (handlers : ∀ level ∈ levels, LeadsToReturn m.cartridge level) :
    ∃ ram h', CompletesReturns host (20 * levels.length + 24) levels.length
        (requestAll host levels cpu (m, h))
        ({ cpu with
          stopped := false, countdown := 19,
          clock := cpu.clock + UInt64.ofNat (20 * levels.length + 24) },
          { m with workRam := ram }, h') ∧
      SameButBelow cpu.ssp (6 * levels.length) m.workRam ram := by
  induction levels generalizing cpu m h with
  | nil => exact absurd rfl some
  | cons level inner ih =>
    simp only [List.length_cons] at room fit ⊢
    obtain ⟨h₁, request, rest⟩ := requestAll_cons host accepted.1 h fit
    have returns := handlers level List.mem_cons_self
    have frame := holdsFrame_pushFrame cpu.ssp cpu.pc cpu.sr m.workRam
    have written := sameButBelow_pushFrame cpu.ssp cpu.pc cpu.sr m.workRam
    rw [request]
    by_cases innermost : inner = []
    · subst innermost
      have done := completes_entered host returns frame fit entryCost cpu.clock h₁
      rw [entered_with] at done
      exact ⟨_, h₁, done, written⟩
    · obtain ⟨ram, h₂, returned, unchanged⟩ :=
        ih _ { m with workRam := pushFrame cpu.ssp cpu.pc cpu.sr m.workRam } h₁ innermost
          (by omega) (rest accepted) (fit.entered level (autovector m.cartridge level))
          (fun l hl => handlers l (List.mem_cons_of_mem level hl))
      rw [ssp_entered] at unchanged
      rw [clock_entered] at returned
      -- The inner frames lie below this one and, with less than the whole memory, never reach it.
      have kept := frame.of_below (by omega) unchanged
      have clocks : 20 * inner.length + 24 + (UInt32.toNat 19 + 1) =
          20 * (inner.length + 1) + 24 := by
        rw [show UInt32.toNat 19 = 19 from rfl]
        omega
      have done := returned.trans (completes_entered host returns kept fit 19
        (cpu.clock + UInt64.ofNat (20 * inner.length + 24)) h₂)
      rw [UInt64.add_assoc, ← UInt64.ofNat_add, clocks] at done
      have cells : 6 + 6 * inner.length = 6 * (inner.length + 1) := by omega
      exact ⟨ram, h₂, done, cells ▸ written.trans unchanged⟩

/-- A stopped program in user mode, interrupted twice with the frames across the end of work RAM. -/
theorem nested_interrupts_return_to_user_mode :
    let handler : List UInt8 := [0x7C, 0, 0, 0, 0, 0, 0, 0, 0x7C, 0x4E, 0x73]
    let cartridge : Cartridge := {
      buffer := (List.replicate 0x73 0 ++ handler).toArray
      size := 0x7E
      size_le_buffer := by decide +kernel
      buffer_le_capacity := by decide +kernel }
    let m : Memory Vdp := { cartridge, video := Vdp.initial }
    let cpu : Cpu := { inactiveSp := 0xFF0004, pc := 0x7C, stopped := true }
    ∃ ram h', CompletesReturns Host.idle 64 2 (requestAll Host.idle [4, 6] cpu (m, ()))
        ({ cpu with stopped := false, countdown := 19, clock := 64 },
          { m with workRam := ram }, h') ∧
      SameButBelow cpu.ssp 12 m.workRam ram := by
  intro handler cartridge m cpu
  refine nested_interrupts_return Host.idle [4, 6] cpu m () (by decide) (by decide) (by decide)
    ?_ ?_
  · intro j low high
    have cases : j = 1 ∨ j = 2 ∨ j = 3 ∨ j = 4 ∨ j = 5 ∨ j = 6 := by
      simp only [List.length_cons, List.length_nil] at high
      omega
    rcases cases with rfl | rfl | rfl | rfl | rfl | rfl <;> decide
  · intro level hl
    have cases : level = 4 ∨ level = 6 := by simpa using hl
    rcases cases with rfl | rfl <;> exact ⟨by decide +kernel, by decide +kernel⟩

end Cpu
end Genesis
