import Genesis.Proofs.Cpu.Reset
import Genesis.Proofs.Machine.InertSettings

/-!
# Resetting a console

The reset vectors lie at low addresses, where the cartridge answers or nothing does. So a reset
reads four words, reports those of them that are not mapped, and loads six fields of the processor;
it reaches no device, asks for no button and changes nothing else. What it loads depends on the
cartridge alone, so until the slot changes another reset loads the same (`reset_loads_six_fields`).
-/

namespace Genesis

theorem Host.report_transcribing {η : Type} (host : Host η) (notices : List Notice)
    (s : List Message × η) :
    host.transcribing.report notices s =
      (s.1 ++ notices.map .notice, host.report notices s.2) := by
  induction notices generalizing s with
  | nil => simp
  | cons n notices ih =>
    rw [report_cons, ih, List.map_cons, List.append_cons]
    rfl

namespace Cpu

/-- Where a reset finds the words that it reads: two of a stack pointer and two of a program
counter. -/
def vectors : List UInt32 := [0, 2, 4, 6]

/-- The processor as a reset with this cartridge leaves it. -/
def restartedFrom (cpu : Cpu) (c : Cartridge) : Cpu :=
  cpu.restarted (longOf (lowWordAt c 0) (lowWordAt c 2)) (longOf (lowWordAt c 4) (lowWordAt c 6))

theorem restartedFrom_unmarked (cpu : Cpu) (c : Cartridge) :
    cpu.restartedFrom c.unmarked = cpu.restartedFrom c := rfl

theorem restartedFrom_restartedFrom (cpu : Cpu) (c : Cartridge) :
    (cpu.restartedFrom c).restartedFrom c = cpu.restartedFrom c := by
  simp only [restartedFrom, restarted, setSp, Bank.put_put]

/-- Whatever the processor holds, a cartridge gives the same six values. -/
theorem restartedFrom_eq (cpu other : Cpu) (c : Cartridge) :
    cpu.restartedFrom c =
      let started := other.restartedFrom c
      { cpu with
        sr := started.sr, a := cpu.a.put 7 started.sp, pc := started.pc, stopped := started.stopped
        countdown := started.countdown, clock := started.clock } := by
  simp only [restartedFrom, sp_restarted]
  rfl

theorem low_of_mem_vectors {a : UInt32} (vector : a ∈ vectors) : a.toNat < 0xA00000 := by
  have low : vectors.all fun a => a.toNat < 0xA00000 := by decide
  exact of_decide_eq_true (List.all_eq_true.1 low a vector)

variable {ν η : Type} [VideoUnit ν] (host : Host η) (cpu : Cpu) (m : Memory ν) (h : η)

omit [VideoUnit ν] in
theorem reset_eq : cpu.reset =
    Dialogue.ask (.read 0 .both) fun high => Dialogue.ask (.read 2 .both) fun low =>
      Dialogue.ask (.read 4 .both) fun high' => Dialogue.ask (.read 6 .both) fun low' =>
        Dialogue.done (cpu.restarted (longOf high low) (longOf high' low')) := rfl

/-- On the bus of a console it exchanges words of the cartridge, and the host is told about those
that are not mapped. -/
theorem reset_on_bus :
    cpu.reset.run (Bus.answer host) (m, h) =
      (cpu.restartedFrom m.cartridge, m, host.report (unmappedReads m.cartridge vectors) h) ∧
    cpu.reset.transcript (Bus.answer host) (m, h) =
      vectors.map fun a => Exchange.loads a (lowWordAt m.cartridge a.toNat) := by
  have first := read_of_low host 0 (by decide) m
  have second := read_of_low host 2 (by decide) m
  have third := read_of_low host 4 (by decide) m
  have fourth := read_of_low host 6 (by decide) m
  constructor
  · simp only [reset_eq, Dialogue.run_ask, Dialogue.run_done, Bus.answer, first, second, third,
      fourth, vectors, report_unmappedReads_cons_cons]
    rfl
  · simp only [reset_eq, Dialogue.transcript_ask, Dialogue.transcript_done, Bus.answer, first,
      second, third, fourth]
    rfl

end Cpu

namespace Machine

open Cpu (Exchange lowWordAt unmappedReads vectors)

variable {ν η : Type} [VideoUnit ν]

section Reset

variable (host : Host η) (m : Machine Cpu ν) (h : η)

theorem drive_reset :
    drive host Processor.reset m h =
      ({ m with cpu := m.cpu.restartedFrom m.memory.cartridge },
        host.report (unmappedReads m.memory.cartridge vectors) h) := by
  obtain ⟨cpu, memory, setup, held⟩ := m
  have ran := (Cpu.reset_on_bus host cpu memory h).1
  simp only [drive, Processor.reset, ran]

theorem reset_eq_drive : reset host m h = drive host Processor.reset m h := by
  rw [reset, drive_reset, drive_reset]
  rfl

theorem reset_eq :
    reset host m h =
      ({ m with cpu := m.cpu.restartedFrom m.memory.cartridge },
        host.report (unmappedReads m.memory.cartridge vectors) h) := by
  rw [reset_eq_drive, drive_reset]

theorem reset_of_same_cartridge {other : Machine Cpu ν}
    (same : m.memory.cartridge.unmarked = other.memory.cartridge.unmarked) (host' : Host η)
    (h' : η) : (reset host m h).1 =
      let started := (reset host' other h').1.cpu
      { m with cpu := { m.cpu with
        sr := started.sr, a := m.cpu.a.put 7 started.sp, pc := started.pc
        stopped := started.stopped, countdown := started.countdown
        clock := started.clock } } := by
  have started : other.cpu.restartedFrom m.memory.cartridge =
      other.cpu.restartedFrom other.memory.cartridge := by
    rw [← Cpu.restartedFrom_unmarked, same, Cpu.restartedFrom_unmarked]
  rw [reset_eq, reset_eq, ← started]
  exact congrArg (fun cpu => { m with cpu })
    (Cpu.restartedFrom_eq m.cpu other.cpu m.memory.cartridge)

end Reset

/-- What may happen to a console between two resets: an operation, or a program of its processor,
such as a clock or an interrupt. -/
inductive Happening where
  | operation (op : Operation)
  | program (p : Cpu → BusProgram Cpu)

namespace Happening

def perform (host : Host η) (m : Machine Cpu ν) (h : η) : Happening → Machine Cpu ν × η
  | operation op => (op.perform host m h).2
  | program p => drive host p m h

/-- Nothing is inserted or taken out. -/
def KeepsSlot : Happening → Prop
  | operation op => op.KeepsSlot
  | program _ => True

instance : (x : Happening) → Decidable x.KeepsSlot
  | operation op => inferInstanceAs (Decidable op.KeepsSlot)
  | program _ => isTrue trivial

theorem cartridge_perform {x : Happening} (keeps : x.KeepsSlot) (host : Host η) (m : Machine Cpu ν)
    (h : η) :
    (x.perform host m h).1.memory.cartridge.unmarked = m.memory.cartridge.unmarked := by
  cases x with
  | operation op => exact cartridge_perform_of_keepsSlot host m h keeps
  | program p => exact congrArg Cartridge.unmarked (cartridge_drive host m h p)

end Happening

/-- What happens to a console in order, each time with a host of its own. -/
def afterAll : List (Host η × Happening) → Machine Cpu ν × η → Machine Cpu ν × η
  | [], s => s
  | (host, x) :: happenings, s => afterAll happenings (x.perform host s.1 s.2)

theorem cartridge_afterAll {happenings : List (Host η × Happening)}
    (keep : ∀ x ∈ happenings, x.2.KeepsSlot) (s : Machine Cpu ν × η) :
    (afterAll happenings s).1.memory.cartridge.unmarked = s.1.memory.cartridge.unmarked := by
  induction happenings generalizing s with
  | nil => rfl
  | cons x happenings ih =>
    obtain ⟨host, x⟩ := x
    obtain ⟨now, later⟩ := List.forall_mem_cons.1 keep
    exact (ih later _).trans (x.cartridge_perform now host s.1 s.2)

/-- A reset of a console with any video unit, in any state and with any part of the vectors mapped,
reads the four words at addresses 0 to 6 and nothing else. None of these addresses selects a device
with any cartridge, and on a bus with live buttons none is asked for; the host only hears of the
words that are not mapped. All that changes is six fields of the processor, which follow from the
four words. After anything but an insertion or a removal another reset loads the same six values,
and right after the first it changes nothing. -/
theorem reset_loads_six_fields (host : Host η) (m : Machine Cpu ν) (h : η) :
    let word (a : UInt32) := (Bus.read host a .both m.memory h).1
    let next := (reset host m h).1
    next = { m with cpu := { m.cpu with
      sr := 0x2700, a := m.cpu.a.put 7 (longOf (word 0) (word 2)), pc := longOf (word 4) (word 6)
      stopped := false, countdown := 0, clock := 0 } } ∧
    (∀ a ∈ [0, 2, 4, 6], word a =
      if a.toNat < m.memory.cartridge.size then m.memory.cartridge.word a.toNat else 0) ∧
    (Processor.reset m.cpu).transcript (Bus.answer host) (m.memory, h) =
      [Exchange.loads 0 (word 0), Exchange.loads 2 (word 2),
       Exchange.loads 4 (word 4), Exchange.loads 6 (word 6)] ∧
    (∀ a ∈ [0, 2, 4, 6], ∀ mapped,
      Region.decode a mapped = .cartridge ∨ Region.decode a mapped = .invalid) ∧
    (drive host.transcribing Processor.reset m ([], h) =
      (next, (unmappedReads m.memory.cartridge [0, 2, 4, 6]).map .notice, (reset host m h).2)) ∧
    (∀ happenings : List (Host η × Happening), (∀ x ∈ happenings, x.2.KeepsSlot) →
      ∀ host' : Host η,
        let later := afterAll happenings (reset host m h)
        (reset host' later.1 later.2).1 = { later.1 with cpu := { later.1.cpu with
          sr := next.cpu.sr, a := later.1.cpu.a.put 7 next.cpu.sp, pc := next.cpu.pc
          stopped := next.cpu.stopped, countdown := next.cpu.countdown
          clock := next.cpu.clock } }) ∧
    ∀ (host' : Host η) (h' : η), (reset host' next h').1 = next := by
  intro word next
  have shown (a : UInt32) (vector : a ∈ vectors) : word a = lowWordAt m.memory.cartridge a.toNat :=
    congrArg Prod.fst (Cpu.read_of_low host a (Cpu.low_of_mem_vectors vector) m.memory h)
  have restarts : next = { m with cpu := m.cpu.restartedFrom m.memory.cartridge } :=
    congrArg Prod.fst (reset_eq host m h)
  have zero : word 0 = lowWordAt m.memory.cartridge 0 := shown 0 (by decide)
  have two : word 2 = lowWordAt m.memory.cartridge 2 := shown 2 (by decide)
  have four : word 4 = lowWordAt m.memory.cartridge 4 := shown 4 (by decide)
  have six : word 6 = lowWordAt m.memory.cartridge 6 := shown 6 (by decide)
  refine ⟨?_, shown, ?_, fun a vector mapped => ?_, ?_, fun happenings keep host' => ?_,
    fun host' h' => ?_⟩
  · rw [restarts, zero, two, four, six]
    rfl
  · rw [zero, two, four, six]
    exact (Cpu.reset_on_bus host m.cpu m.memory h).2
  · rw [Cpu.decode_of_low (Cpu.low_of_mem_vectors vector)]
    split <;> simp
  · rw [drive_reset, Host.report_transcribing, restarts, reset_eq]
    rfl
  · have same : (afterAll happenings (reset host m h)).1.memory.cartridge.unmarked =
        m.memory.cartridge.unmarked := by
      rw [cartridge_afterAll keep, reset_eq]
    exact reset_of_same_cartridge host' _ _ same host h
  · rw [reset_eq, restarts]
    simp only [Cpu.restartedFrom_restartedFrom]

/-- Five mapped bytes hold the stack pointer and the upper half of the program counter; an
interrupt, a frame, a write to work RAM and a refused insertion come between two resets. -/
theorem reset_loads_six_fields_of_short_cartridge :
    let m : Machine Cpu Vdp := {
      cpu := { pc := 0x1000, stopped := true }
      memory := {
        cartridge := { buffer := #[0x00, 0xFF, 0xFE, 0x00, 0x12], size := 5 }
        video := Vdp.initial } }
    let happenings : List (Host Unit × Happening) := [
      (Host.idle, .program (Cpu.interrupt 7)),
      (Host.idle, .operation .runFrame),
      (Host.idle, .operation (.write 0xFF0000 .both 0x1234)),
      (Host.idle, .operation (.request (.mount "tape" #[0x4E, 0x71])))]
    (∀ x ∈ happenings, x.2.KeepsSlot) ∧
      ∀ later, later = afterAll happenings (reset Host.idle m ()) →
        let cpu := (reset Host.idle later.1 later.2).1.cpu
        cpu.sp = 0x00FFFE00 ∧ cpu.pc = 0x12000000 ∧ cpu.sr = 0x2700 ∧ cpu.stopped = false := by
  intro m happenings
  have keep : ∀ x ∈ happenings, x.2.KeepsSlot := by decide
  refine ⟨keep, fun later eq => ?_⟩
  have again := (reset_loads_six_fields Host.idle m ()).2.2.2.2.2.1 happenings keep Host.idle
  have sp : (reset Host.idle m ()).1.cpu.sp = 0x00FFFE00 := by decide
  have pc : (reset Host.idle m ()).1.cpu.pc = 0x12000000 := by decide
  dsimp only at again
  rw [← eq, sp, pc] at again
  dsimp only
  rw [again]
  exact ⟨Bank.get_put_self _ _ _, rfl, rfl, rfl⟩

end Machine

end Genesis
