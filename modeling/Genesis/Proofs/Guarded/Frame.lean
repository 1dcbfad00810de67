import Genesis.Proofs.Bus.HostState
import Genesis.Proofs.Guarded.Bus
import Genesis.Proofs.Guarded.Cpu
import Genesis.Proofs.Guarded.Picture
import Genesis.Proofs.Machine.Schedule

/-!
# Frames under guard

The clock budget is worked out with checked divisions and a checked product, and every clock, line
and interrupt of a frame runs under guard. Showing a line may fail a check of its own: that it does
not is an invariant of the host's state (`Shows`).
-/

namespace Genesis
namespace Guarded

variable {η : Type}

section Budget

/-- Divide by one divisor after the other, where a zero counts as a one. -/
def divideAll (n : UInt32) : List UInt32 → Guarded UInt32
  | [] => return n
  | d :: ds => do
    let quotient ← div n (Timing.atLeastOne d)
    divideAll quotient ds

def unitsPerLine (t : Timing) (pal : Bool) : Guarded UInt32 :=
  divideAll (t.masterClock pal) (t.lineDivisors pal)

def clocksPerLine (setup : Setup) : Guarded UInt32 := do
  let units ← unitsPerLine setup.timing setup.pal
  mul units (Timing.atLeastOne setup.timing.subCycles)

/-- The clocks of a line by a timing alone, where no clocks for each unit stay none. -/
def budgetPerLine (t : Timing) (pal : Bool) : Guarded UInt32 := do
  let units ← unitsPerLine t pal
  mul units t.subCycles

theorem atLeastOne_ne_zero (x : UInt32) : Timing.atLeastOne x ≠ 0 := by
  intro zero
  have positive : 1 ≤ (Timing.atLeastOne x).toNat := by
    rw [Timing.toNat_atLeastOne]
    exact Nat.le_max_left 1 _
  rw [zero] at positive
  exact absurd positive (by decide)

theorem divideAll_eq (n : UInt32) (ds : List UInt32) :
    divideAll n ds = .ok (ds.foldl (fun n d => n / Timing.atLeastOne d) n) := by
  induction ds generalizing n with
  | nil => rfl
  | cons d ds ih =>
    rw [divideAll, div_of_ne (atLeastOne_ne_zero d), ok_bind, ih]
    rfl

@[simp] theorem unitsPerLine_eq (t : Timing) (pal : Bool) :
    unitsPerLine t pal = .ok (t.unitsPerLine pal) :=
  divideAll_eq _ _

/-- The units of a line, each of at least one clock, are not more than the master clock. -/
theorem units_mul_lt (t : Timing) (pal : Bool) :
    (t.unitsPerLine pal).toNat * max 1 t.subCycles.toNat < 4294967296 :=
  Nat.lt_of_le_of_lt (t.unitsPerLine_mul_le pal) (t.masterClock pal).toNat_lt

@[simp] theorem clocksPerLine_eq (setup : Setup) :
    clocksPerLine setup = .ok (Machine.clocksPerLine setup) := by
  have fits := units_mul_lt setup.timing setup.pal
  rw [← Timing.toNat_atLeastOne] at fits
  rw [clocksPerLine, unitsPerLine_eq, ok_bind, mul_of_lt fits]
  rfl

@[simp] theorem budgetPerLine_eq (t : Timing) (pal : Bool) :
    budgetPerLine t pal = .ok (t.clocksPerLine pal) := by
  have fits : (t.unitsPerLine pal).toNat * t.subCycles.toNat < 4294967296 :=
    Nat.lt_of_le_of_lt (Nat.mul_le_mul_left _ (Nat.le_max_right 1 _)) (units_mul_lt t pal)
  rw [budgetPerLine, unitsPerLine_eq, ok_bind, mul_of_lt fits]
  rfl

end Budget

section Schedule

def drive (host : Host η) {α : Type} (program : Program BusRequest BusRequest.Answer α)
    (s : Memory Vdp × η) : Guarded (α × Memory Vdp × η) :=
  run (answer host) program s

def runClocks (host : Host η) : Nat → Cpu → Memory Vdp × η → Guarded (Cpu × Memory Vdp × η)
  | 0, cpu, s => return (cpu, s)
  | n + 1, cpu, s => do
    let (cpu, s) ← drive host (cycle cpu) s
    runClocks host n cpu s

def renderLine (screen : Scanline → η → Guarded η) (line : UInt16) (s : Memory Vdp × η) :
    Guarded (Memory Vdp × η) := do
  let rendered ← scanline line s.1.video
  let h ← screen rendered s.2
  let video ← afterLine line s.1.video
  return ({ s.1 with video }, h)

def requestInterrupt (host : Host η) (enabled : Bool) (n : Notice) (level : UInt8) (cpu : Cpu)
    (s : Memory Vdp × η) : Guarded (Cpu × Memory Vdp × η) :=
  if enabled then drive host (interrupt level cpu) (s.1, host.notice n s.2)
  else return (cpu, s)

def runLine (host : Host η) (screen : Scanline → η → Guarded η) (clocks : Nat) (line : UInt16)
    (cpu : Cpu) (s : Memory Vdp × η) : Guarded (Cpu × Memory Vdp × η) := do
  let (cpu, s) ← runClocks host clocks cpu s
  let s ← renderLine screen line s
  let enabled ← lineInterruptEnabled s.1.video
  requestInterrupt host enabled (.lineInterrupt line) Machine.lineInterruptLevel cpu s

def runLines (host : Host η) (screen : Scanline → η → Guarded η) (clocks : Nat) :
    List UInt16 → Cpu → Memory Vdp × η → Guarded (Cpu × Memory Vdp × η)
  | [], cpu, s => return (cpu, s)
  | line :: lines, cpu, s => do
    let (cpu, s) ← runLine host screen clocks line cpu s
    runLines host screen clocks lines cpu s

/-- Run a frame of some lines. -/
def runFrameOf (lines : List UInt16) (host : Host η) (screen : Scanline → η → Guarded η)
    (m : Machine Cpu Vdp) (h : η) : Guarded (Machine Cpu Vdp × η) := do
  let clocks ← clocksPerLine m.setup
  let (cpu, s) ← runLines host screen clocks.toNat lines m.cpu (m.memory, h)
  let enabled ← frameInterruptEnabled s.1.video
  let (cpu, memory, h) ←
    requestInterrupt host enabled .frameInterrupt Machine.frameInterruptLevel cpu s
  return ({ m with cpu, memory }, h)

def runFrame (host : Host η) (screen : Scanline → η → Guarded η) (m : Machine Cpu Vdp) (h : η) :
    Guarded (Machine Cpu Vdp × η) :=
  runFrameOf Machine.frameLines host screen m h

def intoPicture (s : Scanline) (h : Picture × η) : Guarded (Picture × η) := do
  let picture ← addLine s h.1
  return (picture, h.2)

def stepFrame (host : Host η) (m : Machine Cpu Vdp) (h : η) :
    Guarded (Frame × Machine Cpu Vdp × η) := do
  let (m, picture, h) ←
    runFrame (Machine.pictureHost host m.held) intoPicture m (Picture.empty, h)
  let f ← finish picture
  return (f, m, h)

/-- Showing a line of the screen succeeds as long as `P` holds of the host's state, and `P` goes on
holding. -/
structure Shows (host : Host η) (screen : Scanline → η → Guarded η) (P : η → Prop) : Prop where
  keeps : host.Keeps P
  scanline : ∀ (s : Scanline) (h : η), s.width.toNat ≤ 320 → s.height.toNat = 224 → P h →
    screen s h = .ok (host.scanline s h) ∧ P (host.scanline s h)

variable (host : Host η)

@[simp] theorem drive_eq {α : Type} (d : BusProgram α) (s : Memory Vdp × η) :
    drive host (liftM d) s = .ok (d.run (Genesis.Bus.answer host) s) :=
  run_liftM (answer_eq host) d s

@[simp] theorem runClocks_eq (n : Nat) (cpu : Cpu) (s : Memory Vdp × η) :
    runClocks host n cpu s = .ok (Machine.runClocks host n cpu s) := by
  induction n generalizing cpu s with
  | zero => rfl
  | succ n ih =>
    rw [runClocks, cycle_eq, drive_eq, ok_bind]
    exact ih _ _

@[simp] theorem requestInterrupt_eq (enabled : Bool) (n : Notice) (level : UInt8) (cpu : Cpu)
    (s : Memory Vdp × η) :
    requestInterrupt host enabled n level cpu s =
      .ok (Machine.requestInterrupt host enabled n level cpu s) := by
  cases enabled with
  | false => rfl
  | true =>
    rw [requestInterrupt, if_pos rfl, interrupt_eq, drive_eq]
    rfl

variable {host} {screen : Scanline → η → Guarded η} {P : η → Prop}

section Keeps

variable (keeps : host.Keeps P) {s : Memory Vdp × η} (start : P s.2)

include keeps start

theorem keeps_runClocks (n : Nat) (cpu : Cpu) : P (Machine.runClocks host n cpu s).2.2 := by
  induction n generalizing cpu s with
  | zero => exact start
  | succ n ih => exact ih (keeps.run start s.1 (Genesis.Cpu.cycle cpu)) _

theorem keeps_requestInterrupt (enabled : Bool) (n : Notice) (level : UInt8) (cpu : Cpu) :
    P (Machine.requestInterrupt host enabled n level cpu s).2.2 := by
  cases enabled with
  | false => exact start
  | true => exact keeps.run (keeps.notice n s.2 start) s.1 (Genesis.Cpu.interrupt level cpu)

end Keeps

namespace Shows

variable (shows : Shows host screen P)

include shows

section Lines

variable {s : Memory Vdp × η} (start : P s.2)

include start

theorem renderLine_eq {line : UInt16} (last : line.toNat + 1 < 65536) :
    renderLine screen line s = .ok (Machine.renderLine host line s) ∧
      P (Machine.renderLine host line s).2 := by
  obtain ⟨shown, goes⟩ :=
    shows.scanline (s.1.video.scanline line) s.2 (lineWidth_le s.1.video) rfl start
  refine ⟨?_, goes⟩
  rw [renderLine, scanline_eq, ok_bind, shown, ok_bind, afterLine_eq s.1.video line last]
  rfl

theorem runLine_eq (clocks : Nat) {line : UInt16} (last : line.toNat + 1 < 65536) (cpu : Cpu) :
    runLine host screen clocks line cpu s = .ok (Machine.runLine host clocks line cpu s) ∧
      P (Machine.runLine host clocks line cpu s).2.2 := by
  have clocked := keeps_runClocks shows.keeps start clocks cpu
  obtain ⟨rendered, goes⟩ := shows.renderLine_eq clocked last
  constructor
  · simp only [runLine, runClocks_eq, ok_bind, rendered, lineInterruptEnabled_eq,
      requestInterrupt_eq]
    rfl
  · exact keeps_requestInterrupt shows.keeps goes _ _ _ _

theorem runLines_eq (clocks : Nat) {lines : List UInt16}
    (last : ∀ line ∈ lines, line.toNat + 1 < 65536) (cpu : Cpu) :
    runLines host screen clocks lines cpu s = .ok (Machine.runLines host clocks lines cpu s) ∧
      P (Machine.runLines host clocks lines cpu s).2.2 := by
  induction lines generalizing cpu s with
  | nil => exact ⟨rfl, start⟩
  | cons line lines ih =>
    obtain ⟨ran, goes⟩ := shows.runLine_eq start clocks (last line (by simp)) cpu
    obtain ⟨rest, ends⟩ := ih goes (fun line mem => last line (by simp [mem]))
      (Machine.runLine host clocks line cpu s).1
    refine ⟨?_, ends⟩
    rw [runLines, ran, ok_bind]
    exact rest

end Lines

/-- Stated for any lines: the closed list of a frame would be run to compare the two sides. -/
theorem runFrameOf_eq {lines : List UInt16} (last : ∀ line ∈ lines, line.toNat + 1 < 65536)
    (m : Machine Cpu Vdp) {h : η} (start : P h) :
    let ran := Machine.runLines host (Machine.clocksPerLine m.setup).toNat lines m.cpu
      (m.memory, h)
    let s := Machine.requestInterrupt host (VideoUnit.frameInterruptEnabled ran.2.1.video)
      .frameInterrupt Machine.frameInterruptLevel ran.1 ran.2
    runFrameOf lines host screen m h = .ok ({ m with cpu := s.1, memory := s.2.1 }, s.2.2) ∧
      P s.2.2 := by
  intro ran s
  obtain ⟨lined, goes⟩ := shows.runLines_eq (s := (m.memory, h)) start
    (Machine.clocksPerLine m.setup).toNat last m.cpu
  refine ⟨?_, keeps_requestInterrupt shows.keeps goes _ _ _ _⟩
  simp only [runFrameOf, clocksPerLine_eq, ok_bind, lined, frameInterruptEnabled_eq,
    requestInterrupt_eq]
  rfl

theorem runFrame_eq (m : Machine Cpu Vdp) {h : η} (start : P h) :
    runFrame host screen m h = .ok (Machine.runFrame host m h) ∧
      P (Machine.runFrame host m h).2 := by
  have last : ∀ line ∈ Machine.frameLines, line.toNat + 1 < 65536 := by
    intro line mem
    obtain ⟨i, inside, rfl⟩ := List.mem_map.1 mem
    have small : i < 224 := List.mem_range.1 inside
    simp only [UInt16.toNat_ofNat']
    omega
  have lines : Machine.frameLines = (List.range 224).map UInt16.ofNat := rfl
  rw [Machine.runFrame_eq_request]
  simp only [Machine.beforeLine, ← lines]
  exact shows.runFrameOf_eq last m start

end Shows

theorem shows_directly (host : Host η) :
    Shows host (fun s h => .ok (host.scanline s h)) fun _ => True where
  keeps := ⟨fun _ _ _ => trivial, fun _ _ _ => trivial⟩
  scanline _ _ _ _ _ := ⟨rfl, trivial⟩

theorem shows_intoPicture (host : Host η) (held : HeldButtons) :
    Shows (Machine.pictureHost host held) intoPicture fun h => h.1.OfScreen where
  keeps := ⟨fun _ _ screen => screen, fun _ _ screen => screen⟩
  scanline s h narrow high screen := by
    obtain ⟨added, goes⟩ := addLine_eq narrow high screen
    refine ⟨?_, goes⟩
    rw [intoPicture, added]
    rfl

/-- A stepped frame is always finished, so `Machine.stepFrame` does return one. -/
theorem stepFrame_eq (host : Host η) (m : Machine Cpu Vdp) (h : η) :
    ∃ f, (Machine.stepFrame host m h).1 = some f ∧
      stepFrame host m h = .ok (f, (Machine.stepFrame host m h).2) := by
  obtain ⟨ran, screen⟩ :=
    (shows_intoPicture host m.held).runFrame_eq m (h := (Picture.empty, h)) trivial
  unfold Machine.stepFrame stepFrame
  rw [ran, ok_bind]
  -- The frame itself is not to be run here: only what it returns matters.
  generalize Machine.runFrame (Machine.pictureHost host m.held) m (Picture.empty, h) = r at screen ⊢
  obtain ⟨m, picture, h⟩ := r
  obtain ⟨f, finished, complete⟩ := finish_eq screen
  refine ⟨f, complete, ?_⟩
  dsimp only
  rw [finished]
  rfl

end Schedule

end Guarded
end Genesis
