import Genesis.Frame
import Genesis.Machine.Basic

/-!
# The schedule of a frame

For each line the processor runs its clocks, the line is rendered, and the line interrupt is
requested if the video unit enables it then. The frame interrupt follows the last line.
-/

namespace Genesis
namespace Machine

variable {σ ν η : Type}

def lineCount : Nat := 224

def lineInterruptLevel : UInt8 := 4

def frameInterruptLevel : UInt8 := 6

/-- Run the processor for a number of clocks. -/
def runClocks [Processor σ] [VideoUnit ν] (host : Host η) :
    Nat → σ → Memory ν × η → σ × Memory ν × η
  | 0, cpu, s => (cpu, s)
  | n + 1, cpu, s =>
    let (cpu, s) := (Processor.cycle cpu).run (Bus.answer host) s
    runClocks host n cpu s

def renderLine [VideoUnit ν] (host : Host η) (line : UInt16) (s : Memory ν × η) : Memory ν × η :=
  let (⟨cartridge, workRam, z80Ram, pads, video⟩, h) := s
  let (outputs, video) := VideoUnit.render line video
  (⟨cartridge, workRam, z80Ram, pads, video⟩, host.display outputs h)

def requestInterrupt [Processor σ] [VideoUnit ν] (host : Host η) (enabled : Bool) (n : Notice)
    (level : UInt8) (cpu : σ) (s : Memory ν × η) : σ × Memory ν × η :=
  if enabled then
    let (memory, h) := s
    (Processor.interrupt level cpu).run (Bus.answer host) (memory, host.notice n h)
  else (cpu, s)

/-- One line of the schedule. -/
def runLine [Processor σ] [VideoUnit ν] (host : Host η) (clocks : Nat) (line : UInt16) (cpu : σ)
    (s : Memory ν × η) : σ × Memory ν × η :=
  let (cpu, s) := runClocks host clocks cpu s
  let s := renderLine host line s
  requestInterrupt host (VideoUnit.lineInterruptEnabled s.1.video) (.lineInterrupt line)
    lineInterruptLevel cpu s

def runLines [Processor σ] [VideoUnit ν] (host : Host η) (clocks : Nat) :
    List UInt16 → σ → Memory ν × η → σ × Memory ν × η
  | [], cpu, s => (cpu, s)
  | line :: lines, cpu, s =>
    let (cpu, s) := runLine host clocks line cpu s
    runLines host clocks lines cpu s

def frameLines : List UInt16 := (List.range lineCount).map UInt16.ofNat

def clocksPerLine (setup : Setup) : UInt32 :=
  setup.unitsPerLine * Timing.atLeastOne setup.timing.subCycles

def runFrame [Processor σ] [VideoUnit ν] (host : Host η) (m : Machine σ ν) (h : η) :
    Machine σ ν × η :=
  let ⟨cpu, memory, setup, held⟩ := m
  let (cpu, s) := runLines host (clocksPerLine setup).toNat frameLines cpu (memory, h)
  let (cpu, memory, h) := requestInterrupt host (VideoUnit.frameInterruptEnabled s.1.video)
    .frameInterrupt frameInterruptLevel cpu s
  (⟨cpu, memory, setup, held⟩, h)

def pictureHost (host : Host η) (held : HeldButtons) : Host (Picture × η) where
  pressed x s := (held.contains x, s)
  scanline line s := (s.1.add line, s.2)
  notice n s := (s.1, host.notice n s.2)

/-- Run a frame with the held buttons pressed and collect its lines. There is no frame if a line
does not fit into the size that the first line has fixed. -/
def stepFrame [Processor σ] [VideoUnit ν] (host : Host η) (m : Machine σ ν) (h : η) :
    Option Frame × Machine σ ν × η :=
  let (m, picture, h) := runFrame (pictureHost host m.held) m (Picture.empty, h)
  (picture.frame?, m, h)

end Machine
end Genesis
