import Genesis.Bus
import Genesis.Configuration

/-!
# The console

A processor, everything on its bus, what the console is set to and the buttons held for whole
frames. Operations that can fail return the console beside the failure.
-/

namespace Genesis

structure Setup where
  /-- Fifty frames a second instead of sixty. -/
  pal : Bool := false
  japanese : Bool := false
  timing : Timing := {}
deriving DecidableEq

def Setup.unitsPerLine (s : Setup) : UInt32 := s.timing.unitsPerLine s.pal

/-- All that a configuration sets: the setup of the console and the mark of its cartridge. -/
structure Settings extends Setup where
  romWriteable : Bool := false
deriving DecidableEq

/-- A console with processor state `σ` and video unit state `ν`. -/
structure Machine (σ ν : Type) where
  cpu : σ
  memory : Memory ν
  setup : Setup := {}
  /-- The buttons that count as pressed in a stepped frame. -/
  held : HeldButtons := HeldButtons.none

inductive MachineError where
  | romTooLarge (size : Nat)
  | unknownMountPoint (id : String)
  | zeroDivisor (divisor : Timing.Divisor)
  | badConfiguration (fault : Json.Fault)
deriving DecidableEq

def MachineError.message : MachineError → String
  | romTooLarge size =>
    s!"ROM image of {size} bytes exceeds the {Cartridge.capacity} byte cartridge buffer"
  | unknownMountPoint id => s!"Invalid mount point: {id}"
  | zeroDivisor divisor => s!"Invalid configuration: timing.{divisor.name} must be non-zero"
  | badConfiguration .malformed => "Failed to parse configuration: malformed text"
  | badConfiguration .mismatched => "Failed to parse configuration: unexpected value"
  | badConfiguration .truncated => "Failed to parse configuration: unexpected end of text"

namespace Machine

variable {σ ν η : Type}

def drive [VideoUnit ν] (host : Host η) (program : σ → BusProgram σ) (m : Machine σ ν) (h : η) :
    Machine σ ν × η :=
  let ⟨cpu, memory, setup, held⟩ := m
  let (cpu, memory, h) := (program cpu).run (Bus.answer host) (memory, h)
  (⟨cpu, memory, setup, held⟩, h)

def powerOn [VideoUnit ν] (host : Host η) (m : Machine σ ν) (h : η) : Machine σ ν × η :=
  let ⟨cpu, ⟨cartridge, workRam, z80Ram, pads, video⟩, setup, held⟩ := m
  let ⟨video, notices⟩ := VideoUnit.powerOn video
  (⟨cpu, ⟨cartridge, workRam, z80Ram, pads, video⟩, setup, held⟩, host.report notices h)

def build [VideoUnit ν] (host : Host η) (cpu : σ) (video : ν) (h : η) : Machine σ ν × η :=
  powerOn host { cpu, memory := Memory.initial video } h

/-- Load the processor's reset vectors; memories and cartridge keep their contents. -/
def reset [Processor σ] [VideoUnit ν] (host : Host η) (m : Machine σ ν) (h : η) :
    Machine σ ν × η :=
  drive host.released Processor.reset m h

def settings (m : Machine σ ν) : Settings :=
  { m.setup with romWriteable := m.memory.cartridge.writeable }

def setPal (m : Machine σ ν) (pal : Bool) : Machine σ ν :=
  { m with setup := { m.setup with pal } }

def setJapanese (m : Machine σ ν) (japanese : Bool) : Machine σ ν :=
  { m with setup := { m.setup with japanese } }

def setRomWriteable (m : Machine σ ν) (writeable : Bool) : Machine σ ν :=
  { m with memory := m.memory.mark writeable }

/-- Hold these buttons, and no others, from the next stepped frame on. -/
def hold (m : Machine σ ν) (buttons : List Button) : Machine σ ν :=
  { m with held := HeldButtons.ofList buttons }

end Machine
end Genesis
