import Genesis.Json.Printer
import Genesis.Json.Reader

/-!
# The clock budget of a line

Each line of the picture gets the same number of budget units: the master clock divided, rounding
down each time, by the frame rate and four further divisors. The processor runs a fixed number of
clocks in each unit.
-/

namespace Genesis

structure Timing where
  masterClockNtsc : UInt32 := 53693175
  masterClockPal : UInt32 := 53203424
  frameRateNtsc : UInt32 := 60
  frameRatePal : UInt32 := 50
  /-- Lines that the clocks of a frame are spread over. -/
  lines : UInt32 := 224
  /-- Master clocks for each clock of the processor. -/
  cpuDivider : UInt32 := 7
  /-- Clocks of the processor for each budget unit. -/
  subCycles : UInt32 := 2
  /-- A further divisor that stands in for the cost of instructions. -/
  cycleScale : UInt32 := 10
deriving DecidableEq, Repr

namespace Timing

/-- The fields that divide. -/
inductive Divisor where
  | frameRateNtsc
  | frameRatePal
  | lines
  | cpuDivider
  | subCycles
  | cycleScale
deriving DecidableEq, Repr

namespace Divisor

def all : List Divisor :=
  [frameRateNtsc, frameRatePal, lines, cpuDivider, subCycles, cycleScale]

def name : Divisor → String
  | frameRateNtsc => "frame_rate_ntsc"
  | frameRatePal => "frame_rate_pal"
  | lines => "lines"
  | cpuDivider => "cpu_divider"
  | subCycles => "sub_cycles"
  | cycleScale => "cycle_scale"

theorem mem_all (d : Divisor) : d ∈ all := by cases d <;> decide

end Divisor

def divisor (t : Timing) : Divisor → UInt32
  | .frameRateNtsc => t.frameRateNtsc
  | .frameRatePal => t.frameRatePal
  | .lines => t.lines
  | .cpuDivider => t.cpuDivider
  | .subCycles => t.subCycles
  | .cycleScale => t.cycleScale

/-- The first divisor that is zero. -/
def zeroDivisor? (t : Timing) : Option Divisor := Divisor.all.find? fun d => t.divisor d == 0

def masterClock (t : Timing) (pal : Bool) : UInt32 :=
  if pal then t.masterClockPal else t.masterClockNtsc

/-- The divisors that lead from the master clock to the budget of a line. -/
def lineDivisors (t : Timing) (pal : Bool) : List UInt32 :=
  [if pal then t.frameRatePal else t.frameRateNtsc, t.lines, t.cpuDivider, t.subCycles,
    t.cycleScale]

/-- A zero divides like a one. -/
def atLeastOne (x : UInt32) : UInt32 := if x = 0 then 1 else x

def unitsPerLine (t : Timing) (pal : Bool) : UInt32 :=
  (t.lineDivisors pal).foldl (fun n d => n / atLeastOne d) (t.masterClock pal)

/-- Clocks of the processor for each line. -/
def clocksPerLine (t : Timing) (pal : Bool) : UInt32 := t.unitsPerLine pal * t.subCycles

theorem zeroDivisor?_eq_none_iff (t : Timing) :
    t.zeroDivisor? = none ↔ ∀ d, t.divisor d ≠ 0 := by
  simp only [zeroDivisor?, List.find?_eq_none, beq_iff_eq]
  exact ⟨fun h d => h d (Divisor.mem_all d), fun h d _ => h d⟩

def fields : List (Json.Field Timing) :=
  [.of "master_clock_ntsc" Json.word32 fun t x => { t with masterClockNtsc := x },
   .of "master_clock_pal" Json.word32 fun t x => { t with masterClockPal := x },
   .of "frame_rate_ntsc" Json.word32 fun t x => { t with frameRateNtsc := x },
   .of "frame_rate_pal" Json.word32 fun t x => { t with frameRatePal := x },
   .of "lines" Json.word32 fun t x => { t with lines := x },
   .of "cpu_divider" Json.word32 fun t x => { t with cpuDivider := x },
   .of "sub_cycles" Json.word32 fun t x => { t with subCycles := x },
   .of "cycle_scale" Json.word32 fun t x => { t with cycleScale := x }]

/-- Read a timing; missing fields take their defaults. -/
def read (s : List Char) : Except Json.Fault (Timing × List Char) := Json.record fields {} s

def members (t : Timing) : List Json.Member :=
  [⟨"master_clock_ntsc", Json.printNat t.masterClockNtsc.toNat⟩,
   ⟨"master_clock_pal", Json.printNat t.masterClockPal.toNat⟩,
   ⟨"frame_rate_ntsc", Json.printNat t.frameRateNtsc.toNat⟩,
   ⟨"frame_rate_pal", Json.printNat t.frameRatePal.toNat⟩,
   ⟨"lines", Json.printNat t.lines.toNat⟩,
   ⟨"cpu_divider", Json.printNat t.cpuDivider.toNat⟩,
   ⟨"sub_cycles", Json.printNat t.subCycles.toNat⟩,
   ⟨"cycle_scale", Json.printNat t.cycleScale.toNat⟩]

def parse (text : String) : Except Json.Fault Timing := Json.document read text.toList

end Timing
end Genesis
