import Genesis.Processor
import Genesis.Text.Hex
import Genesis.VideoUnit

/-!
# Scripted components

A processor and a video unit that follow a script and remark on everything that is asked of them.
They show in which order a console calls its components.
-/

namespace Genesis
namespace Scripted

open Text (hex)

/-- A bus access: a write if there is a value. -/
structure Access where
  address : UInt32
  lanes : Lanes
  value : Option UInt16

structure Cue where
  onReset : Bool := false
  /-- The number of a clock, counted from one. -/
  onCycle : Nat := 0
  /-- The level of an interrupt request. -/
  onInterrupt : Nat := 0
  access : Access

/-- A processor that makes the accesses of its script. -/
structure Player where
  script : List Cue
  cycles : Nat := 0

namespace Player

def remark (text : String) : BusProgram Unit := BusProgram.note (.remark .cpu .off text)

def make (a : Access) : BusProgram Unit :=
  match a.value with
  | none => do
    let value ← BusProgram.read a.address a.lanes
    remark s!"read {hex 6 a.address.toNat} {a.lanes.name} {hex 4 value.toNat}"
  | some value => do
    remark s!"write {hex 6 a.address.toNat} {a.lanes.name}"
    BusProgram.write a.address a.lanes value

def makeAll : List Access → BusProgram Unit
  | [] => return ()
  | a :: rest => do
    make a
    makeAll rest

def play (p : Player) (selects : Cue → Bool) : BusProgram Unit :=
  makeAll ((p.script.filter selects).map Cue.access)

instance : Processor Player where
  reset p := do
    remark "reset"
    p.play fun c => c.onReset
    return p
  cycle p := do
    let p := { p with cycles := p.cycles + 1 }
    remark "cycle"
    p.play fun c => c.onCycle == p.cycles
    return p
  interrupt level p := do
    remark s!"interrupt {level.toNat}"
    p.play fun c => c.onInterrupt == level.toNat
    return p

end Player

structure Line where
  length : Nat
  width : UInt16
  height : UInt16
  colour : UInt32

/-- A video unit that renders the lines of its script in turn. -/
structure Screen where
  lines : List (Option Line)
  /-- Whether the line interrupt is enabled, by the number of the line rendered last. -/
  lineInterrupts : List Bool
  frameInterrupt : Bool
  /-- The addresses fetched on every control word. -/
  probe : List UInt32
  lastLine : Nat := 0
  /-- The last word that the data port has shown. -/
  lastWord : UInt16 := 0

namespace Screen

def remark (text : String) : Notice := .remark .video .off text

/-- The entry of a repeating list. -/
def turn? {α : Type} (entries : List α) (n : Nat) : Option α := entries[n % entries.length]?

/-- Fetch addresses in order and remark on each. -/
def fetchAll : List UInt32 → VideoProgram Unit
  | [] => return ()
  | a :: rest => do
    let word ← VideoProgram.fetch a
    VideoProgram.note (remark s!"dma {hex 6 a.toNat} {hex 4 word.toNat}")
    fetchAll rest

def output (s : Screen) (line : UInt16) : List VideoOutput :=
  match turn? s.lines line.toNat with
  | some (some l) =>
    [.scanline { line, pixels := Array.replicate l.length l.colour, width := l.width,
                 height := l.height }]
  | _ => []

instance : VideoUnit Screen where
  powerOn s := ⟨s, [remark "init"]⟩
  readData s :=
    let word := s.lastWord + 0x0111
    ⟨(word, { s with lastWord := word }), [remark "read_data"]⟩
  writeData value s := ⟨s, [remark s!"write_data {hex 4 value.toNat}"]⟩
  readStatus s := ⟨(0xA55A, s), [remark "read_control"]⟩
  writeControl value s := do
    VideoProgram.note (remark s!"write_control {hex 4 value.toNat}")
    fetchAll s.probe
    return s
  render line s :=
    (.note (remark s!"render {line.toNat}") :: s.output line, { s with lastLine := line.toNat })
  lineInterruptEnabled s := (turn? s.lineInterrupts s.lastLine).getD false
  frameInterruptEnabled s := s.frameInterrupt

end Screen
end Scripted
end Genesis
