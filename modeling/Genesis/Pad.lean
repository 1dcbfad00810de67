import Genesis.Button
import Genesis.Notice

/-!
# Control pad ports

A port has a data and a control register. Control bits mark the pins that the console drives, and
only those pins take what is written to the data register. Bit 6 of the data register selects which
half of the pad answers a read; a pressed button pulls its line low.
-/

namespace Genesis

structure Pad where
  control : UInt8 := 0
  data : UInt8 := 0
deriving DecidableEq

namespace Pad

/-- Store only the bits that the control register marks as outputs. -/
def writeData (pad : Pad) (value : UInt8) : Pad := { pad with data := value &&& pad.control }

def writeControl (pad : Pad) (value : UInt8) : Pad := { pad with control := value }

/-- The buttons on the lines of one half, each with the bit that it leaves set while released. -/
def half (selectHigh : Bool) : List (Button × UInt8) :=
  if selectHigh then
    [(.c, 0x20), (.b, 0x10), (.right, 0x08), (.left, 0x04), (.down, 0x02), (.up, 0x01)]
  else
    [(.start, 0x20), (.a, 0x10), (.down, 0x02), (.up, 0x01)]

def asked (pad : Pad) : List (Button × UInt8) := half (pad.data &&& 0x40 != 0)

/-- Ask for buttons in order and collect the bits of the released ones. -/
def released {η : Type} (pressed : Button → η → Bool × η) : List (Button × UInt8) → η → UInt8 × η
  | [], h => (0, h)
  | (x, bit) :: rest, h =>
    let (isPressed, h) := pressed x h
    let (bits, h) := released pressed rest h
    ((if isPressed then 0 else bit) ||| bits, h)

def read {η : Type} (pad : Pad) (pressed : Button → η → Bool × η) (h : η) : Reported UInt8 × η :=
  let (lines, h) := released pressed pad.asked h
  (⟨pad.data ||| lines, [.padRead pad.data pad.control lines]⟩, h)

end Pad
end Genesis
