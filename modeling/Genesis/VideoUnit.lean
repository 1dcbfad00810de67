import Genesis.Dialogue
import Genesis.Notice
import Genesis.Scanline

/-!
# The video unit's side of the bus

A video unit has a data port, a control port, a step that renders one line, and two interrupt
enables. While a control word is handled it may fetch words from the console's memory; nothing else
gives it access to anything but its own state.
-/

namespace Genesis

/-- What a video unit may ask for while it handles a control word. -/
inductive VideoRequest where
  | fetch (address : UInt32)
  | note (n : Notice)
deriving DecidableEq

abbrev VideoRequest.Answer : VideoRequest → Type
  | .fetch _ => UInt16
  | .note _ => Unit

abbrev VideoProgram := Dialogue VideoRequest VideoRequest.Answer

namespace VideoProgram

def fetch (address : UInt32) : VideoProgram UInt16 :=
  Dialogue.query (A := VideoRequest.Answer) (.fetch address)

def note (n : Notice) : VideoProgram Unit :=
  Dialogue.query (A := VideoRequest.Answer) (.note n)

end VideoProgram

inductive VideoOutput where
  | scanline (s : Scanline)
  | note (n : Notice)

/-- A video unit with state `ν`. -/
class VideoUnit (ν : Type) where
  /-- Return to the power-on state. -/
  powerOn : ν → Reported ν
  readData : ν → Reported (UInt16 × ν)
  writeData : UInt16 → ν → Reported ν
  /-- Read the status register. -/
  readStatus : ν → Reported (UInt16 × ν)
  /-- Handle a command, register or transfer word. -/
  writeControl : UInt16 → ν → VideoProgram ν
  /-- Render a line. -/
  render : UInt16 → ν → List VideoOutput × ν
  lineInterruptEnabled : ν → Bool
  frameInterruptEnabled : ν → Bool

end Genesis
