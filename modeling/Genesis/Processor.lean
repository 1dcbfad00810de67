import Genesis.Dialogue
import Genesis.Lanes
import Genesis.Notice

/-!
# The processor's side of the bus

A processor is whatever can be reset, clocked and interrupted. All three talk to the bus and to
nothing else.
-/

namespace Genesis

/-- What a processor asks of the bus. -/
inductive BusRequest where
  | read (address : UInt32) (lanes : Lanes)
  | write (address : UInt32) (lanes : Lanes) (value : UInt16)
  | note (n : Notice)
deriving DecidableEq

/-- A read is answered with a word, whose unrequested half is zero. -/
abbrev BusRequest.Answer : BusRequest → Type
  | .read .. => UInt16
  | .write .. => Unit
  | .note .. => Unit

/-- A computation that uses the bus. -/
abbrev BusProgram := Dialogue BusRequest BusRequest.Answer

namespace BusProgram

def read (address : UInt32) (lanes : Lanes) : BusProgram UInt16 :=
  Dialogue.query (A := BusRequest.Answer) (.read address lanes)

def write (address : UInt32) (lanes : Lanes) (value : UInt16) : BusProgram Unit :=
  Dialogue.query (A := BusRequest.Answer) (.write address lanes value)

def note (n : Notice) : BusProgram Unit :=
  Dialogue.query (A := BusRequest.Answer) (.note n)

end BusProgram

/-- A primary processor with state `σ`. -/
class Processor (σ : Type) where
  /-- Load the reset vectors and enter supervisor mode. -/
  reset : σ → BusProgram σ
  /-- Advance by one clock. -/
  cycle : σ → BusProgram σ
  /-- Request an autovectored interrupt. -/
  interrupt : UInt8 → σ → BusProgram σ

end Genesis
