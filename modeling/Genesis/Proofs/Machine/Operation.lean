import Genesis.Machine.Schedule
import Genesis.Proofs.Machine.Refusal

/-!
# Runs of a console

What can be done to a console from outside, one operation after the other. Every operation of a run
has a host of its own, so the buttons may be answered differently each time.
-/

namespace Genesis
namespace Machine

variable {σ ν η : Type}

inductive Operation where
  /-- An operation that can be refused. -/
  | request (r : Request)
  | reset
  | powerOn
  | setPal (pal : Bool)
  | setJapanese (japanese : Bool)
  | setRomWriteable (romWriteable : Bool)
  | hold (buttons : List Button)
  | runFrame
  | stepFrame
  /-- A read on the processor's bus. -/
  | read (address : UInt32) (lanes : Lanes)
  /-- A write on the processor's bus. -/
  | write (address : UInt32) (lanes : Lanes) (value : UInt16)
  /-- A read on the video unit's side of the bus. -/
  | fetch (address : UInt32)
deriving DecidableEq

inductive Outcome where
  | silent
  | verdict (r : Except MachineError Unit)
  | frame (f : Option Frame)
  | word (w : UInt16)

variable [Processor σ] [VideoUnit ν]

def Operation.perform (host : Host η) (m : Machine σ ν) (h : η) :
    Operation → Outcome × Machine σ ν × η
  | .request r => let (verdict, m, h) := r.perform host m h; (.verdict verdict, m, h)
  | .reset => (.silent, Machine.reset host m h)
  | .powerOn => (.silent, Machine.powerOn host m h)
  | .setPal pal => (.silent, m.setPal pal, h)
  | .setJapanese japanese => (.silent, m.setJapanese japanese, h)
  | .setRomWriteable romWriteable => (.silent, m.setRomWriteable romWriteable, h)
  | .hold buttons => (.silent, m.hold buttons, h)
  | .runFrame => (.silent, Machine.runFrame host m h)
  | .stepFrame => let (frame, m, h) := Machine.stepFrame host m h; (.frame frame, m, h)
  | .read address lanes =>
    let (word, memory, h) := Bus.read host address lanes m.memory h
    (.word word, { m with memory }, h)
  | .write address lanes value =>
    let (memory, h) := Bus.write host address lanes value m.memory h
    (.silent, { m with memory }, h)
  | .fetch address =>
    let (word, h) := Bus.fetch host m.memory.cartridge m.memory.workRam address h
    (.word word, m, h)

def runSteps : List (Host η × Operation) → Machine σ ν × η → List Outcome × Machine σ ν × η
  | [], s => ([], s)
  | (host, op) :: steps, (m, h) =>
    let (outcome, s) := op.perform host m h
    let (outcomes, s) := runSteps steps s
    (outcome :: outcomes, s)

theorem runSteps_cons (host : Host η) (op : Operation) (steps : List (Host η × Operation))
    (m : Machine σ ν) (h : η) :
    runSteps ((host, op) :: steps) (m, h) =
      ((op.perform host m h).1 :: (runSteps steps (op.perform host m h).2).1,
        (runSteps steps (op.perform host m h).2).2) := rfl

end Machine
end Genesis
