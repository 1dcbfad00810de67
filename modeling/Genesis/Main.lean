import Genesis.CommandLine.Session
import Genesis.Png

/-!
# The program

Carries out the requests of a session with the files, streams, clock and environment of the process.
-/

namespace Genesis
namespace CommandLine

def attempt {α : Type} (action : IO α) : IO (Option α) := do
  match ← action.toBaseIO with
  | .ok x => return some x
  | .error _ => return none

/-- Carry out one request. -/
def serve : (q : SystemRequest) → IO q.Answer
  | .readText path => attempt (IO.FS.readFile path)
  | .readBytes path => do
    match ← attempt (IO.FS.readBinFile path) with
    | some bytes => return some bytes.data
    | none => return none
  | .print text => IO.print text
  | .log line =>
    let label := line.level.label?.getD ""
    IO.eprintln s!"[{label} {line.target}] {line.text}"
  | .present _ => return ()
  | .savePicture path frame => do
    match ← attempt (IO.FS.writeBinFile path (Png.encode frame)) with
    | some _ => return true
    | none => return false

def execute {α : Type} : TimedProgram α → IO α
  | .done x => return x
  | .ask (.instant _) next => do
    let now ← IO.monoNanosNow
    execute (next now)
  | .ask (.request q) next => do
    let answer ← serve q
    execute (next answer)

def tell : Outcome → IO Unit
  | .misused fault => do
    IO.eprintln s!"error: {fault.message}"
    IO.eprintln "For more information, try '--help'."
  | .failed failure => do
    IO.eprintln s!"Error: {failure.message}"
    match failure.cause? with
    | some cause =>
      IO.eprintln ""
      IO.eprintln "Caused by:"
      IO.eprintln s!"    {cause}"
    | none => return ()
  | _ => return ()

end CommandLine
end Genesis

open Genesis.CommandLine in
def main (words : List String) : IO UInt32 := do
  let outcome ← execute (timedProgram words (← IO.getEnv "RUST_LOG"))
  tell outcome
  return outcome.exitCode
