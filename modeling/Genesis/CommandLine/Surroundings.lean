import Genesis.Dialogue
import Genesis.Frame
import Genesis.Log.Filter

/-!
# What a session asks of its surroundings

A session on the command line reads files, writes text and log lines, presents the frames that it
has run and saves a picture. Whoever runs it carries these requests out. The limits of its log
depend on the time, so it also asks for instants; once a clock tells them, only the requests are
left (`TimedProgram.onClock`).
-/

namespace Genesis
namespace CommandLine

inductive SystemRequest where
  /-- The text in a file, if there is such a file and it holds a text. -/
  | readText (path : String)
  /-- The bytes of a file, if there is such a file. -/
  | readBytes (path : String)
  | print (text : String)
  | log (line : Log.Line)
  /-- Hand a finished frame to the display. -/
  | present (frame : Frame)
  /-- Write a frame to a picture file; the answer is whether the file could be created. -/
  | savePicture (path : String) (frame : Frame)

abbrev SystemRequest.Answer : SystemRequest → Type
  | .readText _ => Option String
  | .readBytes _ => Option (Array UInt8)
  | .print _ => Unit
  | .log _ => Unit
  | .present _ => Unit
  | .savePicture _ _ => Bool

/-- A computation that uses its surroundings. -/
abbrev SystemProgram := Dialogue SystemRequest SystemRequest.Answer

inductive Question where
  /-- The instant at which a frame starts, in nanoseconds; frame 0 is all that comes before. -/
  | instant (frame : Nat)
  | request (q : SystemRequest)

abbrev Question.Answer : Question → Type
  | .instant _ => Nat
  | .request q => q.Answer

/-- A computation that uses its surroundings and the time. -/
abbrev TimedProgram := Dialogue Question Question.Answer

namespace TimedProgram

def instant (frame : Nat) : TimedProgram Nat :=
  Dialogue.query (A := Question.Answer) (.instant frame)

def request (q : SystemRequest) : TimedProgram q.Answer :=
  Dialogue.query (A := Question.Answer) (.request q)

def logAll (filter : Log.Filter) : List Log.Line → TimedProgram Unit
  | [] => pure ()
  | l :: ls =>
    if filter.permits l then request (.log l) >>= fun _ => logAll filter ls
    else logAll filter ls

/-- What is left of a program when a clock tells the instants. -/
def onClock {α : Type} (clock : Nat → Nat) : TimedProgram α → SystemProgram α
  | .done x => .done x
  | .ask (.instant frame) next => onClock clock (next (clock frame))
  | .ask (.request q) next => .ask q fun answer => onClock clock (next answer)

end TimedProgram
end CommandLine
end Genesis
