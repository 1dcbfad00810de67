import Genesis.CommandLine.Arguments
import Genesis.CommandLine.Surroundings
import Genesis.Cpu.Execution
import Genesis.Log.Logger
import Genesis.Machine.Lifecycle
import Genesis.Machine.Schedule
import Genesis.Text.Quoted
import Genesis.Vdp.Raster

/-!
# Sessions on the command line

A session builds a console, configures it, inserts the cartridge and runs frames. The console's own
log is limited by the levels that the command line gives and by the time, and then shown through a
filter; so are the session's own lines, apart from the limits.
-/

namespace Genesis
namespace CommandLine

/-- Why a session ends early. -/
inductive Failure where
  | badLevels (spec : String) (fault : Log.SpecFault)
  | unreadableConfig (path : String)
  | badConfig (path : String) (fault : Json.Fault)
  | refused (error : MachineError)
  | unreadableRom (path : String)
  /-- A frame has a line that does not fit into it. -/
  | brokenFrame
  | nothingToDump
  | uncreatable (path : String)
deriving DecidableEq

def Failure.message : Failure → String
  | badLevels spec _ =>
    let quoted := String.ofList (Text.quote spec.toList)
    s!"invalid --log value {quoted}"
  | unreadableConfig path => s!"failed to read config {path}"
  | badConfig path _ => s!"invalid config {path}"
  | refused e => e.message
  | unreadableRom path => s!"failed to read ROM {path}"
  | brokenFrame => "a line does not fit into its frame"
  | nothingToDump => "--dump needs at least one frame"
  | uncreatable path => s!"failed to create {path}"

def Failure.cause? : Failure → Option String
  | badLevels _ fault => some fault.message
  | badConfig _ fault => some (MachineError.badConfiguration fault).message
  | _ => none

def lineOf (r : Log.Record) : Log.Line := ⟨r.level, r.category.target, r.text⟩

/-- The console's log during one operation: the logger and the lines that it has let through, the
latest first. -/
structure Journal where
  logger : Log.Logger
  lines : List Log.Line := []

namespace Journal

def note (n : Notice) (j : Journal) : Journal :=
  let (records, logger) := j.logger.log n
  { logger, lines := records.foldl (fun lines r => lineOf r :: lines) j.lines }

def host : Host Journal where
  pressed _ j := (false, j)
  scanline _ j := j
  notice := note

end Journal

abbrev Console := Machine Cpu Vdp

/-- A computation that uses its surroundings and may fail. -/
abbrev Session := ExceptT Failure TimedProgram

namespace Session

/-- The target of a session's own lines. -/
def target : String := "emu_cli"

def ask (q : SystemRequest) : Session q.Answer := ExceptT.lift (TimedProgram.request q)

/-- The instant at which a frame starts. -/
def instant (frame : Nat) : Session Nat := ExceptT.lift (TimedProgram.instant frame)

def say (filter : Log.Filter) (level : Log.Level) (text : String) : Session Unit :=
  ExceptT.lift (TimedProgram.logAll filter [⟨level, target, text⟩])

/-- Show what has gathered in a journal and go on with its logger. -/
def flush (filter : Log.Filter) (j : Journal) : Session Log.Logger := do
  ExceptT.lift (TimedProgram.logAll filter j.lines.reverse)
  return j.logger

def startLogger (spec : Option String) : Except Failure Log.Logger :=
  match spec with
  | none => .ok {}
  | some spec =>
    match Log.Levels.default.applySpec spec with
    | .ok levels => .ok { levels }
    | .error fault => .error (.badLevels spec fault)

/-- The filter for all lines. Levels on the command line open it for the console's log, which they
limit themselves. -/
def startFilter (filter : Log.Filter) (spec : Option String) : Log.Filter :=
  match spec with
  | none => filter
  | some _ => filter.insert ⟨some "emu::".toList, .trace⟩

def configured (c : Option Configuration) (pal japanese : Bool) (m : Console) :
    Except Failure Console :=
  let (result, m) : Except MachineError Unit × Console := match c with
    | none => (.ok (), m)
    | some c => Machine.applyConfig c m
  match result with
  | .error e => .error (.refused e)
  | .ok () =>
    let m := if pal then m.setPal true else m
    .ok (if japanese then m.setJapanese true else m)

def readConfig (path : String) : Session Configuration := do
  match ← ask (.readText path) with
  | none => throw (.unreadableConfig path)
  | some text =>
    match Configuration.parse text with
    | .error fault => throw (.badConfig path fault)
    | .ok c => return c

def readRom (path : String) : Session (Array UInt8) := do
  match ← ask (.readBytes path) with
  | none => throw (.unreadableRom path)
  | some image => return image

/-- Insert the cartridge. -/
def insert (filter : Log.Filter) (image : Array UInt8) (m : Console) (logger : Log.Logger) :
    Session (Console × Log.Logger) := do
  let (result, m, j) := Machine.mount Journal.host Machine.cartridgeSlot.id image m { logger }
  let logger ← flush filter j
  match result with
  | .ok () => return (m, logger)
  | .error e => throw (.refused e)

/-- Run `count` frames, of which the first has the given number; the result is the last frame. -/
def play (filter : Log.Filter) : (count number : Nat) → Console → Log.Logger → Option Frame →
    Session (Option Frame)
  | 0, _, _, _, last => return last
  | count + 1, number, m, logger, _ => do
    let now ← instant number
    let (frame?, m, j) := Machine.stepFrame Journal.host m { logger := logger.setClock now }
    let logger ← flush filter j
    match frame? with
    | none => throw .brokenFrame
    | some frame => do
      say filter .debug s!"Frame {number}: {frame.width}x{frame.height}"
      ask (.present frame)
      play filter count (number + 1) m logger (some frame)

/-- Report the end of a run, with a picture of the last frame if one is wanted. -/
def conclude (frames : UInt32) (dump : Option String) (last : Option Frame) : Session Unit :=
  match dump, last with
  | none, _ => ask (.print s!"Ran {frames} frames\n")
  | some _, none => throw .nothingToDump
  | some path, some frame => do
    if ← ask (.savePicture path frame) then
      ask (.print s!"Wrote {frame.width}x{frame.height} frame to {path}\n")
    else throw (.uncreatable path)

def loaded (path : String) (size : Nat) (m : Console) : String :=
  let region := if m.settings.pal then "PAL" else "NTSC"
  s!"Loaded {path} ({size} bytes), {region} timing, {m.settings.unitsPerLine} cycles per scanline"

/-- A whole session. -/
def run (a : Arguments) (filter : Log.Filter) : Session Unit := do
  let logger ← liftExcept (startLogger a.log)
  let filter := startFilter filter a.log
  let now ← instant 0
  let (m, j) := Machine.build Journal.host {} Vdp.initial { logger := logger.setClock now }
  let logger ← flush filter j
  let config ← match a.config with
    | none => pure none
    | some path => some <$> readConfig path
  let m ← liftExcept (configured config a.pal a.japanese m)
  if a.printConfig then
    ask (.print (m.configuration.print ++ "\n"))
  let image ← readRom a.rom
  let (m, logger) ← insert filter image m logger
  let m := m.hold a.hold
  say filter .info (loaded a.rom image.size m)
  let last ← play filter a.frames.toNat 1 m logger none
  conclude a.frames a.dump last
where
  liftExcept {α : Type} (r : Except Failure α) : Session α := ExceptT.mk (pure r)

end Session

/-- How a command line ends. -/
inductive Outcome where
  | finished
  | helped
  | misused (fault : Misuse)
  | failed (failure : Failure)
deriving DecidableEq

def Outcome.exitCode : Outcome → UInt32
  | finished | helped => 0
  | failed _ => 1
  | misused _ => 2

/-- Carry out a command line. The filter's text, if there is one, says which log lines are shown. -/
def timedProgram (words : List String) (filter : Option String) : TimedProgram Outcome :=
  match Arguments.parse words with
  | .error .help => do
    TimedProgram.request (.print help)
    return .helped
  | .error (.misuse fault) => return .misused fault
  | .ok a => do
    match ← ExceptT.run (Session.run a (Log.Filter.ofText (filter.getD ""))) with
    | .ok () => return .finished
    | .error failure => return .failed failure

/-- Carry out a command line on a clock. -/
def program (words : List String) (filter : Option String) (clock : Nat → Nat := fun _ => 0) :
    SystemProgram Outcome :=
  (timedProgram words filter).onClock clock

end CommandLine
end Genesis
