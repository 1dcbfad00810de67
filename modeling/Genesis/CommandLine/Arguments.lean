import Genesis.Button
import Genesis.Text.Digits

/-!
# Arguments of the command line

One operand, the ROM image, and options by their long names. A value follows its option, as the next
word or behind an equals sign; after `--` every word is an operand. Words are read from left to
right, and the first one that asks for help or is wrong decides.
-/

namespace Genesis
namespace CommandLine

/-- What a command line asks for. -/
structure Arguments where
  /-- Path of the ROM image. -/
  rom : String
  frames : UInt32 := 60
  pal : Bool := false
  japanese : Bool := false
  /-- Path of a configuration. -/
  config : Option String := none
  /-- Levels of the console's log. -/
  log : Option String := none
  hold : List Button := []
  /-- Where the last frame is written. -/
  dump : Option String := none
  printConfig : Bool := false
deriving DecidableEq

inductive Flag where
  | pal
  | japanese
  | printConfig
  | help
deriving DecidableEq

inductive Setting where
  | frames
  | config
  | log
  | hold
  | dump
deriving DecidableEq

inductive Choice where
  | flag (f : Flag)
  | setting (s : Setting)
deriving DecidableEq

namespace Choice

def all : List Choice :=
  [setting .frames, flag .pal, flag .japanese, setting .config, setting .log, setting .hold,
   setting .dump, flag .printConfig, flag .help]

def name : Choice → String
  | flag .pal => "pal"
  | flag .japanese => "japanese"
  | flag .printConfig => "print-config"
  | flag .help => "help"
  | setting .frames => "frames"
  | setting .config => "config"
  | setting .log => "log"
  | setting .hold => "hold"
  | setting .dump => "dump"

def ofName? (name : List Char) : Option Choice := all.find? fun o => o.name.toList == name

theorem mem_all (o : Choice) : o ∈ all := by
  rcases o with f | s
  · cases f <;> decide
  · cases s <;> decide

end Choice

/-- What is wrong with a command line. -/
inductive Misuse where
  | unknownOption (word : String)
  | unexpectedValue (flag : Flag)
  | missingValue (setting : Setting)
  | badValue (setting : Setting) (value : String)
  | unknownButton (name : List Char)
  | repeated (option : Choice)
  | emptyOperand
  | extraOperand (word : String)
  | missingOperand
deriving DecidableEq

def Misuse.message : Misuse → String
  | unknownOption word => s!"unexpected argument '{word}'"
  | unexpectedValue f =>
    let name := (Choice.flag f).name
    s!"'--{name}' takes no value"
  | missingValue s =>
    let name := (Choice.setting s).name
    s!"'--{name}' needs a value"
  | badValue s value =>
    let name := (Choice.setting s).name
    s!"invalid value '{value}' for '--{name}'"
  | unknownButton name =>
    let name := String.ofList (Text.lower name)
    s!"unknown button: {name}"
  | repeated o => s!"'--{o.name}' cannot be given more than once"
  | emptyOperand => "the ROM image needs a path"
  | extraOperand word => s!"unexpected argument '{word}'"
  | missingOperand => "a ROM image is required"

/-- Why a command line asks for no run. -/
inductive Refusal where
  | help
  | misuse (fault : Misuse)
deriving DecidableEq

inductive Form where
  | endOfOptions
  /-- Two dashes, a name and perhaps an equals sign with a value. -/
  | long (name : List Char) (value : Option (List Char))
  /-- A dash and at least one letter. -/
  | short (letters : List Char)
  | operand
deriving DecidableEq

def Form.ofWord : List Char → Form
  | ['-', '-'] => .endOfOptions
  | '-' :: '-' :: s =>
    match Text.cut '=' s with
    | some (name, value) => .long name (some value)
    | none => .long s none
  | ['-'] => .operand
  | '-' :: letters => .short letters
  | _ => .operand

structure Draft where
  rom : Option String := none
  frames : Option UInt32 := none
  pal : Bool := false
  japanese : Bool := false
  config : Option String := none
  log : Option String := none
  hold : List Button := []
  dump : Option String := none
  printConfig : Bool := false
deriving DecidableEq

namespace Draft

def readFrames (value : String) : Except Misuse UInt32 :=
  match Text.signedNatural? value.toList with
  | some n => if n < UInt32.size then .ok (UInt32.ofNat n) else .error (.badValue .frames value)
  | none => .error (.badValue .frames value)

/-- A path, which is not empty. -/
def readPath (setting : Setting) (value : String) : Except Misuse String :=
  if value.isEmpty then .error (.badValue setting value) else .ok value

def readButton (name : List Char) : Except Misuse Button :=
  match Button.ofName? name with
  | some x => .ok x
  | none => .error (.unknownButton name)

def readButtons (value : String) : Except Misuse (List Button) :=
  (Text.pieces ',' value.toList).mapM readButton

/-- Refuse an option that has already been given. -/
def once (option : Choice) (given : Bool) : Except Misuse Unit :=
  if given then .error (.repeated option) else .ok ()

/-- Take in an option without a value. -/
def raise (d : Draft) : Flag → Except Refusal Draft
  | .help => .error .help
  | .pal => mark d.pal .pal { d with pal := true }
  | .japanese => mark d.japanese .japanese { d with japanese := true }
  | .printConfig => mark d.printConfig .printConfig { d with printConfig := true }
where
  mark (given : Bool) (f : Flag) (d : Draft) : Except Refusal Draft :=
    (once (.flag f) given).mapError .misuse |>.map fun _ => d

def assign (d : Draft) (s : Setting) (value : String) : Except Misuse Draft := do
  match s with
  | .frames => do
    once (.setting s) d.frames.isSome
    let frames ← readFrames value
    return { d with frames := some frames }
  | .config => do
    once (.setting s) d.config.isSome
    let path ← readPath s value
    return { d with config := some path }
  | .log => do
    once (.setting s) d.log.isSome
    return { d with log := some value }
  | .hold => do
    let buttons ← readButtons value
    return { d with hold := d.hold ++ buttons }
  | .dump => do
    once (.setting s) d.dump.isSome
    let path ← readPath s value
    return { d with dump := some path }

def addOperand (d : Draft) (word : String) : Except Misuse Draft :=
  match d.rom with
  | some _ => .error (.extraOperand word)
  | none => if word.isEmpty then .error .emptyOperand else .ok { d with rom := some word }

def addOperands (d : Draft) (words : List String) : Except Misuse Draft := words.foldlM addOperand d

def read (d : Draft) : List String → Except Refusal Draft
  | [] => .ok d
  | word :: words =>
    match Form.ofWord word.toList with
    | .operand =>
      match d.addOperand word with
      | .ok d => d.read words
      | .error e => .error (.misuse e)
    | .endOfOptions => (d.addOperands words).mapError .misuse
    | .short letters =>
      .error (if letters.head? = some 'h' then .help else .misuse (.unknownOption word))
    | .long name value =>
      match Choice.ofName? name, value with
      | none, _ => .error (.misuse (.unknownOption word))
      | some (.flag f), some _ => .error (.misuse (.unexpectedValue f))
      | some (.flag f), none =>
        match d.raise f with
        | .ok d => d.read words
        | .error r => .error r
      | some (.setting s), some value =>
        match d.assign s (String.ofList value) with
        | .ok d => d.read words
        | .error e => .error (.misuse e)
      | some (.setting s), none =>
        match words with
        | [] => .error (.misuse (.missingValue s))
        | value :: words =>
          if Form.ofWord value.toList = .operand then
            match d.assign s value with
            | .ok d => d.read words
            | .error e => .error (.misuse e)
          else .error (.misuse (.missingValue s))

def finish (d : Draft) : Except Refusal Arguments :=
  match d.rom with
  | none => .error (.misuse .missingOperand)
  | some rom => .ok
    { rom, frames := d.frames.getD 60, pal := d.pal, japanese := d.japanese, config := d.config,
      log := d.log, hold := d.hold, dump := d.dump, printConfig := d.printConfig }

end Draft

def Arguments.parse (words : List String) : Except Refusal Arguments :=
  match Draft.read {} words with
  | .ok d => d.finish
  | .error r => .error r

def help : String :=
"Usage: emu_cli [OPTIONS] <ROM>

Arguments:
  <ROM>  Cartridge image (.md, .gen, .bin)

Options:
      --frames <FRAMES>  Number of frames to run [default: 60]
      --pal              Use 50 Hz PAL timing
      --japanese         Emulate the Japanese console variant
      --config <CONFIG>  Machine configuration as JSON; --pal and --japanese take precedence
      --log <LOG>        Emulator log levels, e.g. \"bus=error,vdp=debug,warn\"
      --hold <HOLD>      Buttons held on pad 1 for the whole run, e.g. \"up,start\"
      --dump <DUMP>      Write the last frame to this PNG file
      --print-config     Print the effective machine configuration as JSON before running
  -h, --help             Print help
"

end CommandLine
end Genesis
