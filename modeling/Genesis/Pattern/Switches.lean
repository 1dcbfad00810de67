/-!
# Switches

Switches change the meaning of the parts behind them, up to the end of the group they stand in. They
are written as letters, those behind a hyphen being turned off, each at most once.
-/

namespace Genesis
namespace Pattern

inductive Switch where
  | ignoreCase
  | multiLine
  | dotAll
  | swapGreed
  | foreign
  | returns
  | extended
deriving DecidableEq

def Switch.ofLetter? (c : Char) : Option Switch :=
  match c with
  | 'i' => some .ignoreCase
  | 'm' => some .multiLine
  | 's' => some .dotAll
  | 'U' => some .swapGreed
  | 'u' => some .foreign
  | 'R' => some .returns
  | 'x' => some .extended
  | _ => none

/-- Which switches are on. Whether repetitions prefer more or fewer pieces does not matter for an
occurrence and is not kept. -/
structure Switches where
  ignoreCase : Bool := false
  /-- Lines have starts and ends of their own. -/
  multiLine : Bool := false
  /-- A dot stands for line ends too. -/
  dotAll : Bool := false
  /-- Sets, cases and words reach beyond ASCII. -/
  foreign : Bool := true
  /-- A carriage return ends a line too. -/
  returns : Bool := false
  /-- Blanks and comments do not count. -/
  extended : Bool := false
deriving DecidableEq

def Switches.set (w : Switches) (s : Switch) (isOn : Bool) : Switches :=
  match s with
  | .ignoreCase => { w with ignoreCase := isOn }
  | .multiLine => { w with multiLine := isOn }
  | .dotAll => { w with dotAll := isOn }
  | .swapGreed => w
  | .foreign => { w with foreign := isOn }
  | .returns => { w with returns := isOn }
  | .extended => { w with extended := isOn }

/-- How a list of switches ends: with a parenthesis, to change the group it stands in, or with a
colon, to change the group that it opens. -/
inductive SwitchScope where
  | rest
  | group
deriving DecidableEq

/-- Read switches; `seen` are those read so far, `isOn` is what the next ones are set to, and
`isDangling` says whether a hyphen has just been read. A list for the rest must not be empty. -/
def readSwitches (w : Switches) (seen : List Switch) (isOn isDangling : Bool) :
    List Char → Option (Switches × SwitchScope × List Char)
  | [] => none
  | c :: s =>
    if c = ':' then if isDangling then none else some (w, .group, s)
    else if c = ')' then if isDangling ∨ seen = [] then none else some (w, .rest, s)
    else if c = '-' then if isOn then readSwitches w seen false true s else none
    else match Switch.ofLetter? c with
      | none => none
      | some x =>
        if x ∈ seen then none else readSwitches (w.set x isOn) (x :: seen) isOn false s

end Pattern
end Genesis
