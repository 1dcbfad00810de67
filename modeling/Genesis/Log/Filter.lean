import Genesis.Log.Level
import Genesis.Pattern.Reader

/-!
# Filters on targets

A filter decides by target and level which lines of the log are shown. It is read from a text such
as `info,emu::vdp=trace/DMA|fill`: of the directives in front of the slash, the one with the longest
target that starts the line's target decides, and the pattern behind the slash has to occur in the
line.
-/

namespace Genesis
namespace Log

/-- A line of the log as it is shown. -/
structure Line where
  level : Level
  target : String
  text : String
deriving DecidableEq

/-- A threshold for the targets that start with a text, or for all targets. -/
structure Directive where
  target : Option (List Char)
  level : Level
deriving DecidableEq

namespace Directive

/-- A level alone, a target alone, or a target and a level around an equals sign. A target without a
level admits everything; a directive of any other form is ignored. -/
def ofText? (text : List Char) : Option Directive :=
  match Text.pieces '=' text with
  | [word] =>
    match Level.ofName? word with
    | some level => some ⟨none, level⟩
    | none => some ⟨some word, .trace⟩
  | [target, word] =>
    if (Text.trim word).isEmpty then some ⟨some target, .trace⟩
    else (Level.ofName? (Text.trim word)).map fun level => ⟨some target, level⟩
  | _ => none

def length (d : Directive) : Nat := (d.target.getD []).length

/-- Whether the directive is about a target. -/
def covers (d : Directive) (target : String) : Bool :=
  (d.target.getD []).isPrefixOf target.toList

end Directive

/-- Directives in the order of their first mention, at most one for each target, and a pattern that
has to occur in every line. -/
structure Filter where
  directives : List Directive := []
  pattern : Option Pattern := none
deriving DecidableEq

namespace Filter

def insert (f : Filter) (d : Directive) : Filter :=
  if f.directives.any fun e => e.target == d.target then
    { f with directives := f.directives.map fun e => if e.target == d.target then d else e }
  else { f with directives := f.directives ++ [d] }

def directivesOf (text : List Char) : List Directive :=
  (((Text.pieces ',' text).map Text.trim).filter fun p => !p.isEmpty).filterMap Directive.ofText?

/-- The filter of a text; one with several slashes counts as empty. What is no pattern behind the
slash is ignored. -/
def ofText (text : String) : Filter :=
  match Text.pieces '/' text.toList with
  | [directives] => (directivesOf directives).foldl insert {}
  | [directives, text] =>
    (directivesOf directives).foldl insert { pattern := Pattern.ofText? text }
  | _ => {}

/-- The threshold for a target: that of the longest target that starts it, the latest of equally
long ones. Without any directive it is `error`, without one for the target `off`. -/
def threshold (f : Filter) (target : String) : Level :=
  if f.directives.isEmpty then .error
  else
    let best := (f.directives.filter fun d => d.covers target).foldl
      (fun best d => match best with
        | none => some d
        | some b => if b.length ≤ d.length then some d else some b)
      none
    (best.map Directive.level).getD .off

def permits (f : Filter) (l : Line) : Bool :=
  decide (l.level ≤ f.threshold l.target) && f.pattern.all fun p => p.occursIn l.text.toList

end Filter
end Log
end Genesis
