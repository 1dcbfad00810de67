import Genesis.Log.Level
import Genesis.Log.Category

/-!
# Which records are wanted

A global level applies to every category that has no level of its own. A specification such as
`bus=error,vdp=debug,warn` changes several levels at once: its entries are read before any of them
is applied, so that a bad entry changes nothing.
-/

namespace Genesis
namespace Log

/-- A global level and one level per category; `off` for a category means that the global level
applies to it. -/
structure Levels where
  overall : Level := .error
  own : PerCategory Level := PerCategory.replicate .off
deriving DecidableEq

/-- One part of a filter specification. -/
inductive Entry where
  | overall (level : Level)
  | own (category : Category) (level : Level)
deriving DecidableEq

inductive SpecFault where
  | unknownCategory (word : List Char)
  | unknownLevel (word : List Char)
deriving DecidableEq

def SpecFault.message : SpecFault → String
  | unknownCategory word => s!"unknown log category '{String.ofList word}'"
  | unknownLevel word => s!"unknown log level '{String.ofList word}'"

namespace Entry

def levelOf (word : List Char) : Except SpecFault Level :=
  match Level.ofWord? word with
  | some level => .ok level
  | none => .error (.unknownLevel word)

def categoryOf (word : List Char) : Except SpecFault Category :=
  match Category.ofWord? word with
  | some category => .ok category
  | none => .error (.unknownCategory word)

/-- A level alone, or a category and a level around the first equals sign. -/
def ofText (text : List Char) : Except SpecFault Entry :=
  match Text.cut '=' text with
  | none => do
    let level ← levelOf text
    return .overall level
  | some (left, right) => do
    let category ← categoryOf (Text.trim left)
    let level ← levelOf (Text.trim right)
    return .own category level

def ofSpec (spec : List Char) : Except SpecFault (List Entry) :=
  (((Text.pieces ',' spec).map Text.trim).filter fun e => !e.isEmpty).mapM ofText

end Entry

namespace Levels

/-- Errors only. -/
def default : Levels := {}

def setOverall (l : Levels) (level : Level) : Levels := { l with overall := level }

def setOwn (l : Levels) (category : Category) (level : Level) : Levels :=
  { l with own := l.own.set category level }

def effective (l : Levels) (category : Category) : Level :=
  match l.own.get category with
  | .off => l.overall
  | level => level

def permits (l : Levels) (category : Category) (level : Level) : Bool :=
  level != .off && decide (level ≤ l.effective category)

def apply (l : Levels) : Entry → Levels
  | .overall level => l.setOverall level
  | .own category level => l.setOwn category level

/-- Change the levels as a specification says, or not at all. -/
def applySpec (l : Levels) (spec : String) : Except SpecFault Levels := do
  let entries ← Entry.ofSpec spec.toList
  return entries.foldl apply l

end Levels
end Log
end Genesis
