import Genesis.Log.Levels
import Genesis.Log.Limiter
import Genesis.Notice

/-!
# From notices to records

A notice becomes a record if its level is permitted and its category's window has room. Summaries of
dropped notices are records at level `warn` in front of the notice that occasions them.
-/

namespace Genesis
namespace Log

structure Record where
  level : Level
  category : Category
  text : String
deriving DecidableEq

structure Logger where
  levels : Levels := {}
  limiter : Limiter := Limiter.standard

namespace Logger

/-- Let the next records come at an instant. -/
def setClock (l : Logger) (now : Nat) : Logger := { l with limiter := { l.limiter with now } }

@[simp] theorem levels_setClock (l : Logger) (now : Nat) : (l.setClock now).levels = l.levels := rfl

@[simp] theorem limit_setClock (l : Logger) (now : Nat) :
    (l.setClock now).limiter.limit = l.limiter.limit := rfl

@[simp] theorem windows_setClock (l : Logger) (now : Nat) :
    (l.setClock now).limiter.windows = l.limiter.windows := rfl

def consider (l : Logger) (category : Category) (level : Level) : Verdict × Logger :=
  if l.levels.permits category level then
    let (verdict, limiter) := l.limiter.offer category
    (verdict, { l with limiter })
  else (⟨false, none⟩, l)

/-- How a category accounts for dropped records. -/
def summary (category : Category) (count : Nat) : Record where
  level := .warn
  category := category
  text := s!"[{category.name}] rate limit exceeded, " ++
    s!"{count} log message(s) dropped in the last second"

/-- The records that a decided notice leads to. -/
def records (verdict : Verdict) (n : Notice) : List Record :=
  (match verdict.summary with
    | some count => [summary n.category count]
    | none => []) ++
  if verdict.passes then [⟨n.level, n.category, n.text⟩] else []

def log (l : Logger) (n : Notice) : List Record × Logger :=
  let (verdict, l) := l.consider n.category n.level
  (records verdict n, l)

end Logger
end Log
end Genesis
