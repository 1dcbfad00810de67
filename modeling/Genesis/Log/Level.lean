import Genesis.Text.Blank

/-!
# Severities of a log record

Six levels, from `off`, which no record carries, to `trace`. A threshold admits a record when the
record's level is at most the threshold.
-/

namespace Genesis
namespace Log

inductive Level where
  | off
  | error
  | warn
  | info
  | debug
  | trace
deriving DecidableEq, Repr

namespace Level

def all : List Level := [off, error, warn, info, debug, trace]

def rank : Level → Nat
  | off => 0
  | error => 1
  | warn => 2
  | info => 3
  | debug => 4
  | trace => 5

instance : LE Level := ⟨fun a b => a.rank ≤ b.rank⟩

instance (a b : Level) : Decidable (a ≤ b) := inferInstanceAs (Decidable (a.rank ≤ b.rank))

def words : List (String × Level) :=
  [("off", off), ("0", off), ("error", error), ("err", error), ("1", error), ("warn", warn),
   ("warning", warn), ("2", warn), ("info", info), ("3", info), ("debug", debug), ("4", debug),
   ("trace", trace), ("5", trace)]

def ofWord? (word : List Char) : Option Level :=
  (words.find? fun w => w.1.toList == Text.lower word).map (·.2)

def label? : Level → Option String
  | off => none
  | error => some "ERROR"
  | warn => some "WARN"
  | info => some "INFO"
  | debug => some "DEBUG"
  | trace => some "TRACE"

def name : Level → String
  | off => "Off"
  | error => "Error"
  | warn => "Warn"
  | info => "Info"
  | debug => "Debug"
  | trace => "Trace"

def ofName? (name : List Char) : Option Level :=
  all.find? fun l => Text.lower l.name.toList == Text.lower name

theorem mem_all (l : Level) : l ∈ all := by cases l <;> decide

end Level
end Log
end Genesis
