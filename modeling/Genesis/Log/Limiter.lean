import Genesis.Log.Category

/-!
# Limiting the rate of records

Each category has a window of its own: the instants of the records that passed, the number of
dropped records that nothing accounts for yet, and the instant of the last account. A record passes
if fewer than the limit have passed within the second before it. The first drop is reported at once;
later ones wait until a record passes again or the last account is a second old. Instants are
nanoseconds since some moment before the run.
-/

namespace Genesis
namespace Log

namespace Window

def elements {α : Type} (q : Std.Queue α) : List α := q.dList ++ q.eList.reverse

/-- Take the elements off a queue until one does not satisfy a condition. -/
def dropWhile {α : Type} (p : α → Bool) (q : Std.Queue α) : Std.Queue α :=
  match q.dList.dropWhile p with
  | [] => { dList := q.eList.reverse.dropWhile p }
  | rest => { q with dList := rest }

end Window

/-- What one category has sent and dropped. -/
structure Window where
  passed : Std.Queue Nat := .empty
  unreported : Nat := 0
  lastReport : Option Nat := none

/-- What becomes of an offered record, with the number of dropped records that a summary in front of
it has to report. -/
structure Verdict where
  passes : Bool
  summary : Option Nat
deriving DecidableEq

namespace Window

/-- A second in nanoseconds. -/
def second : Nat := 1000000000

/-- The instants that are no more than a second old. -/
def recent (now : Nat) (w : Window) : Std.Queue Nat :=
  dropWhile (fun instant => second < now - instant) w.passed

def reportDue (now : Nat) (w : Window) : Bool :=
  match w.lastReport with
  | none => true
  | some last => second ≤ now - last

/-- Offer a record to a window that takes at most `limit` of them; without a limit it takes all. -/
def offer (limit : Option Nat) (now : Nat) (w : Window) : Verdict × Window :=
  let passed := w.recent now
  let hasRoom := match limit with
    | none => true
    | some n => decide ((elements passed).length < n)
  if hasRoom then
    let passed := passed.enqueue now
    if w.unreported = 0 then (⟨true, none⟩, { w with passed })
    else (⟨true, some w.unreported⟩, { passed, lastReport := some now })
  else
    let unreported := w.unreported + 1
    if w.reportDue now then (⟨false, some unreported⟩, { passed, lastReport := some now })
    else (⟨false, none⟩, { w with passed, unreported })

end Window

structure Limiter where
  limit : Option Nat
  /-- The instant of the records that are offered next. -/
  now : Nat := 0
  windows : PerCategory Window := PerCategory.replicate {}

namespace Limiter

/-- Sixty records for each category. -/
def standard : Limiter := { limit := some 60 }

def unlimited : Limiter := { limit := none }

def offer (l : Limiter) (category : Category) : Verdict × Limiter :=
  let (verdict, window) := (l.windows.get category).offer l.limit l.now
  (verdict, { l with windows := l.windows.set category window })

end Limiter
end Log
end Genesis
