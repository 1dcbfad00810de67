import Genesis.Host
import Genesis.Log.Logger

/-!
# A host that keeps the log

Every notice goes through the logger at an instant that a clock tells, and what comes of it is
written down. While errors of the bus are wanted and nothing limits them, each of them becomes one
record; a summary of what an earlier limit has dropped stands in front of the first. `Emits` says so
for any number of them, and it composes.
-/

namespace Genesis

open Log

/-- The log of a host, beside the state that answers for buttons and clock. -/
structure Logbook (η : Type) where
  own : η
  logger : Logger
  /-- What has been logged, in order. -/
  records : List Log.Record := []

namespace Logbook

variable {η : Type}

def note (clock : η → Nat × η) (n : Notice) (b : Logbook η) : Logbook η :=
  let (now, own) := clock b.own
  let (records, logger) := (b.logger.setClock now).log n
  { own, logger, records := b.records ++ records }

/-- A host that keeps the log, with any buttons and any clock. -/
def keeper (pressed : Button → η → Bool × η) (clock : η → Nat × η) : Host (Logbook η) where
  pressed x b := ((pressed x b.own).1, { b with own := (pressed x b.own).2 })
  scanline _ b := b
  notice := note clock

/-- The records of the bus. -/
def ofBus (b : Logbook η) : List Log.Record := b.records.filter fun r => r.category = .bus

/-- The summary of dropped errors of the bus that is still due, if there is one. -/
def overdue (b : Logbook η) : List Log.Record :=
  let count := (b.logger.limiter.windows.get .bus).unreported
  if count = 0 then [] else [Logger.summary .bus count]

/-- Errors of the bus are wanted, and no limit is in force. -/
structure Unhindered (b : Logbook η) : Prop where
  wanted : b.logger.levels.permits .bus .error = true
  unlimited : b.logger.limiter.limit = none

/-- Between two states of the log, these are the new records of the bus. -/
structure Emits (reports : List Log.Record) (b b' : Logbook η) : Prop where
  ofBus : b'.ofBus = b.ofBus ++ (if reports = [] then [] else b.overdue) ++ reports
  overdue : b'.overdue = if reports = [] then b.overdue else []
  levels : b'.logger.levels = b.logger.levels
  limit : b'.logger.limiter.limit = b.logger.limiter.limit

namespace Emits

variable {b b' b'' : Logbook η} {xs ys : List Log.Record}

theorem unhindered (emits : Emits xs b b') (h : b.Unhindered) : b'.Unhindered where
  wanted := by rw [emits.levels, h.wanted]
  unlimited := by rw [emits.limit, h.unlimited]

theorem refl (b : Logbook η) : Emits [] b b where
  ofBus := by simp
  overdue := rfl
  levels := rfl
  limit := rfl

theorem trans (first : Emits xs b b') (second : Emits ys b' b'') : Emits (xs ++ ys) b b'' where
  ofBus := by
    rw [second.ofBus, first.ofBus, first.overdue]
    by_cases none : xs = []
    · simp [none]
    · simp [none]
  overdue := by
    rw [second.overdue, first.overdue]
    by_cases none : xs = []
    · simp [none]
    · simp [none]
  levels := second.levels.trans first.levels
  limit := second.limit.trans first.limit

theorem of_same (records : b'.records = b.records) (logger : b'.logger = b.logger) :
    Emits [] b b' where
  ofBus := by simp [Logbook.ofBus, records]
  overdue := by simp [Logbook.overdue, logger]
  levels := by rw [logger]
  limit := by rw [logger]

end Emits

section Log

variable (l : Logger) (n : Notice)

theorem levels_log : (l.log n).2.levels = l.levels := by
  simp only [Logger.log, Logger.consider]
  split <;> rfl

theorem limit_log : (l.log n).2.limiter.limit = l.limiter.limit := by
  simp only [Logger.log, Logger.consider]
  split <;> rfl

theorem category_of_mem_log {r : Log.Record} (mem : r ∈ (l.log n).1) : r.category = n.category := by
  simp only [Logger.log, Logger.records] at mem
  rcases List.mem_append.1 mem with summary | record
  · split at summary
    · rw [List.mem_singleton.1 summary]
      rfl
    · cases summary
  · split at record
    · rw [List.mem_singleton.1 record]
    · cases record

theorem window_log_of_ne {c : Category} (other : n.category ≠ c) :
    (l.log n).2.limiter.windows.get c = l.limiter.windows.get c := by
  simp only [Logger.log, Logger.consider]
  split
  · simp [Limiter.offer, PerCategory.get_set, other]
  · rfl

theorem records_log_of_unlimited (wanted : l.levels.permits n.category n.level = true)
    (unlimited : l.limiter.limit = none) :
    (l.log n).1 =
      let count := (l.limiter.windows.get n.category).unreported
      (if count = 0 then [] else [Logger.summary n.category count]) ++
        [⟨n.level, n.category, n.text⟩] := by
  simp only [Logger.log, Logger.consider, wanted, if_true, Limiter.offer, unlimited, Window.offer,
    Logger.records]
  by_cases settled : (l.limiter.windows.get n.category).unreported = 0
  · simp [settled]
  · simp [settled]

theorem unreported_log_of_unlimited (wanted : l.levels.permits n.category n.level = true)
    (unlimited : l.limiter.limit = none) :
    ((l.log n).2.limiter.windows.get n.category).unreported = 0 := by
  simp only [Logger.log, Logger.consider, wanted, if_true, Limiter.offer, unlimited, Window.offer,
    PerCategory.get_set]
  by_cases settled : (l.limiter.windows.get n.category).unreported = 0
  · simp [settled]
  · simp [settled]

end Log

variable {clock : η → Nat × η} {b : Logbook η} {n : Notice}

theorem emits_note_of_ne (other : n.category ≠ .bus) : Emits [] b (note clock n b) where
  ofBus := by
    have foreign : ((b.logger.setClock (clock b.own).1).log n).1.filter
        (fun r => r.category = .bus) = [] := by
      rw [List.filter_eq_nil_iff]
      intro r mem
      rw [category_of_mem_log _ n mem]
      simpa using other
    simp [Logbook.ofBus, note, foreign]
  overdue := by
    have window := window_log_of_ne (b.logger.setClock (clock b.own).1) n other
    simp [Logbook.overdue, note, window]
  levels := levels_log _ n
  limit := limit_log _ n

theorem emits_report_of_ne {pressed : Button → η → Bool × η} {ns : List Notice}
    (other : ∀ n ∈ ns, n.category ≠ .bus) : Emits [] b ((keeper pressed clock).report ns b) := by
  induction ns generalizing b with
  | nil => exact Emits.refl b
  | cons n ns ih =>
    have first : Emits [] b (note clock n b) := emits_note_of_ne (other n (by simp))
    exact first.trans (ih fun n mem => other n (by simp [mem]))

theorem emits_note (category : n.category = .bus) (level : n.level = .error)
    (h : b.Unhindered) : Emits [⟨.error, .bus, n.text⟩] b (note clock n b) where
  ofBus := by
    have wanted : (b.logger.setClock (clock b.own).1).levels.permits n.category n.level = true := by
      rw [category, level]
      exact h.wanted
    have logged := records_log_of_unlimited _ n wanted h.unlimited
    rw [category, level] at logged
    simp only [Logbook.ofBus, note, List.filter_append, logged, Logbook.overdue,
      Logger.windows_setClock]
    by_cases settled : (b.logger.limiter.windows.get .bus).unreported = 0 <;>
      simp [settled, Logger.summary]
  overdue := by
    have wanted : (b.logger.setClock (clock b.own).1).levels.permits n.category n.level = true := by
      rw [category, level]
      exact h.wanted
    have reported := unreported_log_of_unlimited _ n wanted h.unlimited
    rw [category] at reported
    simp [Logbook.overdue, note, reported]
  levels := levels_log _ n
  limit := limit_log _ n

end Logbook
end Genesis
