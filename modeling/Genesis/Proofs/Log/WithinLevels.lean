import Genesis.Proofs.Log.Accounting

/-!
# Records and the levels in force

A message is written only if the levels in force want it. The summary of dropped messages is a
warning whatever the levels are, and nothing asks whether a warning is wanted. So everything written
stays within the levels just if a warning is wanted wherever a summary is due
(`written_within_levels_iff`).
-/

namespace Genesis
namespace Log

namespace Window

variable {limit : Option Nat} {now : Nat} {w : Window}

/-- A record that is offered now brings a summary: it passes behind drops that are unreported, or it
is dropped and no summary is less than a second old. -/
def Owes (limit : Option Nat) (now : Nat) (w : Window) : Prop :=
  (w.HasRoom limit now ∧ w.unreported ≠ 0) ∨
    (¬ w.HasRoom limit now ∧ ∀ last ∈ w.lastReport, second ≤ now - last)

theorem reportDue_iff : w.reportDue now = true ↔ ∀ last ∈ w.lastReport, second ≤ now - last := by
  rw [reportDue]
  cases w.lastReport <;> simp

theorem summary_isSome_iff : (w.offer limit now).1.summary.isSome ↔ w.Owes limit now := by
  rcases room_or_full limit now w with room | ⟨n, rfl, full⟩
  · rw [offer_of_room room, Owes, and_iff_right room]
    by_cases settled : w.unreported = 0 <;> simp [room, settled]
  · have noRoom : ¬ w.HasRoom (some n) now := fun room => Nat.not_lt.2 full (room n rfl)
    rw [offer_of_full full, Owes, ← reportDue_iff]
    cases w.reportDue now <;> simp [noRoom]

end Window

namespace Logger

variable {l : Logger} {c : Category} {level : Level} {n : Notice}

def OwesSummary (c : Category) (l : Logger) : Prop :=
  (l.window c).Owes l.limiter.limit l.limiter.now

theorem summary_isSome_consider_iff :
    (l.consider c level).1.summary.isSome ↔
      l.levels.permits c level = true ∧ l.OwesSummary c := by
  cases permits : l.levels.permits c level with
  | true =>
    rw [consider_of_permits permits]
    simp only [true_and]
    exact Window.summary_isSome_iff
  | false =>
    rw [consider_of_not_permits permits]
    simp

theorem permits_of_passes (passes : (l.consider c level).1.passes = true) :
    l.levels.permits c level = true := by
  cases permits : l.levels.permits c level with
  | true => rfl
  | false =>
    rw [consider_of_not_permits permits] at passes
    cases passes

theorem mem_log_iff {r : Record} :
    r ∈ (l.log n).1 ↔
      (∃ count, (l.consider n.category n.level).1.summary = some count ∧
        r = summary n.category count) ∨
      ((l.consider n.category n.level).1.passes = true ∧ r = ⟨n.level, n.category, n.text⟩) := by
  simp only [log, records, List.mem_append]
  refine or_congr ?_ ?_
  · cases (l.consider n.category n.level).1.summary <;> simp
  · cases (l.consider n.category n.level).1.passes <;> simp

/-- A call stays within the levels if and only if it brings no summary that they do not want. -/
theorem log_within_levels_iff :
    (∀ r ∈ (l.log n).1, l.levels.permits r.category r.level = true) ↔
      (l.levels.permits n.category n.level = true → l.OwesSummary n.category →
        l.levels.permits n.category .warn = true) := by
  constructor
  · intro within wanted owes
    obtain ⟨count, due⟩ :=
      Option.isSome_iff_exists.1 (summary_isSome_consider_iff.2 ⟨wanted, owes⟩)
    exact within (summary n.category count) (mem_log_iff.2 (.inl ⟨count, due, rfl⟩))
  · intro warned r mem
    rcases mem_log_iff.1 mem with ⟨count, due, rfl⟩ | ⟨passes, rfl⟩
    · obtain ⟨wanted, owes⟩ :=
        summary_isSome_consider_iff.1 (Option.isSome_iff_exists.2 ⟨count, due⟩)
      exact warned wanted owes
    · exact permits_of_passes passes

end Logger

/-- A use of the log, or time that passes. -/
inductive Use where
  | log (n : Notice)
  | setOverall (level : Level)
  | setOwn (category : Category) (level : Level)
  /-- Go back to errors only. -/
  | reset
  /-- Change the levels as a specification says; one that is refused changes nothing. -/
  | specify (spec : String)
  | setLimit (limit : Nat)
  | wait (nanoseconds : Nat)
deriving DecidableEq

namespace Use

/-- What a use asks of the logger. -/
def action : Use → Action
  | log n => .call n.category n.level
  | setOverall level => .changeLevels fun levels => levels.setOverall level
  | setOwn category level => .changeLevels fun levels => levels.setOwn category level
  | reset => .changeLevels fun _ => Levels.default
  | specify spec => .changeLevels fun levels =>
    match levels.applySpec spec with
    | .ok levels => levels
    | .error _ => levels
  | setLimit limit => .setLimit (some limit)
  | wait nanoseconds => .wait nanoseconds

/-- The records that a use writes, each beside the levels then in force. -/
def written (l : Logger) : Use → List (Levels × Record)
  | log n => (l.log n).1.map fun r => (l.levels, r)
  | _ => []

end Use

namespace Logger

/-- The records that are written in a run, each beside the levels then in force. -/
def written : List Use → Logger → List (Levels × Record)
  | [], _ => []
  | use :: uses, l => use.written l ++ written uses (use.action.apply l)

variable {l : Logger}

/-- Only a summary is written without regard to the levels. -/
theorem use_within_levels_or_summary {use : Use} {p : Levels × Record} (mem : p ∈ use.written l) :
    p.1.permits p.2.category p.2.level = true ∨ ∃ count, p.2 = summary p.2.category count := by
  cases use with
  | log n =>
    obtain ⟨r, logged, rfl⟩ := List.mem_map.1 mem
    rcases mem_log_iff.1 logged with ⟨count, -, rfl⟩ | ⟨passes, rfl⟩
    · exact .inr ⟨count, rfl⟩
    · exact .inl (permits_of_passes passes)
  | _ => cases mem

theorem use_within_levels_iff {use : Use} :
    (∀ p ∈ use.written l, p.1.permits p.2.category p.2.level = true) ↔
      ∀ c level, use.action.wanted? c l = some level → l.OwesSummary c →
        l.levels.permits c .warn = true := by
  cases use with
  | log n =>
    simp only [Use.written, List.forall_mem_map, log_within_levels_iff, wanted?_eq_some_iff,
      Use.action, Action.call.injEq]
    constructor
    · rintro within c level ⟨⟨rfl, rfl⟩, wanted⟩
      exact within wanted
    · exact fun within wanted => within _ _ ⟨⟨rfl, rfl⟩, wanted⟩
  | _ => simp [Use.written, Use.action, Action.wanted?]

theorem forall_mem_wantedCalls_cons {c : Category} {a : Action} {actions : List Action}
    {P : Level × Logger → Prop} :
    (∀ call ∈ wantedCalls c (a :: actions) l, P call) ↔
      (∀ level, a.wanted? c l = some level → P (level, l)) ∧
        ∀ call ∈ wantedCalls c actions (a.apply l), P call := by
  simp only [wantedCalls, List.forall_mem_append]
  refine and_congr_left' ?_
  cases a.wanted? c l <;> simp

/-- What is written in a run stays within the levels then in force, summaries apart; and all of it
does just if, at every wanted call of a category that brings a summary, a warning of the category is
wanted too. However the calls lie in time, that is so at a call that passes behind unreported drops,
and at one that is dropped when no summary is less than a second old. -/
theorem written_within_levels_iff (l : Logger) (uses : List Use) :
    (∀ p ∈ written uses l, p.1.permits p.2.category p.2.level = true ∨
      ∃ count, p.2 = summary p.2.category count) ∧
    ((∀ p ∈ written uses l, p.1.permits p.2.category p.2.level = true) ↔
      ∀ c, ∀ call ∈ wantedCalls c (uses.map Use.action) l, call.2.OwesSummary c →
        call.2.levels.permits c .warn = true) := by
  constructor
  · induction uses generalizing l with
    | nil => simp [written]
    | cons use uses ih =>
      intro p mem
      rcases List.mem_append.1 mem with now | later
      · exact use_within_levels_or_summary now
      · exact ih _ p later
  · induction uses generalizing l with
    | nil => simp [written, wantedCalls]
    | cons use uses ih =>
      simp only [written, List.forall_mem_append, List.map_cons, forall_mem_wantedCalls_cons, ih,
        use_within_levels_iff, forall_and]

/-- On a new log that takes one record a second, the second of two errors at one instant is answered
by a warning, which nobody has asked for. -/
theorem unwanted_warning_is_written :
    ¬ ∀ (uses : List Use), ∀ p ∈ written uses {},
      p.1.permits p.2.category p.2.level = true := by
  intro claim
  have within := claim
    [.setLimit 1, .log (.remark .bus .error "m"), .log (.remark .bus .error "m")]
  revert within
  decide

end Logger
end Log
end Genesis
