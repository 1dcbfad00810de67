import Mathlib.Data.List.Sort
import Genesis.Proofs.Cpu.Priority
import Genesis.Proofs.Machine.Permanence

/-!
# How deep interrupts nest

The frames of a run call the processor with requests of two levels. An accepted request masks its
own level and those below, so until an instruction loads the status, each of the two is accepted
once at most and the lower one first, in however many frames (`requests_rise_in_priority`).
-/

namespace Genesis
namespace Machine

open Cpu (Call Deed Path call callAll deed exchanges history keptBits levels returns sinceEntry)

section Frames

variable {ν η : Type} [VideoUnit ν] (host : Host η)

/-- What an event makes the processor do, with the mode that it finds. -/
def eventDeeds (s : Cpu × Memory ν × η) : Event → List (Bool × Deed)
  | .clock => [(s.1.isSupervisor, deed (Bus.answer host) s .clock)]
  | .render _ => []
  | .interrupt level reason =>
    [(s.1.isSupervisor,
      deed (Bus.answer host) (s.1, s.2.1, host.notice reason s.2.2) (.interrupt level))]

/-- What events in order make the processor do. -/
def deedsOf : List Event → Cpu × Memory ν × η → List (Bool × Deed)
  | [], _ => []
  | e :: events, s => eventDeeds host s e ++ deedsOf events (carryOut host s e)

def linesDeeds (clocks : Nat) : List UInt16 → Cpu × Memory ν × η → List (Bool × Deed)
  | [], _ => []
  | line :: lines, s =>
    deedsOf host (lineEvents clocks line (asksAfter host clocks line s)) s ++
      linesDeeds clocks lines (runLine host clocks line s.1 s.2)

/-- The request after the last line, if it is enabled. -/
def lastEvents (s : Cpu × Memory ν × η) : List Event :=
  if VideoUnit.frameInterruptEnabled s.2.1.video then [.interrupt 6 .frameInterrupt] else []

def frameDeeds (m : Machine Cpu ν) (h : η) : List (Bool × Deed) :=
  let clocks := (clocksPerLine m.setup).toNat
  let start := (m.cpu, m.memory, h)
  let last := beforeLine host clocks start 224
  linesDeeds host clocks ((List.range 224).map UInt16.ofNat) start ++
    deedsOf host (lastEvents last) last

/-- Run frames in order, each with its host. -/
def runFrames : List (Host η) → Machine Cpu ν × η → Machine Cpu ν × η
  | [], s => s
  | host :: hosts, s => runFrames hosts (runFrame host s.1 s.2)

def framesDeeds : List (Host η) → Machine Cpu ν × η → List (Bool × Deed)
  | [], _ => []
  | host :: hosts, s => frameDeeds host s.1 s.2 ++ framesDeeds hosts (runFrame host s.1 s.2)

theorem path_carryOut (s : Cpu × Memory ν × η) (e : Event) :
    Path s.1 (eventDeeds host s e) (carryOut host s e).1 := by
  cases e with
  | clock => exact .cons (.call (Bus.answer host) s .clock) (.nil _)
  | render line => exact .nil s.1
  | interrupt level reason =>
    exact .cons
      (.call (Bus.answer host) (s.1, s.2.1, host.notice reason s.2.2) (.interrupt level)) (.nil _)

theorem path_carryOutAll (events : List Event) (s : Cpu × Memory ν × η) :
    Path s.1 (deedsOf host events s) (carryOutAll host events s).1 := by
  induction events generalizing s with
  | nil => exact .nil s.1
  | cons e events ih => exact (path_carryOut host s e).append (ih (carryOut host s e))

theorem path_runLines (clocks : Nat) (lines : List UInt16) (s : Cpu × Memory ν × η) :
    Path s.1 (linesDeeds host clocks lines s) (runLines host clocks lines s.1 s.2).1 := by
  induction lines generalizing s with
  | nil => exact .nil s.1
  | cons line lines ih =>
    have first := path_carryOutAll host (lineEvents clocks line (asksAfter host clocks line s)) s
    rw [← runLine_eq] at first
    exact first.append (ih (runLine host clocks line s.1 s.2))

theorem path_beforeLine (clocks k : Nat) (s : Cpu × Memory ν × η) :
    Path s.1 (linesDeeds host clocks ((List.range k).map UInt16.ofNat) s)
      (beforeLine host clocks s k).1 :=
  path_runLines host clocks _ s

/-- A frame leads the processor along a path, whatever is rendered in between. -/
theorem path_runFrame (m : Machine Cpu ν) (h : η) :
    Path m.cpu (frameDeeds host m h) (runFrame host m h).1.cpu := by
  have lines := path_beforeLine host (clocksPerLine m.setup).toNat 224 (m.cpu, m.memory, h)
  rw [runFrame_eq_request, frameDeeds]
  refine lines.append ?_
  simp only [requestInterrupt_eq]
  exact path_carryOutAll host _ _

theorem path_runFrames (hosts : List (Host η)) (s : Machine Cpu ν × η) :
    Path s.1.cpu (framesDeeds hosts s) (runFrames hosts s).1.cpu := by
  induction hosts generalizing s with
  | nil => exact .nil s.1.cpu
  | cons host hosts ih => exact (path_runFrame host s.1 s.2).append (ih (runFrame host s.1 s.2))

theorem requested_of_mem_eventDeeds {mode : Bool} {level : UInt8} {e : Event}
    {s : Cpu × Memory ν × η} (mem : (mode, .entry level) ∈ eventDeeds host s e) :
    ∃ requested reason, e = .interrupt requested reason ∧ level = requested &&& 7 := by
  cases e with
  | clock =>
    obtain ⟨-, entered⟩ := Prod.mk.inj (List.mem_singleton.1 mem)
    obtain ⟨requested, other, -⟩ := Cpu.call_of_entry _ _ entered.symm
    cases other
  | render line => cases mem
  | interrupt requested reason =>
    obtain ⟨-, entered⟩ := Prod.mk.inj (List.mem_singleton.1 mem)
    obtain ⟨_, same, lower, -⟩ := Cpu.call_of_entry _ _ entered.symm
    cases same
    exact ⟨requested, reason, rfl, lower⟩

theorem requested_of_mem_levels {level : UInt8} {events : List Event} {s : Cpu × Memory ν × η}
    (accepted : level ∈ levels (deedsOf host events s)) :
    ∃ requested reason, .interrupt requested reason ∈ events ∧ level = requested &&& 7 := by
  induction events generalizing s with
  | nil => cases accepted
  | cons e events ih =>
    rw [deedsOf, Cpu.levels_append, List.mem_append] at accepted
    rcases accepted with now | later
    · obtain ⟨mode, mem⟩ := Cpu.mem_levels.1 now
      obtain ⟨requested, reason, rfl, lower⟩ := requested_of_mem_eventDeeds host mem
      exact ⟨requested, reason, List.mem_cons_self, lower⟩
    · obtain ⟨requested, reason, mem, lower⟩ := ih later
      exact ⟨requested, reason, List.mem_cons_of_mem e mem, lower⟩

theorem level_of_linesDeeds {clocks : Nat} {lines : List UInt16} {s : Cpu × Memory ν × η}
    {level : UInt8} (accepted : level ∈ levels (linesDeeds host clocks lines s)) : level = 4 := by
  induction lines generalizing s with
  | nil => cases accepted
  | cons line lines ih =>
    rw [linesDeeds, Cpu.levels_append, List.mem_append] at accepted
    rcases accepted with now | later
    · obtain ⟨requested, reason, mem, rfl⟩ := requested_of_mem_levels host now
      have four : requested = 4 := by
        simp only [lineEvents, List.mem_append, List.mem_cons, List.mem_replicate] at mem
        split at mem <;> simp_all
      rw [four]
      decide
    · exact ih later

theorem level_of_frameDeeds {m : Machine Cpu ν} {h : η} {level : UInt8}
    (accepted : level ∈ levels (frameDeeds host m h)) : level ∈ [4, 6] := by
  rw [frameDeeds, Cpu.levels_append, List.mem_append] at accepted
  rcases accepted with line | last
  · rw [level_of_linesDeeds host line]
    decide
  · obtain ⟨requested, reason, mem, rfl⟩ := requested_of_mem_levels host last
    have six : requested = 6 := by
      rw [lastEvents] at mem
      split at mem <;> simp_all
    rw [six]
    decide

theorem level_of_framesDeeds {hosts : List (Host η)} {s : Machine Cpu ν × η} {level : UInt8}
    (accepted : level ∈ levels (framesDeeds hosts s)) : level ∈ [4, 6] := by
  induction hosts generalizing s with
  | nil => cases accepted
  | cons host hosts ih =>
    rw [framesDeeds, Cpu.levels_append, List.mem_append] at accepted
    exact accepted.elim (level_of_frameDeeds host) ih

/-- If the status is not loaded from the first accepted request on, each level is accepted once at
most, and the lower one first. -/
theorem levels_sublist {hosts : List (Host η)} {s : Machine Cpu ν × η}
    (keep : ∀ d ∈ sinceEntry (framesDeeds hosts s), d.2.loadsStatus = false) :
    (levels (framesDeeds hosts s)).Sublist [4, 6] := by
  obtain ⟨next, path⟩ := (path_runFrames hosts s).sinceEntry
  obtain ⟨rise, -⟩ := path.levels_rise keep
  rw [Cpu.levels_sinceEntry] at rise
  have member : ∀ level ∈ levels (framesDeeds hosts s), level ∈ [4, 6] := fun level accepted =>
    level_of_framesDeeds accepted
  have below : (levels (framesDeeds hosts s)).Pairwise (· < ·) := by
    refine rise.imp_of_mem fun _ mem higher => higher.resolve_right ?_
    rintro rfl
    exact absurd (member 7 mem) (by decide)
  have once : (levels (framesDeeds hosts s)).Nodup := below.imp UInt8.ne_of_lt
  exact List.sublist_of_subperm_of_pairwise (List.subperm_of_subset once member)
    below (by decide)

end Frames

/-- On any memory and in any run, a request that is not above the mask and not of the seventh level
makes no exchange and leaves processor and memory as they were; a request that is leaves supervisor
mode, its level for the mask and every other bit of the status; and of two accepted requests without
a load of the status between them, the second is above the first or the seventh. So in frames that
load no status from their first accepted request on, however many they are, each of the two levels
that a frame requests is accepted once at most and the lower one first, and the supervisor's pointer
ends at most twelve bytes below where the returns before them have taken it. -/
theorem requests_rise_in_priority {μ : Type} (answer : (q : BusRequest) → μ → q.Answer × μ) :
    (∀ (s : Cpu × μ) (level : UInt8), s.1.Masked level →
      call answer s (.interrupt level) = s ∧ exchanges answer s (.interrupt level) = []) ∧
    (∀ (s : Cpu × μ) (level : UInt8), ¬ s.1.Masked level →
      deed answer s (.interrupt level) = .entry (level &&& 7) ∧
      let next := (call answer s (.interrupt level)).1
      next.isSupervisor = true ∧ next.interruptMask.toNat = level.toNat % 8 ∧
        next.sr &&& keptBits = s.1.sr &&& keptBits) ∧
    (∀ (s : Cpu × μ) (calls : List Call) (before between rest : List (Bool × Deed))
      (mode mode' : Bool) (l k : UInt8),
      history answer calls s =
        before ++ (mode, .entry l) :: (between ++ (mode', .entry k) :: rest) →
      (∀ d ∈ between, d.2.loadsStatus = false) → l < k ∨ k = 7) ∧
    ∀ {ν η : Type} [VideoUnit ν] (hosts : List (Host η)) (m : Machine Cpu ν) (h : η),
      let deeds := framesDeeds hosts (m, h)
      let last := (runFrames hosts (m, h)).1
      (∀ d ∈ sinceEntry deeds, d.2.loadsStatus = false) →
      (levels deeds).Sublist [4, 6] ∧ (levels deeds).length ≤ 2 ∧
      last.cpu.ssp = m.cpu.ssp + 6 * UInt32.ofNat (returns true deeds) -
        6 * UInt32.ofNat (levels deeds).length := by
  refine ⟨fun s level => Cpu.call_of_masked answer s, fun s level heard => ?_,
    fun s calls before between rest mode mode' l k happened keep => ?_, ?_⟩
  · have accepts := (Cpu.accepts_iff_not_masked s.1 level).2 heard
    have entered : deed answer s (.interrupt level) = .entry (level &&& 7) := if_pos accepts
    obtain ⟨supervisor, mask, kept⟩ := Cpu.status_of_entry answer s entered
    exact ⟨entered, supervisor, by rw [mask, Cpu.toNat_and_seven], kept⟩
  · have path := Cpu.path_callAll answer calls s
    rw [happened] at path
    exact path.level_rises keep
  · intro ν η _ hosts m h deeds last keep
    have sublist : (levels deeds).Sublist [4, 6] := levels_sublist keep
    refine ⟨sublist, sublist.length_le, ?_⟩
    rw [Cpu.length_levels]
    exact congrArg Prod.snd (path_runFrames hosts (m, h)).pointers

/-- On a memory of words, and on a console that stays in one place for two frames with both requests
enabled in each. -/
theorem requests_rise_in_priority_over_two_frames :
    let answer : (q : BusRequest) → (UInt32 → UInt16) → q.Answer × (UInt32 → UInt16) := fun
      | .read address _, words => (words address, words)
      | .write address _ word, words => ((), fun a => if a = address then word else words a)
      | .note _, words => ((), words)
    let s : Cpu × (UInt32 → UInt16) := ({ sr := 0x8419 }, fun _ => 0)
    let next := (call answer s (.interrupt 14)).1
    let m : Machine Cpu Vdp := {
      cpu := { sr := 0x2000, a := (Bank.fill 8 0).put 7 0x400000 }
      memory := {
        cartridge := { buffer := #[0x60, 0xFE], size := 2 }
        video := { Vdp.initial with
          registers := ((Bank.fill 24 0).put 0 0x10).put 1 0x20 } }
      setup := { timing := {
        masterClockNtsc := 1, frameRateNtsc := 1, lines := 1, cpuDivider := 1, subCycles := 1,
        cycleScale := 1 } } }
    let deeds := framesDeeds [Host.idle, Host.idle] (m, ())
    call answer s (.interrupt 12) = s ∧
      next.isSupervisor = true ∧ next.interruptMask = 6 ∧ next.sr &&& keptBits = 0x8019 ∧
      ((4 : UInt8) < 6 ∨ (6 : UInt8) = 7) ∧
      levels deeds = [4, 6] ∧
      (runFrames [Host.idle, Host.idle] (m, ())).1.cpu.ssp = 0x400000 - 12 := by
  intro answer s next m deeds
  obtain ⟨ignored, served, rises, frames⟩ := requests_rise_in_priority answer
  obtain ⟨-, supervisor, mask, kept⟩ := served s 14 (by decide)
  have nested := rises ({}, fun _ => 0) [.interrupt 4, .clock, .interrupt 6] [] [(true, .idle)] []
    false true 4 6 (by decide) (by decide)
  have run : (∀ d ∈ sinceEntry deeds, d.2.loadsStatus = false) ∧ levels deeds = [4, 6] ∧
      returns true deeds = 0 := by decide +kernel
  obtain ⟨keep, accepted, none⟩ := run
  obtain ⟨-, -, ssp⟩ := frames [Host.idle, Host.idle] m () keep
  refine ⟨(ignored s 12 (by decide)).1, supervisor, UInt8.toNat_inj.1 mask, kept.trans (by decide),
    nested, accepted, ssp.trans ?_⟩
  rw [none, accepted]
  decide

end Machine
end Genesis
