import Genesis.Proofs.Cpu.StackPointers

/-!
# The priority of requests

The mask of the status register decides which requests are ignored, and an accepted request sets the
mask to its level. Until an instruction loads the status, levels can therefore only rise
(`Path.levels_rise`). A path follows the processor through calls on buses that may differ from call
to call, so that it covers a run on one memory and a run that something else interrupts.
-/

namespace Genesis
namespace Cpu

open Dialogue (Ends)

/-- A request of a level that the processor ignores: none at all, or one below the seventh that is
not above the mask. -/
def Masked (cpu : Cpu) (level : UInt8) : Prop :=
  level.toNat % 8 = 0 ∨ level.toNat % 8 < 7 ∧ level.toNat % 8 ≤ cpu.interruptMask.toNat

instance (cpu : Cpu) (level : UInt8) : Decidable (cpu.Masked level) :=
  inferInstanceAs (Decidable (_ ∨ _))

theorem toNat_and_seven (level : UInt8) : (level &&& 7).toNat = level.toNat % 8 := by
  rw [UInt8.toNat_and]
  exact Nat.and_two_pow_sub_one_eq_mod level.toNat 3

theorem accepts_iff_not_masked (cpu : Cpu) (level : UInt8) :
    cpu.accepts (level &&& 7) = true ↔ ¬ cpu.Masked level := by
  have low := toNat_and_seven level
  simp only [accepts, Masked, Bool.or_eq_true, Bool.and_eq_true, beq_iff_eq, bne_iff_ne,
    decide_eq_true_eq, ne_eq, ← UInt8.toNat_inj, UInt8.lt_iff_toNat_lt, low]
  simp only [UInt8.reduceToNat]
  omega

def Instruction.loadsStatus : Instruction → Bool
  | stop | returnFromException | loadStatus => true
  | nop | branch _ | unknown _ => false

def Deed.loadsStatus : Deed → Bool
  | instruction i => i.loadsStatus
  | idle | entry _ => false

section Status

def keptBits : UInt16 := ~~~(supervisorBit ||| maskBits)

theorem and_or_distrib_right (a b c : UInt16) : (a ||| b) &&& c = a &&& c ||| b &&& c := by
  apply UInt16.toNat_inj.1
  simp only [UInt16.toNat_and, UInt16.toNat_or, Nat.and_or_distrib_right]

theorem shifted_level {level : UInt8} (small : level ≤ 7) :
    (level.toUInt16 <<< 8) &&& maskBits = level.toUInt16 <<< 8 ∧
      (level.toUInt16 <<< 8) &&& keptBits = 0 ∧
      (level.toUInt16 <<< 8 >>> 8).toUInt8 = level := by
  have all : ∀ n < 8, ((UInt8.ofNat n).toUInt16 <<< 8) &&& maskBits =
      (UInt8.ofNat n).toUInt16 <<< 8 ∧ ((UInt8.ofNat n).toUInt16 <<< 8) &&& keptBits = 0 ∧
      ((UInt8.ofNat n).toUInt16 <<< 8 >>> 8).toUInt8 = UInt8.ofNat n := by decide
  have this := all level.toNat (Nat.lt_succ_of_le (UInt8.le_iff_toNat_le.1 small))
  rwa [UInt8.ofNat_toNat] at this

theorem mask_serviceSr (sr : UInt16) {level : UInt8} (small : level ≤ 7) :
    ((serviceSr sr level &&& maskBits) >>> 8).toUInt8 = level := by
  obtain ⟨inside, -, back⟩ := shifted_level small
  have cleared : (sr ||| supervisorBit) &&& ~~~maskBits &&& maskBits = 0 := by
    rw [UInt16.and_assoc, show ~~~maskBits &&& maskBits = 0 by decide, UInt16.and_zero]
  rw [serviceSr, and_or_distrib_right, cleared, inside, UInt16.zero_or, back]

theorem kept_serviceSr (sr : UInt16) {level : UInt8} (small : level ≤ 7) :
    serviceSr sr level &&& keptBits = sr &&& keptBits := by
  obtain ⟨-, outside, -⟩ := shifted_level small
  have merged : ~~~maskBits &&& keptBits = keptBits := by decide
  have absent : supervisorBit &&& keptBits = 0 := by decide
  rw [serviceSr, and_or_distrib_right, outside, UInt16.or_zero, UInt16.and_assoc, merged,
    and_or_distrib_right, absent, UInt16.or_zero]

theorem ends_perform_sr (cpu : Cpu) (start : UInt32) {i : Instruction}
    (keeps : i.loadsStatus = false) :
    (cpu.perform start i).Ends fun c => c.sr = cpu.sr := by
  cases i with
  | nop => rfl
  | stop | returnFromException | loadStatus => cases keeps
  | branch short =>
    simp only [perform, branchDisplacement]
    split
    · exact fun _ => rfl
    · rfl
  | unknown opcode => exact fun _ => rfl

theorem ends_execute_sr (cpu : Cpu) :
    cpu.execute.Ends fun r => r.1.loadsStatus = false → r.2.sr = cpu.sr := by
  rw [execute_eq]
  intro word
  cases loads : (Instruction.decode word).loadsStatus with
  | false => exact (ends_perform_sr _ cpu.pc loads).bind fun c same _ => same
  | true =>
    refine (Dialogue.ends_of_forall (P := fun _ => True) (fun _ => trivial) _).bind fun c _ => ?_
    exact fun keeps => absurd (loads.symm.trans keeps) (by decide)

def Deed.status : Deed → UInt16 → UInt16
  | entry level, sr => serviceSr sr level
  | idle, sr | instruction _, sr => sr

end Status

section Calls

variable {μ : Type} (answer : (q : BusRequest) → μ → q.Answer × μ) (s : Cpu × μ)

theorem call_of_masked {level : UInt8} (masked : s.1.Masked level) :
    call answer s (.interrupt level) = s ∧ exchanges answer s (.interrupt level) = [] := by
  have ignored : ¬ s.1.accepts (level &&& 7) = true := fun accepts =>
    (accepts_iff_not_masked s.1 level).1 accepts masked
  simp only [call, exchanges, Call.program, interrupt, if_neg ignored]
  exact ⟨rfl, rfl⟩

theorem sr_call {c : Call} (keeps : (deed answer s c).loadsStatus = false) :
    (call answer s c).1.sr = (deed answer s c).status s.1.sr := by
  cases c with
  | clock =>
    by_cases ready : s.1.countdown = 0 ∧ s.1.stopped = false
    · rw [deed, if_pos ready] at keeps ⊢
      rw [(call_clock_of_due answer ready.1 ready.2).1]
      exact (ends_execute_sr s.1).run answer s.2 keeps
    · rw [deed, if_neg ready, (call_clock_of_idle answer (stopped_of_not_ready ready)).1]
      rfl
  | interrupt level =>
    by_cases accepts : s.1.accepts (level &&& 7) = true
    · rw [deed, if_pos accepts]
      obtain ⟨handler, entered⟩ := (ends_interrupt_of_accepts s.1 accepts).run answer s.2
      exact (congrArg sr entered).trans (sr_setSr s.1 _)
    · have masked := Classical.not_not.1 (mt (accepts_iff_not_masked s.1 level).2 accepts)
      rw [deed, if_neg accepts, (call_of_masked answer s masked).1]
      rfl

/-- Only a request enters a handler, for the lower three bits of its level. -/
theorem call_of_entry {c : Call} {level : UInt8} (entered : deed answer s c = .entry level) :
    ∃ requested, c = .interrupt requested ∧ level = requested &&& 7 ∧ s.1.accepts level = true := by
  cases c with
  | clock =>
    rw [deed] at entered
    split at entered <;> cases entered
  | interrupt requested =>
    rw [deed] at entered
    split at entered
    · rename_i accepts
      cases entered
      exact ⟨requested, rfl, rfl, accepts⟩
    · cases entered

/-- A handler is entered for a level that is above the mask or the seventh. -/
theorem level_of_entry {c : Call} {level : UInt8} (entered : deed answer s c = .entry level) :
    level ≤ 7 ∧ (s.1.interruptMask < level ∨ level = 7) := by
  obtain ⟨requested, -, rfl, accepts⟩ := call_of_entry answer s entered
  have small : (requested &&& 7).toNat ≤ 7 := by
    rw [toNat_and_seven]
    omega
  simp only [Cpu.accepts, Bool.or_eq_true, Bool.and_eq_true, beq_iff_eq, decide_eq_true_eq]
    at accepts
  exact ⟨UInt8.le_iff_toNat_le.2 small, accepts.elim .inr fun above => .inl above.2⟩

/-- While a request is served, the processor is in supervisor mode with the level for its mask, and
the other bits of the status are as they were. -/
theorem status_of_entry {c : Call} {level : UInt8} (entered : deed answer s c = .entry level) :
    let next := (call answer s c).1
    next.isSupervisor = true ∧ next.interruptMask = level ∧
      next.sr &&& keptBits = s.1.sr &&& keptBits := by
  intro next
  have small := (level_of_entry answer s entered).1
  have served : next.sr = serviceSr s.1.sr level := by
    refine (sr_call answer s ?_).trans ?_ <;> rw [entered] <;> rfl
  refine ⟨?_, ?_, ?_⟩
  · rw [isSupervisor_eq, served, supervises_serviceSr]
  · rw [interruptMask, served, mask_serviceSr s.1.sr small]
  · rw [served, kept_serviceSr s.1.sr small]

end Calls

/-- A call on some bus takes the processor from one state to another. -/
inductive Does : Cpu → Deed → Cpu → Prop
  | call {μ : Type} (answer : (q : BusRequest) → μ → q.Answer × μ) (s : Cpu × μ) (c : Call) :
    Does s.1 (deed answer s c) (call answer s c).1

/-- Calls lead the processor from one state to another, each with the mode that it finds. -/
inductive Path : Cpu → List (Bool × Deed) → Cpu → Prop
  | nil (cpu : Cpu) : Path cpu [] cpu
  | cons {cpu next last : Cpu} {d : Deed} {deeds : List (Bool × Deed)} :
    Does cpu d next → Path next deeds last → Path cpu ((cpu.isSupervisor, d) :: deeds) last

def levels (deeds : List (Bool × Deed)) : List UInt8 :=
  deeds.filterMap fun d => match d.2 with
    | .entry level => some level
    | _ => none

@[simp] theorem levels_nil : levels [] = [] := rfl

@[simp] theorem levels_entry (mode : Bool) (level : UInt8) (deeds : List (Bool × Deed)) :
    levels ((mode, .entry level) :: deeds) = level :: levels deeds := rfl

theorem levels_cons_of_not_isEntry {d : Bool × Deed} (other : d.2.isEntry = false)
    (deeds : List (Bool × Deed)) : levels (d :: deeds) = levels deeds := by
  obtain ⟨mode, d⟩ := d
  cases d with
  | idle | instruction i => rfl
  | entry level => cases other

theorem mem_levels {level : UInt8} {deeds : List (Bool × Deed)} :
    level ∈ levels deeds ↔ ∃ mode, (mode, .entry level) ∈ deeds := by
  rw [levels, List.mem_filterMap]
  constructor
  · rintro ⟨⟨mode, d⟩, mem, found⟩
    cases d with
    | idle | instruction i => cases found
    | entry k =>
      cases found
      exact ⟨mode, mem⟩
  · rintro ⟨mode, mem⟩
    exact ⟨_, mem, rfl⟩

theorem levels_append (deeds more : List (Bool × Deed)) :
    levels (deeds ++ more) = levels deeds ++ levels more :=
  List.filterMap_append

theorem length_levels (deeds : List (Bool × Deed)) : (levels deeds).length = entries deeds := by
  induction deeds with
  | nil => rfl
  | cons d deeds ih =>
    obtain ⟨mode, d⟩ := d
    cases d <;> simp_all [levels, entries, Deed.isEntry]

/-- What happens from the first accepted request on. -/
def sinceEntry (deeds : List (Bool × Deed)) : List (Bool × Deed) :=
  deeds.dropWhile fun d => !d.2.isEntry

theorem levels_sinceEntry (deeds : List (Bool × Deed)) :
    levels (sinceEntry deeds) = levels deeds := by
  induction deeds with
  | nil => rfl
  | cons d deeds ih =>
    rw [sinceEntry, List.dropWhile_cons]
    by_cases isEntry : d.2.isEntry = true
    · rw [if_neg (by simp [isEntry])]
    · have other : d.2.isEntry = false := Bool.of_not_eq_true isEntry
      rw [if_pos (by simp [other]), levels_cons_of_not_isEntry other]
      exact ih

theorem path_callAll {μ : Type} (answer : (q : BusRequest) → μ → q.Answer × μ) (calls : List Call)
    (s : Cpu × μ) : Path s.1 (history answer calls s) (callAll answer calls s).1 := by
  induction calls generalizing s with
  | nil => exact .nil s.1
  | cons c calls ih => exact .cons (.call answer s c) (ih (call answer s c))

namespace Path

variable {cpu last : Cpu} {deeds more : List (Bool × Deed)}

theorem append {next : Cpu} (first : Path cpu deeds next) (second : Path next more last) :
    Path cpu (deeds ++ more) last := by
  induction first with
  | nil => exact second
  | cons does _ ih => exact .cons does (ih second)

theorem append_iff :
    Path cpu (deeds ++ more) last ↔ ∃ next, Path cpu deeds next ∧ Path next more last := by
  constructor
  · intro path
    induction deeds generalizing cpu with
    | nil => exact ⟨cpu, .nil cpu, path⟩
    | cons d deeds ih =>
      cases path with
      | cons does rest =>
        obtain ⟨next, first, second⟩ := ih rest
        exact ⟨next, .cons does first, second⟩
  · rintro ⟨next, first, second⟩
    exact first.append second

theorem sinceEntry (path : Path cpu deeds last) :
    ∃ next, Path next (Cpu.sinceEntry deeds) last := by
  rw [← List.takeWhile_append_dropWhile (p := fun d => !d.2.isEntry) (l := deeds)] at path
  obtain ⟨next, -, rest⟩ := append_iff.1 path
  exact ⟨next, rest⟩

/-- The stack pointers at the end are known from the deeds. -/
theorem pointers (path : Path cpu deeds last) : last.pointers = tally deeds cpu.pointers := by
  induction path with
  | nil cpu => simp [tally, returns, entries]
  | cons does _ ih =>
    cases does with
    | call answer s c => rw [ih, tally_cons, pointers_call]

/-- As long as no instruction loads the status, every level that is accepted is above all that were
accepted before, or the seventh. -/
theorem levels_rise (path : Path cpu deeds last) (keep : ∀ d ∈ deeds, d.2.loadsStatus = false) :
    (levels deeds).Pairwise (fun l k => l < k ∨ k = 7) ∧
      ∀ level ∈ levels deeds, level ≤ 7 ∧ (cpu.interruptMask < level ∨ level = 7) := by
  induction path with
  | nil cpu => simp
  | @cons cpu next last d deeds does _ ih =>
    obtain ⟨keeps, rest⟩ := List.forall_mem_cons.1 keep
    obtain ⟨rise, above⟩ := ih rest
    cases does with
    | call answer s c =>
      by_cases isEntry : (deed answer s c).isEntry = false
      · have sr : (Cpu.call answer s c).1.sr = s.1.sr := by
          rw [sr_call answer s keeps]
          cases h : deed answer s c <;> simp_all [Deed.status, Deed.isEntry]
        have mask : (Cpu.call answer s c).1.interruptMask = s.1.interruptMask := by
          rw [interruptMask, interruptMask, sr]
        rw [levels_cons_of_not_isEntry isEntry, ← mask]
        exact ⟨rise, above⟩
      · obtain ⟨level, entered⟩ : ∃ level, deed answer s c = .entry level := by
          cases h : deed answer s c <;> simp_all [Deed.isEntry]
        obtain ⟨small, higher⟩ := level_of_entry answer s entered
        rw [(status_of_entry answer s entered).2.1] at above
        rw [entered, levels_entry, List.pairwise_cons, List.forall_mem_cons]
        refine ⟨⟨fun k mem => (above k mem).2, rise⟩, ⟨small, higher⟩, fun k mem => ?_⟩
        obtain ⟨small', higher'⟩ := above k mem
        refine ⟨small', higher'.elim (fun above => .inl ?_) .inr⟩
        -- Nothing is above the seventh level, so the first of the two is above the mask.
        simp only [UInt8.lt_iff_toNat_lt, UInt8.le_iff_toNat_le, ← UInt8.toNat_inj] at *
        simp only [UInt8.reduceToNat] at *
        omega

/-- Of two requests with no load of the status between them, the second is above the first. -/
theorem level_rises {before between rest : List (Bool × Deed)} {mode mode' : Bool} {l k : UInt8}
    (path : Path cpu (before ++ (mode, .entry l) :: (between ++ (mode', .entry k) :: rest)) last)
    (keep : ∀ d ∈ between, d.2.loadsStatus = false) : l < k ∨ k = 7 := by
  have split : (mode, .entry l) :: (between ++ (mode', .entry k) :: rest) =
      ((mode, .entry l) :: (between ++ [(mode', .entry k)])) ++ rest := by simp
  obtain ⟨middle, -, later⟩ := append_iff.1 path
  rw [split] at later
  obtain ⟨next, both, -⟩ := append_iff.1 later
  have keeps : ∀ d ∈ (mode, .entry l) :: (between ++ [(mode', .entry k)]),
      d.2.loadsStatus = false := by
    simp only [List.mem_cons, List.mem_append, List.not_mem_nil, or_false]
    rintro d (rfl | mem | rfl)
    · rfl
    · exact keep d mem
    · rfl
  have rise := (both.levels_rise keeps).1
  rw [levels_entry, levels_append, List.pairwise_cons] at rise
  exact rise.1 k (List.mem_append_right _ List.mem_cons_self)

end Path

end Cpu
end Genesis
