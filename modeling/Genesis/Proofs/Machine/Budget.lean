import Mathlib.Data.List.Forall2
import Genesis.Proofs.Machine.Settings

/-!
# The budget of a line

The units of a line are one quotient of the clock, so no order of the divisors matters, a faster
clock gives no fewer and a larger divisor no more of them. A console accepts no budget that divides
by zero, so the clocks that it runs for a line are those of its timing, at every point of a run
(`line_budget_is_one_quotient`).
-/

namespace Genesis

namespace Timing

variable {ds es : List UInt32}

theorem divisorProduct_pos (ds : List UInt32) : 0 < divisorProduct ds := by
  induction ds with
  | nil => exact Nat.one_pos
  | cons d ds ih =>
    have factor : 0 < max 1 d.toNat := by omega
    exact Nat.mul_pos factor ih

theorem divisorProduct_of_perm (perm : ds.Perm es) : divisorProduct ds = divisorProduct es := by
  induction perm with
  | nil => rfl
  | cons d _ ih => rw [divisorProduct_cons, divisorProduct_cons, ih]
  | swap d e ds =>
    simp only [divisorProduct_cons]
    ac_rfl
  | trans _ _ first second => exact first.trans second

theorem divisorProduct_le (le : List.Forall₂ (· ≤ ·) ds es) :
    divisorProduct ds ≤ divisorProduct es := by
  induction le with
  | nil => exact Nat.le_refl _
  | @cons d e _ _ le _ ih =>
    have factor : max 1 d.toNat ≤ max 1 e.toNat := by
      have := UInt32.le_iff_toNat_le.1 le
      omega
    exact Nat.mul_le_mul factor ih

theorem foldl_div_of_perm (perm : ds.Perm es) (n : UInt32) :
    ds.foldl (fun n d => n / atLeastOne d) n = es.foldl (fun n d => n / atLeastOne d) n := by
  apply UInt32.toNat_inj.1
  rw [toNat_foldl_div, toNat_foldl_div, divisorProduct_of_perm perm]

variable (t : Timing) (pal : Bool)

theorem divisorProduct_lineDivisors :
    divisorProduct (t.lineDivisors pal) =
      max 1 (if pal then t.frameRatePal else t.frameRateNtsc).toNat * max 1 t.lines.toNat *
        max 1 t.cpuDivider.toNat * max 1 t.subCycles.toNat * max 1 t.cycleScale.toNat := by
  simp only [lineDivisors, divisorProduct_cons, divisorProduct_nil]
  ac_rfl

/-- A clock that is no slower and divisors that are no larger give no fewer units. -/
theorem unitsPerLine_le {t u : Timing} {pal : Bool} (clock : t.masterClock pal ≤ u.masterClock pal)
    (divisors : List.Forall₂ (· ≤ ·) (u.lineDivisors pal) (t.lineDivisors pal)) :
    t.unitsPerLine pal ≤ u.unitsPerLine pal := by
  rw [UInt32.le_iff_toNat_le, toNat_unitsPerLine, toNat_unitsPerLine]
  exact Nat.le_trans
    (Nat.div_le_div_left (divisorProduct_le divisors) (divisorProduct_pos _))
    (Nat.div_le_div_right (UInt32.le_iff_toNat_le.1 clock))

theorem unitsPerLine_mul_subCycles_le :
    (t.unitsPerLine pal).toNat * t.subCycles.toNat ≤ (t.masterClock pal).toNat :=
  Nat.le_trans (Nat.mul_le_mul_left _ (Nat.le_max_right _ _)) (t.unitsPerLine_mul_le pal)

/-- The product of the units and the clocks of a unit does not wrap around. -/
theorem toNat_clocksPerLine :
    (t.clocksPerLine pal).toNat = (t.unitsPerLine pal).toNat * t.subCycles.toNat := by
  have fits := t.unitsPerLine_mul_subCycles_le pal
  have clock := (t.masterClock pal).toNat_lt
  rw [clocksPerLine, UInt32.toNat_mul]
  exact Nat.mod_eq_of_lt (Nat.lt_of_le_of_lt fits clock)

end Timing

namespace Machine

variable {σ ν η : Type}

theorem Request.not_dividesByZero_of_budget? {r : Request} {t : Timing}
    (sets : r.budget? = some t) : ¬ DividesByZero t := by
  have given (c : Option Configuration)
      (sets : (c.bind fun c => c.timing.filter fun t => ¬ DividesByZero t) = some t) :
      ¬ DividesByZero t := by
    obtain ⟨c, -, kept⟩ := Option.bind_eq_some_iff.1 sets
    simpa using (Option.filter_eq_some_iff.1 kept).2
  cases r with
  | setTiming u =>
    by_cases zero : DividesByZero u
    · simp [budget?, zero] at sets
    · simp only [budget?, zero, if_false, Option.some.injEq] at sets
      rwa [← sets]
  | _ =>
    simp only [budget?] at sets
    exact given _ sets

theorem Operation.not_dividesByZero_onSettings (op : Operation) {s : Settings}
    (nonzero : ¬ DividesByZero s.timing) : ¬ DividesByZero (op.onSettings s).timing := by
  rw [op.timing_onSettings]
  cases sets : op.budget? with
  | none => exact nonzero
  | some t =>
    cases op with
    | request r => exact r.not_dividesByZero_of_budget? sets
    | _ => cases sets

theorem not_dividesByZero_foldl_onSettings (ops : List Operation) {s : Settings}
    (nonzero : ¬ DividesByZero s.timing) :
    ¬ DividesByZero (ops.foldl Operation.onSettings s).timing := by
  induction ops generalizing s with
  | nil => exact nonzero
  | cons op ops ih => exact ih (op.not_dividesByZero_onSettings nonzero)

theorem not_dividesByZero_runSteps [Processor σ] [VideoUnit ν] (host : Host η) (cpu : σ) (video : ν)
    (h : η) (steps : List (Host η × Operation)) :
    ¬ DividesByZero (runSteps steps (build host cpu video h)).2.1.settings.timing := by
  have standard : ¬ DividesByZero {} := by decide
  rw [settings_runSteps]
  exact not_dividesByZero_foldl_onSettings _ standard

/-- Without a division by zero a frame runs the clocks that the timing itself tells. -/
theorem clocksPerLine_eq_of_not_dividesByZero {s : Setup} (nonzero : ¬ DividesByZero s.timing) :
    clocksPerLine s = s.timing.clocksPerLine s.pal := by
  have positive : s.timing.subCycles ≠ 0 := fun zero => nonzero ⟨.subCycles, zero⟩
  rw [clocksPerLine, Timing.atLeastOne, if_neg positive]
  rfl

/-- The units of a line are the clock divided once by the product of its divisors, where a zero
counts as a one: in whatever order they divide, with no fewer units for a faster clock and no more
for a larger divisor. The clocks of a line, in a frame and by the timing itself, are the true
products and no more than the clock. After any run of a new console its timing has no zero to divide
by, so the two agree. -/
theorem line_budget_is_one_quotient [Processor σ] [VideoUnit ν] (host : Host η) (cpu : σ)
    (video : ν) (h : η) (steps : List (Host η × Operation)) (s : Setup) :
    let t := s.timing
    let units := (t.unitsPerLine s.pal).toNat
    let clock := (t.masterClock s.pal).toNat
    let now := (runSteps steps (build host cpu video h)).2.1.setup
    units = clock /
      (max 1 (if s.pal then t.frameRatePal else t.frameRateNtsc).toNat * max 1 t.lines.toNat *
        max 1 t.cpuDivider.toNat * max 1 t.subCycles.toNat * max 1 t.cycleScale.toNat) ∧
    (∀ ds : List UInt32, ds.Perm (t.lineDivisors s.pal) →
      ds.foldl (fun n d => n / Timing.atLeastOne d) (t.masterClock s.pal) =
        t.unitsPerLine s.pal) ∧
    (∀ u : Timing, t.masterClock s.pal ≤ u.masterClock s.pal →
      List.Forall₂ (· ≤ ·) (u.lineDivisors s.pal) (t.lineDivisors s.pal) →
      t.unitsPerLine s.pal ≤ u.unitsPerLine s.pal) ∧
    ((clocksPerLine s).toNat = units * max 1 t.subCycles.toNat ∧
      units * max 1 t.subCycles.toNat ≤ clock) ∧
    ((t.clocksPerLine s.pal).toNat = units * t.subCycles.toNat ∧
      units * t.subCycles.toNat ≤ clock) ∧
    (∀ d, now.timing.divisor d ≠ 0) ∧
    clocksPerLine now = now.timing.clocksPerLine now.pal := by
  intro t units clock now
  have nonzero : ¬ DividesByZero now.timing := not_dividesByZero_runSteps host cpu video h steps
  refine ⟨?_, fun ds perm => Timing.foldl_div_of_perm perm _,
    fun u faster smaller => Timing.unitsPerLine_le faster smaller,
    ⟨toNat_clocksPerLine s, t.unitsPerLine_mul_le s.pal⟩,
    ⟨t.toNat_clocksPerLine s.pal, t.unitsPerLine_mul_subCycles_le s.pal⟩,
    fun d zero => nonzero ⟨d, zero⟩, clocksPerLine_eq_of_not_dividesByZero nonzero⟩
  rw [← Timing.divisorProduct_lineDivisors]
  exact t.toNat_unitsPerLine s.pal

/-- A product of divisors beyond 32 bits, the divisors from the last to the first, and another
timing with a zero among its divisors. -/
theorem line_budget_is_one_quotient_of_wide_product :
    let t : Timing := { lines := 4294967295, cpuDivider := 0, subCycles := 65536 }
    let u : Timing := { lines := 0, cpuDivider := 0, subCycles := 65536 }
    let steps := [(Host.idle, Operation.request (.setTiming u)),
      (Host.idle, .request (.setTiming { subCycles := 1 }))]
    [t.cycleScale, t.subCycles, t.cpuDivider, t.lines, t.frameRatePal].Perm (t.lineDivisors true) ∧
      t.masterClock true ≤ u.masterClock true ∧
      List.Forall₂ (· ≤ ·) (u.lineDivisors true) (t.lineDivisors true) ∧
      t.unitsPerLine true ≤ u.unitsPerLine true ∧
      [t.cycleScale, t.subCycles, t.cpuDivider, t.lines, t.frameRatePal].foldl
        (fun n d => n / Timing.atLeastOne d) (t.masterClock true) = t.unitsPerLine true ∧
      (runSteps steps (build (ν := Vdp) Host.idle ({} : Cpu)
        Vdp.initial ())).2.1.setup.timing.divisor .subCycles ≠ 0 := by
  intro t u steps
  have order : [t.cycleScale, t.subCycles, t.cpuDivider, t.lines, t.frameRatePal].Perm
      (t.lineDivisors true) := by decide
  have clock : t.masterClock true ≤ u.masterClock true := by decide
  have divisors : List.Forall₂ (· ≤ ·) (u.lineDivisors true) (t.lineDivisors true) := by
    simp only [Timing.lineDivisors, List.forall₂_cons, List.Forall₂.nil]
    decide
  obtain ⟨-, orders, fewer, -, -, nonzero, -⟩ := line_budget_is_one_quotient Host.idle ({} : Cpu)
    Vdp.initial () steps { pal := true, timing := t }
  exact ⟨order, clock, divisors, fewer u clock divisors, orders _ order, nonzero .subCycles⟩

end Machine
end Genesis
