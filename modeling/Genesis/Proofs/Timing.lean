import Genesis.Timing

/-!
# The budget as one quotient

Dividing by one divisor after the other, rounding down each time, is dividing once by their product.
So the clocks of a line never exceed the master clock, and no product of budgets overflows.
-/

namespace Genesis
namespace Timing

theorem toNat_atLeastOne (x : UInt32) : (atLeastOne x).toNat = max 1 x.toNat := by
  unfold atLeastOne
  split
  · rename_i zero
    subst zero
    rfl
  · rename_i positive
    have : x.toNat ≠ 0 := fun h => positive (UInt32.toNat_inj.1 h)
    omega

def divisorProduct (ds : List UInt32) : Nat := ds.foldr (fun d p => max 1 d.toNat * p) 1

@[simp] theorem divisorProduct_nil : divisorProduct [] = 1 := rfl

@[simp] theorem divisorProduct_cons (d : UInt32) (ds : List UInt32) :
    divisorProduct (d :: ds) = max 1 d.toNat * divisorProduct ds := rfl

theorem toNat_foldl_div (ds : List UInt32) (n : UInt32) :
    (ds.foldl (fun n d => n / atLeastOne d) n).toNat = n.toNat / divisorProduct ds := by
  induction ds generalizing n with
  | nil => simp
  | cons d ds ih =>
    rw [List.foldl_cons, ih, UInt32.toNat_div, toNat_atLeastOne, Nat.div_div_eq_div_mul,
      divisorProduct_cons]

theorem toNat_unitsPerLine (t : Timing) (pal : Bool) :
    (t.unitsPerLine pal).toNat = (t.masterClock pal).toNat / divisorProduct (t.lineDivisors pal) :=
  toNat_foldl_div _ _

theorem unitsPerLine_mul_le (t : Timing) (pal : Bool) :
    (t.unitsPerLine pal).toNat * max 1 t.subCycles.toNat ≤ (t.masterClock pal).toNat := by
  have product : divisorProduct (t.lineDivisors pal) =
      divisorProduct [if pal then t.frameRatePal else t.frameRateNtsc, t.lines, t.cpuDivider,
        t.cycleScale] * max 1 t.subCycles.toNat := by
    simp only [lineDivisors, divisorProduct_cons, divisorProduct_nil]
    ac_rfl
  rw [toNat_unitsPerLine, product, ← Nat.div_div_eq_div_mul]
  exact Nat.le_trans (Nat.div_mul_le_self _ _) (Nat.div_le_self _ _)

end Timing
end Genesis
