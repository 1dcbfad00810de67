import Genesis.Lanes
import Genesis.Word

/-!
# Words by their bytes, bytes by their bits

A word is known from its two bytes, and the lanes of an access select whole bytes. So a masked word
is a word with some bytes cleared (`wordOf_and_mask`), and two words agree on the requested lanes
just when they agree on the requested bytes (`and_mask_eq_iff`). A byte is known from its bits, and
masking it with a single one tests this bit (`and_bit_ne_zero`).
-/

namespace Genesis

theorem word_ext {w x : UInt16} (high : highByte w = highByte x) (low : lowByte w = lowByte x) :
    w = x := by
  rw [← wordOf_highByte_lowByte w, high, low, wordOf_highByte_lowByte]

theorem highByte_and (w x : UInt16) : highByte (w &&& x) = highByte w &&& highByte x := by
  simp [highByte, UInt16.shiftRight_and]

theorem lowByte_and (w x : UInt16) : lowByte (w &&& x) = lowByte w &&& lowByte x := by
  simp [lowByte]

theorem toNat_longOf (high low : UInt16) :
    (longOf high low).toNat = 65536 * high.toNat + low.toNat := by
  have l := low.toNat_lt
  have shifted : high.toNat <<< 16 % 4294967296 = high.toNat <<< 16 := by
    have h := high.toNat_lt
    rw [Nat.shiftLeft_eq]
    omega
  have sum := Nat.shiftLeft_add_eq_or_of_lt l high.toNat
  simp only [longOf, UInt32.toNat_or, UInt32.toNat_shiftLeft, UInt16.toNat_toUInt32,
    UInt32.toNat_ofNat]
  show (high.toNat <<< 16 % 4294967296) ||| low.toNat = _
  rw [shifted, ← sum, Nat.shiftLeft_eq]
  omega

@[simp] theorem longOf_highWord_lowWord (l : UInt32) : longOf (highWord l) (lowWord l) = l := by
  apply UInt32.toNat_inj.1
  have h := l.toNat_lt
  rw [toNat_longOf]
  simp [highWord, lowWord, Nat.shiftRight_eq_div_pow]
  omega

theorem testBit_lowByte (w : UInt16) {i : Nat} (inside : i < 8) :
    (lowByte w).toNat.testBit i = w.toNat.testBit i := by
  have low := Nat.testBit_mod_two_pow w.toNat 8 i
  rw [toNat_lowByte]
  refine low.trans ?_
  simp [inside]

theorem testBit_wordOf_zero (x : UInt8) (i : Nat) :
    (wordOf 0 x).toNat.testBit i = x.toNat.testBit i := by
  rw [toNat_wordOf]
  simp

def bit (i : Nat) : UInt8 := UInt8.ofNat (Nat.pow 2 i)

theorem testBit_bit {i : Nat} (inside : i < 8) (j : Nat) :
    (bit i).toNat.testBit j = decide (i = j) := by
  have small : Nat.pow 2 i < 256 := Nat.pow_lt_pow_right (by decide) inside
  rw [bit, UInt8.toNat_ofNat', Nat.mod_eq_of_lt small]
  exact Nat.testBit_two_pow

theorem and_bit_ne_zero {i : Nat} (inside : i < 8) (x : UInt8) :
    (x &&& bit i != 0) = x.toNat.testBit i := by
  have bits (j : Nat) : (x &&& bit i).toNat.testBit j = (x.toNat.testBit j && decide (i = j)) := by
    rw [UInt8.toNat_and, Nat.testBit_and, testBit_bit inside]
  rw [Bool.eq_iff_iff, bne_iff_ne]
  constructor
  · intro nonzero
    refine Bool.of_not_eq_false fun clear => nonzero ?_
    refine UInt8.toNat_inj.1 (Nat.eq_of_testBit_eq fun j => ?_)
    rw [bits]
    by_cases same : i = j
    · subst same
      simp [clear]
    · simp [same]
  · intro set zero
    have clear := bits i
    rw [zero, set] at clear
    simp at clear

namespace Lanes

theorem mask_eq (l : Lanes) :
    l.mask = wordOf (if l.hasHigh then 0xFF else 0) (if l.hasLow then 0xFF else 0) := by
  cases l <;> rfl

theorem wordOf_and_mask (high low : UInt8) (l : Lanes) :
    wordOf high low &&& l.mask =
      wordOf (if l.hasHigh then high else 0) (if l.hasLow then low else 0) := by
  have full (x : UInt8) : x &&& 0xFF = x := UInt8.and_neg_one
  apply word_ext
  · cases l <;> simp [mask_eq, highByte_and, hasHigh, full]
  · cases l <;> simp [mask_eq, lowByte_and, hasLow, full]

theorem and_mask_both (word : UInt16) : word &&& both.mask = word := UInt16.and_neg_one

theorem and_mask_eq_iff (l : Lanes) (w x : UInt16) :
    w &&& l.mask = x &&& l.mask ↔
      (l.hasHigh → highByte w = highByte x) ∧ (l.hasLow → lowByte w = lowByte x) := by
  rw [← wordOf_highByte_lowByte w, ← wordOf_highByte_lowByte x, wordOf_and_mask, wordOf_and_mask]
  constructor
  · intro h
    have high := congrArg highByte h
    have low := congrArg lowByte h
    simp only [highByte_wordOf, lowByte_wordOf] at high low
    refine ⟨fun hh => ?_, fun hl => ?_⟩
    · simpa [hh] using high
    · simpa [hl] using low
  · rintro ⟨high, low⟩
    cases l <;> simp_all [hasHigh, hasLow]

theorem and_mask_high_iff (w x : UInt16) :
    w &&& high.mask = x &&& high.mask ↔ highByte w = highByte x := by
  simp [and_mask_eq_iff, hasHigh, hasLow]

theorem and_mask_low_iff (w x : UInt16) :
    w &&& low.mask = x &&& low.mask ↔ lowByte w = lowByte x := by
  simp [and_mask_eq_iff, hasHigh, hasLow]

end Lanes
end Genesis
