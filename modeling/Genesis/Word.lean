/-!
# Words and their bytes

The data bus carries sixteen bits; the byte at the even address is the upper half. Splitting a word
and joining its bytes undo each other.
-/

namespace Genesis

def highByte (w : UInt16) : UInt8 := (w >>> 8).toUInt8

def lowByte (w : UInt16) : UInt8 := w.toUInt8

def wordOf (high low : UInt8) : UInt16 := high.toUInt16 <<< 8 ||| low.toUInt16

def longOf (high low : UInt16) : UInt32 := high.toUInt32 <<< 16 ||| low.toUInt32

def highWord (l : UInt32) : UInt16 := (l >>> 16).toUInt16

def lowWord (l : UInt32) : UInt16 := l.toUInt16

theorem toNat_highByte (w : UInt16) : (highByte w).toNat = w.toNat / 256 := by
  have := w.toNat_lt
  simp [highByte, UInt16.toNat_shiftRight, Nat.shiftRight_eq_div_pow]
  omega

theorem toNat_lowByte (w : UInt16) : (lowByte w).toNat = w.toNat % 256 := by
  simp [lowByte]

theorem toNat_wordOf (high low : UInt8) :
    (wordOf high low).toNat = 256 * high.toNat + low.toNat := by
  have h := high.toNat_lt
  have l := low.toNat_lt
  have : high.toNat <<< 8 % 65536 = high.toNat <<< 8 := by
    rw [Nat.shiftLeft_eq]; omega
  simp only [wordOf, UInt16.toNat_or, UInt16.toNat_shiftLeft, UInt8.toNat_toUInt16,
    UInt16.toNat_ofNat]
  show (high.toNat <<< 8 % 65536) ||| low.toNat = _
  rw [this, ← Nat.shiftLeft_add_eq_or_of_lt l, Nat.shiftLeft_eq]
  omega

@[simp] theorem highByte_wordOf (high low : UInt8) : highByte (wordOf high low) = high := by
  apply UInt8.toNat_inj.1
  have h := high.toNat_lt
  have l := low.toNat_lt
  rw [toNat_highByte, toNat_wordOf]
  omega

@[simp] theorem lowByte_wordOf (high low : UInt8) : lowByte (wordOf high low) = low := by
  apply UInt8.toNat_inj.1
  have l := low.toNat_lt
  rw [toNat_lowByte, toNat_wordOf]
  omega

@[simp] theorem wordOf_highByte_lowByte (w : UInt16) : wordOf (highByte w) (lowByte w) = w := by
  apply UInt16.toNat_inj.1
  rw [toNat_wordOf, toNat_highByte, toNat_lowByte]
  omega

end Genesis
