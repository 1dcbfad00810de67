import Genesis.Cartridge
import Genesis.Region

/-!
# Where the hardware lies

A cartridge reaches up to four megabytes, and all hardware lies above. So whatever cartridge is
mapped, an address selects a device just if it does so on the fixed map (`decode_eq_iff`), and each
cell of the sound processor's memory and each register of a pad port has its own place there.
-/

namespace Genesis
namespace Region

theorem ioBlock_eq_padData_iff (a : Nat) (port : Fin 3) :
    ioBlock a = padData port ↔ a = 0xA10002 + 2 * port.val := by
  unfold ioBlock
  grind

theorem ioBlock_eq_padControl_iff (a : Nat) (port : Fin 3) :
    ioBlock a = padControl port ↔ a = 0xA10008 + 2 * port.val := by
  unfold ioBlock
  grind

theorem ioBlock_ne_z80Ram (a : Nat) (offset : Fin 0x2000) : ioBlock a ≠ z80Ram offset := by
  unfold ioBlock
  grind

theorem mem_videoBlock (a : Nat) :
    videoBlock a ∈ [videoData, videoControl, rasterCounter, toneGenerator, invalid] := by
  unfold videoBlock
  grind

theorem videoBlock_of_lt {a : Nat} (low : a < 0xC00000) : videoBlock a = invalid := by
  unfold videoBlock
  grind

theorem fixed_eq_ioBlock {a : Nat} (low : 0xA10000 ≤ a) (high : a < 0xA10020) :
    fixed a = ioBlock a := by
  unfold fixed
  grind

/-- Only the input and output block holds registers of pad ports. -/
theorem fixed_ne_pad {a : Nat} (outside : ¬ (0xA10000 ≤ a ∧ a < 0xA10020)) (port : Fin 3) :
    fixed a ≠ padData port ∧ fixed a ≠ padControl port := by
  have video := mem_videoBlock a
  unfold fixed
  grind

theorem fixed_eq_padData_iff (a : Nat) (port : Fin 3) :
    fixed a = padData port ↔ a = 0xA10002 + 2 * port.val := by
  by_cases inside : 0xA10000 ≤ a ∧ a < 0xA10020
  · rw [fixed_eq_ioBlock inside.1 inside.2, ioBlock_eq_padData_iff]
  · exact iff_of_false (fixed_ne_pad inside port).1 (by omega)

theorem fixed_eq_padControl_iff (a : Nat) (port : Fin 3) :
    fixed a = padControl port ↔ a = 0xA10008 + 2 * port.val := by
  by_cases inside : 0xA10000 ≤ a ∧ a < 0xA10020
  · rw [fixed_eq_ioBlock inside.1 inside.2, ioBlock_eq_padControl_iff]
  · exact iff_of_false (fixed_ne_pad inside port).2 (by omega)

theorem fixed_eq_z80Ram_iff (a : Nat) (offset : Fin 0x2000) :
    fixed a = z80Ram offset ↔ a = 0xA00000 + offset.val := by
  have video := mem_videoBlock a
  have io := ioBlock_ne_z80Ram a offset
  unfold fixed
  grind

theorem fixed_of_lt_capacity {a : Nat} (low : a < Cartridge.capacity) : fixed a = invalid := by
  have low : a < 0x400000 := low
  have video : videoBlock a = invalid := videoBlock_of_lt (by omega)
  unfold fixed
  grind

variable {mapped : Nat} (fits : mapped ≤ Cartridge.capacity) (address : UInt32)

include fits

theorem decode_of_capacity_le (high : Cartridge.capacity ≤ address.toNat % 0x1000000) :
    decode address mapped = fixed (address.toNat % 0x1000000) :=
  if_neg (by omega)

theorem decode_eq_iff {region : Region} (notCartridge : region ≠ cartridge)
    (valid : region ≠ invalid) :
    decode address mapped = region ↔ fixed (address.toNat % 0x1000000) = region := by
  rcases Nat.lt_or_ge (address.toNat % 0x1000000) mapped with within | beyond
  · have nothing := fixed_of_lt_capacity (Nat.lt_of_lt_of_le within fits)
    rw [(decode_eq_cartridge_iff address mapped).2 within, nothing]
    exact iff_of_false notCartridge.symm valid.symm
  · have same : decode address mapped = fixed (address.toNat % 0x1000000) :=
      if_neg (Nat.not_lt.2 beyond)
    rw [same]

theorem decode_eq_padData_iff (port : Fin 3) :
    decode address mapped = padData port ↔ address.toNat % 0x1000000 = 0xA10002 + 2 * port.val :=
  (decode_eq_iff fits address Region.noConfusion Region.noConfusion).trans
    (fixed_eq_padData_iff _ port)

theorem decode_eq_padControl_iff (port : Fin 3) :
    decode address mapped = padControl port ↔ address.toNat % 0x1000000 = 0xA10008 + 2 * port.val :=
  (decode_eq_iff fits address Region.noConfusion Region.noConfusion).trans
    (fixed_eq_padControl_iff _ port)

theorem decode_eq_z80Ram_iff (offset : Fin 0x2000) :
    decode address mapped = z80Ram offset ↔ address.toNat % 0x1000000 = 0xA00000 + offset.val :=
  (decode_eq_iff fits address Region.noConfusion Region.noConfusion).trans
    (fixed_eq_z80Ram_iff _ offset)

end Region
end Genesis
