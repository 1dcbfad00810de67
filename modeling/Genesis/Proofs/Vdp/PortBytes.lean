import Genesis.Proofs.Vdp.Fill

/-!
# The bytes of a port word

Which half of a word at the data port decides the state that follows, and which half at the control
port. A store or a fill drops bytes; the second half of a command is in the low byte alone; and no
control word is in its high byte alone.
-/

namespace Genesis
namespace Vdp

/-- The high byte of a word written to the data port leaves a trace. -/
def KeepsHighByte (v : Vdp) : Prop := v.fillArmed = true ∨ v.Stores

/-- The low byte of a word written to the data port leaves a trace. -/
def KeepsLowByte (v : Vdp) : Prop :=
  v.Stores ∧
    ¬ (v.fillArmed = true ∧ writeStore? v.code = some .vram ∧ v.FillCovers (v.address ^^^ 1))

theorem value_writeData (w : UInt16) (v : Vdp) :
    (writeData w v).value =
      if v.fillArmed then fill w { v with latched := false }
      else store w { v with latched := false } := rfl

theorem high_byte_suffices_iff (v : Vdp) :
    (∀ w x, highByte w = highByte x → (writeData w v).value = (writeData x v).value) ↔
      ¬ v.KeepsLowByte := by
  simp only [value_writeData]
  constructor
  · rintro same ⟨stores, exposed⟩
    have differ := same 0 0x0002 (by decide)
    by_cases armed : v.fillArmed
    · rw [if_pos armed, if_pos armed, fill_eq_fill_iff] at differ
      obtain ⟨-, vram, cram, vsram⟩ := differ
      rcases stores with target | target | ⟨target, present⟩
      · exact absurd (vram target fun covers => exposed ⟨armed, target, covers⟩) (by decide)
      · exact absurd (cram target) (by decide)
      · exact absurd (vsram target present) (by decide)
    · have stores' : Stores { v with latched := false } := stores
      rw [if_neg armed, if_neg armed] at differ
      exact stores'.store_ne 0 0x0002 (by decide) (by decide) differ
  · intro loses w x high
    by_cases stores : v.Stores
    · obtain ⟨armed, vram, covers⟩ := Classical.not_not.1 fun exposed => loses ⟨stores, exposed⟩
      rw [if_pos armed, if_pos armed, fill_eq_fill_iff]
      refine ⟨high, fun _ missed => absurd covers missed, fun cram => ?_, fun vsram => ?_⟩
      · exact absurd (vram.symm.trans cram) (by decide)
      · exact absurd (vram.symm.trans vsram) (by decide)
    · have dropped : ¬ Stores { v with latched := false } := stores
      by_cases armed : v.fillArmed
      · rw [if_pos armed, if_pos armed]
        exact fill_eq_of_not_stores dropped high
      · rw [if_neg armed, if_neg armed]
        exact store_eq_of_not_stores dropped w x

theorem low_byte_suffices_iff (v : Vdp) :
    (∀ w x, lowByte w = lowByte x → (writeData w v).value = (writeData x v).value) ↔
      ¬ v.KeepsHighByte := by
  simp only [value_writeData]
  constructor
  · intro same keeps
    have differ := same 0 0x0200 (by decide)
    by_cases armed : v.fillArmed
    · rw [if_pos armed, if_pos armed, fill_eq_fill_iff] at differ
      exact absurd differ.1 (by decide)
    · have stores : Stores { v with latched := false } := keeps.resolve_left armed
      rw [if_neg armed, if_neg armed] at differ
      exact stores.store_ne 0 0x0200 (by decide) (by decide) differ
  · intro loses w x _
    have idle : ¬ v.fillArmed = true := fun armed => loses (.inl armed)
    have dropped : ¬ Stores { v with latched := false } := fun stores => loses (.inr stores)
    rw [if_neg idle, if_neg idle]
    exact store_eq_of_not_stores dropped w x

section Control

variable {σ : Type} (answer : (q : VideoRequest) → σ → q.Answer × σ) (s : σ)

theorem secondCode_eq (w : UInt16) : secondCode w = (lowByte w >>> 2) &&& 0x3C := by
  apply UInt8.toBitVec_inj.1
  simp only [secondCode, lowByte]
  ext i hi
  have bits : i = 0 ∨ i = 1 ∨ i = 2 ∨ i = 3 ∨ i = 4 ∨ i = 5 ∨ i = 6 ∨ i = 7 := by omega
  rcases bits with rfl | rfl | rfl | rfl | rfl | rfl | rfl | rfl <;> simp

theorem secondAddress_eq (w : UInt16) : secondAddress w = (lowByte w).toUInt16 <<< 14 := by
  apply UInt16.toNat_inj.1
  simp [secondAddress, lowByte, Nat.shiftLeft_eq]
  omega

theorem latchSecond_eq_of_lowByte {w x : UInt16} (low : lowByte w = lowByte x) (v : Vdp) :
    v.latchSecond w = v.latchSecond x := by
  simp only [latchSecond, secondCode_eq, secondAddress_eq, low]

theorem run_writeControl_first (v : Vdp) (empty : v.latched = false) {w : UInt16}
    (command : isRegisterWrite w = false) :
    (writeControl w v).run answer s = (v.latchFirst w, s) := by
  simp [writeControl, empty, command]

theorem run_writeControl_second (v : Vdp) (latched : v.latched = true) {w : UInt16}
    (command : secondCode w = 0) :
    (writeControl w v).run answer s = (v.latchSecond w, s) := by
  have idle : (v.latchSecond w).wantsTransfer = false := by
    have code : v.code &&& 0x03 &&& 0x20 = 0 := by
      rw [UInt8.and_assoc]
      exact UInt8.and_zero
    simp [wantsTransfer, latchSecond, command, code]
  simp [writeControl, latched, idle]

theorem low_byte_completes_iff (v : Vdp) :
    (∀ w x, lowByte w = lowByte x →
      ((writeControl w v).run answer s).1 = ((writeControl x v).run answer s).1) ↔
      v.latched = true := by
  constructor
  · intro same
    cases empty : v.latched with
    | true => rfl
    | false =>
      have differ := same 0 0x4000 (by decide)
      rw [run_writeControl_first answer s v empty (by decide),
        run_writeControl_first answer s v empty (by decide)] at differ
      have bit := congrArg (fun v => v.code.toBitVec.getLsbD 0) differ
      simp [latchFirst, firstCode] at bit
  · intro latched w x low
    simp only [writeControl, latched, if_true, latchSecond_eq_of_lowByte low]

theorem high_byte_never_completes (v : Vdp) :
    ¬ ∀ w x, highByte w = highByte x →
      ((writeControl w v).run answer s).1 = ((writeControl x v).run answer s).1 := by
  intro same
  have differ := same 0 1 (by decide)
  cases latched : v.latched with
  | false =>
    rw [run_writeControl_first answer s v latched (by decide),
      run_writeControl_first answer s v latched (by decide)] at differ
    have bit := congrArg (fun v => v.address.toBitVec.getLsbD 0) differ
    simp [latchFirst] at bit
  | true =>
    rw [run_writeControl_second answer s v latched (by decide),
      run_writeControl_second answer s v latched (by decide)] at differ
    have bit := congrArg (fun v => v.address.toBitVec.getLsbD 14) differ
    simp [latchSecond, secondAddress] at bit

end Control

end Vdp

end Genesis
