import Genesis.Proofs.Vdp.Store

/-!
# Fills

A fill stores one word and then repeats its high byte at every place that the command address comes
to. So the high byte of the word always leaves a trace, and the low byte only where the fill does
not run over it (`fill_eq_fill_iff`).
-/

namespace Genesis
namespace Vdp

theorem address_step (v : Vdp) (n : Nat) :
    v.address + UInt16.ofNat (n + 1) * v.autoIncrement =
      v.address + v.autoIncrement + UInt16.ofNat n * v.autoIncrement := by
  rw [UInt16.ofNat_add]
  grind

theorem repeatByte_with (x : UInt8) (n : Nat) (v : Vdp) :
    repeatByte x n v =
      { v with
        vram := (repeatByte x n v).vram
        address := v.address + UInt16.ofNat n * v.autoIncrement } := by
  induction n generalizing v with
  | zero =>
    have start : v.address + UInt16.ofNat 0 * v.autoIncrement = v.address := by simp
    rw [start]
    rfl
  | succ n ih =>
    rw [address_step]
    exact ih { v with vram := v.vram.write v.address x }.advance

/-- The bytes that are repeated lie where the command address has been. -/
theorem read_repeatByte (x : UInt8) (n : Nat) (v : Vdp) (cell : UInt16) :
    (repeatByte x n v).vram.read cell =
      if ∃ k < n, v.address + UInt16.ofNat k * v.autoIncrement = cell then x
      else v.vram.read cell := by
  induction n generalizing v with
  | zero => simp [repeatByte]
  | succ n ih =>
    let next := { v with vram := v.vram.write v.address x }.advance
    have here : v.address + UInt16.ofNat 0 * v.autoIncrement = v.address := by simp
    have visited : (∃ k < n + 1, v.address + UInt16.ofNat k * v.autoIncrement = cell) ↔
        v.address = cell ∨ ∃ k < n, next.address + UInt16.ofNat k * next.autoIncrement = cell := by
      rw [Nat.exists_lt_succ_left, here]
      simp only [address_step]
      rfl
    have rest : (repeatByte x (n + 1) v).vram.read cell = _ := ih next
    rw [rest, show next.vram.read cell = _ from Ram.read_write v.vram v.address cell x]
    by_cases later : ∃ k < n, next.address + UInt16.ofNat k * next.autoIncrement = cell
    · rw [if_pos later, if_pos (visited.2 (.inr later))]
    · rw [if_neg later]
      by_cases now : v.address = cell
      · rw [if_pos now, if_pos (visited.2 (.inl now))]
      · rw [if_neg now, if_neg (fun h => (visited.1 h).elim now later)]

/-- A fill that starts now comes to a place, after the word that it stores first. -/
def FillCovers (v : Vdp) (cell : UInt16) : Prop :=
  ∃ k < v.transferLength, v.address + UInt16.ofNat (k + 1) * v.autoIncrement = cell

instance (v : Vdp) (cell : UInt16) : Decidable (v.FillCovers cell) :=
  inferInstanceAs (Decidable (∃ k, k < v.transferLength ∧ _))

theorem transferLength_pos (v : Vdp) : 0 < v.transferLength := by
  unfold transferLength
  generalize (wordOf (v.registers.get 20) (v.registers.get 19)).toNat = length
  cases length <;> simp

theorem transferLength_store (w : UInt16) (v : Vdp) :
    (v.store w).transferLength = v.transferLength := by
  simp [transferLength]

theorem autoIncrement_store (w : UInt16) (v : Vdp) :
    (v.store w).autoIncrement = v.autoIncrement := by
  simp [autoIncrement]

theorem store_disarmed (w : UInt16) (v : Vdp) :
    store w { v with fillArmed := false } = { v.store w with fillArmed := false } := by
  unfold store
  dsimp only
  split <;> rfl

theorem fill_eq_repeatByte (w : UInt16) (v : Vdp) :
    v.fill w =
      repeatByte (highByte w) v.transferLength { v.store w with fillArmed := false } := by
  rw [fill, store_disarmed]
  exact congrArg (fun n => repeatByte (highByte w) n { v.store w with fillArmed := false })
    (transferLength_store w v)

theorem fill_with (w : UInt16) (v : Vdp) :
    v.fill w =
      { v with
        vram := (v.fill w).vram, cram := (v.store w).cram, vsram := (v.store w).vsram
        address := v.address + UInt16.ofNat (v.transferLength + 1) * v.autoIncrement
        fillArmed := false } := by
  have repeated := fill_eq_repeatByte w v
  have vram := congrArg (fun v => v.vram) repeated
  have address : (v.store w).address + UInt16.ofNat v.transferLength * (v.store w).autoIncrement =
      v.address + UInt16.ofNat (v.transferLength + 1) * v.autoIncrement := by
    rw [address_store, autoIncrement_store, address_step]
  rw [repeatByte_with, ← vram] at repeated
  rw [← address]
  have stored := congrArg (fun s : Vdp =>
    { s with
      vram := (v.fill w).vram
      address := (v.store w).address + UInt16.ofNat v.transferLength * (v.store w).autoIncrement
      fillArmed := false }) (store_with w v)
  exact repeated.trans stored

theorem read_vram_fill (w : UInt16) (v : Vdp) (cell : UInt16) : (v.fill w).vram.read cell =
    if v.FillCovers cell then highByte w else (v.store w).vram.read cell := by
  have covers : v.FillCovers cell ↔ ∃ k < v.transferLength,
      (v.store w).address + UInt16.ofNat k * (v.store w).autoIncrement = cell := by
    simp only [FillCovers, address_step, address_store, autoIncrement_store]
  rw [fill_eq_repeatByte, read_repeatByte]
  by_cases covered : v.FillCovers cell
  · rw [if_pos covered]
    exact if_pos (covers.1 covered)
  · rw [if_neg covered]
    exact if_neg (fun h => covered (covers.2 h))

section Compare

variable (w x : UInt16) (v : Vdp)

theorem vram_fill_eq_iff : (v.fill w).vram = (v.fill x).vram ↔
    highByte w = highByte x ∧
    (writeStore? v.code = some .vram → ¬ v.FillCovers (v.address ^^^ 1) →
      lowByte w = lowByte x) := by
  constructor
  · intro same
    have read (cell : UInt16) := congrArg (fun ram => ram.read cell) same
    simp only [read_vram_fill] at read
    constructor
    · -- The place that the command address comes to last shows the high byte.
      let last := v.address + UInt16.ofNat (v.transferLength - 1 + 1) * v.autoIncrement
      have pos := v.transferLength_pos
      have covered : v.FillCovers last := ⟨v.transferLength - 1, by omega, rfl⟩
      have high := read last
      rwa [if_pos covered, if_pos covered] at high
    · intro target missed
      have low := read (v.address ^^^ 1)
      simpa [missed, read_vram_store, target] using low
  · rintro ⟨high, low⟩
    apply Ram.ext_read
    intro cell
    rw [read_vram_fill, read_vram_fill, high]
    by_cases covered : v.FillCovers cell
    · rw [if_pos covered, if_pos covered]
    · rw [if_neg covered, if_neg covered, read_vram_store, read_vram_store, high]
      by_cases target : writeStore? v.code = some .vram
      · rw [if_pos target, if_pos target]
        by_cases beside : v.address ^^^ 1 = cell
        · rw [if_pos beside, if_pos beside]
          exact low target (beside ▸ covered)
        · rw [if_neg beside, if_neg beside]
      · rw [if_neg target, if_neg target]

/-- Fills from two words differ in the high bytes, or in what the first store keeps of the low bytes
and no repetition runs over. -/
theorem fill_eq_fill_iff : v.fill w = v.fill x ↔
    highByte w = highByte x ∧
    (writeStore? v.code = some .vram → ¬ v.FillCovers (v.address ^^^ 1) →
      lowByte w = lowByte x) ∧
    (writeStore? v.code = some .cram → w &&& 0x0EEE = x &&& 0x0EEE) ∧
    (writeStore? v.code = some .vsram → vsramIndex v.address < 40 →
      w &&& 0x07FF = x &&& 0x07FF) := by
  rw [← and_assoc, ← vram_fill_eq_iff, ← cram_store_eq_iff, ← vsram_store_eq_iff]
  constructor
  · intro same
    have cram := congrArg (fun v => v.cram) same
    have vsram := congrArg (fun v => v.vsram) same
    rw [fill_with w, fill_with x] at cram vsram
    exact ⟨congrArg (fun v => v.vram) same, cram, vsram⟩
  · rintro ⟨vram, cram, vsram⟩
    rw [fill_with w, vram, cram, vsram, ← fill_with x]

end Compare

theorem fill_eq_of_not_stores {v : Vdp} (dropped : ¬ v.Stores) {w x : UInt16}
    (high : highByte w = highByte x) : v.fill w = v.fill x := by
  have same := store_eq_of_not_stores dropped w x
  obtain ⟨-, cram, vsram⟩ := (store_eq_store_iff w x v).1 same
  exact (fill_eq_fill_iff w x v).2
    ⟨high, fun vram => absurd (.inl vram) dropped, cram, vsram⟩

end Vdp
end Genesis
