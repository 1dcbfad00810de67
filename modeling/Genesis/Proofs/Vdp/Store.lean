import Genesis.Vdp.Raster
import Genesis.Proofs.Word

/-!
# Stores of the video processor

A store changes one of the three memories and moves the command address on; registers, command code
and flags stay. How much of a word it keeps depends on the memory: all of it, nine bits of colour or
eleven bits of scroll (`store_eq_store_iff`).
-/

namespace Genesis
namespace Vdp

/-- The number that a register holds; registers that do not exist read as zero. -/
def register (v : Vdp) (n : Nat) : Nat := ((v.registers.get? n).getD 0).toNat

theorem register_lt (v : Vdp) (n : Nat) : v.register n < 256 := UInt8.toNat_lt _

section Store

variable (value : UInt16) (v : Vdp)

@[simp] theorem address_store : (store value v).address = v.address + v.autoIncrement := by
  unfold store
  split <;> rfl

@[simp] theorem registers_store : (store value v).registers = v.registers := by
  unfold store
  split <;> rfl

@[simp] theorem code_store : (store value v).code = v.code := by
  unfold store
  split <;> rfl

@[simp] theorem latched_store : (store value v).latched = v.latched := by
  unfold store
  split <;> rfl

@[simp] theorem fillArmed_store : (store value v).fillArmed = v.fillArmed := by
  unfold store
  split <;> rfl

theorem store_with : v.store value =
    { v with
      vram := (v.store value).vram, cram := (v.store value).cram, vsram := (v.store value).vsram,
      address := v.address + v.autoIncrement } := by
  unfold store
  split <;> rfl

theorem read_vram_store (cell : UInt16) : (v.store value).vram.read cell =
    if writeStore? v.code = some .vram then
      if v.address ^^^ 1 = cell then lowByte value
      else if v.address = cell then highByte value
      else v.vram.read cell
    else v.vram.read cell := by
  unfold store
  split <;> simp [*, advance, Ram.read_write]

theorem cram_store : (v.store value).cram =
    if writeStore? v.code = some .cram then v.cram.put (cramIndex v.address) (value &&& 0x0EEE)
    else v.cram := by
  unfold store
  split <;> simp [*, advance]

theorem vsram_store : (v.store value).vsram =
    if writeStore? v.code = some .vsram then
      v.vsram.put? (vsramIndex v.address) (value &&& 0x07FF)
    else v.vsram := by
  unfold store
  split <;> simp [*, advance]

theorem writeData_of_idle (latched : v.latched = false) (idle : v.fillArmed = false) :
    (writeData value v).value = v.store value := by
  obtain ⟨⟩ := v
  subst latched idle
  rfl

end Store

theorem xor_one_ne (a : UInt16) : a ^^^ 1 ≠ a := by
  intro h
  have cancel := congrArg (a ^^^ ·) h
  rw [← UInt16.xor_assoc, UInt16.xor_self, UInt16.zero_xor] at cancel
  exact absurd cancel (by decide)

section Compare

variable (w x : UInt16) (v : Vdp)

theorem cram_store_eq_iff : (v.store w).cram = (v.store x).cram ↔
    (writeStore? v.code = some .cram → w &&& 0x0EEE = x &&& 0x0EEE) := by
  rw [cram_store, cram_store]
  by_cases target : writeStore? v.code = some .cram <;> simp [target, Bank.put_inj]

theorem vsram_store_eq_iff : (v.store w).vsram = (v.store x).vsram ↔
    (writeStore? v.code = some .vsram → vsramIndex v.address < 40 →
      w &&& 0x07FF = x &&& 0x07FF) := by
  rw [vsram_store, vsram_store]
  by_cases target : writeStore? v.code = some .vsram
  · by_cases present : vsramIndex v.address < 40 <;> simp [target, Bank.put?, present, Bank.put_inj]
  · simp [target]

theorem vram_store_eq_iff : (v.store w).vram = (v.store x).vram ↔
    (writeStore? v.code = some .vram → w = x) := by
  by_cases target : writeStore? v.code = some .vram
  · constructor
    · intro same _
      have high := congrArg (fun ram => ram.read v.address) same
      have low := congrArg (fun ram => ram.read (v.address ^^^ 1)) same
      simp only [read_vram_store, target, if_true, xor_one_ne, if_false] at high low
      exact word_ext high low
    · intro same
      rw [same target]
  · constructor
    · intro _ h
      exact absurd h target
    · intro _
      apply Ram.ext_read
      intro cell
      rw [read_vram_store, read_vram_store, if_neg target, if_neg target]

theorem store_eq_store_iff : v.store w = v.store x ↔
    (writeStore? v.code = some .vram → w = x) ∧
    (writeStore? v.code = some .cram → w &&& 0x0EEE = x &&& 0x0EEE) ∧
    (writeStore? v.code = some .vsram → vsramIndex v.address < 40 →
      w &&& 0x07FF = x &&& 0x07FF) := by
  rw [← vram_store_eq_iff, ← cram_store_eq_iff, ← vsram_store_eq_iff]
  constructor
  · intro h
    rw [h]
    exact ⟨rfl, rfl, rfl⟩
  · rintro ⟨vram, cram, vsram⟩
    rw [store_with, vram, cram, vsram, ← store_with]

end Compare

def Stores (v : Vdp) : Prop :=
  writeStore? v.code = some .vram ∨ writeStore? v.code = some .cram ∨
    (writeStore? v.code = some .vsram ∧ vsramIndex v.address < 40)

/-- Words that differ in what each of the memories keeps are told apart by any store. -/
theorem Stores.store_ne {v : Vdp} (stores : v.Stores) (w x : UInt16)
    (colour : w &&& 0x0EEE ≠ x &&& 0x0EEE) (scroll : w &&& 0x07FF ≠ x &&& 0x07FF) :
    v.store w ≠ v.store x := by
  intro same
  obtain ⟨vram, cram, vsram⟩ := (store_eq_store_iff w x v).1 same
  rcases stores with target | target | ⟨target, present⟩
  · exact colour (congrArg (· &&& 0x0EEE) (vram target))
  · exact colour (cram target)
  · exact scroll (vsram target present)

theorem store_eq_of_not_stores {v : Vdp} (dropped : ¬ v.Stores) (w x : UInt16) :
    v.store w = v.store x := by
  refine (store_eq_store_iff w x v).2 ⟨fun vram => ?_, fun cram => ?_, fun vsram present => ?_⟩
  · exact absurd (.inl vram) dropped
  · exact absurd (.inr (.inl cram)) dropped
  · exact absurd (.inr (.inr ⟨vsram, present⟩)) dropped

end Vdp
end Genesis
