import Genesis.Cpu.Execution
import Genesis.Proofs.Bus.LastWrite

/-!
# The stack in work RAM

Changing the mode and back is no change. A frame pushed to work RAM is popped again as long as
nobody writes to its six bytes, wherever in the 64 kilobytes they lie.
-/

namespace Genesis
namespace Cpu

@[simp] theorem setSp_setSp (cpu : Cpu) (x y : UInt32) : (cpu.setSp x).setSp y = cpu.setSp y := by
  simp [setSp]

@[simp] theorem setSp_sp (cpu : Cpu) : cpu.setSp cpu.sp = cpu := by
  simp [setSp, sp]

/-- Going to another status and back exchanges the stack pointers twice or not at all. -/
theorem setSr_setSr_sr (cpu : Cpu) (w : UInt16) : (cpu.setSr w).setSr cpu.sr = cpu := by
  have back : (w ^^^ cpu.sr) &&& supervisorBit = (cpu.sr ^^^ w) &&& supervisorBit := by
    rw [UInt16.xor_comm]
  by_cases h : (cpu.sr ^^^ w) &&& supervisorBit = 0
  · simp [setSr, back, h]
  · simp [setSr, back, h, setSp, sp]

@[simp] theorem pc_setSr (cpu : Cpu) (w : UInt16) : (cpu.setSr w).pc = cpu.pc := by
  unfold setSr
  split <;> rfl

@[simp] theorem clock_setSr (cpu : Cpu) (w : UInt16) : (cpu.setSr w).clock = cpu.clock := by
  unfold setSr
  split <;> rfl

theorem setSr_with (cpu : Cpu) (w : UInt16) (pc : UInt32) (stopped : Bool) (countdown : UInt32)
    (clock : UInt64) :
    ({ cpu with pc, stopped, countdown, clock } : Cpu).setSr w =
      { cpu.setSr w with pc, stopped, countdown, clock } := by
  unfold setSr
  split <;> rfl

/-- The supervisor bit of a status word. -/
def supervises (w : UInt16) : Bool := w.toBitVec.getLsbD 13

theorem and_supervisorBit (w : UInt16) :
    w &&& supervisorBit = if supervises w then supervisorBit else 0 := by
  apply UInt16.toBitVec_inj.1
  have bit : supervisorBit.toBitVec = BitVec.twoPow 16 13 := by decide
  rw [UInt16.toBitVec_and, bit, BitVec.and_twoPow, supervises]
  split <;> simp [bit]

theorem and_supervisorBit_eq_zero_iff (w : UInt16) :
    w &&& supervisorBit = 0 ↔ supervises w = false := by
  rw [and_supervisorBit]
  cases supervises w <;> decide

theorem isSupervisor_eq (cpu : Cpu) : cpu.isSupervisor = supervises cpu.sr := by
  have h := and_supervisorBit_eq_zero_iff cpu.sr
  cases hs : supervises cpu.sr <;> simp [isSupervisor, h, hs]

@[simp] theorem supervises_serviceSr (sr : UInt16) (level : UInt8) :
    supervises (serviceSr sr level) = true := by
  simp [supervises, serviceSr, supervisorBit, maskBits]

@[simp] theorem supervises_xor (w v : UInt16) :
    supervises (w ^^^ v) = (supervises w ^^ supervises v) := by
  simp [supervises]

theorem setSr_eq_ite (cpu : Cpu) (w : UInt16) :
    cpu.setSr w =
      if supervises cpu.sr = supervises w then { cpu with sr := w }
      else { cpu.setSp cpu.inactiveSp with inactiveSp := cpu.sp, sr := w } := by
  have change : (cpu.sr ^^^ w) &&& supervisorBit = 0 ↔ supervises cpu.sr = supervises w := by
    rw [and_supervisorBit_eq_zero_iff, supervises_xor]
    simp
  simp only [setSr, change]

theorem sp_setSr_of_supervises (cpu : Cpu) {w : UInt16} (hw : supervises w = true) :
    (cpu.setSr w).sp = cpu.ssp := by
  simp only [setSr_eq_ite, ssp, isSupervisor_eq, hw]
  split
  · rfl
  · simp [sp, setSp]

/-- The cell of work RAM that lies some bytes below a stack pointer. -/
def cellBelow (sp : UInt32) (i : Nat) : UInt16 := (sp - UInt32.ofNat i).toUInt16

theorem cellBelow_eq (sp : UInt32) (i : Nat) :
    cellBelow sp i = sp.toUInt16 - UInt16.ofNat i := by
  rw [cellBelow, UInt32.toUInt16_sub, UInt32.toUInt16_ofNat']

theorem cellBelow_sub (sp : UInt32) (i j : Nat) :
    cellBelow (sp - UInt32.ofNat i) j = cellBelow sp (i + j) := by
  have address : sp - UInt32.ofNat i - UInt32.ofNat j = sp - UInt32.ofNat (i + j) := by
    rw [UInt32.ofNat_add]
    grind
  rw [cellBelow, address, cellBelow]

/-- Less than the whole work RAM below a stack pointer never meets what lies above it. -/
theorem add_ne_cellBelow (sp : UInt32) {i : UInt16} {j : Nat} (pos : 1 ≤ j)
    (room : i.toNat + j < 65536) : sp.toUInt16 + i ≠ cellBelow sp j := by
  intro same
  rw [cellBelow_eq] at same
  have wrapped : i + UInt16.ofNat j = 0 := by grind
  have : (i.toNat + j) % 65536 = 0 := by simpa using congrArg UInt16.toNat wrapped
  omega

/-- Two memories differ at most in the `n` cells below a stack pointer. -/
def SameButBelow (sp : UInt32) (n : Nat) (ram ram' : Ram) : Prop :=
  ∀ cell, (∀ i, 1 ≤ i → i ≤ n → cell ≠ cellBelow sp i) → ram'.read cell = ram.read cell

theorem SameButBelow.trans {sp : UInt32} {n k : Nat} {ram ram' ram'' : Ram}
    (upper : SameButBelow sp n ram ram')
    (lower : SameButBelow (sp - UInt32.ofNat n) k ram' ram'') :
    SameButBelow sp (n + k) ram ram'' := by
  intro cell outside
  have first := upper cell fun i low high => outside i low (by omega)
  have second := lower cell fun i low high => by
    rw [cellBelow_sub]
    exact outside (n + i) (by omega) (by omega)
  exact second.trans first

/-- The three words of an interrupt frame, written below a stack pointer. -/
def pushFrame (sp pc : UInt32) (sr : UInt16) (ram : Ram) : Ram :=
  let ram := Bus.writeWorkRam (sp - 2) .both (lowWord pc) ram
  let ram := Bus.writeWorkRam (sp - 4) .both (highWord pc) ram
  Bus.writeWorkRam (sp - 6) .both sr ram

/-- The words of an interrupt frame lie at a stack pointer. -/
structure HoldsFrame (ram : Ram) (sp pc : UInt32) (sr : UInt16) : Prop where
  status : ram.word sp = sr
  high : ram.word (sp + 2) = highWord pc
  low : ram.word (sp + 4) = lowWord pc

theorem read_writeWorkRam_both (address : UInt32) (value : UInt16) (ram : Ram) (cell : UInt16) :
    (Bus.writeWorkRam address .both value ram).read cell =
      if address.toUInt16 = cell then highByte value
      else if address.toUInt16 + 1 = cell then lowByte value
      else ram.read cell := by
  simp [Bus.read_writeWorkRam, Lanes.hasHigh, Lanes.hasLow]

theorem sameButBelow_pushFrame (sp pc : UInt32) (sr : UInt16) (ram : Ram) :
    SameButBelow sp 6 ram (pushFrame sp pc sr ram) := by
  intro cell h
  have h1 := h 1 (by decide) (by decide)
  have h2 := h 2 (by decide) (by decide)
  have h3 := h 3 (by decide) (by decide)
  have h4 := h 4 (by decide) (by decide)
  have h5 := h 5 (by decide) (by decide)
  have h6 := h 6 (by decide) (by decide)
  simp only [cellBelow_eq, UInt16.reduceOfNat] at h1 h2 h3 h4 h5 h6
  simp only [pushFrame, read_writeWorkRam_both, UInt32.toUInt16_sub, UInt32.toUInt16_ofNat]
  grind

theorem word_eq_wordOf_of_read {ram : Ram} {address : UInt32} {word : UInt16}
    (high : ram.read address.toUInt16 = highByte word)
    (low : ram.read (address.toUInt16 + 1) = lowByte word) : ram.word address = word := by
  rw [Ram.word, high, low, wordOf_highByte_lowByte]

theorem holdsFrame_pushFrame (sp pc : UInt32) (sr : UInt16) (ram : Ram) :
    HoldsFrame (pushFrame sp pc sr ram) (sp - 6) pc sr := by
  constructor <;> apply word_eq_wordOf_of_read <;>
    simp only [pushFrame, read_writeWorkRam_both, UInt32.toUInt16_sub, UInt32.toUInt16_add,
      UInt32.toUInt16_ofNat]
  all_goals grind

theorem HoldsFrame.congr {ram ram' : Ram} {sp pc : UInt32} {sr : UInt16}
    (h : HoldsFrame ram sp pc sr)
    (same : ∀ i : UInt16, i < 6 → ram'.read (sp.toUInt16 + i) = ram.read (sp.toUInt16 + i)) :
    HoldsFrame ram' sp pc sr := by
  have word (i : UInt32) (hi : i.toUInt16 < 5) : ram'.word (sp + i) = ram.word (sp + i) := by
    have high := same i.toUInt16 (by grind)
    have low := same (i.toUInt16 + 1) (by grind)
    rw [← UInt16.add_assoc] at low
    rw [Ram.word, Ram.word, UInt32.toUInt16_add, high, low]
  have status := word 0 (by decide)
  rw [UInt32.add_zero] at status
  exact ⟨status.trans h.status, (word 2 (by decide)).trans h.high, (word 4 (by decide)).trans h.low⟩

/-- A frame stays when only cells below it change, and not so many that they come around to it. -/
theorem HoldsFrame.of_below {ram ram' : Ram} {sp pc : UInt32} {sr : UInt16} {n : Nat}
    (h : HoldsFrame ram sp pc sr) (room : n + 6 ≤ 65536) (same : SameButBelow sp n ram ram') :
    HoldsFrame ram' sp pc sr := by
  refine h.congr fun i hi => same _ fun j low high => ?_
  have small : i.toNat < 6 := UInt16.lt_iff_toNat_lt.1 hi
  exact add_ne_cellBelow sp low (by omega)

section Programs

variable {ν η : Type} [VideoUnit ν] (host : Host η)

theorem run_pushWord (value : UInt16) (cpu : Cpu) (m : Memory ν) (h : η)
    (hd : Region.decode (cpu.sp - 2) m.cartridge.size = .workRam) :
    (cpu.pushWord value).run (Bus.answer host) (m, h) =
      (cpu.setSp (cpu.sp - 2),
        { m with workRam := Bus.writeWorkRam (cpu.sp - 2) .both value m.workRam }, h) := by
  simp only [pushWord, BusProgram.write, Dialogue.query_bind, Dialogue.run_ask, Bus.answer,
    sp_setSp, Bus.write_workRam host .both value h hd]
  rfl

theorem run_popWord (cpu : Cpu) (m : Memory ν) (h : η)
    (hd : Region.decode cpu.sp m.cartridge.size = .workRam) :
    cpu.popWord.run (Bus.answer host) (m, h) =
      ((m.workRam.word cpu.sp, cpu.setSp (cpu.sp + 2)), m, h) := by
  simp only [popWord, BusProgram.read, Dialogue.query_bind, Dialogue.run_ask, Bus.answer,
    Bus.read_workRam host .both h hd, Lanes.and_mask_both]
  rfl

theorem run_pushFrame (pc : UInt32) (sr : UInt16) (cpu : Cpu) (m : Memory ν) (h : η)
    (h2 : Region.decode (cpu.sp - 2) m.cartridge.size = .workRam)
    (h4 : Region.decode (cpu.sp - 4) m.cartridge.size = .workRam)
    (h6 : Region.decode (cpu.sp - 6) m.cartridge.size = .workRam) :
    (do let cpu ← cpu.pushLong pc
        cpu.pushWord sr).run (Bus.answer host) (m, h) =
      (cpu.setSp (cpu.sp - 6), { m with workRam := pushFrame cpu.sp pc sr m.workRam }, h) := by
  have four : cpu.sp - 2 - 2 = cpu.sp - 4 := by grind
  have six : cpu.sp - 4 - 2 = cpu.sp - 6 := by grind
  have first := run_pushWord host (lowWord pc) cpu m h h2
  have second := run_pushWord host (highWord pc) (cpu.setSp (cpu.sp - 2))
    { m with workRam := Bus.writeWorkRam (cpu.sp - 2) .both (lowWord pc) m.workRam } h
    (by simpa only [sp_setSp, four] using h4)
  simp only [sp_setSp, setSp_setSp, four] at second
  have third := run_pushWord host sr (cpu.setSp (cpu.sp - 4))
    { m with
      workRam := Bus.writeWorkRam (cpu.sp - 4) .both (highWord pc)
        (Bus.writeWorkRam (cpu.sp - 2) .both (lowWord pc) m.workRam) } h
    (by simpa only [sp_setSp, six] using h6)
  simp only [sp_setSp, setSp_setSp, six] at third
  simp only [pushLong, Dialogue.run_bind, first, second, third, pushFrame]

def unwound (cpu : Cpu) (pc : UInt32) (sr : UInt16) : Cpu :=
  { (cpu.setSp (cpu.sp + 6)).setSr sr with pc := pc }

theorem unwound_with (cpu : Cpu) (pc start : UInt32) (sr : UInt16) (stopped : Bool)
    (countdown : UInt32) (clock : UInt64) :
    ({ cpu with pc := start, stopped, countdown, clock } : Cpu).unwound pc sr =
      { cpu.unwound pc sr with stopped, countdown, clock } := by
  have moved := setSr_with (cpu.setSp (cpu.sp + 6)) sr start stopped countdown clock
  exact congrArg (fun c : Cpu => ({ c with pc := pc } : Cpu)) moved

theorem unwound_with_pc (cpu : Cpu) (pc start : UInt32) (sr : UInt16) :
    ({ cpu with pc := start } : Cpu).unwound pc sr = cpu.unwound pc sr :=
  (unwound_with cpu pc start sr cpu.stopped cpu.countdown cpu.clock).trans
    (unwound_with cpu pc cpu.pc sr cpu.stopped cpu.countdown cpu.clock).symm

theorem run_perform_return (start : UInt32) (cpu : Cpu) {m : Memory ν} {pc : UInt32} {sr : UInt16}
    (h : η) (frame : HoldsFrame m.workRam cpu.sp pc sr)
    (h0 : Region.decode cpu.sp m.cartridge.size = .workRam)
    (h2 : Region.decode (cpu.sp + 2) m.cartridge.size = .workRam)
    (h4 : Region.decode (cpu.sp + 4) m.cartridge.size = .workRam) :
    (cpu.perform start .returnFromException).run (Bus.answer host) (m, h) =
      (cpu.unwound pc sr, m, h) := by
  have four : cpu.sp + 2 + 2 = cpu.sp + 4 := by grind
  have six : cpu.sp + 4 + 2 = cpu.sp + 6 := by grind
  have first := run_popWord host cpu m h h0
  have second := run_popWord host (cpu.setSp (cpu.sp + 2)) m h (by simpa only [sp_setSp] using h2)
  simp only [sp_setSp, setSp_setSp, four] at second
  have third := run_popWord host (cpu.setSp (cpu.sp + 4)) m h (by simpa only [sp_setSp] using h4)
  simp only [sp_setSp, setSp_setSp, six] at third
  simp only [perform, popLong, Dialogue.run_bind, first, second, third, frame.status, frame.high,
    frame.low]
  simp [unwound]

end Programs

end Cpu
end Genesis
