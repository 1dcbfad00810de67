import Genesis.Proofs.Guarded.Basic
import Genesis.Vdp.Raster

/-!
# The video processor under guard

Every cell of the three memories, of the register file and of the line buffer is reached by an index
that is worked out as a number and checked. No operation of the video processor ever fails a check;
rendering needs a line number that can be counted on by one.
-/

namespace Genesis
namespace Guarded

open Genesis.Vdp (Transfer writeStore? readStore? isRegisterWrite registerIndex screenHeight)

section Ports

def register (v : Vdp) (i : Nat) : Guarded UInt8 := peek v.registers i

def advance (v : Vdp) : Guarded Vdp := do
  let increment ← register v 15
  return { v with address := v.address + increment.toUInt16 }

def store (value : UInt16) (v : Vdp) : Guarded Vdp := do
  let address := v.address.toNat
  match writeStore? v.code with
  | some .vram =>
    let vram ← poke v.vram address (highByte value)
    let vram ← poke vram (address ^^^ 1) (lowByte value)
    advance { v with vram }
  | some .cram =>
    let cram ← poke v.cram ((address >>> 1) &&& 0x3F) (value &&& 0x0EEE)
    advance { v with cram }
  | some .vsram => advance { v with vsram := v.vsram.put? (address >>> 1) (value &&& 0x07FF) }
  | none => advance v

def load (v : Vdp) : Guarded UInt16 := do
  let address := v.address.toNat
  match readStore? v.code with
  | some .vram =>
    let even := address &&& 0xFFFE
    return wordOf (← peek v.vram even) (← peek v.vram (even ||| 1))
  | some .cram => peek v.cram ((address >>> 1) &&& 0x3F)
  | some .vsram => return (v.vsram.get? (address >>> 1)).getD 0
  | none => return 0

def readData (v : Vdp) : Guarded (Reported (UInt16 × Vdp)) := do
  let value ← load v
  let next ← advance { v with latched := false }
  return ⟨(value, next), v.loadNotices⟩

def transferLength (v : Vdp) : Guarded Nat := do
  let high ← register v 20
  let low ← register v 19
  match (wordOf high low).toNat with
  | 0 => return 0x10000
  | length => return length

def repeatByte (x : UInt8) : Nat → Vdp → Guarded Vdp
  | 0, v => return v
  | n + 1, v => do
    let vram ← poke v.vram v.address.toNat x
    let v ← advance { v with vram }
    repeatByte x n v

def fill (value : UInt16) (v : Vdp) : Guarded Vdp := do
  let v ← store value { v with fillArmed := false }
  let length ← transferLength v
  repeatByte (highByte value) length v

def writeData (value : UInt16) (v : Vdp) : Guarded (Reported Vdp) := do
  let v := { v with latched := false }
  let next ← if v.fillArmed then fill value v else store value v
  return ⟨next, v.storeNotices⟩

def copyBytes : Nat → UInt16 → Vdp → Guarded Vdp
  | 0, _, v => return v
  | n + 1, source, v => do
    let x ← peek v.vram source.toNat
    let vram ← poke v.vram v.address.toNat x
    let v ← advance { v with vram }
    copyBytes n (source + 1) v

variable (value : UInt16) (v : Vdp)

theorem register_eq (i : Nat) (j : Fin 24) (same : i = j.val) :
    register v i = .ok (v.registers.get j) :=
  peek_of_eq v.registers j same

@[simp] theorem advance_eq : advance v = .ok v.advance := by
  rw [advance, register_eq v 15 15 rfl]
  rfl

theorem xor_one_toNat (a : UInt16) : a.toNat ^^^ 1 = (a ^^^ 1).toNat := (UInt16.toNat_xor a 1).symm

theorem half_and_63 (a : Nat) : (a >>> 1) &&& 0x3F = a / 2 % 64 := by
  rw [Nat.shiftRight_eq_div_pow]
  exact Nat.and_two_pow_sub_one_eq_mod (a / 2) 6

@[simp] theorem store_eq : store value v = .ok (v.store value) := by
  unfold store Genesis.Vdp.store
  cases writeStore? v.code with
  | none => exact advance_eq v
  | some memory =>
    cases memory with
    | vram =>
      simp only [poke_ram v.vram v.address rfl, ok_bind,
        poke_ram _ (v.address ^^^ 1) (xor_one_toNat v.address), advance_eq]
    | cram =>
      simp only [poke_of_eq v.cram (Genesis.Vdp.cramIndex v.address) (half_and_63 v.address.toNat),
        ok_bind, advance_eq]
    | vsram =>
      simp only [advance_eq, Genesis.Vdp.vsramIndex, Nat.shiftRight_eq_div_pow, Nat.pow_one]

theorem and_even_toNat (a : UInt16) : a.toNat &&& 0xFFFE = (a &&& 0xFFFE).toNat :=
  (UInt16.toNat_and a 0xFFFE).symm

theorem and_even_or_one_toNat (a : UInt16) : a.toNat &&& 0xFFFE ||| 1 = (a ||| 1).toNat := by
  have ones : (0xFFFE ||| 1 : Nat) = 2 ^ 16 - 1 := rfl
  rw [Nat.or_and_distrib_right, ones, Nat.and_two_pow_sub_one_eq_mod]
  exact Nat.mod_eq_of_lt (a ||| 1).toNat_lt

@[simp] theorem load_eq : load v = .ok v.load := by
  unfold load Genesis.Vdp.load
  cases readStore? v.code with
  | none => rfl
  | some memory =>
    cases memory with
    | vram =>
      simp only [peek_ram v.vram _ (and_even_toNat v.address), ok_bind,
        peek_ram v.vram _ (and_even_or_one_toNat v.address), pure_eq_ok]
    | cram => exact peek_of_eq v.cram (Genesis.Vdp.cramIndex v.address) (half_and_63 _)
    | vsram =>
      simp only [pure_eq_ok, Genesis.Vdp.vsramIndex, Nat.shiftRight_eq_div_pow, Nat.pow_one]

@[simp] theorem readData_eq : readData v = .ok v.readData := by
  simp only [readData, load_eq, ok_bind, advance_eq]
  rfl

@[simp] theorem transferLength_eq : transferLength v = .ok v.transferLength := by
  simp only [transferLength, register_eq v 20 20 rfl, register_eq v 19 19 rfl, ok_bind,
    Genesis.Vdp.transferLength]
  cases (wordOf (v.registers.get 20) (v.registers.get 19)).toNat <;> rfl

@[simp] theorem repeatByte_eq (x : UInt8) (n : Nat) :
    repeatByte x n v = .ok (v.repeatByte x n) := by
  induction n generalizing v with
  | zero => rfl
  | succ n ih =>
    simp only [repeatByte, poke_ram v.vram v.address rfl, ok_bind, advance_eq, ih]
    rfl

@[simp] theorem fill_eq : fill value v = .ok (v.fill value) := by
  simp only [fill, store_eq, ok_bind, transferLength_eq, repeatByte_eq]
  rfl

@[simp] theorem writeData_eq : writeData value v = .ok (v.writeData value) := by
  simp only [writeData, fill_eq, store_eq]
  split
  · rename_i armed
    simp [Genesis.Vdp.writeData, armed]
  · rename_i idle
    simp [Genesis.Vdp.writeData, idle]

@[simp] theorem copyBytes_eq (n : Nat) (source : UInt16) :
    copyBytes n source v = .ok (v.copyBytes n source) := by
  induction n generalizing source v with
  | zero => rfl
  | succ n ih =>
    simp only [copyBytes, peek_ram v.vram source rfl, ok_bind, poke_ram v.vram v.address rfl,
      advance_eq, ih]
    rfl

end Ports

section Commands

open VideoProgram (fetch note)

def transferWords : Nat → UInt32 → Vdp → Program VideoRequest VideoRequest.Answer Vdp
  | 0, _, v => return v
  | n + 1, source, v => do
    let word ← fetch source
    if (writeStore? v.code).isNone then note (.storeWithReadCode (v.code &&& 0x0F))
    let v ← store word v
    transferWords n ((source + 2) &&& 0xFFFFFF) v

def transferKind (v : Vdp) : Guarded Transfer := do
  let mode ← register v 23
  if mode < 0x80 then return .bus
  else if mode < 0xC0 then return .fill
  else return .copy

def busSource (v : Vdp) : Guarded UInt32 := do
  let high ← register v 23
  let middle ← register v 22
  let low ← register v 21
  return (high &&& 0x7F).toUInt32 <<< 17 ||| middle.toUInt32 <<< 9 ||| low.toUInt32 <<< 1

def copySource (v : Vdp) : Guarded UInt16 := do return wordOf (← register v 22) (← register v 21)

def startTransfer (v : Vdp) : Program VideoRequest VideoRequest.Answer Vdp := do
  let length ← transferLength v
  match ← transferKind v with
  | .bus =>
    let source ← busSource v
    note (.transferStart source v.address length v.code)
    transferWords length source v
  | .fill => return { v with fillArmed := true }
  | .copy =>
    let source ← copySource v
    copyBytes length source v

def wantsTransfer (v : Vdp) : Guarded Bool :=
  if v.code &&& 0x20 != 0 then do return (← register v 1) &&& 0x10 != 0
  else return false

def writeControl (value : UInt16) (v : Vdp) : Program VideoRequest VideoRequest.Answer Vdp :=
  if v.latched then do
    let v := v.latchSecond value
    if ← wantsTransfer v then startTransfer v else return v
  else if isRegisterWrite value then
    if registerIndex value < 24 then
      return { v with registers := v.registers.put? (registerIndex value) (lowByte value) }
    else do
      note (.missingRegister (registerIndex value) (lowByte value))
      return v
  else return v.latchFirst value

variable (v : Vdp)

theorem transferWords_eq (n : Nat) (source : UInt32) :
    transferWords n source v = liftM (v.transferWords n source) := by
  induction n generalizing source v with
  | zero => rfl
  | succ n ih =>
    simp only [transferWords, Genesis.Vdp.transferWords, liftM_bind, store_eq, ih]
    refine bind_congr fun word => ?_
    cases (writeStore? v.code).isNone with
    | true => simp
    | false => simp

@[simp] theorem transferKind_eq : transferKind v = .ok v.transferKind := by
  simp only [transferKind, register_eq v 23 23 rfl, ok_bind, Genesis.Vdp.transferKind]
  split
  · rfl
  · split <;> rfl

@[simp] theorem busSource_eq : busSource v = .ok v.busSource := by
  simp only [busSource, register_eq v 23 23 rfl, register_eq v 22 22 rfl, register_eq v 21 21 rfl]
  rfl

@[simp] theorem copySource_eq : copySource v = .ok v.copySource := by
  simp only [copySource, register_eq v 22 22 rfl, register_eq v 21 21 rfl]
  rfl

theorem startTransfer_eq : startTransfer v = liftM v.startTransfer := by
  simp only [startTransfer, transferLength_eq, transferKind_eq, liftM_ok, pure_bind,
    Genesis.Vdp.startTransfer]
  cases v.transferKind with
  | bus => simp only [busSource_eq, liftM_ok, pure_bind, transferWords_eq, liftM_bind]
  | fill => rfl
  | copy => simp only [copySource_eq, copyBytes_eq, liftM_ok, pure_bind, liftM_pure]

@[simp] theorem wantsTransfer_eq : wantsTransfer v = .ok v.wantsTransfer := by
  simp only [wantsTransfer, register_eq v 1 1 rfl, ok_bind, Genesis.Vdp.wantsTransfer,
    Genesis.Vdp.transferEnabled]
  cases v.code &&& 0x20 != 0 <;> rfl

theorem writeControl_eq (value : UInt16) : writeControl value v = liftM (v.writeControl value) := by
  simp only [writeControl, Genesis.Vdp.writeControl, wantsTransfer_eq, liftM_ok, pure_bind,
    startTransfer_eq]
  split
  · split <;> rfl
  · split
    · split
      · rfl
      · simp only [liftM_bind, liftM_pure]
    · rfl

end Commands

section Raster

def lineWidth (v : Vdp) : Guarded UInt16 := do
  let mode ← register v 12
  return if mode &&& 0x01 != 0 then 320 else 256

def channel (bits : UInt16) : Guarded UInt32 := do
  let scaled ← mul ((bits &&& 0x0E).toUInt32 >>> 1) 255
  div scaled 7

def pixelOf (colour : UInt16) : Guarded UInt32 := do
  let red ← channel colour
  let green ← channel (colour >>> 4)
  let blue ← channel (colour >>> 8)
  return (0xFF000000 : UInt32) ||| red <<< 16 ||| green <<< 8 ||| blue

def backdrop (v : Vdp) : Guarded UInt32 := do
  let mode ← register v 1
  if mode &&& 0x40 != 0 then
    let entry ← register v 7
    let colour ← peek v.cram (entry &&& 0x3F).toNat
    pixelOf colour
  else return 0xFF000000

def lineBuffer : Nat := 320

def scanline (line : UInt16) (v : Vdp) : Guarded Scanline := do
  let width ← lineWidth v
  let colour ← backdrop v
  range width.toNat lineBuffer
  return {
    line := line
    pixels := Array.replicate width.toNat colour
    width := width
    height := screenHeight }

def afterLine (line : UInt16) (v : Vdp) : Guarded Vdp := do
  let next ← add16 line 1
  if next = screenHeight then return { v with inBlank := true, framePending := true }
  else return { v with inBlank := false }

def lineInterruptEnabled (v : Vdp) : Guarded Bool := do return (← register v 0) &&& 0x10 != 0

def frameInterruptEnabled (v : Vdp) : Guarded Bool := do return (← register v 1) &&& 0x20 != 0

variable (v : Vdp) (line : UInt16)

@[simp] theorem lineWidth_eq : lineWidth v = .ok v.lineWidth := by
  rw [lineWidth, register_eq v 12 12 rfl]
  rfl

@[simp] theorem channel_eq (bits : UInt16) : channel bits = .ok (Genesis.Vdp.channel bits) := by
  have fits : ((bits &&& 0x0E).toUInt32 >>> 1).toNat * (255 : UInt32).toNat < 4294967296 := by
    have masked : (bits &&& 0x0E).toNat ≤ 0x0E := by
      rw [UInt16.toNat_and]
      exact Nat.and_le_right
    have shifted : ((bits &&& 0x0E).toUInt32 >>> 1).toNat ≤ 7 := by
      rw [UInt32.toNat_shiftRight, UInt16.toNat_toUInt32, Nat.shiftRight_eq_div_pow]
      exact Nat.div_le_div_right masked
    calc ((bits &&& 0x0E).toUInt32 >>> 1).toNat * (255 : UInt32).toNat
        ≤ 7 * 255 := Nat.mul_le_mul_right 255 shifted
      _ < 4294967296 := by decide
  rw [channel, mul_of_lt fits, ok_bind, div_of_ne (by decide)]
  rfl

@[simp] theorem pixelOf_eq (colour : UInt16) :
    pixelOf colour = .ok (Genesis.Vdp.pixelOf colour) := by
  simp only [pixelOf, channel_eq, ok_bind]
  rfl

theorem and_63_toNat (x : UInt8) : (x &&& 0x3F).toNat = x.toNat % 64 := by
  rw [UInt8.toNat_and]
  exact Nat.and_two_pow_sub_one_eq_mod x.toNat 6

@[simp] theorem backdrop_eq : backdrop v = .ok v.backdrop := by
  simp only [backdrop, register_eq v 1 1 rfl, register_eq v 7 7 rfl, ok_bind,
    peek_of_eq v.cram v.backdropEntry (and_63_toNat (v.registers.get 7)), pixelOf_eq]
  exact (apply_ite _ _ _ _).symm

theorem lineWidth_le : v.lineWidth.toNat ≤ lineBuffer := by
  unfold Genesis.Vdp.lineWidth
  split <;> decide

@[simp] theorem scanline_eq : scanline line v = .ok (v.scanline line) := by
  simp only [scanline, lineWidth_eq, backdrop_eq, ok_bind, range_of_le (lineWidth_le v)]
  rfl

theorem afterLine_eq (h : line.toNat + 1 < 65536) : afterLine line v = .ok (v.afterLine line) := by
  rw [afterLine, add16_of_lt h, ok_bind]
  exact (apply_ite _ _ _ _).symm

@[simp] theorem lineInterruptEnabled_eq :
    lineInterruptEnabled v = .ok v.lineInterruptEnabled := by
  rw [lineInterruptEnabled, register_eq v 0 0 rfl]
  rfl

@[simp] theorem frameInterruptEnabled_eq :
    frameInterruptEnabled v = .ok v.frameInterruptEnabled := by
  rw [frameInterruptEnabled, register_eq v 1 1 rfl]
  rfl

end Raster

end Guarded
end Genesis
