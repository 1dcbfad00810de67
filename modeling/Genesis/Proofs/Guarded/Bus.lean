import Genesis.Proofs.Bus.Access
import Genesis.Proofs.Guarded.Vdp

/-!
# The bus under guard

An address is taken apart with checked arithmetic, and every byte, cell and port that an access
selects is worked out as a number and checked. The 24 bits that the bus carries keep all of these
numbers in range, so no access ever fails a check (`answer_eq`, `fetch_eq`).
-/

namespace Genesis
namespace Guarded

open Genesis.Bus (reduce onLane ofLane)

section Decoding

def offsetFrom (a base : UInt32) (n : Nat) : Guarded (Fin n) := do
  let offset ← sub a base
  index offset.toNat n

def portFrom (a base : UInt32) : Guarded (Fin 3) := do
  let offset ← sub a base
  let port ← div offset 2
  index port.toNat 3

/-- The region of a 24-bit address outside the cartridge. Only the places that are numbered from a
base need any arithmetic. -/
def fixed (a : UInt32) : Guarded Region :=
  if 0xA00000 ≤ a.toNat ∧ a.toNat < 0xA02000 then do
    return .z80Ram (← offsetFrom a 0xA00000 0x2000)
  else if a.toNat = 0xA10002 ∨ a.toNat = 0xA10004 ∨ a.toNat = 0xA10006 then do
    return .padData (← portFrom a 0xA10002)
  else if a.toNat = 0xA10008 ∨ a.toNat = 0xA1000A ∨ a.toNat = 0xA1000C then do
    return .padControl (← portFrom a 0xA10008)
  else return Region.fixed a.toNat

def decode (address : UInt32) (mapped : Nat) : Guarded Region :=
  let a := reduce address
  if a.toNat < mapped then return .cartridge else fixed a

theorem offsetFrom_eq {a base : UInt32} {n : Nat} (j : Fin n)
    (place : a.toNat = base.toNat + j.val) : offsetFrom a base n = .ok j := by
  have above : base.toNat ≤ a.toNat := by omega
  have offset : (a - base).toNat = j.val := by
    rw [UInt32.toNat_sub_of_le a base (UInt32.le_iff_toNat_le.2 above)]
    omega
  rw [offsetFrom, sub_of_le above, ok_bind, index_of_eq j offset]

theorem portFrom_eq {a base : UInt32} (port : Fin 3)
    (place : a.toNat = base.toNat + 2 * port.val) : portFrom a base = .ok port := by
  have above : base.toNat ≤ a.toNat := by omega
  have offset : (a - base).toNat = 2 * port.val := by
    rw [UInt32.toNat_sub_of_le a base (UInt32.le_iff_toNat_le.2 above)]
    omega
  have number : ((a - base) / 2).toNat = port.val := by
    rw [UInt32.toNat_div, offset]
    exact Nat.mul_div_cancel_left port.val (by decide)
  rw [portFrom, sub_of_le above, ok_bind, div_of_ne (by decide), ok_bind, index_of_eq port number]

@[simp] theorem fixed_eq (a : UInt32) : fixed a = .ok (Region.fixed a.toNat) := by
  unfold fixed
  split
  · rename_i inside
    have place : a.toNat = (0xA00000 : UInt32).toNat + (a.toNat - 0xA00000) :=
      (Nat.add_sub_of_le inside.1).symm
    rw [offsetFrom_eq ⟨a.toNat - 0xA00000, by omega⟩ place, Region.fixed, dif_pos inside]
    rfl
  · split
    · rename_i register
      rcases register with first | second | third
      · rw [portFrom_eq 0 first, first]
        rfl
      · rw [portFrom_eq 1 second, second]
        rfl
      · rw [portFrom_eq 2 third, third]
        rfl
    · split
      · rename_i register
        rcases register with first | second | third
        · rw [portFrom_eq 0 first, first]
          rfl
        · rw [portFrom_eq 1 second, second]
          rfl
        · rw [portFrom_eq 2 third, third]
          rfl
      · rfl

@[simp] theorem decode_eq (address : UInt32) (mapped : Nat) :
    decode address mapped = .ok (Region.decode address mapped) := by
  simp only [decode, fixed_eq, Genesis.Bus.toNat_reduce, Region.decode]
  exact (apply_ite _ _ _ _).symm

end Decoding

section Cells

def z80Cell? (offset : Fin 0x2000) : Lanes → Guarded (Option (Fin 0x2000))
  | .high => do return some (← index (offset.val &&& 0x1FFF) 0x2000)
  | .low => do
    let next ← count (offset.val + 1)
    return some (← index (next &&& 0x1FFF) 0x2000)
  | .both => return none

/-- A word of the cartridge. A byte beyond the buffer reads as zero, so only counting to the next
byte is checked. -/
def cartridgeWord (c : Cartridge) (offset : Nat) : Guarded UInt16 := do
  let next ← count (offset + 1)
  return wordOf (c.byte offset) (c.byte next)

def ramWord (ram : Ram) (address : UInt32) : Guarded UInt16 := do
  let high ← peek ram (address.toNat &&& 0xFFFF)
  let low ← peek ram ((address + 1).toNat &&& 0xFFFF)
  return wordOf high low

def writeWorkRam (address : UInt32) (lanes : Lanes) (value : UInt16) (ram : Ram) : Guarded Ram := do
  let ram ← if lanes.hasHigh then poke ram (address.toNat &&& 0xFFFF) (highByte value) else pure ram
  if lanes.hasLow then
    let next ← count (address.toNat + 1)
    poke ram (next &&& 0xFFFF) (lowByte value)
  else return ram

@[simp] theorem z80Cell?_eq (offset : Fin 0x2000) (lanes : Lanes) :
    z80Cell? offset lanes = .ok (Genesis.Bus.z80Cell? offset lanes) := by
  have masked (n : Nat) : n &&& 0x1FFF = n % 0x2000 := Nat.and_two_pow_sub_one_eq_mod n 13
  cases lanes with
  | high =>
    have same : offset.val &&& 0x1FFF = offset.val :=
      (masked offset.val).trans (Nat.mod_eq_of_lt offset.isLt)
    rw [z80Cell?, index_of_eq offset same]
    rfl
  | low =>
    have fits : offset.val + 1 < 4294967296 := by omega
    rw [z80Cell?, count_of_lt fits, ok_bind, index_of_eq (offset + 1) (masked (offset.val + 1))]
    rfl
  | both => rfl

theorem cartridgeWord_eq (c : Cartridge) {offset : Nat} (h : offset + 1 < 4294967296) :
    cartridgeWord c offset = .ok (c.word offset) := by
  rw [cartridgeWord, count_of_lt h]
  rfl

theorem and_ones_toNat (address : UInt32) : address.toNat &&& 0xFFFF = address.toUInt16.toNat :=
  Nat.and_two_pow_sub_one_eq_mod address.toNat 16

theorem add_one_and_ones (address : UInt32) :
    (address.toNat + 1) &&& 0xFFFF = (address.toUInt16 + 1).toNat := by
  have masked : (address.toNat + 1) &&& 0xFFFF = (address.toNat + 1) % 2 ^ 16 :=
    Nat.and_two_pow_sub_one_eq_mod (address.toNat + 1) 16
  rw [masked, UInt16.toNat_add, UInt32.toNat_toUInt16]
  exact (Nat.mod_add_mod address.toNat (2 ^ 16) 1).symm

@[simp] theorem ramWord_eq (ram : Ram) (address : UInt32) :
    ramWord ram address = .ok (ram.word address) := by
  have next : (address + 1).toNat &&& 0xFFFF = (address.toUInt16 + 1).toNat := by
    rw [and_ones_toNat, UInt32.toUInt16_add]
    rfl
  simp only [ramWord, peek_ram ram _ (and_ones_toNat address), peek_ram ram _ next, ok_bind]
  rfl

theorem writeWorkRam_eq {address : UInt32} (h : address.toNat + 1 < 4294967296) (lanes : Lanes)
    (value : UInt16) (ram : Ram) :
    writeWorkRam address lanes value ram =
      .ok (Genesis.Bus.writeWorkRam address lanes value ram) := by
  simp only [writeWorkRam, count_of_lt h, ok_bind, poke_ram _ _ (and_ones_toNat address),
    poke_ram _ _ (add_one_and_ones address), Genesis.Bus.writeWorkRam]
  cases lanes <;> rfl

end Cells

section Access

variable {η : Type} (host : Host η)

def fetch (cartridge : Cartridge) (workRam : Ram) (address : UInt32) (h : η) :
    Guarded (UInt16 × η) := do
  let address := reduce address
  if cartridge.contains address then return (← cartridgeWord cartridge address.toNat, h)
  else if 0xE00000 ≤ address then return (← ramWord workRam address, h)
  else return (0, host.notice (.unmappedFetch address) h)

def answerVideo (cartridge : Cartridge) (workRam : Ram) :
    (q : VideoRequest) → η → Guarded (q.Answer × η)
  | .fetch address, h => fetch host cartridge workRam address h
  | .note n, h => return ((), host.notice n h)

def readPad (pads : Bank Pad 3) (port : Fin 3) (lanes : Lanes) (h : η) : Guarded (UInt16 × η) := do
  if port = Region.firstPort then
    if lanes.hasLow then
      let pad ← peek pads 0
      let (r, h) := pad.read host.pressed h
      return (r.value.toUInt16, host.report r.notices h)
    else return (0, h)
  else return (0x00FF, h)

def readWord (address : UInt32) (lanes : Lanes) (m : Memory Vdp) (h : η) :
    Guarded (UInt16 × Memory Vdp × η) := do
  match ← decode address m.cartridge.size with
  | .cartridge => return (← cartridgeWord m.cartridge address.toNat, m, h)
  | .z80Ram offset =>
    match ← z80Cell? offset lanes with
    | some cell => return (onLane lanes (← peek m.z80Ram cell.val), m, h)
    | none => return (0, m, host.notice (.z80WordRead address) h)
  | .padData port =>
    let (value, h) ← readPad host m.pads port lanes h
    return (value, m, h)
  | .padControl port =>
    let pad ← peek m.pads port.val
    return (if lanes.hasLow then pad.control.toUInt16 else 0, m, h)
  | .videoData =>
    let ⟨(value, video), notices⟩ ← readData m.video
    return (value, { m with video }, host.report notices h)
  | .videoControl =>
    let ⟨(value, video), notices⟩ := m.video.readStatus
    return (value, { m with video }, host.report notices h)
  | .workRam => return (← ramWord m.workRam address, m, h)
  | .invalid => return (0, m, host.notice (.unmappedRead address) h)
  | .soundChip | .ioUnused | .memoryMode | .z80BusRequest | .z80Reset | .rasterCounter
  | .toneGenerator => return (0, m, h)

def read (address : UInt32) (lanes : Lanes) (m : Memory Vdp) (h : η) :
    Guarded (UInt16 × Memory Vdp × η) := do
  let (value, m, h) ← readWord host (reduce address) lanes m h
  return (value &&& lanes.mask, m, h)

def writeWord (address : UInt32) (lanes : Lanes) (value : UInt16) (m : Memory Vdp) (h : η) :
    Guarded (Memory Vdp × η) := do
  match ← decode address m.cartridge.size with
  | .cartridge => return (m, host.notice (.cartridgeWrite address) h)
  | .z80Ram offset =>
    match ← z80Cell? offset lanes with
    | some cell =>
      let z80Ram ← poke m.z80Ram cell.val (ofLane lanes value)
      return ({ m with z80Ram }, h)
    | none => return (m, host.notice (.z80WordWrite address) h)
  | .padData port =>
    if lanes.hasLow then
      let pad ← peek m.pads port.val
      let pads ← poke m.pads port.val (pad.writeData (lowByte value))
      return ({ m with pads }, h)
    else return (m, h)
  | .padControl port =>
    if lanes.hasLow then
      let pad ← peek m.pads port.val
      let pads ← poke m.pads port.val (pad.writeControl (lowByte value))
      return ({ m with pads }, h)
    else return (m, h)
  | .videoData =>
    let ⟨video, notices⟩ ← writeData value m.video
    return ({ m with video }, host.report notices h)
  | .videoControl =>
    let (video, h) ← run (answerVideo host m.cartridge m.workRam) (writeControl value m.video) h
    return ({ m with video }, h)
  | .workRam =>
    let workRam ← writeWorkRam address lanes value m.workRam
    return ({ m with workRam }, h)
  | .invalid => return (m, host.notice (.unmappedWrite address) h)
  | .soundChip | .ioUnused | .memoryMode | .z80BusRequest | .z80Reset | .rasterCounter
  | .toneGenerator => return (m, h)

def write (address : UInt32) (lanes : Lanes) (value : UInt16) (m : Memory Vdp) (h : η) :
    Guarded (Memory Vdp × η) :=
  writeWord host (reduce address) lanes value m h

def answer : (q : BusRequest) → Memory Vdp × η → Guarded (q.Answer × (Memory Vdp × η))
  | .read address lanes, (m, h) => read host address lanes m h
  | .write address lanes value, (m, h) => do return ((), ← write host address lanes value m h)
  | .note n, (m, h) => return ((), m, host.notice n h)

theorem reduce_succ_lt (address : UInt32) : (reduce address).toNat + 1 < 4294967296 := by
  rw [Genesis.Bus.toNat_reduce]
  omega

@[simp] theorem fetch_eq (cartridge : Cartridge) (workRam : Ram) (address : UInt32) (h : η) :
    fetch host cartridge workRam address h =
      .ok (Genesis.Bus.fetch host cartridge workRam address h) := by
  simp only [fetch, cartridgeWord_eq cartridge (reduce_succ_lt address), ramWord_eq, ok_bind,
    Genesis.Bus.fetch, Genesis.Bus.fetch?]
  split
  · rfl
  · split <;> rfl

theorem answerVideo_eq (cartridge : Cartridge) (workRam : Ram) (q : VideoRequest) (h : η) :
    answerVideo host cartridge workRam q h =
      .ok (Genesis.Bus.answerVideo host cartridge workRam q h) := by
  cases q with
  | fetch address => exact fetch_eq host cartridge workRam address h
  | note n => rfl

@[simp] theorem readPad_eq (pads : Bank Pad 3) (port : Fin 3) (lanes : Lanes) (h : η) :
    readPad host pads port lanes h = .ok (Genesis.Bus.readPad host pads port lanes h) := by
  unfold readPad Genesis.Bus.readPad
  split
  · rename_i first
    subst first
    split
    · have first : peek pads 0 = .ok (pads.get Region.firstPort) := peek_of_eq pads _ rfl
      rw [first]
      rfl
    · rfl
  · rfl

theorem readWord_eq {address : UInt32} (h24 : address.toNat + 1 < 4294967296) (lanes : Lanes)
    (m : Memory Vdp) (h : η) :
    readWord host address lanes m h = .ok (Genesis.Bus.readWord host address lanes m h) := by
  unfold readWord Genesis.Bus.readWord
  rw [decode_eq, ok_bind]
  cases Region.decode address m.cartridge.size with
  | cartridge =>
    dsimp only
    rw [cartridgeWord_eq m.cartridge h24]
    rfl
  | z80Ram offset =>
    dsimp only
    rw [z80Cell?_eq, ok_bind]
    cases Genesis.Bus.z80Cell? offset lanes with
    | none => rfl
    | some cell =>
      dsimp only
      rw [peek_of_eq m.z80Ram cell rfl]
      rfl
  | padData port =>
    dsimp only
    rw [readPad_eq]
    rfl
  | padControl port =>
    dsimp only
    rw [peek_of_eq m.pads port rfl]
    rfl
  | videoData =>
    dsimp only
    rw [readData_eq]
    rfl
  | workRam =>
    dsimp only
    rw [ramWord_eq]
    rfl
  | _ => rfl

@[simp] theorem read_eq (address : UInt32) (lanes : Lanes) (m : Memory Vdp) (h : η) :
    read host address lanes m h = .ok (Genesis.Bus.read host address lanes m h) := by
  rw [read, readWord_eq host (reduce_succ_lt address)]
  rfl

theorem writeWord_eq {address : UInt32} (h24 : address.toNat + 1 < 4294967296) (lanes : Lanes)
    (value : UInt16) (m : Memory Vdp) (h : η) :
    writeWord host address lanes value m h =
      .ok (Genesis.Bus.writeWord host address lanes value m h) := by
  unfold writeWord Genesis.Bus.writeWord
  rw [decode_eq, ok_bind]
  cases Region.decode address m.cartridge.size with
  | z80Ram offset =>
    dsimp only
    rw [z80Cell?_eq, ok_bind]
    cases Genesis.Bus.z80Cell? offset lanes with
    | none => rfl
    | some cell =>
      dsimp only
      rw [poke_of_eq m.z80Ram cell rfl]
      rfl
  | padData port =>
    dsimp only
    rw [peek_of_eq m.pads port rfl, ok_bind, poke_of_eq m.pads port rfl]
    cases lanes <;> rfl
  | padControl port =>
    dsimp only
    rw [peek_of_eq m.pads port rfl, ok_bind, poke_of_eq m.pads port rfl]
    cases lanes <;> rfl
  | videoData =>
    dsimp only
    rw [writeData_eq]
    rfl
  | videoControl =>
    dsimp only
    rw [writeControl_eq, run_liftM (answerVideo_eq host m.cartridge m.workRam)]
    rfl
  | workRam =>
    dsimp only
    rw [writeWorkRam_eq h24]
    rfl
  | _ => rfl

@[simp] theorem write_eq (address : UInt32) (lanes : Lanes) (value : UInt16) (m : Memory Vdp)
    (h : η) :
    write host address lanes value m h = .ok (Genesis.Bus.write host address lanes value m h) :=
  writeWord_eq host (reduce_succ_lt address) lanes value m h

theorem answer_eq (q : BusRequest) (s : Memory Vdp × η) :
    answer host q s = .ok (Genesis.Bus.answer host q s) := by
  cases q with
  | read address lanes => exact read_eq host address lanes s.1 s.2
  | write address lanes value =>
    rw [answer, write_eq]
    rfl
  | note n => rfl

end Access

end Guarded
end Genesis
