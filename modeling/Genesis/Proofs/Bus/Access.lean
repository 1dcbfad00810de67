import Genesis.Bus
import Genesis.Proofs.Word

/-!
# What a bus access touches

One equation for each kind of memory and each direction of an access, and one for each part of the
memory. A write reaches the part that its address selects and no other; a read reaches the video
unit at most.
-/

namespace Genesis
namespace Bus

variable {ν η : Type}

@[simp] theorem toNat_reduce (address : UInt32) :
    (reduce address).toNat = address.toNat % 0x1000000 := by
  have h := Nat.and_two_pow_sub_one_eq_mod address.toNat 24
  simpa [reduce] using h

@[simp] theorem decode_reduce (address : UInt32) (mapped : Nat) :
    Region.decode (reduce address) mapped = Region.decode address mapped := by
  simp [Region.decode]

@[simp] theorem toUInt16_reduce (address : UInt32) :
    (reduce address).toUInt16 = address.toUInt16 := by
  apply UInt16.toNat_inj.1
  simp only [UInt32.toNat_toUInt16, toNat_reduce]
  omega

/-- Whether an address is one of the last two megabytes, with and without the bits that the bus
leaves out. -/
theorem ramStart_le_reduce_iff (address : UInt32) :
    0xE00000 ≤ reduce address ↔ 0xE00000 ≤ address.toNat % 0x1000000 := by
  rw [UInt32.le_iff_toNat_le, toNat_reduce]
  rfl

section Write

variable [VideoUnit ν] (host : Host η) {address : UInt32} (lanes : Lanes) (value : UInt16)
  {m : Memory ν} (h : η)

theorem write_workRam (hd : Region.decode address m.cartridge.size = .workRam) :
    write host address lanes value m h =
      ({ m with workRam := writeWorkRam address lanes value m.workRam }, h) := by
  simp [write, writeWord, hd, writeWorkRam]

theorem write_z80Ram {offset : Fin 0x2000}
    (hd : Region.decode address m.cartridge.size = .z80Ram offset) :
    (write host address lanes value m h).1 =
      { m with z80Ram :=
          match z80Cell? offset lanes with
          | some cell => m.z80Ram.put cell (ofLane lanes value)
          | none => m.z80Ram } := by
  simp only [write, writeWord, decode_reduce, hd]
  cases z80Cell? offset lanes <;> rfl

theorem write_padData {port : Fin 3}
    (hd : Region.decode address m.cartridge.size = .padData port) :
    write host address lanes value m h =
      (if lanes.hasLow then
        { m with pads := m.pads.put port ((m.pads.get port).writeData (lowByte value)) }
      else m, h) := by
  simp only [write, writeWord, decode_reduce, hd]
  split <;> rfl

theorem write_padControl {port : Fin 3}
    (hd : Region.decode address m.cartridge.size = .padControl port) :
    write host address lanes value m h =
      (if lanes.hasLow then
        { m with pads := m.pads.put port ((m.pads.get port).writeControl (lowByte value)) }
      else m, h) := by
  simp only [write, writeWord, decode_reduce, hd]
  split <;> rfl

theorem write_videoData (hd : Region.decode address m.cartridge.size = .videoData) :
    write host address lanes value m h =
      ({ m with video := (VideoUnit.writeData value m.video).value },
        host.report (VideoUnit.writeData value m.video).notices h) := by
  simp only [write, writeWord, decode_reduce, hd]

theorem write_videoControl (hd : Region.decode address m.cartridge.size = .videoControl) :
    write host address lanes value m h =
      let r := (VideoUnit.writeControl value m.video).run
        (answerVideo host m.cartridge m.workRam) h
      ({ m with video := r.1 }, r.2) := by
  simp only [write, writeWord, decode_reduce, hd]

/-- Regions whose writes are reported or dropped. -/
theorem write_of_unwritable
    (hd : Region.decode address m.cartridge.size ∈ [.cartridge, .soundChip, .ioUnused,
      .memoryMode, .z80BusRequest, .z80Reset, .rasterCounter, .toneGenerator, .invalid]) :
    (write host address lanes value m h).1 = m := by
  unfold write writeWord
  rw [decode_reduce]
  revert hd
  cases Region.decode address m.cartridge.size <;> simp

@[simp] theorem cartridge_write :
    (write host address lanes value m h).1.cartridge = m.cartridge := by
  unfold write writeWord
  cases Region.decode (reduce address) m.cartridge.size with
  | z80Ram offset =>
    dsimp only
    cases z80Cell? offset lanes <;> rfl
  | padData port | padControl port => cases lanes <;> rfl
  | _ => rfl

theorem workRam_write_of_ne (hd : Region.decode address m.cartridge.size ≠ .workRam) :
    (write host address lanes value m h).1.workRam = m.workRam := by
  unfold write writeWord
  rw [decode_reduce]
  revert hd
  cases Region.decode address m.cartridge.size with
  | workRam => intro hd; exact absurd rfl hd
  | z80Ram offset =>
    dsimp only
    cases z80Cell? offset lanes <;> simp
  | padData port | padControl port => cases lanes <;> simp [Lanes.hasLow]
  | _ => simp

theorem z80Ram_write_of_ne
    (hd : ∀ offset, Region.decode address m.cartridge.size ≠ .z80Ram offset) :
    (write host address lanes value m h).1.z80Ram = m.z80Ram := by
  unfold write writeWord
  rw [decode_reduce]
  revert hd
  cases Region.decode address m.cartridge.size with
  | z80Ram offset => intro hd; exact absurd rfl (hd offset)
  | padData port | padControl port => cases lanes <;> simp [Lanes.hasLow]
  | _ => simp

end Write

section Read

variable [VideoUnit ν] (host : Host η) {address : UInt32} (lanes : Lanes) {m : Memory ν} (h : η)

theorem memory_read :
    (read host address lanes m h).2.1 =
      { m with video := (read host address lanes m h).2.1.video } := by
  unfold read readWord
  cases Region.decode (reduce address) m.cartridge.size with
  | z80Ram offset =>
    dsimp only
    cases z80Cell? offset lanes <;> rfl
  | _ => rfl

@[simp] theorem cartridge_read : (read host address lanes m h).2.1.cartridge = m.cartridge := by
  rw [memory_read]

@[simp] theorem workRam_read : (read host address lanes m h).2.1.workRam = m.workRam := by
  rw [memory_read]

@[simp] theorem z80Ram_read : (read host address lanes m h).2.1.z80Ram = m.z80Ram := by
  rw [memory_read]

theorem read_cartridge (hd : Region.decode address m.cartridge.size = .cartridge) :
    read host address lanes m h =
      (m.cartridge.word (address.toNat % 0x1000000) &&& lanes.mask, m, h) := by
  simp [read, readWord, hd]

theorem read_invalid (hd : Region.decode address m.cartridge.size = .invalid) :
    read host address lanes m h = (0, m, host.notice (.unmappedRead (reduce address)) h) := by
  simp [read, readWord, hd]

theorem read_workRam (hd : Region.decode address m.cartridge.size = .workRam) :
    read host address lanes m h = (m.workRam.word address &&& lanes.mask, m, h) := by
  simp [read, readWord, hd, Ram.word]

theorem read_z80Ram {offset : Fin 0x2000}
    (hd : Region.decode address m.cartridge.size = .z80Ram offset) :
    (read host address lanes m h).1 =
      (match z80Cell? offset lanes with
        | some cell => onLane lanes (m.z80Ram.get cell)
        | none => 0) &&& lanes.mask := by
  simp only [read, readWord, decode_reduce, hd]
  cases z80Cell? offset lanes <;> rfl

end Read
/-- Carry out requests in order. -/
def serve [VideoUnit ν] (host : Host η) : List BusRequest → Memory ν × η → Memory ν × η
  | [], s => s
  | q :: qs, s => serve host qs (answer host q s).2

theorem serve_append [VideoUnit ν] (host : Host η) (qs rs : List BusRequest) (s : Memory ν × η) :
    serve host (qs ++ rs) s = serve host rs (serve host qs s) := by
  induction qs generalizing s with
  | nil => rfl
  | cons q qs ih => exact ih _

@[simp] theorem cartridge_answer [VideoUnit ν] (host : Host η) (q : BusRequest)
    (s : Memory ν × η) : (answer host q s).2.1.cartridge = s.1.cartridge := by
  cases q <;> simp [answer]

@[simp] theorem cartridge_serve [VideoUnit ν] (host : Host η) (qs : List BusRequest)
    (s : Memory ν × η) : (serve host qs s).1.cartridge = s.1.cartridge := by
  induction qs generalizing s with
  | nil => rfl
  | cons q qs ih => rw [serve, ih, cartridge_answer]

end Bus
end Genesis
