import Genesis.Proofs.Bus.LastWrite
import Genesis.Vdp.Raster

/-!
# The reach of an access

An access reaches the component that its address selects and no other. `WriteReach` and `ReadReach`
say for each region what may differ afterwards; the buttons are asked for by reads of the first pad
port only; and the upper eight bits of an address never matter (`access_is_confined`).
-/

namespace Genesis
namespace Bus

variable {ν η : Type}

/-- What may differ after a write: at most the selected cells of one memory, one register of one
pad, or the video unit. -/
def WriteReach (address : UInt32) (lanes : Lanes) (m m' : Memory ν) : Region → Prop
  | .workRam =>
    m' = { m with workRam := m'.workRam } ∧
      ∀ cell, m'.workRam.read cell ≠ m.workRam.read cell →
        (lanes.hasHigh ∧ cell.toNat = address.toNat % 65536) ∨
          (lanes.hasLow ∧ cell.toNat = (address.toNat + 1) % 65536)
  | .z80Ram offset =>
    m' = { m with z80Ram := m'.z80Ram } ∧
      ∀ cell, m'.z80Ram.get cell ≠ m.z80Ram.get cell →
        (lanes = .high ∧ cell.val = offset.val) ∨
          (lanes = .low ∧ cell.val = (offset.val + 1) % 0x2000)
  | .padData port =>
    m' = { m with
      pads := m.pads.put port { m.pads.get port with data := (m'.pads.get port).data } } ∧
      (¬ lanes.hasLow → m' = m)
  | .padControl port =>
    m' = { m with
      pads := m.pads.put port { m.pads.get port with control := (m'.pads.get port).control } } ∧
      (¬ lanes.hasLow → m' = m)
  | .videoData | .videoControl => m' = { m with video := m'.video }
  | _ => m' = m

/-- What may differ after a read: the video unit, if one of its ports is read. -/
def ReadReach (m m' : Memory ν) : Region → Prop
  | .videoData | .videoControl => m' = { m with video := m'.video }
  | _ => m' = m

section Write

variable [VideoUnit ν] (host : Host η) {address : UInt32} (lanes : Lanes) (value : UInt16)
  {m : Memory ν} (h : η)

theorem writeReach_workRam (hd : Region.decode address m.cartridge.size = .workRam) :
    WriteReach address lanes m (write host address lanes value m h).1 .workRam := by
  rw [write_workRam host lanes value h hd]
  refine ⟨rfl, fun cell changed => ?_⟩
  simp only [read_writeWorkRam, toUInt16_eq_iff, toUInt16_add_one_eq_iff] at changed
  split at changed
  · rename_i high
    exact .inl ⟨high.1, high.2.symm⟩
  · split at changed
    · rename_i low
      exact .inr ⟨low.1, low.2.symm⟩
    · exact absurd rfl changed

theorem writeReach_z80Ram {offset : Fin 0x2000}
    (hd : Region.decode address m.cartridge.size = .z80Ram offset) :
    WriteReach address lanes m (write host address lanes value m h).1 (.z80Ram offset) := by
  rw [write_z80Ram host lanes value h hd]
  refine ⟨rfl, fun cell changed => ?_⟩
  cases lanes with
  | both => exact absurd rfl changed
  | high =>
    by_cases hit : offset = cell
    · exact .inl ⟨rfl, by rw [hit]⟩
    · exact absurd (Bank.get_put_ne _ hit _) changed
  | low =>
    by_cases hit : offset + 1 = cell
    · exact .inr ⟨rfl, by rw [← hit]; rfl⟩
    · exact absurd (Bank.get_put_ne _ hit _) changed

theorem writeReach_padData {port : Fin 3}
    (hd : Region.decode address m.cartridge.size = .padData port) :
    WriteReach address lanes m (write host address lanes value m h).1 (.padData port) := by
  rw [write_padData host lanes value h hd]
  by_cases low : lanes.hasLow
  · refine ⟨?_, fun high => absurd low high⟩
    simp only [low, if_true, Bank.get_put_self, Pad.writeData]
  · rw [if_neg low]
    exact ⟨by rw [Bank.put_get], fun _ => rfl⟩

theorem writeReach_padControl {port : Fin 3}
    (hd : Region.decode address m.cartridge.size = .padControl port) :
    WriteReach address lanes m (write host address lanes value m h).1 (.padControl port) := by
  rw [write_padControl host lanes value h hd]
  by_cases low : lanes.hasLow
  · refine ⟨?_, fun high => absurd low high⟩
    simp only [low, if_true, Bank.get_put_self, Pad.writeControl]
  · rw [if_neg low]
    exact ⟨by rw [Bank.put_get], fun _ => rfl⟩

theorem writeReach_write : WriteReach address lanes m (write host address lanes value m h).1
    (Region.decode address m.cartridge.size) := by
  cases hd : Region.decode address m.cartridge.size with
  | workRam => exact writeReach_workRam host lanes value h hd
  | z80Ram offset => exact writeReach_z80Ram host lanes value h hd
  | padData port => exact writeReach_padData host lanes value h hd
  | padControl port => exact writeReach_padControl host lanes value h hd
  | videoData => rw [write_videoData host lanes value h hd]; rfl
  | videoControl => rw [write_videoControl host lanes value h hd]; rfl
  | _ => exact write_of_unwritable host lanes value h (by simp [hd])

end Write

section Read

variable [VideoUnit ν] (host : Host η) {address : UInt32} (lanes : Lanes) {m : Memory ν} (h : η)

theorem readReach_read : ReadReach m (read host address lanes m h).2.1
    (Region.decode address m.cartridge.size) := by
  cases hd : Region.decode address m.cartridge.size with
  | videoData | videoControl => exact memory_read host lanes h
  | z80Ram offset =>
    simp only [ReadReach, read, readWord, decode_reduce, hd]
    cases z80Cell? offset lanes <;> rfl
  | _ => simp [ReadReach, read, readWord, hd]

end Read

section Buttons

variable [VideoUnit ν] (host : Host η) (address : UInt32) (lanes : Lanes) (m : Memory ν) (h : η)

def withButtons (host : Host η) (pressed : Button → η → Bool × η) : Host η :=
  { host with pressed }

variable (pressed : Button → η → Bool × η)

theorem write_withButtons (value : UInt16) :
    write (withButtons host pressed) address lanes value m h =
      write host address lanes value m h := rfl

/-- Only a read of the low lane of the first port's data asks for buttons. -/
theorem read_withButtons
    (elsewhere : ¬ (Region.decode address m.cartridge.size = .padData Region.firstPort ∧
      lanes.hasLow)) :
    read (withButtons host pressed) address lanes m h = read host address lanes m h := by
  unfold read readWord
  rw [decode_reduce]
  cases hd : Region.decode address m.cartridge.size with
  | padData port =>
    by_cases first : port = Region.firstPort
    · have low : lanes.hasLow = false := by simpa [hd, first] using elsewhere
      simp [readPad, first, low]
    · simp [readPad, first]
  | _ => rfl

end Buttons

theorem reduce_eq_of_mod {a b : UInt32} (same : a.toNat % 0x1000000 = b.toNat % 0x1000000) :
    reduce a = reduce b := by
  apply UInt32.toNat_inj.1
  simp [same]

/-- Every access is confined to the component that its address selects, asks for buttons only at the
first pad port, and depends on the lower 24 bits of its address alone. -/
theorem access_is_confined [VideoUnit ν] (host : Host η) (address : UInt32) (lanes : Lanes)
    (value : UInt16) (m : Memory ν) (h : η) :
    let region := Region.decode address m.cartridge.size
    WriteReach address lanes m (write host address lanes value m h).1 region ∧
    ReadReach m (read host address lanes m h).2.1 region ∧
    (∀ pressed,
      write (withButtons host pressed) address lanes value m h =
        write host address lanes value m h ∧
      (¬ (region = .padData Region.firstPort ∧ lanes.hasLow) →
        read (withButtons host pressed) address lanes m h = read host address lanes m h)) ∧
    (∀ mirror : UInt32, mirror.toNat % 0x1000000 = address.toNat % 0x1000000 →
      write host mirror lanes value m h = write host address lanes value m h ∧
      read host mirror lanes m h = read host address lanes m h) := by
  refine ⟨writeReach_write host lanes value h, readReach_read host lanes h, fun pressed => ?_,
    fun mirror same => ?_⟩
  · exact ⟨write_withButtons host address lanes m h pressed value,
      read_withButtons host address lanes m h pressed⟩
  · rw [write, read, reduce_eq_of_mod same]
    exact ⟨rfl, rfl⟩

/-- A read at a mirror of the second pad port, by a host that presses every button. -/
theorem access_is_confined_at_mirrored_port :
    let m := Memory.initial Vdp.initial
    (0x34A10004 : UInt32).toNat % 0x1000000 = (0xA10004 : UInt32).toNat % 0x1000000 ∧
      read Host.idle 0x34A10004 .low m () = read Host.idle 0xA10004 .low m () ∧
      Region.decode 0xA10004 m.cartridge.size ≠ .padData Region.firstPort ∧
      read (withButtons Host.idle fun _ h => (true, h)) 0xA10004 .low m () =
        read Host.idle 0xA10004 .low m () := by
  intro m
  have mirror : (0x34A10004 : UInt32).toNat % 0x1000000 = (0xA10004 : UInt32).toNat % 0x1000000 :=
    by decide
  have other : Region.decode 0xA10004 m.cartridge.size ≠ .padData Region.firstPort := by decide
  have facts := access_is_confined Host.idle 0xA10004 .low 0 m ()
  exact ⟨mirror, (facts.2.2.2 0x34A10004 mirror).2, other,
    (facts.2.2.1 fun _ h => (true, h)).2 fun first => other first.1⟩

end Bus
end Genesis
