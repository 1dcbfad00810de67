import Genesis.Proofs.Bus.PadPorts
import Genesis.Vdp.Raster

/-!
# Input pins of a pad port

A cleared bit of the control register makes a pin an input. A write to the data register clears the
bits of all input pins, so it leaves such a bit as it was only if it was clear
(`data_write_spares_input_pins_iff`). A bit that was latched while its pin was an output stays in
the register when the pin becomes an input, and a read shows it in place of the line
(`pressed_button_reads_clear_iff`).
-/

namespace Genesis
namespace Bus

variable {ν η : Type} [VideoUnit ν]

theorem testBit_masked (value mask : UInt8) (i : Nat) :
    (value &&& mask).toNat.testBit i = (value.toNat.testBit i && mask.toNat.testBit i) := by
  rw [UInt8.toNat_and, Nat.testBit_and]

/-- A masked store spares a bit that is not in the mask just if that bit is clear. -/
theorem testBit_masked_eq_iff (value mask data : UInt8) (i : Nat) :
    (value &&& mask).toNat.testBit i =
        (if mask.toNat.testBit i then value.toNat.testBit i else data.toNat.testBit i) ↔
      (data.toNat.testBit i = true → mask.toNat.testBit i = true) := by
  rw [testBit_masked]
  cases mask.toNat.testBit i <;> simp

/-- A write to the data register of a port after any accesses: the bits of output pins become those
of the value and the bits of input pins are cleared. So a bit follows the rule that only output pins
take the value and input pins keep what they hold just if it is clear or its pin is an output. -/
theorem data_write_spares_input_pins_iff (host : Host η) (before : List BusRequest) (m : Memory ν)
    (h : η) (port : Fin 3) {address : UInt32} (place : address.toNat % 0x1000000 = dataPlace port)
    {lanes : Lanes} (low : lanes.hasLow = true) (value : UInt16) :
    let now := serve host before (m, h)
    let pad := padAfter port (m.pads.get port) before
    let written := (write host address lanes value now.1 now.2).1.pads.get port
    now.1.pads.get port = pad ∧ written.control = pad.control ∧
    ∀ i, i < 8 →
      written.data.toNat.testBit i = (value.toNat.testBit i && pad.control.toNat.testBit i) ∧
      (written.data.toNat.testBit i =
          (if pad.control.toNat.testBit i then value.toNat.testBit i
            else pad.data.toNat.testBit i) ↔
        (pad.data.toNat.testBit i = true → pad.control.toNat.testBit i = true)) := by
  intro now pad written
  have holds : now.1.pads.get port = pad := get_pads_serve host before (m, h) port
  have region : Region.decode address now.1.cartridge.size = .padData port :=
    (Region.decode_eq_padData_iff now.1.cartridge.size_le_capacity _ _).2 place
  have stored : written = pad.writeData (lowByte value) := by
    simp only [written, write_padData host lanes value now.2 region, low, if_true,
      Bank.get_put_self, holds]
  rw [stored]
  refine ⟨holds, rfl, fun i inside => ?_⟩
  rw [← testBit_lowByte value inside]
  exact ⟨testBit_masked _ _ i, testBit_masked_eq_iff _ _ _ i⟩

/-- On the expansion port: the bit that was latched while its pin was an output is lost, the clear
one stays as it is. -/
theorem data_write_spares_input_pins_iff_on_expansion_port :
    let before : List BusRequest :=
      [.write 0xA1000C .low 0x41, .write 0xA10006 .low 0x40, .write 0xA1000C .both 0x0001]
    let now := serve Host.idle before (Memory.initial Vdp.initial, ())
    let written := (write Host.idle 0xA10006 .both 0xFFFF now.1 now.2).1.pads.get 2
    (0xA10006 : UInt32).toNat % 0x1000000 = dataPlace 2 ∧ Lanes.both.hasLow = true ∧
      (now.1.pads.get 2).data.toNat.testBit 6 = true ∧ written.data.toNat.testBit 6 = false ∧
      (now.1.pads.get 2).data.toNat.testBit 5 = false ∧ written.data.toNat.testBit 5 = false ∧
      written.data.toNat.testBit 0 = true := by
  intro before now written
  have place : (0xA10006 : UInt32).toNat % 0x1000000 = dataPlace 2 := by decide
  obtain ⟨holds, -, bits⟩ := data_write_spares_input_pins_iff Host.idle before
    (Memory.initial Vdp.initial) () 2 place (rfl : Lanes.both.hasLow = true) 0xFFFF
  refine ⟨place, rfl, ?_, ?_, ?_, ?_, ?_⟩
  · rw [holds]
    decide
  · exact (bits 6 (by decide)).1.trans (by decide)
  · rw [holds]
    decide
  · exact (bits 5 (by decide)).1.trans (by decide)
  · exact (bits 0 (by decide)).1.trans (by decide)

/-- So a bit that was latched while its pin was an output is cleared by the next write, whatever it
stores. -/
theorem data_write_clears_input_pin :
    ¬ ∀ (before : List BusRequest) (port : Fin 3) (address : UInt32) (lanes : Lanes)
        (value : UInt16),
      address.toNat % 0x1000000 = dataPlace port → lanes.hasLow = true →
      let now := serve Host.idle before (Memory.initial Vdp.initial, ())
      let pad := now.1.pads.get port
      let written := (write Host.idle address lanes value now.1 now.2).1.pads.get port
      ∀ i, i < 8 → written.data.toNat.testBit i =
        if pad.control.toNat.testBit i then value.toNat.testBit i
        else pad.data.toNat.testBit i := by
  intro claim
  have kept := claim [.write 0xA10008 .low 0x40, .write 0xA10002 .low 0x40, .write 0xA10008 .low 0]
    Region.firstPort 0xA10002 .low 0xFF (by decide) rfl 6 (by decide)
  revert kept
  decide

section Read

variable (host : Host η) (before : List BusRequest) (m : Memory ν) (h : η)

/-- A read of the first port's data after any accesses: the bit of a connected line shows whether
its button is pressed just if the latched byte has that bit clear or the button is not pressed. -/
theorem pressed_button_reads_clear_iff {address : UInt32}
    (place : address.toNat % 0x1000000 = dataPlace Region.firstPort) {lanes : Lanes}
    (low : lanes.hasLow = true) :
    let now := serve host before (m, h)
    let pad := padAfter Region.firstPort (m.pads.get Region.firstPort) before
    let wires := Pad.lines (pad.data.toNat.testBit 6)
    let asked := Pad.ask host.pressed (wires.map Prod.snd) now.2
    let word := (read host address lanes now.1 now.2).1
    now.1.pads.get Region.firstPort = pad ∧
    ∀ i x, (i, x) ∈ wires → pad.control.toNat.testBit i = false →
      ((word.toNat.testBit i = false ↔ (x, true) ∈ asked.1) ↔
        ¬ (pad.data.toNat.testBit i = true ∧ (x, true) ∈ asked.1)) := by
  intro now pad wires asked word
  have holds : now.1.pads.get Region.firstPort = pad :=
    get_pads_serve host before (m, h) Region.firstPort
  obtain ⟨byte, bits, shown⟩ := pad.exists_read_eq host.pressed now.2
  have value : word = wordOf 0 (pad.data ||| byte) := by
    simp only [word, read_firstPort host now.2 low place, holds, shown]
  refine ⟨holds, fun i x wired _ => ?_⟩
  have line : byte.toNat.testBit i = true ↔ (x, false) ∈ asked.1 := by
    rw [bits]
    refine ⟨?_, fun answer => ⟨x, wired, answer⟩⟩
    rintro ⟨y, wired', answer⟩
    have same : x = y := Pad.line_unique _ _ wired _ wired' rfl
    rwa [same]
  have answer : (x, true) ∈ asked.1 ↔ (x, false) ∉ asked.1 :=
    Pad.mem_ask_true_iff (Pad.nodup_lines _) (List.mem_map_of_mem (f := Prod.snd) wired)
  rw [value, testBit_wordOf_zero, UInt8.toNat_or, Nat.testBit_or, answer, ← line]
  cases pad.data.toNat.testBit i <;> simp

end Read

/-- A button on a pin that was an output once and was written again as an input. -/
theorem pressed_button_reads_clear_iff_of_rewritten_pin :
    let host : Host Unit := { Host.idle with pressed := fun x h => (x == .a, h) }
    let before : List BusRequest := [.write 0xA10008 .low 0x50, .write 0xA10002 .low 0x10,
      .write 0xA10008 .low 0x40, .write 0xA10002 .low 0x10]
    let now := serve host before (Memory.initial Vdp.initial, ())
    let pad := now.1.pads.get Region.firstPort
    (0x55A10002 : UInt32).toNat % 0x1000000 = dataPlace Region.firstPort ∧
      Lanes.both.hasLow = true ∧ (4, .a) ∈ Pad.lines (pad.data.toNat.testBit 6) ∧
      pad.control.toNat.testBit 4 = false ∧
      (read host 0x55A10002 .both now.1 now.2).1.toNat.testBit 4 = false := by
  intro host before now pad
  have place : (0x55A10002 : UInt32).toNat % 0x1000000 = dataPlace Region.firstPort := by decide
  have low : Lanes.both.hasLow = true := rfl
  obtain ⟨-, law⟩ :=
    pressed_button_reads_clear_iff host before (Memory.initial Vdp.initial) () place low
  have wired : (4, .a) ∈ Pad.lines (pad.data.toNat.testBit 6) := by decide
  have input : pad.control.toNat.testBit 4 = false := by decide
  have shows := (law 4 .a (by decide) (by decide)).2 (by decide)
  exact ⟨place, low, wired, input, shows.2 (by decide)⟩

/-- So a pressed button can read as released: its bit was latched while the pin was an output. -/
theorem latched_bit_hides_pressed_button :
    ¬ ∀ (host : Host Unit) (before : List BusRequest) (address : UInt32) (lanes : Lanes),
      address.toNat % 0x1000000 = dataPlace Region.firstPort → lanes.hasLow = true →
      let now := serve host before (Memory.initial Vdp.initial, ())
      let pad := now.1.pads.get Region.firstPort
      let wires := Pad.lines (pad.data.toNat.testBit 6)
      let asked := Pad.ask host.pressed (wires.map Prod.snd) now.2
      ∀ i x, (i, x) ∈ wires → pad.control.toNat.testBit i = false →
        ((read host address lanes now.1 now.2).1.toNat.testBit i = false ↔
          (x, true) ∈ asked.1) := by
  intro claim
  have shows := claim { Host.idle with pressed := fun x h => (x == .start, h) }
    [.write 0xA10008 .low 0x20, .write 0xA10002 .low 0x20, .write 0xA10008 .low 0]
    0xA10002 .low (by decide) rfl 5 .start (by decide) (by decide)
  revert shows
  decide

end Bus
end Genesis
