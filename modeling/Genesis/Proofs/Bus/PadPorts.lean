import Genesis.Proofs.Bus.LastWrite
import Genesis.Proofs.Pad
import Genesis.Proofs.Region

/-!
# Pad ports under a run of accesses

A port changes with writes to its own two registers only. Its control register holds the last byte
written there, its data register the last byte written there as far as the control register let it
through at that moment (`get_pads_serve`). A read of the first port shows the data register and the
lines of the pad, and asks for the buttons on these lines; the other ports show no pad
(`pad_reads_follow_last_writes`).
-/

namespace Genesis
namespace Bus

variable {ν η : Type}

/-- Where the data register of a port lies. -/
def dataPlace (port : Fin 3) : Nat := 0xA10002 + 2 * port.val

def controlPlace (port : Fin 3) : Nat := 0xA10008 + 2 * port.val

/-- Whether a request is an access to one of the registers of a port. -/
def touches (port : Fin 3) : BusRequest → Bool
  | .read address _ | .write address _ _ =>
    address.toNat % 0x1000000 = dataPlace port ∨ address.toNat % 0x1000000 = controlPlace port
  | .note _ => false

/-- The byte that a request stores in the register at a place; only the low lane reaches it. -/
def storedByte? (place : Nat) : BusRequest → Option UInt8
  | .write address lanes value =>
    if address.toNat % 0x1000000 = place ∧ lanes.hasLow then some (lowByte value) else none
  | .read .. | .note _ => none

def controlAfter (port : Fin 3) (pad : Pad) (before : List BusRequest) : UInt8 :=
  lastByte (storedByte? (controlPlace port)) before pad.control

/-- The data byte of a port after requests, the latest of them first: the last byte stored there,
masked by the control byte of that moment. -/
def latchedByte (port : Fin 3) (pad : Pad) : List BusRequest → UInt8
  | [] => pad.data
  | q :: earlier =>
    match storedByte? (dataPlace port) q with
    | some value => value &&& controlAfter port pad earlier.reverse
    | none => latchedByte port pad earlier

/-- A port after requests. -/
def padAfter (port : Fin 3) (pad : Pad) (before : List BusRequest) : Pad where
  control := controlAfter port pad before
  data := latchedByte port pad before.reverse

theorem padAfter_singleton (port : Fin 3) (pad : Pad) (q : BusRequest) :
    padAfter port pad [q] =
      { control := (storedByte? (controlPlace port) q).getD pad.control
        data := ((storedByte? (dataPlace port) q).map (· &&& pad.control)).getD pad.data } := by
  simp only [padAfter, controlAfter, List.reverse_singleton, latchedByte, List.reverse_nil,
    lastByte_cons, lastByte_nil]
  cases storedByte? (dataPlace port) q <;> rfl

theorem controlAfter_cons (port : Fin 3) (pad : Pad) (q : BusRequest) (qs : List BusRequest) :
    controlAfter port pad (q :: qs) = controlAfter port (padAfter port pad [q]) qs := by
  rw [controlAfter, lastByte_cons, padAfter_singleton, controlAfter]

theorem latchedByte_append_singleton (port : Fin 3) (pad : Pad) (q : BusRequest)
    (later : List BusRequest) :
    latchedByte port pad (later ++ [q]) = latchedByte port (padAfter port pad [q]) later := by
  induction later with
  | nil => rfl
  | cons r later ih =>
    rw [List.cons_append, latchedByte, latchedByte, List.reverse_append, List.reverse_singleton,
      List.singleton_append, controlAfter_cons, ih]

theorem padAfter_cons (port : Fin 3) (pad : Pad) (q : BusRequest) (qs : List BusRequest) :
    padAfter port pad (q :: qs) = padAfter port (padAfter port pad [q]) qs := by
  rw [padAfter, controlAfter_cons, List.reverse_cons, latchedByte_append_singleton]
  rfl

/-- Nothing but a write to the data register changes what it holds. -/
theorem latchedByte_append (port : Fin 3) (pad : Pad) {later : List BusRequest}
    (none : ∀ q ∈ later, storedByte? (dataPlace port) q = none) (earlier : List BusRequest) :
    latchedByte port pad (later ++ earlier) = latchedByte port pad earlier := by
  induction later with
  | nil => rfl
  | cons q later ih =>
    obtain ⟨first, rest⟩ := List.forall_mem_cons.1 none
    rw [List.cons_append, latchedByte, first]
    exact ih rest

theorem padAfter_of_not_touches {port : Fin 3} {q : BusRequest} (other : touches port q = false)
    (pad : Pad) : padAfter port pad [q] = pad := by
  rw [padAfter_singleton]
  cases q with
  | write address lanes value =>
    simp only [touches, decide_eq_false_iff_not, not_or] at other
    simp [storedByte?, other]
  | _ => rfl

theorem padAfter_filter (port : Fin 3) (pad : Pad) (qs : List BusRequest) :
    padAfter port pad (qs.filter (touches port)) = padAfter port pad qs := by
  induction qs generalizing pad with
  | nil => rfl
  | cons q qs ih =>
    cases own : touches port q with
    | true => rw [List.filter_cons_of_pos own, padAfter_cons, ih, ← padAfter_cons]
    | false =>
      rw [List.filter_cons_of_neg (by simp [own]), ih, padAfter_cons port pad q qs,
        padAfter_of_not_touches own]

section Step

variable [VideoUnit ν] (host : Host η)

theorem pads_write_of_ne {address : UInt32} (lanes : Lanes) (value : UInt16) {m : Memory ν} (h : η)
    (elsewhere : ∀ port, Region.decode address m.cartridge.size ≠ .padData port ∧
      Region.decode address m.cartridge.size ≠ .padControl port) :
    (write host address lanes value m h).1.pads = m.pads := by
  unfold write writeWord
  rw [decode_reduce]
  revert elsewhere
  cases Region.decode address m.cartridge.size with
  | padData port => intro elsewhere; exact absurd rfl (elsewhere port).1
  | padControl port => intro elsewhere; exact absurd rfl (elsewhere port).2
  | z80Ram offset =>
    dsimp only
    cases z80Cell? offset lanes <;> simp
  | _ => simp

/-- What a write stores in a port, by the region that its address selects. -/
theorem padAfter_write (c : Cartridge) (port : Fin 3) (pad : Pad) (address : UInt32) (lanes : Lanes)
    (value : UInt16) :
    padAfter port pad [.write address lanes value] =
      if Region.decode address c.size = .padData port ∧ lanes.hasLow then
        pad.writeData (lowByte value)
      else if Region.decode address c.size = .padControl port ∧ lanes.hasLow then
        pad.writeControl (lowByte value)
      else pad := by
  have data := Region.decode_eq_padData_iff c.size_le_capacity address port
  have control := Region.decode_eq_padControl_iff c.size_le_capacity address port
  rw [← dataPlace] at data
  rw [← controlPlace] at control
  have apart : dataPlace port ≠ controlPlace port := by
    unfold dataPlace controlPlace
    omega
  simp only [padAfter_singleton, data, control, storedByte?]
  by_cases here : address.toNat % 0x1000000 = dataPlace port ∧ lanes.hasLow = true
  · have other : ¬ (address.toNat % 0x1000000 = controlPlace port ∧ lanes.hasLow = true) :=
      fun there => apart (here.1.symm.trans there.1)
    rw [if_pos here, if_pos here, if_neg other]
    rfl
  · rw [if_neg here, if_neg here]
    split <;> rfl

theorem get_pads_answer (q : BusRequest) (s : Memory ν × η) (port : Fin 3) :
    (answer host q s).2.1.pads.get port = padAfter port (s.1.pads.get port) [q] := by
  cases q with
  | note n => rfl
  | read address lanes =>
    have same : (read host address lanes s.1 s.2).2.1.pads = s.1.pads := by rw [memory_read]
    exact congrArg (fun pads => pads.get port) same
  | write address lanes value =>
    show (write host address lanes value s.1 s.2).1.pads.get port = _
    rw [padAfter_write s.1.cartridge]
    cases region : Region.decode address s.1.cartridge.size with
    | padData p =>
      rw [write_padData host lanes value s.2 region]
      by_cases here : p = port
      · subst here
        cases low : lanes.hasLow <;> simp
      · cases low : lanes.hasLow <;> simp [here, Bank.get_put_ne]
    | padControl p =>
      rw [write_padControl host lanes value s.2 region]
      by_cases here : p = port
      · subst here
        cases low : lanes.hasLow <;> simp
      · cases low : lanes.hasLow <;> simp [here, Bank.get_put_ne]
    | _ =>
      rw [pads_write_of_ne host lanes value s.2 (by simp [region])]
      simp

theorem get_pads_serve (qs : List BusRequest) (s : Memory ν × η) (port : Fin 3) :
    (serve host qs s).1.pads.get port = padAfter port (s.1.pads.get port) qs := by
  induction qs generalizing s with
  | nil => rfl
  | cons q qs ih => rw [serve, ih, get_pads_answer, padAfter_cons port _ q qs]

end Step

section Read

variable [VideoUnit ν] (host : Host η) {address : UInt32} {lanes : Lanes} {m : Memory ν} (h : η)

/-- A read of the low lane of the first port's data is a read of its pad. -/
theorem read_firstPort (low : lanes.hasLow = true)
    (place : address.toNat % 0x1000000 = dataPlace Region.firstPort) :
    read host address lanes m h =
      let r := (m.pads.get Region.firstPort).read host.pressed h
      (wordOf 0 r.1.value, m, host.report r.1.notices r.2) := by
  have region := (Region.decode_eq_padData_iff m.cartridge.size_le_capacity _ _).2 place
  have byte (x : UInt8) : x.toUInt16 &&& lanes.mask = wordOf 0 x := by
    have word : x.toUInt16 = wordOf 0 x := by simp [wordOf]
    rw [word, Lanes.wordOf_and_mask]
    cases lanes <;> simp_all [Lanes.hasLow]
  simp only [read, readWord, decode_reduce, region, readPad, low, if_true, byte]

theorem read_firstPort_high (high : lanes.hasLow = false)
    (place : address.toNat % 0x1000000 = dataPlace Region.firstPort) :
    read host address lanes m h = (0, m, h) := by
  have region := (Region.decode_eq_padData_iff m.cartridge.size_le_capacity _ _).2 place
  simp [read, readWord, region, readPad, high]

theorem read_otherPort {port : Fin 3} (other : port ≠ Region.firstPort)
    (place : address.toNat % 0x1000000 = dataPlace port) :
    read host address lanes m h = (if lanes.hasLow then 0x00FF else 0, m, h) := by
  have region := (Region.decode_eq_padData_iff m.cartridge.size_le_capacity _ _).2 place
  simp only [read, readWord, decode_reduce, region, readPad, if_neg other]
  cases lanes <;> rfl

end Read

/-- After any accesses each port holds what the last writes to its own registers left there, so
later writes elsewhere leave a latched byte alone. A read of the first port's data then shows the
latched byte together with the lines of the half that its bit 6 selects, set where the button is
answered to be released; it asks for the buttons of this half, each once and in order. Its high lane
and the other ports show fixed values and ask for nothing. -/
theorem pad_reads_follow_last_writes [VideoUnit ν] (host : Host η) (before : List BusRequest)
    (m : Memory ν) (h : η) :
    let now := serve host before (m, h)
    let pad := padAfter Region.firstPort (m.pads.get Region.firstPort) before
    let wires := Pad.lines (pad.data.toNat.testBit 6)
    let asked := Pad.ask host.pressed (wires.map Prod.snd) now.2
    (∀ port, now.1.pads.get port = padAfter port (m.pads.get port) before ∧
      (serve host (before.filter (touches port)) (m, h)).1.pads.get port = now.1.pads.get port) ∧
    (∀ port later, (∀ q ∈ later, storedByte? (dataPlace port) q = none) →
      (padAfter port (m.pads.get port) (before ++ later)).data =
        (padAfter port (m.pads.get port) before).data) ∧
    (asked.1.map Prod.fst = wires.map Prod.snd ∧ (wires.map Prod.snd).Nodup) ∧
    ∀ port (address : UInt32) (lanes : Lanes), address.toNat % 0x1000000 = dataPlace port →
      (port = Region.firstPort → lanes.hasLow = true → ∃ byte : UInt8,
        (∀ i, byte.toNat.testBit i = true ↔ ∃ x, (i, x) ∈ wires ∧ (x, false) ∈ asked.1) ∧
        read host address lanes now.1 now.2 = (wordOf 0 (pad.data ||| byte), now.1,
          host.notice (.padRead pad.data pad.control byte) asked.2)) ∧
      (port = Region.firstPort → lanes.hasLow = false →
        read host address lanes now.1 now.2 = (0, now)) ∧
      (port ≠ Region.firstPort →
        read host address lanes now.1 now.2 = (if lanes.hasLow then 0x00FF else 0, now)) := by
  intro now pad wires asked
  have registers (qs : List BusRequest) (port : Fin 3) :
      (serve host qs (m, h)).1.pads.get port = padAfter port (m.pads.get port) qs :=
    get_pads_serve host qs (m, h) port
  refine ⟨fun port => ⟨registers before port, ?_⟩, fun port later none => ?_,
    ⟨Pad.map_fst_ask _ _ _, Pad.nodup_lines _⟩, fun port address lanes place => ⟨?_, ?_, ?_⟩⟩
  · rw [registers, registers, padAfter_filter]
  · show latchedByte port _ (before ++ later).reverse = latchedByte port _ before.reverse
    rw [List.reverse_append]
    exact latchedByte_append port _ (by simpa using none) before.reverse
  · rintro rfl low
    obtain ⟨byte, bits, shown⟩ := pad.exists_read_eq host.pressed now.2
    refine ⟨byte, bits, ?_⟩
    rw [read_firstPort host now.2 low place, registers, shown]
    rfl
  · rintro rfl high
    exact read_firstPort_high host now.2 high place
  · intro other
    exact read_otherPort host now.2 other place

/-- A pad whose control register was cleared after the select bit was latched, read at a mirror of
its port by a host that writes down the questions and presses one button. -/
theorem pad_reads_follow_last_writes_after_cleared_control :
    let host : Host (List Button) := {
      pressed := fun x asked => (x == .b, asked ++ [x])
      scanline := fun _ asked => asked
      notice := fun _ asked => asked }
    let before : List BusRequest := [.write 0xA10008 .low 0x40, .write 0xA10002 .both 0x12C0,
      .read 0xA10004 .low, .write 0xA10008 .low 0]
    let now := serve host before (Memory.initial Vdp.initial, [])
    (0xFFA10002 : UInt32).toNat % 0x1000000 = dataPlace Region.firstPort ∧
      (∃ byte : UInt8, byte.toNat.testBit 4 = false ∧ byte.toNat.testBit 5 = true ∧
        (read host 0xFFA10002 .both now.1 now.2).1 = wordOf 0 (0x40 ||| byte) ∧
        (read host 0xFFA10002 .both now.1 now.2).2.2 = [.c, .b, .right, .left, .down, .up]) ∧
      (read host 0xFFA10002 .high now.1 now.2).1 = 0 ∧
      (0xA10004 : UInt32).toNat % 0x1000000 = dataPlace 1 ∧
      (read host 0xA10004 .low now.1 now.2).1 = 0xFF := by
  intro host before now
  have mirror : (0xFFA10002 : UInt32).toNat % 0x1000000 = dataPlace Region.firstPort := by decide
  have second : (0xA10004 : UInt32).toNat % 0x1000000 = dataPlace 1 := by decide
  obtain ⟨-, -, -, reads⟩ :=
    pad_reads_follow_last_writes host before (Memory.initial Vdp.initial) []
  obtain ⟨byte, bits, shown⟩ := (reads _ 0xFFA10002 .both mirror).1 rfl rfl
  refine ⟨mirror, ⟨byte, ?_, ?_, ?_, ?_⟩, ?_, second, ?_⟩
  · refine Bool.eq_false_iff.2 fun set => ?_
    obtain ⟨x, wired, answer⟩ := (bits 4).1 set
    cases x <;> revert wired answer <;> decide
  · exact (bits 5).2 ⟨.c, by decide, by decide⟩
  · rw [shown]
    rfl
  · rw [shown]
    change (Pad.ask host.pressed _ now.2).2 = _
    decide
  · rw [(reads _ 0xFFA10002 .high mirror).2.1 rfl rfl]
  · rw [(reads 1 0xA10004 .low second).2.2 (by decide)]
    rfl

end Bus
end Genesis
