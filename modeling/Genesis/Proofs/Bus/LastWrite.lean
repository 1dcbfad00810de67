import Genesis.Proofs.Bus.Access
import Genesis.Vdp.Raster

/-!
# The memories under a run of accesses

Whatever else a run of bus accesses does, each cell of work RAM and of the sound processor's memory
holds the byte of the last write that hits it. Transfers of the video unit, cartridge writes and
faults in between leave the cells alone, because none of them is a write that hits.
-/

namespace Genesis
namespace Bus

variable {ν η : Type}

/-- The word that a read returns. -/
def reply? : (q : BusRequest) → q.Answer → Option UInt16
  | .read .., word => some word
  | .write .., _ | .note .., _ => none

def replies [VideoUnit ν] (host : Host η) : List BusRequest → Memory ν × η → List (Option UInt16)
  | [], _ => []
  | q :: qs, s => reply? q (answer host q s).1 :: replies host qs (answer host q s).2

theorem getElem?_replies [VideoUnit ν] (host : Host η) (qs : List BusRequest) (s : Memory ν × η)
    (i : Nat) :
    (replies host qs s)[i]? =
      qs[i]?.map fun q => reply? q (answer host q (serve host (qs.take i) s)).1 := by
  induction qs generalizing s i with
  | nil => rfl
  | cons q qs ih =>
    cases i with
    | zero => rfl
    | succ i => simpa [replies, serve] using ih (answer host q s).2 i

/-- The byte that a request stores in a cell of work RAM, if it hits the cell: the high byte goes to
the address, the low byte to the next one, both counted modulo 64 kilobytes. -/
def workRamByte? (mapped : Nat) (cell : UInt16) : BusRequest → Option UInt8
  | .write address lanes value =>
    if Region.decode address mapped ≠ .workRam then none
    else if lanes.hasHigh ∧ address.toNat % 65536 = cell.toNat then some (highByte value)
    else if lanes.hasLow ∧ (address.toNat + 1) % 65536 = cell.toNat then some (lowByte value)
    else none
  | _ => none

/-- The byte that a request stores in a cell of the sound processor's memory, if it hits the cell.
Only accesses of one lane hit, the low lane one cell further on. -/
def z80RamByte? (mapped : Nat) (cell : Fin 0x2000) : BusRequest → Option UInt8
  | .write address lanes value =>
    match Region.decode address mapped, lanes with
    | .z80Ram offset, .high => if offset.val = cell.val then some (highByte value) else none
    | .z80Ram offset, .low =>
      if (offset.val + 1) % 0x2000 = cell.val then some (lowByte value) else none
    | _, _ => none
  | _ => none

/-- The byte of the last request that stores one, or the byte that was there before. -/
def lastByte (byte? : BusRequest → Option UInt8) (qs : List BusRequest) (initial : UInt8) : UInt8 :=
  (qs.reverse.findSome? byte?).getD initial

@[simp] theorem lastByte_nil (byte? : BusRequest → Option UInt8) (x : UInt8) :
    lastByte byte? [] x = x := rfl

@[simp] theorem lastByte_cons (byte? : BusRequest → Option UInt8) (q : BusRequest)
    (qs : List BusRequest) (x : UInt8) :
    lastByte byte? (q :: qs) x = lastByte byte? qs ((byte? q).getD x) := by
  simp only [lastByte, List.reverse_cons, List.findSome?_append]
  cases qs.reverse.findSome? byte? <;> cases hq : byte? q <;> simp [List.findSome?, hq]

theorem read_writeWorkRam (address : UInt32) (lanes : Lanes) (value : UInt16) (ram : Ram)
    (cell : UInt16) :
    (writeWorkRam address lanes value ram).read cell =
      if lanes.hasHigh ∧ address.toUInt16 = cell then highByte value
      else if lanes.hasLow ∧ address.toUInt16 + 1 = cell then lowByte value
      else ram.read cell := by
  have apart (hc : address.toUInt16 = cell) : address.toUInt16 + 1 ≠ cell := by
    subst hc
    simp
  cases lanes <;> simp only [writeWorkRam, Lanes.hasHigh, Lanes.hasLow] <;> grind [Ram.read_write]

theorem toUInt16_eq_iff (address : UInt32) (cell : UInt16) :
    address.toUInt16 = cell ↔ address.toNat % 65536 = cell.toNat := by
  rw [← UInt16.toNat_inj, UInt32.toNat_toUInt16]

theorem toUInt16_add_one_eq_iff (address : UInt32) (cell : UInt16) :
    address.toUInt16 + 1 = cell ↔ (address.toNat + 1) % 65536 = cell.toNat := by
  rw [← UInt16.toNat_inj, UInt16.toNat_add, UInt32.toNat_toUInt16]
  simp

section Step

variable [VideoUnit ν] (host : Host η) (q : BusRequest) (s : Memory ν × η)

theorem read_workRam_answer (cell : UInt16) :
    (answer host q s).2.1.workRam.read cell =
      (workRamByte? s.1.cartridge.size cell q).getD (s.1.workRam.read cell) := by
  cases q with
  | read address lanes => simp [answer, workRamByte?]
  | note n => rfl
  | write address lanes value =>
    simp only [answer, workRamByte?]
    by_cases hd : Region.decode address s.1.cartridge.size = .workRam
    · rw [write_workRam host lanes value s.2 hd, read_writeWorkRam]
      simp only [toUInt16_eq_iff, toUInt16_add_one_eq_iff, hd, ne_eq, not_true, if_false]
      split
      · rfl
      · split <;> rfl
    · rw [workRam_write_of_ne host lanes value s.2 hd]
      simp [hd]

theorem get_z80Ram_answer (cell : Fin 0x2000) :
    (answer host q s).2.1.z80Ram.get cell =
      (z80RamByte? s.1.cartridge.size cell q).getD (s.1.z80Ram.get cell) := by
  cases q with
  | read address lanes => simp [answer, z80RamByte?]
  | note n => rfl
  | write address lanes value =>
    simp only [answer, z80RamByte?]
    cases hd : Region.decode address s.1.cartridge.size with
    | z80Ram offset =>
      rw [write_z80Ram host lanes value s.2 hd]
      cases lanes with
      | both => rfl
      | high =>
        simp only [z80Cell?, ofLane, Lanes.hasHigh, Bank.get_put, Fin.ext_iff]
        split <;> rfl
      | low =>
        simp only [z80Cell?, ofLane, Lanes.hasHigh, Bank.get_put, Fin.ext_iff]
        change (if (offset.val + 1) % 0x2000 = cell.val then _ else _) = _
        split <;> rfl
    | _ =>
      rw [z80Ram_write_of_ne host lanes value s.2 (by simp [hd])]
      rfl

end Step

theorem read_workRam_serve [VideoUnit ν] (host : Host η) (qs : List BusRequest)
    (s : Memory ν × η) (cell : UInt16) :
    (serve host qs s).1.workRam.read cell =
      lastByte (workRamByte? s.1.cartridge.size cell) qs (s.1.workRam.read cell) := by
  induction qs generalizing s with
  | nil => rfl
  | cons q qs ih => rw [serve, ih, cartridge_answer, read_workRam_answer, lastByte_cons]

theorem get_z80Ram_serve [VideoUnit ν] (host : Host η) (qs : List BusRequest)
    (s : Memory ν × η) (cell : Fin 0x2000) :
    (serve host qs s).1.z80Ram.get cell =
      lastByte (z80RamByte? s.1.cartridge.size cell) qs (s.1.z80Ram.get cell) := by
  induction qs generalizing s with
  | nil => rfl
  | cons q qs ih => rw [serve, ih, cartridge_answer, get_z80Ram_answer, lastByte_cons]

/-- The byte in a cell of work RAM after some requests, by the last write. -/
def workRamNow (m : Memory ν) (before : List BusRequest) (cell : Nat) : UInt8 :=
  let cell := UInt16.ofNat cell
  lastByte (workRamByte? m.cartridge.size cell) before (m.workRam.read cell)

/-- The byte in a cell of the sound processor's memory after some requests, by the last write. -/
def z80RamNow (m : Memory ν) (before : List BusRequest) (cell : Fin 0x2000) : UInt8 :=
  lastByte (z80RamByte? m.cartridge.size cell) before (m.z80Ram.get cell)

section Read

variable [VideoUnit ν] (host : Host η) (before : List BusRequest) (m : Memory ν) (h : η)

theorem ofNat_toNat_mod (address : UInt32) :
    UInt16.ofNat (address.toNat % 65536) = address.toUInt16 := by
  apply UInt16.toNat_inj.1
  simp

theorem ofNat_toNat_add_one_mod (address : UInt32) :
    UInt16.ofNat ((address.toNat + 1) % 65536) = address.toUInt16 + 1 := by
  apply UInt16.toNat_inj.1
  simp

theorem read_workRam_after_serve {address : UInt32} (lanes : Lanes)
    (hd : Region.decode address m.cartridge.size = .workRam) :
    (read host address lanes (serve host before (m, h)).1 (serve host before (m, h)).2).1 =
      wordOf (if lanes.hasHigh then workRamNow m before (address.toNat % 65536) else 0)
        (if lanes.hasLow then workRamNow m before ((address.toNat + 1) % 65536) else 0) := by
  rw [read_workRam host lanes _ (by rwa [cartridge_serve])]
  simp only [Ram.word, Lanes.wordOf_and_mask, read_workRam_serve, workRamNow, ofNat_toNat_mod,
    ofNat_toNat_add_one_mod]

theorem read_z80Ram_high_after_serve {address : UInt32} {cell : Fin 0x2000}
    (hd : Region.decode address m.cartridge.size = .z80Ram cell) :
    (read host address .high (serve host before (m, h)).1 (serve host before (m, h)).2).1 =
      wordOf (z80RamNow m before cell) 0 := by
  rw [read_z80Ram host .high _ (by rwa [cartridge_serve])]
  simp [z80Cell?, onLane, Lanes.hasHigh, Lanes.hasLow, Lanes.wordOf_and_mask, z80RamNow,
    get_z80Ram_serve]

theorem read_z80Ram_low_after_serve {address : UInt32} {offset cell : Fin 0x2000}
    (hd : Region.decode address m.cartridge.size = .z80Ram offset)
    (hc : cell.val = (offset.val + 1) % 0x2000) :
    (read host address .low (serve host before (m, h)).1 (serve host before (m, h)).2).1 =
      wordOf 0 (z80RamNow m before cell) := by
  have next : z80Cell? offset .low = some cell := by
    simp only [z80Cell?, Option.some.injEq]
    exact Fin.ext hc.symm
  rw [read_z80Ram host .low _ (by rwa [cartridge_serve]), next]
  simp [onLane, Lanes.hasHigh, Lanes.hasLow, Lanes.wordOf_and_mask, z80RamNow, get_z80Ram_serve]

theorem memory_answer_z80_word {q : BusRequest} {address : UInt32} {offset : Fin 0x2000}
    (s : Memory ν × η) (hd : Region.decode address s.1.cartridge.size = .z80Ram offset)
    (hq : q = .read address .both ∨ ∃ value, q = .write address .both value) :
    (answer host q s).2.1 = s.1 := by
  obtain rfl | ⟨value, rfl⟩ := hq
  · simp [answer, read, readWord, hd, z80Cell?]
  · simp [answer, write_z80Ram host .both value s.2 hd, z80Cell?]

end Read

/-- Over any run of bus accesses the two memories are byte-addressed: every cell holds the byte of
the last write that hits it, every read returns the current cells of the requested lanes, and word
accesses to the sound processor's memory change nothing. -/
theorem rams_are_byte_addressed [VideoUnit ν] (host : Host η) (qs : List BusRequest)
    (m : Memory ν) (h : η) :
    (∀ cell, (serve host qs (m, h)).1.workRam.read cell =
      lastByte (workRamByte? m.cartridge.size cell) qs (m.workRam.read cell)) ∧
    (∀ cell, (serve host qs (m, h)).1.z80Ram.get cell =
      lastByte (z80RamByte? m.cartridge.size cell) qs (m.z80Ram.get cell)) ∧
    (∀ (i : Nat) address lanes, qs[i]? = some (.read address lanes) →
      Region.decode address m.cartridge.size = .workRam →
      (replies host qs (m, h))[i]? = some (some (wordOf
        (if lanes.hasHigh then workRamNow m (qs.take i) (address.toNat % 65536) else 0)
        (if lanes.hasLow then workRamNow m (qs.take i) ((address.toNat + 1) % 65536) else 0)))) ∧
    (∀ (i : Nat) address cell, qs[i]? = some (.read address .high) →
      Region.decode address m.cartridge.size = .z80Ram cell →
      (replies host qs (m, h))[i]? = some (some (wordOf (z80RamNow m (qs.take i) cell) 0))) ∧
    (∀ (i : Nat) address offset cell, qs[i]? = some (.read address .low) →
      Region.decode address m.cartridge.size = .z80Ram offset →
      cell.val = (offset.val + 1) % 0x2000 →
      (replies host qs (m, h))[i]? = some (some (wordOf 0 (z80RamNow m (qs.take i) cell)))) ∧
    (∀ (i : Nat) q address offset, qs[i]? = some q →
      Region.decode address m.cartridge.size = .z80Ram offset →
      (q = .read address .both ∨ ∃ value, q = .write address .both value) →
      (serve host (qs.take (i + 1)) (m, h)).1 = (serve host (qs.take i) (m, h)).1) := by
  refine ⟨fun cell => read_workRam_serve host qs (m, h) cell,
    fun cell => get_z80Ram_serve host qs (m, h) cell, ?_, ?_, ?_, ?_⟩
  · intro i address lanes hi hd
    rw [getElem?_replies, hi]
    simp only [Option.map_some, reply?, answer, read_workRam_after_serve host _ m h lanes hd]
  · intro i address cell hi hd
    rw [getElem?_replies, hi]
    simp only [Option.map_some, reply?, answer, read_z80Ram_high_after_serve host _ m h hd]
  · intro i address offset cell hi hd hc
    rw [getElem?_replies, hi]
    simp only [Option.map_some, reply?, answer, read_z80Ram_low_after_serve host _ m h hd hc]
  · intro i q address offset hi hd hq
    rw [List.take_add_one, hi, serve_append]
    exact memory_answer_z80_word host _ (by rwa [cartridge_serve]) hq

/-- A word written across the end of work RAM is read back at a mirror of its address. -/
theorem rams_are_byte_addressed_across_the_end :
    let qs : List BusRequest := [.write 0xFFFFFF .both 0x1122, .read 0xE0FFFF .both]
    (replies Host.idle qs (Memory.initial Vdp.initial, ()))[1]? = some (some 0x1122) := by
  intro qs
  have h := (rams_are_byte_addressed Host.idle qs (Memory.initial Vdp.initial) ()).2.2.1 1
    0xE0FFFF .both rfl (by decide)
  refine h.trans ?_
  decide

end Bus
end Genesis
