import Genesis.Proofs.Vdp.BusTransfer
import Genesis.Proofs.Vdp.PendingFill
import Genesis.Proofs.Vdp.ReadBack

/-!
# Footprints in video memory

Fills and copies write where the command address comes to and nowhere else, with any increment and
across the end of the addresses. A fill leaves one byte there (`fill_writes_its_footprint`). A copy
leaves what the source held before it started, as long as no byte is written before it is read; one
place behind its source it repeats a single byte instead (`copy_moves_bytes`).
-/

namespace Genesis
namespace Vdp

/-- Where the command address is after some accesses. -/
def place (v : Vdp) (i : Nat) : UInt16 := UInt16.ofNat (v.address.toNat + i * v.register 15)

def Visits (v : Vdp) (n : Nat) (cell : UInt16) : Prop := ∃ i < n, v.place i = cell

instance (v : Vdp) (n : Nat) (cell : UInt16) : Decidable (v.Visits n cell) :=
  inferInstanceAs (Decidable (∃ i, i < n ∧ _))

section Places

variable (v : Vdp)

theorem toNat_place (i : Nat) :
    (v.place i).toNat = (v.address.toNat + i * v.register 15) % 65536 :=
  UInt16.toNat_ofNat'

theorem place_zero : v.place 0 = v.address := by
  simp [place]

theorem toNat_autoIncrement : v.autoIncrement.toNat = v.register 15 := by
  simp [autoIncrement, register, Bank.get?]

theorem place_eq (i : Nat) : v.place i = v.address + UInt16.ofNat i * v.autoIncrement := by
  apply UInt16.toNat_inj.1
  rw [toNat_place, UInt16.toNat_add, UInt16.toNat_mul, toNat_autoIncrement, UInt16.toNat_ofNat']
  simp [Nat.mod_mul_mod]

theorem visits_succ_iff (n : Nat) (cell : UInt16) :
    v.Visits (n + 1) cell ↔ v.address = cell ∨ ∃ k < n, v.place (k + 1) = cell := by
  rw [Visits, Nat.exists_lt_succ_left, place_zero]

/-- Accesses that go around the addresses no more than once meet different places. -/
theorem place_ne_of_lt {v : Vdp} {n : Nat} (moves : 1 ≤ v.register 15)
    (once : n * v.register 15 ≤ 65536) {i j : Nat} (less : i < j) (hj : j < n) :
    v.place i ≠ v.place j := by
  intro same
  have apart : i * v.register 15 + v.register 15 ≤ j * v.register 15 := by
    rw [← Nat.succ_mul]
    exact Nat.mul_le_mul_right _ less
  have room : j * v.register 15 + v.register 15 ≤ n * v.register 15 := by
    rw [← Nat.succ_mul]
    exact Nat.mul_le_mul_right _ hj
  have equal := congrArg UInt16.toNat same
  rw [toNat_place, toNat_place] at equal
  omega

end Places

section Fill

theorem fillCovers_iff (v : Vdp) (cell : UInt16) :
    v.FillCovers cell ↔ ∃ k < v.wordCount, v.place (k + 1) = cell := by
  simp only [FillCovers, transferLength_eq_wordCount, place_eq]

theorem wordCount_pos (v : Vdp) : 0 < v.wordCount :=
  transferLength_eq_wordCount v ▸ v.transferLength_pos

theorem fill_with_of_vram {v : Vdp} (target : writeStore? v.code = some .vram) (w : UInt16) :
    v.fill w =
      { v with
        vram := (v.fill w).vram, address := v.place (v.wordCount + 1), fillArmed := false } := by
  have cram : (v.store w).cram = v.cram := by simp [cram_store, target]
  have vsram : (v.store w).vsram = v.vsram := by simp [vsram_store, target]
  have filled := fill_with w v
  rwa [cram, vsram, transferLength_eq_wordCount, ← place_eq] at filled

theorem read_vram_fill_of_vram {v : Vdp} (target : writeStore? v.code = some .vram) (w : UInt16)
    (cell : UInt16) :
    (v.fill w).vram.read cell =
      if v.Visits (v.wordCount + 1) cell then highByte w
      else if cell = v.address ^^^ 1 then lowByte w
      else v.vram.read cell := by
  have visits := visits_succ_iff v v.wordCount cell
  rw [← fillCovers_iff] at visits
  rw [read_vram_fill, read_vram_store, if_pos target]
  by_cases covered : v.FillCovers cell
  · rw [if_pos covered, if_pos (visits.2 (.inr covered))]
  · rw [if_neg covered]
    by_cases first : v.address = cell
    · have beside : v.address ^^^ 1 ≠ cell := first ▸ xor_one_ne v.address
      rw [if_neg beside, if_pos first, if_pos (visits.2 (.inl first))]
    · have missed : ¬ v.Visits (v.wordCount + 1) cell := fun h => (visits.1 h).elim first covered
      rw [if_neg first, if_neg missed]
      simp only [eq_comm]

/-- With an increment of one, a fill from an even address comes to the place of the low byte. -/
theorem visits_beside {v : Vdp} (one : v.register 15 = 1) (even : v.address.toNat % 2 = 0) {n : Nat}
    (some : 1 ≤ n) : v.Visits (n + 1) (v.address ^^^ 1) := by
  have small := v.address.toNat_lt
  refine ⟨1, by omega, UInt16.toNat_inj.1 ?_⟩
  rw [toNat_place, one, toNat_xor_one]
  omega

/-- A data word that carries out a fill of video memory leaves its high byte where the command
address is and wherever the repetitions bring it, its low byte beside the first place unless they
come there, and every other byte, the other memories and the registers as they were. With an
increment of one from an even address, the places are those from the first to the last. -/
theorem fill_writes_its_footprint {v : Vdp} (armed : v.fillArmed = true)
    (target : v.code &&& 0x0F = 0x01) (w : UInt16) :
    let n := v.wordCount
    let next := (VideoUnit.writeData w v).value
    next = { v with
      vram := next.vram, address := v.place (n + 1), latched := false, fillArmed := false } ∧
    (∀ cell, next.vram.read cell =
      if v.Visits (n + 1) cell then highByte w
      else if cell = v.address ^^^ 1 then lowByte w
      else v.vram.read cell) ∧
    (v.register 15 = 1 → v.address.toNat % 2 = 0 →
      (∀ i ≤ n, next.vram.read (UInt16.ofNat (v.address.toNat + i)) = highByte w) ∧
      ∀ cell, (∀ i ≤ n, cell ≠ UInt16.ofNat (v.address.toNat + i)) →
        next.vram.read cell = v.vram.read cell) := by
  intro n next
  have writes : writeStore? v.code = some .vram := if_pos target
  have filled : next = fill w { v with latched := false } :=
    (value_writeData w v).trans (if_pos armed)
  have read (cell : UInt16) : next.vram.read cell = _ :=
    (congrArg (fun u : Vdp => u.vram.read cell) filled).trans
      (read_vram_fill_of_vram (v := { v with latched := false }) writes w cell)
  refine ⟨?_, read, fun one even => ?_⟩
  · rw [filled]
    exact fill_with_of_vram (v := { v with latched := false }) writes w
  · have places (i : Nat) : v.place i = UInt16.ofNat (v.address.toNat + i) := by
      rw [place, one, Nat.mul_one]
    constructor
    · intro i hi
      rw [read, if_pos ⟨i, Nat.lt_succ_of_le hi, places i⟩]
    · intro cell outside
      have missed : ¬ v.Visits (n + 1) cell := fun ⟨i, hi, here⟩ =>
        outside i (Nat.le_of_lt_succ hi) (here.symm.trans (places i))
      have beside : cell ≠ v.address ^^^ 1 := fun here =>
        missed (here ▸ visits_beside one even v.wordCount_pos)
      exact (read cell).trans ((if_neg missed).trans (if_neg beside))

/-- Two repetitions across the end of the addresses: with an increment of two from an odd address,
where the low byte stays, and with an increment of one from an even address, where it does not. -/
theorem fill_writes_its_footprint_across_the_end :
    let odd : Vdp := {
      registers := ((Bank.fill 24 0).put? 15 2).put? 19 2
      address := 0xFFFF
      code := 0x01
      fillArmed := true }
    let even : Vdp := { odd with registers := odd.registers.put? 15 1, address := 0xFFFE }
    let next := (VideoUnit.writeData 0xAB12 odd).value
    odd.fillArmed = true ∧ odd.code &&& 0x0F = 0x01 ∧
      next.address = 5 ∧ next.vram.read 0xFFFE = 0x12 ∧ next.vram.read 1 = 0xAB ∧
      next.vram.read 2 = 0 ∧
      even.register 15 = 1 ∧ even.address.toNat % 2 = 0 ∧
      ∀ i ≤ 2, (VideoUnit.writeData 0xAB12 even).value.vram.read
        (UInt16.ofNat (even.address.toNat + i)) = 0xAB := by
  intro odd even next
  have two : odd.wordCount = 2 := by decide
  obtain ⟨rest, read, -⟩ := fill_writes_its_footprint (v := odd) rfl (by decide) 0xAB12
  obtain ⟨-, -, places⟩ := fill_writes_its_footprint (v := even) rfl (by decide) 0xAB12
  have last := congrArg (fun w => w.address) rest
  rw [two] at last read
  have count : even.wordCount = 2 := by decide
  rw [count] at places
  refine ⟨rfl, by decide, last.trans (by decide), (read _).trans ?_, (read _).trans ?_,
    (read _).trans ?_, by decide, by decide, (places (by decide) (by decide)).1⟩
  · rw [if_neg (by decide), if_pos (by decide)]
    decide
  · rw [if_pos (by decide)]
    decide
  · rw [if_neg (by decide), if_neg (by decide)]
    exact Ram.read_zero 2

end Fill

section Copy

/-- The byte that a copy reads after some others: registers 22 and 21 hold the first address. -/
def sourcePlace (v : Vdp) (i : Nat) : UInt16 :=
  UInt16.ofNat (256 * v.register 22 + v.register 21 + i)

theorem sourcePlace_eq (v : Vdp) (i : Nat) : v.sourcePlace i = v.copySource + UInt16.ofNat i := by
  have first : v.copySource.toNat = 256 * v.register 22 + v.register 21 := toNat_wordOf _ _
  apply UInt16.toNat_inj.1
  rw [sourcePlace, UInt16.toNat_add, first, UInt16.toNat_ofNat', UInt16.toNat_ofNat']
  simp

theorem copyBytes_succ (n : Nat) (source : UInt16) (v : Vdp) :
    copyBytes (n + 1) source v =
      let w := copyBytes n source v
      { w with
        vram := w.vram.write w.address (w.vram.read (source + UInt16.ofNat n)) }.advance := by
  induction n generalizing source v with
  | zero => simp [copyBytes]
  | succ n ih =>
    have next : source + 1 + UInt16.ofNat n = source + UInt16.ofNat (n + 1) := by
      rw [UInt16.ofNat_add]
      grind
    rw [copyBytes, ih, next]
    rfl

theorem copyBytes_with (n : Nat) (source : UInt16) (v : Vdp) :
    copyBytes n source v =
      { v with vram := (copyBytes n source v).vram, address := v.place n } := by
  simp only [place_eq]
  induction n generalizing source v with
  | zero => simp [copyBytes]
  | succ n ih =>
    rw [address_step]
    exact ih (source + 1) { v with vram := v.vram.write v.address (v.vram.read source) }.advance

theorem vram_copyBytes_succ (n : Nat) (source : UInt16) (v : Vdp) :
    (copyBytes (n + 1) source v).vram =
      (copyBytes n source v).vram.write (v.place n)
        ((copyBytes n source v).vram.read (source + UInt16.ofNat n)) := by
  have address : (copyBytes n source v).address = v.place n :=
    congrArg (fun w => w.address) (copyBytes_with n source v)
  rw [copyBytes_succ, ← address]
  rfl

variable {v : Vdp} {n : Nat} {source : UInt16}

/-- Where the command address does not come to, nothing is copied. -/
theorem read_copyBytes_of_not_visits {cell : UInt16} (missed : ¬ v.Visits n cell) :
    (copyBytes n source v).vram.read cell = v.vram.read cell := by
  induction n with
  | zero => rfl
  | succ n ih =>
    have now : v.place n ≠ cell := fun here => missed ⟨n, Nat.lt_succ_self n, here⟩
    have before : ¬ v.Visits n cell := fun ⟨i, hi, here⟩ =>
      missed ⟨i, Nat.lt_succ_of_lt hi, here⟩
    rw [vram_copyBytes_succ, Ram.read_write, if_neg now, ih before]

/-- A byte that is read before it is written arrives as it was, and stays if no later byte goes to
its place. -/
theorem read_copyBytes_place
    (unread : ∀ i j, i < j → j < n → v.place i ≠ source + UInt16.ofNat j)
    (apart : ∀ i j, i < j → j < n → v.place i ≠ v.place j) {i : Nat} (hi : i < n) :
    (copyBytes n source v).vram.read (v.place i) = v.vram.read (source + UInt16.ofNat i) := by
  induction n with
  | zero => exact absurd hi (Nat.not_lt_zero i)
  | succ n ih =>
    rw [vram_copyBytes_succ, Ram.read_write]
    rcases Nat.lt_or_eq_of_le (Nat.le_of_lt_succ hi) with earlier | rfl
    · rw [if_neg (apart i n earlier (Nat.lt_succ_self n)).symm]
      exact ih (fun i j less hj => unread i j less (Nat.lt_succ_of_lt hj))
        (fun i j less hj => apart i j less (Nat.lt_succ_of_lt hj)) earlier
    · rw [if_pos rfl]
      exact read_copyBytes_of_not_visits fun ⟨k, hk, here⟩ =>
        unread k i hk (Nat.lt_succ_self i) here

/-- One place behind its source, a copy reads what it has just written. -/
theorem read_copyBytes_behind
    (behind : ∀ i < n, v.place i = source + UInt16.ofNat (i + 1)) {i : Nat} (hi : i < n) :
    (copyBytes n source v).vram.read (v.place i) = v.vram.read source := by
  induction n generalizing i with
  | zero => exact absurd hi (Nat.not_lt_zero i)
  | succ n ih =>
    have before {i : Nat} := ih (fun i hi => behind i (Nat.lt_succ_of_lt hi)) (i := i)
    -- The byte that is written last is the one that the first place of all has handed down.
    have last : (copyBytes n source v).vram.read (source + UInt16.ofNat n) =
        v.vram.read source := by
      cases n with
      | zero => simp [copyBytes]
      | succ n =>
        rw [← behind n (by omega)]
        exact before (Nat.lt_succ_self n)
    rw [vram_copyBytes_succ, Ram.read_write, last]
    split
    · rfl
    · rename_i other
      have earlier : i ≠ n := fun same => other (same ▸ rfl)
      exact before (by omega)

theorem transferKind_eq_copy_iff (v : Vdp) : v.transferKind = .copy ↔ v.register 23 / 64 = 3 := by
  have bus := transferKind_eq_bus_iff v
  have fill := transferKind_eq_fill_iff v
  have byte := v.register_lt 23
  cases kind : v.transferKind <;> simp [kind] at bus fill ⊢ <;> omega

/-- A command that asks for a copy is carried out on the spot, without a question. -/
theorem writeControl_of_copy {v : Vdp} {word : UInt16} (latched : v.latched = true)
    (wanted : (v.withSecondHalf word).code &&& 0x20 ≠ 0) (enabled : v.transferEnabled = true)
    (mode : v.register 23 / 64 = 3) :
    (writeControl word v : VideoProgram Vdp) =
      pure (copyBytes v.wordCount v.copySource (v.withSecondHalf word)) := by
  have wants : (v.withSecondHalf word).wantsTransfer = true := by
    have kept : (v.withSecondHalf word).transferEnabled = true := enabled
    simp [wantsTransfer, wanted, kept]
  have kind : (v.withSecondHalf word).transferKind = .copy :=
    (transferKind_eq_copy_iff (v.withSecondHalf word)).2 mode
  have length : (v.withSecondHalf word).transferLength = v.wordCount :=
    transferLength_eq_wordCount v
  simp only [writeControl, latched, if_true, latchSecond_eq, wants, startTransfer, kind, length]
  rfl

/-- A command that asks for a copy within video memory leaves, wherever it brings the command
address, bytes of the source, and every other byte, the other memories and the registers as they
were; it asks for nothing outside. If the copy goes around the addresses no more than once and no
place is both source and destination, the bytes are those that the source held before; with an
increment of one from the place behind the source, all are the byte at its start. -/
theorem copy_moves_bytes {v : Vdp} {word : UInt16} (latched : v.latched = true)
    (wanted : (v.withSecondHalf word).code &&& 0x20 ≠ 0) (enabled : v.transferEnabled = true)
    (mode : v.register 23 / 64 = 3) :
    let start := v.withSecondHalf word
    let n := v.wordCount
    ∃ last, (VideoUnit.writeControl word v : VideoProgram Vdp) = pure last ∧
      last = { start with vram := last.vram, address := start.place n } ∧
      (∀ cell, ¬ start.Visits n cell → last.vram.read cell = v.vram.read cell) ∧
      (1 ≤ v.register 15 → n * v.register 15 ≤ 65536 →
        (∀ i < n, ∀ j < n, start.place i ≠ v.sourcePlace j) →
        ∀ i < n, last.vram.read (start.place i) = v.vram.read (v.sourcePlace i)) ∧
      (v.register 15 = 1 → start.address = v.sourcePlace 1 →
        ∀ i < n, last.vram.read (start.place i) = v.vram.read (v.sourcePlace 0)) := by
  intro start n
  refine ⟨copyBytes n v.copySource start, writeControl_of_copy latched wanted enabled mode,
    copyBytes_with n v.copySource start, fun cell missed => read_copyBytes_of_not_visits missed,
    fun moves once disjoint i hi => ?_, fun one behind i hi => ?_⟩
  · simp only [sourcePlace_eq] at disjoint ⊢
    exact read_copyBytes_place (fun i j less hj => disjoint i (Nat.lt_trans less hj) j hj)
      (fun i j less hj => place_ne_of_lt (v := start) moves once less hj) hi
  · have increment : start.autoIncrement = 1 :=
      UInt16.toNat_inj.1 ((toNat_autoIncrement start).trans one)
    have follows (i : Nat) : start.place i = v.copySource + UInt16.ofNat (i + 1) := by
      rw [place_eq, behind, increment, sourcePlace_eq, UInt16.ofNat_add]
      grind
    have first : v.sourcePlace 0 = v.copySource := by simp [sourcePlace_eq]
    rw [first]
    exact read_copyBytes_behind (v := start) (fun i _ => follows i) hi

/-- A copy of three bytes that starts at the last address, to places two apart; and one of three
bytes to the place behind its source. -/
theorem copy_moves_bytes_across_the_end :
    let registers (increment : UInt8) : Bank UInt8 24 :=
      (((((Bank.fill 24 0).put? 1 0x10).put? 15 increment).put? 19 3).put? 21 0xFF).put? 22 0xFF
        |>.put? 23 0xC0
    let vram : Ram := (Ram.zero.write 0xFFFF 0xA1).write 0 0xB2
    let v : Vdp := { vram, registers := registers 2, address := 0x0010, latched := true }
    let w : Vdp := { vram, registers := registers 1, address := 0x0000, latched := true }
    v.latched = true ∧ (v.withSecondHalf 0x0080).code &&& 0x20 ≠ 0 ∧
      v.transferEnabled = true ∧ v.register 23 / 64 = 3 ∧
      (∃ last, (VideoUnit.writeControl 0x0080 v : VideoProgram Vdp) = pure last ∧
        last.address = 0x0016 ∧ last.vram.read 0x0010 = 0xA1 ∧ last.vram.read 0x0012 = 0xB2 ∧
        last.vram.read 0x0011 = 0) ∧
      ∃ last, (VideoUnit.writeControl 0x0080 w : VideoProgram Vdp) = pure last ∧
        last.vram.read 0 = 0xA1 ∧ last.vram.read 1 = 0xA1 ∧ last.vram.read 2 = 0xA1 := by
  intro registers vram v w
  have wanted : (v.withSecondHalf 0x0080).code &&& 0x20 ≠ 0 := by decide
  have wanted' : (w.withSecondHalf 0x0080).code &&& 0x20 ≠ 0 := by decide
  have enabled : v.transferEnabled = true := by decide
  have mode : v.register 23 / 64 = 3 := by decide
  have three : v.wordCount = 3 := by decide
  have three' : w.wordCount = 3 := by decide
  have held : vram.read 0xFFFF = 0xA1 ∧ vram.read 0 = 0xB2 ∧ vram.read 0x0011 = 0 := by
    simp [vram, Ram.read_write]
  obtain ⟨last, silent, rest, missed, copied, -⟩ :=
    copy_moves_bytes (v := v) rfl wanted enabled mode
  obtain ⟨last', silent', -, -, -, repeated⟩ :=
    copy_moves_bytes (v := w) rfl wanted' (by decide) (by decide)
  rw [three] at rest missed copied
  rw [three'] at repeated
  have moved := copied (by decide) (by decide) (by decide)
  have behind := repeated (by decide) (by decide)
  have address : last.address = (v.withSecondHalf 0x0080).place 3 :=
    congrArg (fun u => u.address) rest
  have first := moved 0 (by decide)
  have second := moved 1 (by decide)
  rw [show (v.withSecondHalf 0x0080).place 0 = 0x0010 by decide,
    show v.sourcePlace 0 = 0xFFFF by decide] at first
  rw [show (v.withSecondHalf 0x0080).place 1 = 0x0012 by decide,
    show v.sourcePlace 1 = 0 by decide] at second
  have head := behind 0 (by decide)
  have next := behind 1 (by decide)
  have tail := behind 2 (by decide)
  rw [show w.sourcePlace 0 = 0xFFFF by decide] at head next tail
  rw [show (w.withSecondHalf 0x0080).place 0 = 0 by decide] at head
  rw [show (w.withSecondHalf 0x0080).place 1 = 1 by decide] at next
  rw [show (w.withSecondHalf 0x0080).place 2 = 2 by decide] at tail
  exact ⟨rfl, wanted, enabled, mode,
    ⟨last, silent, address.trans (by decide), first.trans held.1, second.trans held.2.1,
      (missed 0x0011 (by decide)).trans held.2.2⟩,
    last', silent', head.trans held.1, next.trans held.1, tail.trans held.1⟩

end Copy

end Vdp
end Genesis
