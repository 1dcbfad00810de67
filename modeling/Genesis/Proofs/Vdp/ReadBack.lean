import Genesis.Proofs.Vdp.ControlWords
import Genesis.Proofs.Vdp.Masks

/-!
# Reading back what was written

A memory is a row of cells of a word each. A store reaches the cell of the command address and no
other (`wordAt_store`), and with an increment of two a list of words that is no longer than the row
goes to different cells, also across the end of the address space. So reading from the same address
shows each word as its memory keeps it (`written_words_are_read_back`).
-/

namespace Genesis
namespace Vdp

def wordAt (s : Store) (address : UInt16) (v : Vdp) : UInt16 :=
  match s with
  | .vram => wordOf (v.vram.read (address &&& 0xFFFE)) (v.vram.read (address ||| 1))
  | .cram => v.cram.get (cramIndex address)
  | .vsram => (v.vsram.get? (vsramIndex address)).getD 0

/-- How many words go to different cells, two bytes of address for each. -/
def Store.cells : Store → Nat
  | .vram | .vsram => 0x8000
  | .cram => 64

def Store.cell (s : Store) (address : UInt16) : Nat := address.toNat / 2 % s.cells

/-- What a memory shows of a word that has been written at an address: at an odd address of video
memory the bytes are exchanged, and scroll entries from 40 on do not exist. -/
def Store.shown (s : Store) (address word : UInt16) : UInt16 :=
  match s with
  | .vram => if address.toNat % 2 = 0 then word else wordOf (lowByte word) (highByte word)
  | .cram => word &&& 0x0EEE
  | .vsram => if address.toNat / 2 < 40 then word &&& 0x07FF else 0

theorem load_eq_wordAt {s : Store} {v : Vdp} (reads : readStore? v.code = some s) :
    v.load = v.wordAt s v.address := by
  unfold load
  rw [reads]
  cases s <;> rfl

section Halves

variable (a d : UInt16)

theorem toNat_and_even : (a &&& 0xFFFE).toNat = a.toNat / 2 * 2 := by
  have h := a.toNat_lt
  have field : a.toNat &&& 0xFFFE = 2 * (a.toNat / 2 % 32768) := and_field _ 1 15
  rw [UInt16.toNat_and]
  simp only [UInt16.reduceToNat, field]
  omega

theorem toNat_or_one : (a ||| 1).toNat = a.toNat / 2 * 2 + 1 := by
  have half : (a.toNat ||| 1) / 2 = a.toNat / 2 := by simp [Nat.or_div_two]
  have odd : (a.toNat ||| 1) % 2 = 1 := by simp
  rw [UInt16.toNat_or]
  simp only [UInt16.reduceToNat]
  omega

theorem toNat_xor_one : (a ^^^ 1).toNat = a.toNat / 2 * 2 + (1 - a.toNat % 2) := by
  have half : (a.toNat ^^^ 1) / 2 = a.toNat / 2 := by simp [Nat.xor_div_two]
  have odd : (a.toNat ^^^ 1) % 2 = 1 ↔ ¬ a.toNat % 2 = 1 := by
    rw [Nat.xor_mod_two_eq_one]
    omega
  rw [UInt16.toNat_xor]
  simp only [UInt16.reduceToNat]
  omega

theorem eq_and_even_iff :
    d = a &&& 0xFFFE ↔ a.toNat / 2 = d.toNat / 2 ∧ d.toNat % 2 = 0 := by
  rw [← UInt16.toNat_inj, toNat_and_even]
  omega

theorem eq_or_one_iff : d = a ||| 1 ↔ a.toNat / 2 = d.toNat / 2 ∧ d.toNat % 2 ≠ 0 := by
  rw [← UInt16.toNat_inj, toNat_or_one]
  omega

theorem xor_one_eq_and_even_iff :
    d ^^^ 1 = a &&& 0xFFFE ↔ a.toNat / 2 = d.toNat / 2 ∧ d.toNat % 2 ≠ 0 := by
  rw [← UInt16.toNat_inj, toNat_and_even, toNat_xor_one]
  omega

theorem xor_one_eq_or_one_iff :
    d ^^^ 1 = a ||| 1 ↔ a.toNat / 2 = d.toNat / 2 ∧ d.toNat % 2 = 0 := by
  rw [← UInt16.toNat_inj, toNat_or_one, toNat_xor_one]
  omega

end Halves

theorem wordAt_store {s : Store} {v : Vdp} (writes : writeStore? v.code = some s)
    (word a : UInt16) :
    (v.store word).wordAt s a =
      if s.cell a = s.cell v.address then s.shown v.address word else v.wordAt s a := by
  have ha := a.toNat_lt
  have hd := v.address.toNat_lt
  cases s with
  | vram =>
    have cell (x : UInt16) : Store.cell .vram x = x.toNat / 2 := by
      have := x.toNat_lt
      simp [Store.cell, Store.cells]
      omega
    simp only [wordAt, read_vram_store, writes, if_true, eq_and_even_iff a v.address,
      eq_or_one_iff a v.address, xor_one_eq_and_even_iff a v.address,
      xor_one_eq_or_one_iff a v.address, cell, Store.shown]
    by_cases same : a.toNat / 2 = v.address.toNat / 2
    · by_cases even : v.address.toNat % 2 = 0 <;> simp [same, even]
    · simp [same]
  | cram =>
    have index : cramIndex v.address = cramIndex a ↔
        Store.cell .cram a = Store.cell .cram v.address := by
      simp [cramIndex, cramEntry, Store.cell, Store.cells, eq_comm]
    simp only [wordAt, cram_store, writes, if_true, Bank.get_put, index, Store.shown]
  | vsram =>
    have cell (x : UInt16) : Store.cell .vsram x = x.toNat / 2 := by
      have := x.toNat_lt
      simp [Store.cell, Store.cells]
      omega
    simp only [wordAt, vsram_store, writes, if_true, cell, Store.shown, vsramIndex, Bank.get?]
    by_cases present : a.toNat / 2 < 40
    · simp only [present, dif_pos, Bank.get_put?, Option.getD_some]
      grind
    · grind

def storeAll (words : List UInt16) (v : Vdp) : Vdp := words.foldl (fun v word => v.store word) v

/-- The address after some accesses with an increment of two. -/
def addressAfter (a : UInt16) (i : Nat) : UInt16 := a + UInt16.ofNat i * 2

theorem toNat_addressAfter (a : UInt16) (i : Nat) :
    (addressAfter a i).toNat = (a.toNat + 2 * i) % 65536 := by
  simp [addressAfter, UInt16.toNat_add, UInt16.toNat_mul]
  omega

theorem addressAfter_zero (a : UInt16) : addressAfter a 0 = a := by
  simp [addressAfter]

theorem addressAfter_succ (a : UInt16) (i : Nat) :
    addressAfter a (i + 1) = addressAfter (a + 2) i := by
  apply UInt16.toNat_inj.1
  rw [toNat_addressAfter, toNat_addressAfter, UInt16.toNat_add]
  simp only [UInt16.reduceToNat]
  omega

/-- Fewer words than there are cells go to different cells, wherever they start. -/
theorem Store.cell_addressAfter_inj (s : Store) (a : UInt16) {i j : Nat} (hi : i < s.cells)
    (hj : j < s.cells) (same : s.cell (addressAfter a i) = s.cell (addressAfter a j)) : i = j := by
  have ha := a.toNat_lt
  simp only [Store.cell, toNat_addressAfter] at same
  cases s <;> simp only [Store.cells] at hi hj same <;> omega

theorem wordAt_storeAll_of_ne {s : Store} {words : List UInt16} {v : Vdp} {b : UInt16}
    (writes : writeStore? v.code = some s) (two : v.autoIncrement = 2)
    (others : ∀ j < words.length, s.cell b ≠ s.cell (addressAfter v.address j)) :
    (storeAll words v).wordAt s b = v.wordAt s b := by
  induction words generalizing v with
  | nil => rfl
  | cons word words ih =>
    have first := others 0 (by simp)
    rw [addressAfter_zero] at first
    have rest : ∀ j < words.length, s.cell b ≠ s.cell (addressAfter (v.store word).address j) := by
      intro j hj
      rw [address_store, two, ← addressAfter_succ]
      exact others (j + 1) (by simpa using hj)
    have stored : (storeAll words (v.store word)).wordAt s b = (v.store word).wordAt s b :=
      ih (by rwa [code_store]) (by rwa [autoIncrement_store]) rest
    exact stored.trans (by rw [wordAt_store writes, if_neg first])

theorem wordAt_storeAll {s : Store} {words : List UInt16} {v : Vdp}
    (writes : writeStore? v.code = some s) (two : v.autoIncrement = 2)
    (fits : words.length ≤ s.cells) {i : Nat} (hi : i < words.length) :
    (storeAll words v).wordAt s (addressAfter v.address i) =
      s.shown (addressAfter v.address i) words[i] := by
  induction words generalizing v i with
  | nil => simp at hi
  | cons word words ih =>
    have length : words.length + 1 ≤ s.cells := fits
    have writes' : writeStore? (v.store word).code = some s := by rwa [code_store]
    have two' : (v.store word).autoIncrement = 2 := by rwa [autoIncrement_store]
    have address : (v.store word).address = v.address + 2 := by rw [address_store, two]
    cases i with
    | zero =>
      have others : ∀ j < words.length,
          s.cell v.address ≠ s.cell (addressAfter (v.store word).address j) := by
        intro j hj same
        have apart := s.cell_addressAfter_inj v.address (i := 0) (j := j + 1) (by omega) (by omega)
        rw [address, ← addressAfter_succ] at same
        rw [addressAfter_zero] at apart
        exact absurd (apart same) (by omega)
      have kept : (storeAll words (v.store word)).wordAt s v.address =
          (v.store word).wordAt s v.address := wordAt_storeAll_of_ne writes' two' others
      rw [addressAfter_zero]
      exact kept.trans (by rw [wordAt_store writes, if_pos rfl]; rfl)
    | succ i =>
      have later := ih writes' two' (by omega) (Nat.lt_of_succ_lt_succ hi)
      rw [address, ← addressAfter_succ] at later
      exact later

def readWords : Nat → Vdp → List UInt16 × Vdp
  | 0, v => ([], v)
  | n + 1, v =>
    let (word, v) := (VideoUnit.readData v).value
    let (words, v) := readWords n v
    (word :: words, v)

theorem readData_of_clear {v : Vdp} (clear : v.latched = false) :
    (VideoUnit.readData v).value = (v.load, v.advance) := by
  obtain ⟨⟩ := v
  subst clear
  rfl

/-- Reading moves the address on and changes nothing else. -/
theorem readWords_eq {s : Store} {v : Vdp} (reads : readStore? v.code = some s)
    (clear : v.latched = false) (two : v.autoIncrement = 2) (n : Nat) :
    readWords n v =
      ((List.range n).map fun i => v.wordAt s (addressAfter v.address i),
        { v with address := addressAfter v.address n }) := by
  induction n generalizing v with
  | zero => simp [readWords, addressAfter_zero]
  | succ n ih =>
    have address : v.advance.address = v.address + 2 := congrArg (v.address + ·) two
    have rest := ih (v := v.advance) reads clear two
    rw [address] at rest
    simp only [readWords, readData_of_clear clear, rest, ← addressAfter_succ,
      load_eq_wordAt reads, List.range_succ_eq_map, List.map_cons, List.map_map,
      addressAfter_zero]
    rfl

/-- The two control words that name a command. -/
def command (address : UInt16) (code : UInt8) (memory : UInt32 → UInt16) : List Operation :=
  [.control (firstWord address code) memory, .control (secondWord address code) memory]

/-- The low four bits of the codes that write a memory. -/
def Store.writeCode : Store → UInt8
  | .vram => 0x1
  | .cram => 0x3
  | .vsram => 0x5

/-- The low four bits of the codes that read a memory. -/
def Store.readCode : Store → UInt8
  | .vram => 0x0
  | .cram => 0x8
  | .vsram => 0x4

section Codes

variable {s : Store} {code : UInt8}

theorem writeStore?_of_code (writes : code &&& 0x0F = s.writeCode) : writeStore? code = some s := by
  rw [writeStore?, writes]
  cases s <;> rfl

theorem readStore?_of_code (reads : code &&& 0x0F = s.readCode) : readStore? code = some s := by
  rw [readStore?, reads]
  cases s <;> rfl

theorem code_not_register (named : code &&& 0x0F = s.writeCode ∨ code &&& 0x0F = s.readCode) :
    code.toNat % 4 ≠ 2 := by
  have low : (code &&& 0x0F).toNat = code.toNat % 16 := by
    rw [UInt8.toNat_and]
    exact Nat.and_two_pow_sub_one_eq_mod _ 4
  simp only [← UInt8.toNat_inj, low] at named
  cases s <;> simp only [Store.writeCode, Store.readCode, UInt8.reduceToNat] at named <;> omega

end Codes

theorem and_transferBit {code : UInt8} (plain : code < 0x20) : code &&& 0x20 = 0 := by
  have small : code.toNat < 32 := UInt8.lt_iff_toNat_lt.1 plain
  have field : code.toNat &&& 32 = 32 * (code.toNat / 32 % 2) := and_field _ 5 1
  apply UInt8.toNat_inj.1
  rw [UInt8.toNat_and]
  simp only [UInt8.reduceToNat, field]
  omega

theorem after_command {v : Vdp} (clear : v.latched = false) {code : UInt8} (plain : code < 0x20)
    (named : code.toNat % 4 ≠ 2) (a : UInt16) (memory : UInt32 → UInt16) :
    after (command a code memory) v = { v with address := a, code := code, latched := false } := by
  have six : code.toNat < 64 := by
    have small := UInt8.lt_iff_toNat_lt.1 plain
    exact Nat.lt_of_lt_of_le small (by decide)
  have first : (Operation.control (firstWord a code) memory).perform v =
      v.withFirstHalf (firstWord a code) := by
    rw [perform_control, clear, readingOf_firstWord a named, taken]
  have second (w : Vdp) (full : w.latched = true) :
      (Operation.control (secondWord a code) memory).perform w =
        (w.withSecondHalf (secondWord a code)).transferred memory := by
    rw [perform_control, full]
    rfl
  have idle : wantsTransfer { v with address := a, code := code, latched := false } = false := by
    simp [wantsTransfer, and_transferBit plain]
  rw [command, after_cons, after_cons, after_nil, first, second _ rfl,
    withSecondHalf_withFirstHalf a six, transferred, idle]
  rfl

theorem after_data {v : Vdp} (clear : v.latched = false) (idle : v.fillArmed = false)
    (words : List UInt16) : after (words.map .data) v = storeAll words v := by
  induction words generalizing v with
  | nil => rfl
  | cons word words ih =>
    have stored : (Operation.data word).perform v = v.store word :=
      writeData_of_idle word v clear idle
    rw [List.map_cons, after_cons, stored]
    exact ih ((latched_store word v).trans clear) ((fillArmed_store word v).trans idle)

/-- A memory is the same in both states. -/
def Store.Kept (s : Store) (v w : Vdp) : Prop :=
  match s with
  | .vram => w.vram = v.vram
  | .cram => w.cram = v.cram
  | .vsram => w.vsram = v.vsram

theorem Store.Kept.trans {s : Store} {u v w : Vdp} (h : s.Kept u v) (h' : s.Kept v w) :
    s.Kept u w := by
  cases s <;> exact Eq.trans h' h

theorem kept_store {s : Store} {v : Vdp} (elsewhere : writeStore? v.code ≠ some s)
    (word : UInt16) : s.Kept v (v.store word) := by
  cases s with
  | vram => exact Ram.ext_read fun cell => by rw [read_vram_store, if_neg elsewhere]
  | cram => exact (cram_store word v).trans (if_neg elsewhere)
  | vsram => exact (vsram_store word v).trans (if_neg elsewhere)

theorem kept_storeAll {s : Store} {v : Vdp} (elsewhere : writeStore? v.code ≠ some s)
    (words : List UInt16) : s.Kept v (storeAll words v) := by
  induction words generalizing v with
  | nil => cases s <;> rfl
  | cons word words ih =>
    exact (kept_store elsewhere word).trans (ih (by rwa [code_store]))

theorem registers_storeAll (words : List UInt16) (v : Vdp) :
    (storeAll words v).registers = v.registers := by
  induction words generalizing v with
  | nil => rfl
  | cons word words ih => exact (ih _).trans (registers_store word v)

theorem latched_storeAll (words : List UInt16) (v : Vdp) :
    (storeAll words v).latched = v.latched := by
  induction words generalizing v with
  | nil => rfl
  | cons word words ih => exact (ih _).trans (latched_store word v)

/-- A write command, its data and a read command at the same address leave the stored words and the
read command. -/
theorem after_write_then_read {v : Vdp} (idle : v.fillArmed = false) (clear : v.latched = false)
    {write read : UInt8} (plainWrite : write < 0x20) (plainRead : read < 0x20)
    (namedWrite : write.toNat % 4 ≠ 2) (namedRead : read.toNat % 4 ≠ 2) (a : UInt16)
    (words : List UInt16) (memory : UInt32 → UInt16) :
    after (command a write memory ++ words.map .data ++ command a read memory) v =
      { storeAll words { v with address := a, code := write, latched := false } with
        address := a, code := read, latched := false } := by
  have append (xs ys : List Operation) (v : Vdp) : after (xs ++ ys) v = after ys (after xs v) :=
    List.foldl_append
  have stored := after_data (v := { v with address := a, code := write, latched := false }) rfl
    idle words
  rw [append, append, after_command clear plainWrite namedWrite, stored]
  exact after_command (latched_storeAll words _) plainRead namedRead a memory

/-- What is read back of the word `i` of a list that was written from an address on. -/
def Store.readBack (s : Store) (a : UInt16) (i : Nat) (word : UInt16) : UInt16 :=
  match s with
  | .vram => if a.toNat % 2 = 0 then word else wordOf (lowByte word) (highByte word)
  | .cram => word &&& 0x0EEE
  | .vsram => if (a.toNat + 2 * i) % 65536 / 2 < 40 then word &&& 0x07FF else 0

theorem Store.shown_addressAfter (s : Store) (a : UInt16) (i : Nat) (word : UInt16) :
    s.shown (addressAfter a i) word = s.readBack a i word := by
  have parity : (a.toNat + 2 * i) % 65536 % 2 = a.toNat % 2 := by omega
  cases s <;> simp only [Store.shown, Store.readBack, toNat_addressAfter, parity]

/-- Words written to one of the memories from an address on are read back from there, each as the
memory keeps it, if there are no more than the memory has cells; the other memories and the
registers stay as they are. Video memory is written under the code 1 and read under 0, the colours
under 3 and 8, the scroll entries under 5 and 4. -/
theorem written_words_are_read_back (s : Store) {v : Vdp} (idle : v.fillArmed = false)
    (clear : v.latched = false) (two : v.register 15 = 2) {write read : UInt8}
    (writes : write &&& 0x0F = s.writeCode) (reads : read &&& 0x0F = s.readCode)
    (plainWrite : write < 0x20) (plainRead : read < 0x20) (a : UInt16) (words : List UInt16)
    (fits : words.length ≤ s.cells) (memory : UInt32 → UInt16) :
    let sent := after (command a write memory ++ words.map .data ++ command a read memory) v
    let got := readWords words.length sent
    got.1 = words.mapIdx (s.readBack a) ∧
      (∀ other, other ≠ s → other.Kept v got.2) ∧ got.2.registers = v.registers := by
  intro sent got
  have increment : v.autoIncrement = 2 := UInt16.toNat_inj.1 two
  have target : writeStore? write = some s := writeStore?_of_code writes
  have source : readStore? read = some s := readStore?_of_code reads
  let ready : Vdp := { v with address := a, code := write, latched := false }
  let written := storeAll words ready
  have steps : sent = { written with address := a, code := read, latched := false } :=
    after_write_then_read idle clear plainWrite plainRead (code_not_register (.inl writes))
      (code_not_register (.inr reads)) a words memory
  have registers : written.registers = v.registers := registers_storeAll words ready
  have increment' : sent.autoIncrement = 2 := by
    rw [steps, ← increment]
    exact congrArg (fun r : Bank UInt8 24 => (r.get 15).toUInt16) registers
  have result : got = ((List.range words.length).map fun i => written.wordAt s (addressAfter a i),
      { sent with address := addressAfter sent.address words.length }) := by
    refine (readWords_eq (by rw [steps]; exact source) (by rw [steps]) increment' _).trans ?_
    rw [steps]
    cases s <;> rfl
  rw [result]
  refine ⟨?_, fun other apart => ?_, ?_⟩
  · apply List.ext_getElem
    · simp
    · intro i hi _
      have inside : i < words.length := by simpa using hi
      have shown := wordAt_storeAll (v := ready) target increment fits inside
      rw [s.shown_addressAfter] at shown
      simpa using shown
  · have elsewhere : writeStore? ready.code ≠ some other := fun same =>
      apart (Option.some.inj (same.symm.trans target))
    have kept : other.Kept ready written := kept_storeAll elsewhere words
    rw [steps]
    cases other <;> exact kept
  · rw [steps]
    exact registers

/-- All three memories: video memory at an odd address, with the second word across the end of the
addresses; two colours from the last entry on; two scroll entries, of which there is only the first.
-/
theorem written_words_are_read_back_across_the_end :
    let v : Vdp := { registers := (Bank.fill 24 0).put 15 2 }
    let memory : UInt32 → UInt16 := fun _ => 0
    let back (write read : UInt8) (a : UInt16) (words : List UInt16) : List UInt16 :=
      (readWords words.length
        (after (command a write memory ++ words.map .data ++ command a read memory) v)).1
    v.fillArmed = false ∧ v.latched = false ∧ v.register 15 = 2 ∧
      back 0x01 0x00 0xFFFF [0x1234, 0x5678] = [0x3412, 0x7856] ∧
      back 0x03 0x08 0x007E [0xFFFF, 0x1234] = [0x0EEE, 0x0224] ∧
      back 0x05 0x04 0x004E [0xFFFF, 0xFFFF] = [0x07FF, 0x0000] := by
  intro v memory back
  have two : v.register 15 = 2 := by decide
  have video := written_words_are_read_back .vram (v := v) rfl rfl two
    (rfl : 0x01 &&& 0x0F = Store.vram.writeCode) (rfl : 0x00 &&& 0x0F = Store.vram.readCode)
    (by decide) (by decide) 0xFFFF [0x1234, 0x5678] (by decide) memory
  have colours := written_words_are_read_back .cram (v := v) rfl rfl two
    (rfl : 0x03 &&& 0x0F = Store.cram.writeCode) (rfl : 0x08 &&& 0x0F = Store.cram.readCode)
    (by decide) (by decide) 0x007E [0xFFFF, 0x1234] (by decide) memory
  have scroll := written_words_are_read_back .vsram (v := v) rfl rfl two
    (rfl : 0x05 &&& 0x0F = Store.vsram.writeCode) (rfl : 0x04 &&& 0x0F = Store.vsram.readCode)
    (by decide) (by decide) 0x004E [0xFFFF, 0xFFFF] (by decide) memory
  exact ⟨rfl, rfl, two, video.1, colours.1, scroll.1⟩

end Vdp
end Genesis
