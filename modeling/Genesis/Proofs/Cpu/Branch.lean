import Genesis.Proofs.Cpu.Pacing

/-!
# Branches

A branch holds its displacement in the low byte of its only word, or in a second word. Either way it
leads to the address behind its first word, plus the displacement, around both ends of the address
space (`branch_reaches_target`): nothing but the program counter changes, and only the words of the
branch are read. So the base is the same for both forms, although the program counter has passed a
second word.
-/

namespace Genesis
namespace Cpu

section Displacement

variable {d : Int}

/-- Widening keeps a value that stands in two's complement, in the upper half of the range too. -/
theorem toNat_signExtend {n m : Nat} (x : BitVec n) (size : Nat.pow 2 n = m)
    (stands : (x.toNat : Int) = d % m) (low : -m ≤ 2 * d) (high : 2 * d < m) :
    ((x.signExtend 32).toNat : Int) = d % 4294967296 := by
  subst size
  have value : x.toInt = d := by
    rw [BitVec.toInt_eq_toNat_bmod, stands]
    exact (Int.emod_bmod d _).trans (Int.bmod_eq_of_le_mul_two (by omega) (by omega))
  rw [BitVec.signExtend, value, BitVec.toNat_ofInt]
  exact Int.toNat_of_nonneg (Int.emod_nonneg d (by decide))

theorem toNat_extendByte {b : UInt8} (stands : (b.toNat : Int) = d % 256) (low : -128 ≤ d)
    (high : d ≤ 127) : ((extendByte b).toNat : Int) = d % 4294967296 :=
  toNat_signExtend (m := 256) b.toBitVec rfl stands (by omega) (by omega)

theorem toNat_extendWord {w : UInt16} (stands : (w.toNat : Int) = d % 65536) (low : -32768 ≤ d)
    (high : d ≤ 32767) : ((extendWord w).toNat : Int) = d % 4294967296 :=
  toNat_signExtend (m := 65536) w.toBitVec rfl stands (by omega) (by omega)

theorem toNat_word_ofInt (i : Int) : ((UInt16.ofInt i).toNat : Int) = i % 65536 := by
  simp only [UInt16.ofInt, UInt16.toNat_ofNat']
  omega

theorem toNat_long_ofInt (i : Int) : ((UInt32.ofInt i).toNat : Int) = i % 4294967296 := by
  simp only [UInt32.ofInt, UInt32.toNat_ofNat']
  omega

/-- Where a branch leads: to the address behind its first word, plus the displacement. -/
def branchTarget (start : UInt32) (d : Int) : UInt32 := UInt32.ofInt (start.toNat + 2 + d)

theorem add_eq_branchTarget (start : UInt32) {displacement : UInt32}
    (stands : (displacement.toNat : Int) = d % 4294967296) :
    start + 2 + displacement = branchTarget start d := by
  have target := toNat_long_ofInt (start.toNat + 2 + d)
  apply UInt32.toNat_inj.1
  simp only [branchTarget, UInt32.toNat_add, UInt32.toNat_ofNat]
  omega

/-- A branch to itself. -/
example : branchTarget 0x200 (-2) = 0x200 := by decide

end Displacement

inductive BranchForm where
  /-- The displacement stands in the low byte of the only word. -/
  | short
  /-- The displacement is a second word. -/
  | long
deriving DecidableEq

namespace BranchForm

/-- The displacements that a form has room for; zero in the low byte marks the long form. -/
def Holds : BranchForm → Int → Prop
  | short, d => -128 ≤ d ∧ d ≤ 127 ∧ d ≠ 0
  | long, d => -32768 ≤ d ∧ d ≤ 32767

instance : (form : BranchForm) → (d : Int) → Decidable (form.Holds d)
  | short, _ => inferInstanceAs (Decidable (_ ∧ _ ∧ _))
  | long, _ => inferInstanceAs (Decidable (_ ∧ _))

def words : BranchForm → Int → List UInt16
  | short, d => [UInt16.ofInt (0x6000 + d % 256)]
  | long, d => [0x6000, UInt16.ofInt d]

end BranchForm

/-- A first word from 0x6000 to 0x60FF is a branch by its low byte. -/
theorem decode_of_branch {word : UInt16} (high : word.toNat / 256 = 0x60) :
    Instruction.decode word = .branch (lowByte word) := by
  have branch : word >>> 8 = 0x60 := by
    apply UInt16.toNat_inj.1
    simp [UInt16.toNat_shiftRight, Nat.shiftRight_eq_div_pow, high]
  have other {w : UInt16} (outside : w.toNat / 256 ≠ 0x60) : word ≠ w := by
    rintro rfl
    exact outside high
  rw [Instruction.decode, if_neg (other (by decide)), if_neg (other (by decide)),
    if_neg (other (by decide)), if_neg (other (by decide)), if_pos branch]
  rfl

/-- A displacement that fits a byte and is not zero is read back from the word that holds it. -/
theorem decode_short {d : Int} (holds : BranchForm.short.Holds d) :
    ∃ b, Instruction.decode (UInt16.ofInt (0x6000 + d % 256)) = .branch b ∧ b ≠ 0 ∧
      (b.toNat : Int) = d % 256 := by
  obtain ⟨low, high, nonzero⟩ := holds
  have word := toNat_word_ofInt (0x6000 + d % 256)
  have byte := toNat_lowByte (UInt16.ofInt (0x6000 + d % 256))
  refine ⟨_, decode_of_branch (by omega), ?_, by omega⟩
  intro zero
  have none := congrArg UInt8.toNat zero
  rw [byte] at none
  simp only [UInt8.toNat_zero] at none
  omega

section Execution

variable {μ : Type} (answer : (q : BusRequest) → μ → q.Answer × μ)

def Supplies : List UInt16 → UInt32 → μ → Prop
  | [], _, _ => True
  | word :: words, address, x =>
    let r := answer (.read address .both) x
    r.1 = word ∧ Supplies words (address + 2) r.2

def fetches : UInt32 → List UInt16 → List Exchange
  | _, [] => []
  | address, word :: words => Exchange.loads address word :: fetches (address + 2) words

def afterReads : Nat → UInt32 → μ → μ
  | 0, _, x => x
  | n + 1, address, x => afterReads n (address + 2) (answer (.read address .both) x).2

theorem afterReads_of_kept (kept : ∀ address y, (answer (.read address .both) y).2 = y) (n : Nat)
    (address : UInt32) (x : μ) : afterReads answer n address x = x := by
  induction n generalizing address x with
  | zero => rfl
  | succ n ih => rw [afterReads, kept, ih]

variable {answer} {cpu : Cpu} {x : μ} {form : BranchForm} {d : Int}

/-- A branch moves the program counter to its target and reads its words. -/
theorem execute_branch (holds : form.Holds d)
    (supplies : Supplies answer (form.words d) cpu.pc x) :
    (∃ b, cpu.execute.run answer x =
      ((.branch b, { cpu with pc := branchTarget cpu.pc d }),
        afterReads answer (form.words d).length cpu.pc x)) ∧
      cpu.execute.transcript answer x = fetches cpu.pc (form.words d) := by
  rw [execute_eq, Dialogue.run_ask, Dialogue.transcript_ask]
  cases form with
  | short =>
    obtain ⟨word, -⟩ := supplies
    obtain ⟨b, decoded, nonzero, stands⟩ := decode_short holds
    have target := add_eq_branchTarget cpu.pc (toNat_extendByte stands holds.1 holds.2.1)
    rw [word, decoded, ← target]
    simp only [perform, branchDisplacement, if_neg nonzero]
    exact ⟨⟨b, rfl⟩, rfl⟩
  | long =>
    obtain ⟨first, second, -⟩ := supplies
    have target := add_eq_branchTarget cpu.pc
      (toNat_extendWord (toNat_word_ofInt d) holds.1 holds.2)
    have decoded : Instruction.decode 0x6000 = .branch 0 := by decide
    rw [first, decoded, ← target]
    simp only [BranchForm.words, fetches, ← second]
    exact ⟨⟨0, rfl⟩, rfl⟩

/-- On any memory that holds a branch, and in either form, one instruction leads from any program
counter `p` to `p + 2 + d` modulo the long words. No other register changes; the bus sees nothing
but the reads of the words, one or two, and a memory that reads leave alone does not change. The
cost is ten clocks: the first of them carries the branch out and the others count. -/
theorem branch_reaches_target {μ : Type} (answer : (q : BusRequest) → μ → q.Answer × μ) (cpu : Cpu)
    (x : μ) {form : BranchForm} {d : Int} (holds : form.Holds d)
    (supplies : Supplies answer (form.words d) cpu.pc x) :
    let r := cpu.execute.run answer x
    let target := branchTarget cpu.pc d
    (target.toNat : Int) = (cpu.pc.toNat + 2 + d) % 4294967296 ∧
      r.1.2 = { cpu with pc := target } ∧
      r.1.1.cost = 10 ∧
      cpu.execute.transcript answer x = fetches cpu.pc (form.words d) ∧
      r.2 = afterReads answer (form.words d).length cpu.pc x ∧
      ((∀ address y, (answer (.read address .both) y).2 = y) → r.2 = x) ∧
      (∀ (other : BranchForm) {ν : Type} (answer' : (q : BusRequest) → ν → q.Answer × ν) (y : ν),
        other.Holds d → Supplies answer' (other.words d) cpu.pc y →
          (cpu.execute.run answer' y).1.2 = r.1.2) ∧
      (cpu.countdown = 0 → cpu.stopped = false → ∀ n, 1 ≤ n → n ≤ 10 →
        clocked answer n (cpu, x) =
            (({ cpu with pc := target } : Cpu).withCounters (10 - UInt32.ofNat n)
              (cpu.clock + UInt64.ofNat n), r.2) ∧
          exchangesAll answer (List.replicate n .clock) (cpu, x) =
            fetches cpu.pc (form.words d)) := by
  intro r target
  obtain ⟨⟨b, ran⟩, said⟩ := execute_branch holds supplies
  have moved : r.1.2 = { cpu with pc := target } := congrArg (·.1.2) ran
  have costs : r.1.1.cost = 10 := congrArg (·.1.1.cost) ran
  have memory : r.2 = afterReads answer (form.words d).length cpu.pc x := congrArg Prod.snd ran
  refine ⟨toNat_long_ofInt _, moved, costs, said, memory, ?_, ?_, ?_⟩
  · intro kept
    exact memory.trans (afterReads_of_kept answer kept _ _ x)
  · intro other ν answer' y holds' supplies'
    obtain ⟨⟨_, ran'⟩, -⟩ := execute_branch holds' supplies'
    exact (congrArg (·.1.2) ran').trans moved.symm
  · intro due running n pos within
    have dear : n ≤ r.1.1.cost.toNat := by
      rw [costs]
      exact within
    obtain ⟨clocks, exchanged⟩ := clocked_of_le_cost (x := x) due running pos dear
    rw [clocks, exchanged, moved, costs]
    exact ⟨rfl, said⟩

end Execution

/-- A memory that ignores writes. -/
def readOnly (word : UInt32 → UInt16) : (q : BusRequest) → Unit → q.Answer × Unit
  | .read address _, y => (word address, y)
  | .write .., y => ((), y)
  | .note _, y => ((), y)

/-- The two words of a long branch lie on both sides of the end of the address space, and it leads
back across it, as the short form does. -/
theorem branch_reaches_target_around_the_end :
    let long := readOnly fun address => if address = 0 then 0xFF80 else 0x6000
    let short := readOnly fun _ => 0x6080
    let cpu : Cpu := { pc := 0xFFFFFFFE }
    let there : Cpu := { pc := 0xFFFFFF80 }
    (cpu.execute.run long ()).1.2 = there ∧
      (cpu.execute.run long ()).1.1.cost = 10 ∧
      cpu.execute.transcript long () =
        [Exchange.loads 0xFFFFFFFE 0x6000, Exchange.loads 0 0xFF80] ∧
      (cpu.execute.run short ()).1.2 = there ∧
      (clocked long 10 (cpu, ())).1 = there.withCounters 0 10 := by
  intro long short cpu there
  have holds : BranchForm.long.Holds (-128) := by decide
  have supplies : Supplies long (BranchForm.long.words (-128)) cpu.pc () :=
    ⟨by decide, by decide, trivial⟩
  have holds' : BranchForm.short.Holds (-128) := by decide
  have supplies' : Supplies short (BranchForm.short.words (-128)) cpu.pc () :=
    ⟨by decide, trivial⟩
  obtain ⟨-, moved, costs, said, -, -, same, clocks⟩ :=
    branch_reaches_target long cpu () holds supplies
  have target : branchTarget cpu.pc (-128) = 0xFFFFFF80 := by decide
  have words : BranchForm.long.words (-128) = [0x6000, 0xFF80] := by decide
  have around : cpu.pc + 2 = 0 := by decide
  rw [target] at moved clocks
  simp only [words, fetches, around] at said
  refine ⟨moved, costs, said, (same .short short () holds' supplies').trans moved, ?_⟩
  exact congrArg Prod.fst (clocks rfl rfl 10 (by decide) (by decide)).1

end Cpu
end Genesis
