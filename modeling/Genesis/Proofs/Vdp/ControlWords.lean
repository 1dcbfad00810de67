import Genesis.Proofs.Vdp.Operation

/-!
# The control port as a stream of words

How a control word is taken depends on the latch alone, and the latch depends on the operations
before it alone, not on what the memories or the registers hold. Two words therefore set any command
whose code does not look like a register write, whatever came before them.
-/

namespace Genesis
namespace Vdp

theorem and_field (a k n : Nat) :
    a &&& Nat.pow 2 k * (Nat.pow 2 n - 1) = Nat.pow 2 k * (a / Nat.pow 2 k % Nat.pow 2 n) := by
  show a &&& 2 ^ k * (2 ^ n - 1) = 2 ^ k * (a / 2 ^ k % 2 ^ n)
  apply Nat.eq_of_testBit_eq
  intro i
  simp only [Nat.testBit_and, Nat.testBit_two_pow_mul, Nat.testBit_two_pow_sub_one,
    Nat.testBit_mod_two_pow, Nat.testBit_div_two_pow]
  by_cases low : k ≤ i
  · rw [Nat.sub_add_cancel low]
    simp [low, Bool.and_comm]
  · simp [low]

theorem toNat_firstCode (word : UInt16) : (firstCode word).toNat = word.toNat / 0x4000 := by
  have h := word.toNat_lt
  simp [firstCode, Nat.shiftRight_eq_div_pow]
  omega

theorem toNat_secondCode (word : UInt16) :
    (secondCode word).toNat = 4 * (word.toNat / 16 % 16) := by
  have field : word.toNat / 4 % 256 &&& 60 = 4 * (word.toNat / 4 % 256 / 4 % 16) :=
    and_field _ 2 4
  simp [secondCode, lowByte, Nat.shiftRight_eq_div_pow, field]
  omega

theorem toNat_secondAddress (word : UInt16) :
    (secondAddress word).toNat = 0x4000 * (word.toNat % 4) := by
  simp [secondAddress, Nat.shiftLeft_eq]
  omega

theorem isRegisterWrite_iff (word : UInt16) :
    isRegisterWrite word = true ↔ word.toNat / 0x4000 = 2 := by
  have h := word.toNat_lt
  have field : word.toNat &&& 0xC000 = 0x4000 * (word.toNat / 0x4000 % 4) := and_field _ 14 2
  rw [isRegisterWrite, beq_iff_eq, ← UInt16.toNat_inj, UInt16.toNat_and]
  simp [field]
  omega

theorem registerIndex_eq (word : UInt16) : registerIndex word = word.toNat / 256 % 32 := by
  have field : word.toNat / 256 &&& 31 = word.toNat / 256 % 32 :=
    Nat.and_two_pow_sub_one_eq_mod _ 5
  simp [registerIndex, Nat.shiftRight_eq_div_pow, field]

/-- The state after a first half: new code bits 1 and 0, new address bits 13 to 0. -/
def withFirstHalf (word : UInt16) (v : Vdp) : Vdp :=
  { v with
    code := UInt8.ofNat (v.code.toNat % 64 / 4 * 4 + word.toNat / 0x4000)
    address := UInt16.ofNat (v.address.toNat / 0x4000 * 0x4000 + word.toNat % 0x4000)
    latched := true }

/-- The state after a second half: new code bits 5 to 2, new address bits 15 and 14. -/
def withSecondHalf (word : UInt16) (v : Vdp) : Vdp :=
  { v with
    code := UInt8.ofNat (v.code.toNat % 4 + word.toNat / 16 % 16 * 4)
    address := UInt16.ofNat (v.address.toNat % 0x4000 + word.toNat % 4 * 0x4000)
    latched := false }

theorem latchFirst_eq (word : UInt16) (v : Vdp) : v.latchFirst word = v.withFirstHalf word := by
  have hw := word.toNat_lt
  have ha := v.address.toNat_lt
  have code : (v.code &&& 0x3C) ||| firstCode word =
      UInt8.ofNat (v.code.toNat % 64 / 4 * 4 + word.toNat / 0x4000) := by
    have kept : v.code.toNat &&& 60 = 4 * (v.code.toNat / 4 % 16) := and_field _ 2 4
    have joined : 4 * (v.code.toNat / 4 % 16) + word.toNat / 0x4000 =
        4 * (v.code.toNat / 4 % 16) ||| word.toNat / 0x4000 :=
      Nat.two_pow_add_eq_or_of_lt (i := 2) (by omega) _
    apply UInt8.toNat_inj.1
    simp only [UInt8.toNat_or, UInt8.toNat_and, toNat_firstCode, UInt8.toNat_ofNat,
      UInt8.toNat_ofNat', Nat.reducePow, Nat.reduceMod, kept, ← joined]
    omega
  have address : (v.address &&& 0xC000) ||| (word &&& 0x3FFF) =
      UInt16.ofNat (v.address.toNat / 0x4000 * 0x4000 + word.toNat % 0x4000) := by
    have kept : v.address.toNat &&& 0xC000 = 0x4000 * (v.address.toNat / 0x4000 % 4) :=
      and_field _ 14 2
    have new : word.toNat &&& 0x3FFF = word.toNat % 0x4000 := Nat.and_two_pow_sub_one_eq_mod _ 14
    have joined : 0x4000 * (v.address.toNat / 0x4000 % 4) + word.toNat % 0x4000 =
        0x4000 * (v.address.toNat / 0x4000 % 4) ||| word.toNat % 0x4000 :=
      Nat.two_pow_add_eq_or_of_lt (i := 14) (by omega) _
    apply UInt16.toNat_inj.1
    simp only [UInt16.toNat_or, UInt16.toNat_and, UInt16.toNat_ofNat, UInt16.toNat_ofNat',
      Nat.reducePow, Nat.reduceMod, kept, new, ← joined]
    omega
  rw [latchFirst, code, address, withFirstHalf]

theorem latchSecond_eq (word : UInt16) (v : Vdp) : v.latchSecond word = v.withSecondHalf word := by
  have code : (v.code &&& 0x03) ||| secondCode word =
      UInt8.ofNat (v.code.toNat % 4 + word.toNat / 16 % 16 * 4) := by
    have kept : v.code.toNat &&& 3 = v.code.toNat % 4 := Nat.and_two_pow_sub_one_eq_mod _ 2
    have joined : 4 * (word.toNat / 16 % 16) + v.code.toNat % 4 =
        4 * (word.toNat / 16 % 16) ||| v.code.toNat % 4 :=
      Nat.two_pow_add_eq_or_of_lt (i := 2) (by omega) _
    apply UInt8.toNat_inj.1
    simp only [UInt8.toNat_or, UInt8.toNat_and, toNat_secondCode, UInt8.toNat_ofNat,
      UInt8.toNat_ofNat', Nat.reducePow, Nat.reduceMod, kept]
    rw [Nat.or_comm, ← joined]
    omega
  have address : (v.address &&& 0x3FFF) ||| secondAddress word =
      UInt16.ofNat (v.address.toNat % 0x4000 + word.toNat % 4 * 0x4000) := by
    have kept : v.address.toNat &&& 0x3FFF = v.address.toNat % 0x4000 :=
      Nat.and_two_pow_sub_one_eq_mod _ 14
    have joined : 0x4000 * (word.toNat % 4) + v.address.toNat % 0x4000 =
        0x4000 * (word.toNat % 4) ||| v.address.toNat % 0x4000 :=
      Nat.two_pow_add_eq_or_of_lt (i := 14) (by omega) _
    apply UInt16.toNat_inj.1
    simp only [UInt16.toNat_or, UInt16.toNat_and, toNat_secondAddress, UInt16.toNat_ofNat,
      UInt16.toNat_ofNat', Nat.reducePow, Nat.reduceMod, kept]
    rw [Nat.or_comm, ← joined]
    omega
  rw [latchSecond, code, address, withSecondHalf]

/-- How a control word is taken. -/
inductive Reading where
  | register (index : Nat) (value : UInt8)
  | firstHalf
  | secondHalf
deriving DecidableEq

/-- A word that meets a latched first half completes it, whatever its top bits; otherwise the top
bits `10` mark a register write, and all others a first half. -/
def readingOf (latched : Bool) (word : UInt16) : Reading :=
  if latched then .secondHalf
  else if word.toNat / 0x4000 = 2 then .register (word.toNat / 256 % 32) (lowByte word)
  else .firstHalf

/-- The latch after an operation, from the latch before it. -/
def latchAfter (latched : Bool) : Operation → Bool
  | .control word _ => decide (readingOf latched word = .firstHalf)
  | .render _ => latched
  | .data _ | .readData | .readStatus | .powerOn => false

def setRegister (index : Nat) (value : UInt8) (v : Vdp) : Vdp :=
  if h : index < 24 then { v with registers := v.registers.put ⟨index, h⟩ value } else v

def transferred (memory : UInt32 → UInt16) (v : Vdp) : Vdp :=
  if v.wantsTransfer then ((startTransfer v).run (answerFrom memory) ()).1 else v

theorem latched_transferred (memory : UInt32 → UInt16) (v : Vdp) :
    (transferred memory v).latched = v.latched := by
  unfold transferred
  split
  · exact latched_run_startTransfer _ v ()
  · rfl

def taken (word : UInt16) (memory : UInt32 → UInt16) (v : Vdp) : Reading → Vdp
  | .register index value => v.setRegister index value
  | .firstHalf => v.withFirstHalf word
  | .secondHalf => (v.withSecondHalf word).transferred memory

theorem perform_control (word : UInt16) (memory : UInt32 → UInt16) (v : Vdp) :
    (Operation.control word memory).perform v =
      v.taken word memory (readingOf v.latched word) := by
  simp only [Operation.perform]
  show ((writeControl word v).run (answerFrom memory) ()).1 = _
  cases latched : v.latched with
  | true =>
    simp only [writeControl, latched, if_true, readingOf, taken, transferred, latchSecond_eq]
    split <;> rfl
  | false =>
    by_cases register : isRegisterWrite word
    · have top := (isRegisterWrite_iff word).1 register
      simp only [writeControl, latched, register, if_true, readingOf, top, taken, setRegister,
        registerIndex_eq, Bool.false_eq_true, if_false, Bank.put?]
      split
      · rfl
      · rfl
    · have top := mt (isRegisterWrite_iff word).2 register
      simp only [writeControl, latched, register, readingOf, top, taken, latchFirst_eq,
        Bool.false_eq_true, if_false]
      rfl

theorem latched_perform (op : Operation) (v : Vdp) :
    (op.perform v).latched = latchAfter v.latched op := by
  cases op with
  | control word memory =>
    rw [perform_control, latchAfter]
    cases reading : readingOf v.latched word with
    | register index value =>
      have empty : v.latched = false := by
        cases latched : v.latched with
        | false => rfl
        | true => simp [readingOf, latched] at reading
      simp only [taken, setRegister]
      split <;> simp [empty]
    | firstHalf => rfl
    | secondHalf =>
      rw [taken, latched_transferred]
      rfl
  | data word => exact latched_writeData word v
  | render line =>
    show (afterLine line v).latched = v.latched
    unfold afterLine
    split <;> rfl
  | readData | readStatus | powerOn => rfl

theorem latched_after (ops : List Operation) (v : Vdp) :
    (after ops v).latched = ops.foldl latchAfter v.latched := by
  induction ops generalizing v with
  | nil => rfl
  | cons op ops ih => rw [after_cons, ih, latched_perform, List.foldl_cons]

/-- The first word that names a command. -/
def firstWord (address : UInt16) (code : UInt8) : UInt16 :=
  UInt16.ofNat (code.toNat % 4 * 0x4000 + address.toNat % 0x4000)

/-- The second word that names a command. -/
def secondWord (address : UInt16) (code : UInt8) : UInt16 :=
  UInt16.ofNat (code.toNat / 4 * 16 + address.toNat / 0x4000)

theorem withSecondHalf_withFirstHalf (address : UInt16) {code : UInt8} (six : code.toNat < 64)
    (v : Vdp) :
    (v.withFirstHalf (firstWord address code)).withSecondHalf (secondWord address code) =
      { v with address := address, code := code, latched := false } := by
  have ha := address.toNat_lt
  have hv := v.address.toNat_lt
  have first : (firstWord address code).toNat =
      code.toNat % 4 * 0x4000 + address.toNat % 0x4000 := by
    simp [firstWord]
    omega
  have second : (secondWord address code).toNat =
      code.toNat / 4 * 16 + address.toNat / 0x4000 := by
    simp [secondWord]
    omega
  have newCode : UInt8.ofNat ((UInt8.ofNat (v.code.toNat % 64 / 4 * 4 +
      (firstWord address code).toNat / 0x4000)).toNat % 4 +
      (secondWord address code).toNat / 16 % 16 * 4) = code := by
    apply UInt8.toNat_inj.1
    simp [first, second]
    omega
  have newAddress : UInt16.ofNat ((UInt16.ofNat (v.address.toNat / 0x4000 * 0x4000 +
      (firstWord address code).toNat % 0x4000)).toNat % 0x4000 +
      (secondWord address code).toNat % 4 * 0x4000) = address := by
    apply UInt16.toNat_inj.1
    simp [first, second]
    omega
  simp only [withSecondHalf, withFirstHalf, newCode, newAddress]

/-- A first half that is none of the register writes. -/
theorem readingOf_firstWord (address : UInt16) {code : UInt8} (command : code.toNat % 4 ≠ 2) :
    readingOf false (firstWord address code) = .firstHalf := by
  have top : (firstWord address code).toNat / 0x4000 = code.toNat % 4 := by
    simp [firstWord]
    omega
  simp [readingOf, top, command]

/-- Control words are parsed by the latch: after any operations, the latch and the way in which the
next control word is taken follow from the operations alone, and two words sent back to back set any
address and any six-bit code that does not start like a register write. -/
theorem control_words_are_parsed (v : Vdp) :
    (∀ ops, (after ops v).latched = ops.foldl latchAfter v.latched) ∧
    (∀ ops word memory, after (ops ++ [.control word memory]) v =
      (after ops v).taken word memory (readingOf (ops.foldl latchAfter v.latched) word)) ∧
    (∀ ops address code memory memory', ops.foldl latchAfter v.latched = false →
      code.toNat < 64 → code.toNat % 4 ≠ 2 →
      after (ops ++ [.control (firstWord address code) memory,
        .control (secondWord address code) memory']) v =
        transferred memory' { after ops v with address, code, latched := false }) := by
  have next (ops rest : List Operation) : after (ops ++ rest) v = after rest (after ops v) :=
    List.foldl_append
  refine ⟨fun ops => latched_after ops v, ?_, ?_⟩
  · intro ops word memory
    rw [next, after_cons, perform_control, latched_after, after_nil]
  · intro ops address code memory memory' empty six command
    have clear : (after ops v).latched = false := (latched_after ops v).trans empty
    have first : (Operation.control (firstWord address code) memory).perform (after ops v) =
        (after ops v).withFirstHalf (firstWord address code) := by
      rw [perform_control, clear, readingOf_firstWord address command, taken]
    have second (w : Vdp) (full : w.latched = true) :
        (Operation.control (secondWord address code) memory').perform w =
          (w.withSecondHalf (secondWord address code)).transferred memory' := by
      rw [perform_control, full]
      rfl
    rw [next, after_cons, after_cons, after_nil, first, second _ rfl,
      withSecondHalf_withFirstHalf address six]

/-- A first half that a status read aborts leaves no trace in the command sent after it. -/
theorem control_words_are_parsed_after_aborted_half :
    let memory : UInt32 → UInt16 := fun address => address.toUInt16
    let aborted : List Operation := [.control 0x7FFF memory, .readStatus]
    aborted.foldl latchAfter initial.latched = false ∧
      after (aborted ++ [.control (firstWord 0xC123 0x01) memory,
        .control (secondWord 0xC123 0x01) memory]) initial =
        { after aborted initial with address := 0xC123, code := 0x01, latched := false } := by
  intro memory aborted
  have clear : aborted.foldl latchAfter initial.latched = false := by decide
  refine ⟨clear, ?_⟩
  refine ((control_words_are_parsed initial).2.2 aborted 0xC123 0x01 memory memory clear
    (by decide) (by decide)).trans ?_
  rw [transferred, if_neg (by decide)]

end Vdp
end Genesis
