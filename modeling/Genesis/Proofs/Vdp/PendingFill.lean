import Genesis.Proofs.Vdp.BusTransfer
import Genesis.Proofs.Vdp.ControlWords
import Genesis.Proofs.Vdp.PortBytes

/-!
# Which command a fill belongs to

A command that asks for a fill arms it, and the next data word carries it out. Only a data word or
power-on takes the fill back: a command that is completed in between replaces address and code, but
not the fill. So a data word fills just if some command since the last data word or power-on asked
for it (`fillArmed_after_iff`), and not just if the last command did
(`fill_belongs_to_last_command_iff`).
-/

namespace Genesis
namespace Vdp

/-- The command that an operation completes: the state with both halves in place, and its transfer
still to come. -/
def completed? (v : Vdp) : Operation → Option Vdp
  | .control word _ => if v.latched then some (v.withSecondHalf word) else none
  | .data _ | .readData | .readStatus | .render _ | .powerOn => none

/-- The commands that operations complete, in order. -/
def commands : List Operation → Vdp → List Vdp
  | [], _ => []
  | op :: ops, v => (completed? v op).toList ++ commands ops (op.perform v)

/-- The command carries the transfer bit while transfers are enabled and fills selected. -/
def AsksForFill (c : Vdp) : Prop :=
  c.code &&& 0x20 ≠ 0 ∧ c.transferEnabled = true ∧ c.register 23 / 64 = 2

instance (c : Vdp) : Decidable c.AsksForFill := inferInstanceAs (Decidable (_ ∧ _))

/-- After a data word or power-on no fill is left to be carried out. -/
def Operation.settles : Operation → Bool
  | .data _ | .powerOn => true
  | .control .. | .readData | .readStatus | .render _ => false

/-- The commands that no data word and no power-on has followed, given those at the start. -/
def unsettled : List Vdp → List Operation → Vdp → List Vdp
  | cs, [], _ => cs
  | cs, op :: ops, v =>
    unsettled (if op.settles then [] else cs ++ (completed? v op).toList) ops (op.perform v)

theorem transferKind_eq_fill_iff (v : Vdp) : v.transferKind = .fill ↔ v.register 23 / 64 = 2 := by
  have r23 : v.register 23 = (v.registers.get 23).toNat := rfl
  have byte := v.register_lt 23
  rw [r23] at byte ⊢
  simp only [transferKind, UInt8.lt_iff_toNat_lt, UInt8.toNat_ofNat]
  split
  · simp
    omega
  · split <;> simp <;> omega

theorem fillArmed_run_startTransfer {σ : Type} (answer : (q : VideoRequest) → σ → q.Answer × σ)
    (v : Vdp) (s : σ) :
    ((startTransfer v).run answer s).1.fillArmed =
      (decide (v.transferKind = .fill) || v.fillArmed) := by
  unfold startTransfer
  cases v.transferKind with
  | bus =>
    exact run_transferWords_induction answer (P := fun w => w.fillArmed = v.fillArmed)
      (fun w word same => (fillArmed_store word w).trans same) _ _ rfl _
  | fill => rfl
  | copy =>
    exact copyBytes_induction (P := fun w => w.fillArmed = v.fillArmed)
      (fun _ _ same => same) _ _ rfl

theorem fillArmed_transferred (memory : UInt32 → UInt16) (v : Vdp) :
    (v.transferred memory).fillArmed = true ↔ v.AsksForFill ∨ v.fillArmed = true := by
  have kind := transferKind_eq_fill_iff v
  unfold transferred AsksForFill
  split
  · rename_i wants
    rw [wantsTransfer, Bool.and_eq_true, bne_iff_ne] at wants
    simp [fillArmed_run_startTransfer, wants, kind]
  · rename_i idle
    rw [wantsTransfer, Bool.and_eq_true, bne_iff_ne] at idle
    grind

theorem fillArmed_writeData (word : UInt16) (v : Vdp) :
    (writeData word v).value.fillArmed = false := by
  rw [value_writeData]
  split
  · rw [fill_with]
  · rename_i idle
    rw [fillArmed_store]
    exact Bool.eq_false_iff.2 idle

theorem fillArmed_taken_of_empty {v : Vdp} (empty : v.latched = false) (word : UInt16)
    (memory : UInt32 → UInt16) :
    (v.taken word memory (readingOf v.latched word)).fillArmed = v.fillArmed := by
  rw [empty, readingOf, if_neg Bool.false_ne_true]
  split
  · simp only [taken, setRegister]
    split <;> rfl
  · rfl

/-- What an operation does to the flag: a command that asks for a fill sets it, a data word and
power-on clear it. -/
theorem fillArmed_perform_iff (op : Operation) (v : Vdp) :
    (op.perform v).fillArmed = true ↔
      (∃ c ∈ completed? v op, AsksForFill c) ∨ op.settles = false ∧ v.fillArmed = true := by
  cases op with
  | control word memory =>
    rw [perform_control]
    cases latched : v.latched with
    | false =>
      have kept := fillArmed_taken_of_empty latched word memory
      rw [latched] at kept
      simp [kept, completed?, latched, Operation.settles]
    | true =>
      have same : (v.withSecondHalf word).fillArmed = v.fillArmed := rfl
      have armed := fillArmed_transferred memory (v.withSecondHalf word)
      simpa [readingOf, taken, completed?, latched, Operation.settles, same] using armed
  | data word =>
    have cleared : ((Operation.data word).perform v).fillArmed = false := fillArmed_writeData word v
    simp [cleared, completed?, Operation.settles]
  | readData =>
    have same : (Operation.readData.perform v).fillArmed = v.fillArmed := rfl
    simp [same, completed?, Operation.settles]
  | readStatus =>
    have same : (Operation.readStatus.perform v).fillArmed = v.fillArmed := rfl
    simp [same, completed?, Operation.settles]
  | render line =>
    have same : ((Operation.render line).perform v).fillArmed = v.fillArmed := by
      show (afterLine line v).fillArmed = v.fillArmed
      unfold afterLine
      split <;> rfl
    simp [same, completed?, Operation.settles]
  | powerOn =>
    have cleared : (Operation.powerOn.perform v).fillArmed = false := rfl
    simp [cleared, completed?, Operation.settles]

/-- A fill is armed just if one of the unsettled commands asked for it. -/
theorem fillArmed_after_iff (ops : List Operation) {cs : List Vdp} {v : Vdp}
    (start : v.fillArmed = true ↔ ∃ c ∈ cs, AsksForFill c) :
    (after ops v).fillArmed = true ↔ ∃ c ∈ unsettled cs ops v, AsksForFill c := by
  induction ops generalizing cs v with
  | nil => exact start
  | cons op ops ih =>
    refine ih ((fillArmed_perform_iff op v).trans ?_)
    cases settles : op.settles with
    | false => simp [start, or_and_right, exists_or, or_comm]
    | true => cases op <;> simp_all [Operation.settles, completed?]

/-- A fill disarms itself, which a store does not do. -/
theorem fill_ne_store {v : Vdp} (armed : v.fillArmed = true) (word : UInt16) :
    v.fill word ≠ v.store word := by
  intro same
  have flag := congrArg (fun w => w.fillArmed) same
  rw [fill_with, fillArmed_store, armed] at flag
  exact Bool.false_ne_true flag

/-- After any operations from power-on, a data word fills if one of the commands since the last data
word or power-on asked for a fill, and is stored once if none did. So the rule that a data word is
stored once, at the place the command address has come to, unless the last command asked for a fill,
holds just if that command asked for one or none of the unsettled ones did. -/
theorem fill_belongs_to_last_command_iff (ops : List Operation) :
    let v := after ops initial
    let due := ∃ c ∈ unsettled [] ops initial, AsksForFill c
    let current := ∃ c ∈ (commands ops initial).getLast?, AsksForFill c
    (due → ∀ word, (writeData word v).value = fill word { v with latched := false }) ∧
    (¬ due → ∀ word, (writeData word v).value = store word { v with latched := false }) ∧
    ((¬ current → ∀ word, (writeData word v).value = store word { v with latched := false }) ↔
      (due → current)) := by
  intro v due current
  have armed : v.fillArmed = true ↔ due := fillArmed_after_iff ops (by simp [initial])
  have fills (h : due) (word : UInt16) :
      (writeData word v).value = fill word { v with latched := false } := by
    rw [value_writeData, if_pos (armed.2 h)]
  have stores (h : ¬ due) (word : UInt16) :
      (writeData word v).value = store word { v with latched := false } := by
    rw [value_writeData, if_neg (mt armed.1 h)]
  refine ⟨fills, stores, fun rule h => ?_, fun follows other => stores (mt follows other)⟩
  apply Classical.byContradiction
  intro other
  have differ : fill 0 { v with latched := false } ≠ store 0 { v with latched := false } :=
    fill_ne_store (v := { v with latched := false }) (armed.2 h) 0
  exact differ ((fills h 0).symm.trans (rule other 0))

/-- A fill of four bytes at address 0 is asked for, and then a colour is to be stored there. -/
def fillThenColour : List Operation :=
  [0x8F01, 0x8114, 0x9304, 0x9780, 0x4000, 0x0080, 0xC000, 0x0000].map fun word =>
    .control word fun _ => 0

theorem after_fillThenColour : after fillThenColour initial =
    { registers := ((((Bank.fill 24 0).put? 15 1).put? 1 0x14).put? 19 4).put? 23 0x80
      code := 0x03
      fillArmed := true } := rfl

/-- The last command stores colours and carries no transfer bit, so that the next data word should
move the address on by one and leave video memory alone. It fills the four bytes instead. -/
theorem stale_fill_runs_over_video_memory :
    (∃ c ∈ (commands fillThenColour initial).getLast?, c.code = 0x03 ∧ c.code &&& 0x20 = 0) ∧
    (store 0x0AAA (after fillThenColour initial)).address = 1 ∧
    (writeData 0x0AAA (after fillThenColour initial)).value.address = 5 ∧
    ∀ cell, 1 ≤ cell → cell ≤ 4 → (after fillThenColour initial).vram.read cell = 0 ∧
      (writeData 0x0AAA (after fillThenColour initial)).value.vram.read cell = 0x0A := by
  refine ⟨by decide, by decide, by decide, ?_⟩
  intro cell low high
  rw [after_fillThenColour]
  refine ⟨Ram.read_zero cell, ?_⟩
  rw [value_writeData, if_pos rfl, read_vram_fill, if_pos]
  · rfl
  · have place : cell = 1 ∨ cell = 2 ∨ cell = 3 ∨ cell = 4 := by grind
    rcases place with rfl | rfl | rfl | rfl <;> decide

end Vdp
end Genesis
