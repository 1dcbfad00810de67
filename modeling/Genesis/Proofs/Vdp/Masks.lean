import Genesis.Proofs.Vdp.ControlWords
import Genesis.Proofs.Vdp.PortBytes

/-!
# What the small memories hold

A colour entry has three bits for each channel, a scroll entry eleven bits, and a command code six.
Only stores reach the two memories, and a store masks its word; fills and copies write nothing but
video memory after that, and neither half of a command reaches beyond the code's six bits. So every
operation keeps the masks (`WithinMasks.perform`), and what the data port shows lies within them.
-/

namespace Genesis

theorem Bank.get_put? {α : Type} {n : Nat} (b : Bank α n) (i : Nat) (j : Fin n) (x : α) :
    (b.put? i x).get j = if i = j.val then x else b.get j := by
  unfold put?
  split
  · simp only [get_put, Fin.ext_iff]
  · rename_i missing
    rw [if_neg fun same : i = j.val => missing (same ▸ j.isLt)]

namespace Vdp

theorem ofNat_lt_sixtyFour {n : Nat} (six : n < 64) : UInt8.ofNat n < 64 := by
  rw [UInt8.lt_iff_toNat_lt, UInt8.toNat_ofNat', Nat.mod_eq_of_lt (by omega)]
  exact six

theorem and_and_not_self (w mask : UInt16) : w &&& mask &&& ~~~mask = 0 := by
  rw [UInt16.and_assoc, UInt16.and_not_self, UInt16.and_zero]

/-- Colours, scrolls and the command code use no bits but their own. -/
structure WithinMasks (v : Vdp) : Prop where
  colour : ∀ i, v.cram.get i &&& ~~~0x0EEE = 0
  scroll : ∀ i, v.vsram.get i ≤ 0x07FF
  code : v.code < 64

namespace WithinMasks

variable {v w : Vdp}

theorem initial : WithinMasks initial where
  colour i := by simp [Vdp.initial]
  scroll i := by simp [Vdp.initial]
  code := by decide

/-- Only the two memories and the code matter. -/
theorem congr (h : v.WithinMasks) (cram : w.cram = v.cram) (vsram : w.vsram = v.vsram)
    (code : w.code = v.code) : w.WithinMasks where
  colour := cram ▸ h.colour
  scroll := vsram ▸ h.scroll
  code := code ▸ h.code

theorem store (h : v.WithinMasks) (word : UInt16) : (v.store word).WithinMasks where
  colour i := by
    rw [cram_store]
    split
    · rw [Bank.get_put]
      split
      · exact and_and_not_self word 0x0EEE
      · exact h.colour i
    · exact h.colour i
  scroll i := by
    rw [vsram_store]
    split
    · rw [Bank.get_put?]
      split
      · exact UInt16.and_le_right
      · exact h.scroll i
    · exact h.scroll i
  code := (code_store word v).symm ▸ h.code

/-- A byte that a fill or a copy writes goes to the video memory. -/
theorem writeByte (h : v.WithinMasks) (x : UInt8) :
    (advance { v with vram := v.vram.write v.address x }).WithinMasks :=
  h.congr rfl rfl rfl

theorem repeatByte (h : v.WithinMasks) (x : UInt8) (n : Nat) :
    (repeatByte x n v).WithinMasks := by
  induction n generalizing v with
  | zero => exact h
  | succ n ih => exact ih (h.writeByte x)

theorem fill (h : v.WithinMasks) (word : UInt16) : (v.fill word).WithinMasks := by
  have stored : WithinMasks { v.store word with fillArmed := false } :=
    (h.store word).congr rfl rfl rfl
  rw [fill_eq_repeatByte]
  exact stored.repeatByte (highByte word) v.transferLength

theorem writeData (h : v.WithinMasks) (word : UInt16) : (writeData word v).value.WithinMasks := by
  have unlatched : WithinMasks { v with latched := false } := h.congr rfl rfl rfl
  rw [value_writeData]
  split
  · exact unlatched.fill word
  · exact unlatched.store word

theorem setRegister (h : v.WithinMasks) (index : Nat) (value : UInt8) :
    (v.setRegister index value).WithinMasks := by
  unfold Vdp.setRegister
  split
  · exact h.congr rfl rfl rfl
  · exact h

theorem withFirstHalf (h : v.WithinMasks) (word : UInt16) : (v.withFirstHalf word).WithinMasks where
  colour := h.colour
  scroll := h.scroll
  code := by
    have top := word.toNat_lt
    exact ofNat_lt_sixtyFour (by omega)

theorem withSecondHalf (h : v.WithinMasks) (word : UInt16) :
    (v.withSecondHalf word).WithinMasks where
  colour := h.colour
  scroll := h.scroll
  code := ofNat_lt_sixtyFour (by omega)

/-- A transfer of any kind and length, whatever the words that it is given. -/
theorem transferred (h : v.WithinMasks) (memory : UInt32 → UInt16) :
    (v.transferred memory).WithinMasks := by
  unfold Vdp.transferred
  split
  · exact run_startTransfer_induction _ (fun _ word h => h.store word) (fun _ x h => h.writeByte x)
      (fun _ h => h.congr rfl rfl rfl) h ()
  · exact h

theorem perform (h : v.WithinMasks) (op : Operation) : (op.perform v).WithinMasks := by
  cases op with
  | control word memory =>
    rw [perform_control]
    cases readingOf v.latched word with
    | register index value => exact h.setRegister index value
    | firstHalf => exact h.withFirstHalf word
    | secondHalf => exact (h.withSecondHalf word).transferred memory
  | data word => exact h.writeData word
  | readData => exact h.congr rfl rfl rfl
  | readStatus => exact h.congr rfl rfl rfl
  | render line =>
    show (afterLine line v).WithinMasks
    unfold afterLine
    split <;> exact h.congr rfl rfl rfl
  | powerOn => exact initial

theorem after (h : v.WithinMasks) (ops : List Operation) : (after ops v).WithinMasks := by
  induction ops generalizing v with
  | nil => exact h
  | cons op ops ih => exact ih (h.perform op)

theorem load_colour (h : v.WithinMasks) (target : readStore? v.code = some .cram) :
    v.load &&& ~~~0x0EEE = 0 := by
  simp only [load, target]
  exact h.colour _

theorem load_scroll (h : v.WithinMasks) (target : readStore? v.code = some .vsram) :
    v.load ≤ 0x07FF := by
  simp only [load, target, Bank.get?]
  split
  · exact h.scroll _
  · decide

end WithinMasks

/-- After any operations, with any memory behind the transfers, every colour lies within its mask,
every scroll within eleven bits and the command code within six; and so do the colours and scrolls
that the data port shows. -/
theorem small_memories_stay_within_masks (ops : List Operation) :
    let v := after ops initial
    (∀ i, v.cram.get i &&& ~~~0x0EEE = 0) ∧ (∀ i, v.vsram.get i ≤ 0x07FF) ∧ v.code < 64 ∧
    (readStore? v.code = some .cram → (readData v).value.1 &&& ~~~0x0EEE = 0) ∧
    (readStore? v.code = some .vsram → (readData v).value.1 ≤ 0x07FF) := by
  have masks := WithinMasks.initial.after ops
  exact ⟨masks.colour, masks.scroll, masks.code, masks.load_colour, masks.load_scroll⟩

end Vdp
end Genesis
