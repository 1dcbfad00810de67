import Genesis.Button

/-!
# Sets of held buttons

A button is in a set just if its bit is, and a list puts in the bits of its members. So neither the
order nor the repetition of a list matters (`ofList_congr`).
-/

namespace Genesis

def Button.position : Button → Nat
  | up => 0
  | down => 1
  | left => 2
  | right => 3
  | a => 4
  | b => 5
  | c => 6
  | start => 7

theorem Button.mask_eq (x : Button) : x.mask.toBitVec = BitVec.twoPow 8 x.position := by
  cases x <;> rfl

theorem Button.getLsbD_mask (x y : Button) :
    y.mask.toBitVec.getLsbD x.position = decide (y = x) := by
  cases x <;> cases y <;> rfl

namespace HeldButtons

theorem contains_eq (held : HeldButtons) (x : Button) :
    held.contains x = held.bits.toBitVec.getLsbD x.position := by
  have bit : (held.bits &&& x.mask).toBitVec =
      if held.bits.toBitVec.getLsbD x.position then x.mask.toBitVec else 0#8 := by
    rw [UInt8.toBitVec_and, x.mask_eq, BitVec.and_twoPow]
  have some : x.mask.toBitVec ≠ 0#8 := by cases x <;> decide
  rw [contains, Bool.eq_iff_iff, bne_iff_ne, ne_eq, ← UInt8.toBitVec_inj, bit]
  split <;> simp_all

theorem getLsbD_foldl (buttons : List Button) (bits : UInt8) (i : Nat) :
    (buttons.foldl (fun bits x => bits ||| x.mask) bits).toBitVec.getLsbD i =
      (bits.toBitVec.getLsbD i || buttons.any fun x => x.mask.toBitVec.getLsbD i) := by
  induction buttons generalizing bits with
  | nil => simp
  | cons x buttons ih => simp [ih, Bool.or_assoc]

theorem getLsbD_ofList (buttons : List Button) (i : Nat) :
    (ofList buttons).bits.toBitVec.getLsbD i =
      buttons.any fun x => x.mask.toBitVec.getLsbD i := by
  rw [ofList, getLsbD_foldl]
  simp

theorem contains_ofList (buttons : List Button) (x : Button) :
    (ofList buttons).contains x = decide (x ∈ buttons) := by
  rw [contains_eq, getLsbD_ofList, Bool.eq_iff_iff]
  simp [Button.getLsbD_mask]

theorem ofList_congr {buttons buttons' : List Button} (same : ∀ x, x ∈ buttons ↔ x ∈ buttons') :
    ofList buttons = ofList buttons' := by
  have bits : (ofList buttons).bits = (ofList buttons').bits := by
    apply UInt8.toBitVec_inj.1
    apply BitVec.eq_of_getLsbD_eq
    intro i _
    rw [getLsbD_ofList, getLsbD_ofList, Bool.eq_iff_iff, List.any_eq_true, List.any_eq_true]
    exact exists_congr fun x => and_congr_left' (same x)
  cases h : ofList buttons
  cases h' : ofList buttons'
  simpa [h, h'] using bits

end HeldButtons
end Genesis
