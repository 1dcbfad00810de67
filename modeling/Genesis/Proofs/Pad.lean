import Genesis.Pad
import Genesis.Proofs.Word

/-!
# What a read of a pad asks and answers

The select bit connects one half of the pad. A read asks for the buttons on the connected lines,
each of them once and in a fixed order, and sets the bit of every line whose button is answered to
be released (`testBit_released`). A bit that the data register holds stays set whatever the answers
are (`exists_read_eq`).
-/

namespace Genesis
namespace Pad

/-- The connected lines in the order in which they are asked for: the bit that a line reaches and
the button that pulls it low. -/
def lines (select : Bool) : List (Nat × Button) :=
  if select then [(5, .c), (4, .b), (3, .right), (2, .left), (1, .down), (0, .up)]
  else [(5, .start), (4, .a), (1, .down), (0, .up)]

variable {η : Type}

def ask (pressed : Button → η → Bool × η) : List Button → η → List (Button × Bool) × η
  | [], h => ([], h)
  | x :: xs, h =>
    let first := pressed x h
    let rest := ask pressed xs first.2
    ((x, first.1) :: rest.1, rest.2)

theorem map_fst_ask (pressed : Button → η → Bool × η) (buttons : List Button) (h : η) :
    (ask pressed buttons h).1.map Prod.fst = buttons := by
  induction buttons generalizing h with
  | nil => rfl
  | cons x buttons ih => exact congrArg (List.cons x) (ih (pressed x h).2)

theorem mem_of_mem_ask {pressed : Button → η → Bool × η} {buttons : List Button} {h : η}
    {x : Button} {isPressed : Bool} (mem : (x, isPressed) ∈ (ask pressed buttons h).1) :
    x ∈ buttons := by
  have key := List.mem_map_of_mem (f := Prod.fst) mem
  rwa [map_fst_ask] at key

/-- A button that is asked for once is answered to be pressed or to be released. -/
theorem mem_ask_true_iff {pressed : Button → η → Bool × η} {buttons : List Button} {h : η}
    {x : Button} (once : buttons.Nodup) (mem : x ∈ buttons) :
    (x, true) ∈ (ask pressed buttons h).1 ↔ (x, false) ∉ (ask pressed buttons h).1 := by
  induction buttons generalizing h with
  | nil => cases mem
  | cons y buttons ih =>
    obtain ⟨fresh, once⟩ := List.nodup_cons.1 once
    have later (isPressed : Bool) : (y, isPressed) ∉ (ask pressed buttons (pressed y h).2).1 :=
      fun mem => fresh (mem_of_mem_ask mem)
    simp only [ask, List.mem_cons, Prod.mk.injEq]
    by_cases same : x = y
    · subst same
      simp [later]
    · have mem : x ∈ buttons := (List.mem_cons.1 mem).resolve_left same
      simp [same, ih once mem]

theorem half_eq (select : Bool) :
    half select = (lines select).map fun line => (line.2, bit line.1) := by
  cases select <;> rfl

section Released

variable (pressed : Button → η → Bool × η) (lines : List (Nat × Button)) (h : η)

theorem released_snd : (released pressed (lines.map fun line => (line.2, bit line.1)) h).2 =
    (ask pressed (lines.map Prod.snd) h).2 := by
  induction lines generalizing h with
  | nil => rfl
  | cons line lines ih => exact ih (pressed line.2 h).2

theorem testBit_released (once : (lines.map Prod.snd).Nodup) (inside : ∀ line ∈ lines, line.1 < 8)
    (i : Nat) :
    (released pressed (lines.map fun line => (line.2, bit line.1)) h).1.toNat.testBit i = true ↔
      ∃ x, (i, x) ∈ lines ∧ (x, false) ∈ (ask pressed (lines.map Prod.snd) h).1 := by
  induction lines generalizing h with
  | nil => simp [released]
  | cons line lines ih =>
    obtain ⟨place, x⟩ := line
    obtain ⟨fresh, once⟩ := List.nodup_cons.1 once
    obtain ⟨small, inside⟩ := List.forall_mem_cons.1 inside
    have later := ih (pressed x h).2 once inside
    have first : (if (pressed x h).1 then 0 else bit place : UInt8).toNat.testBit i = true ↔
        i = place ∧ (pressed x h).1 = false := by
      cases (pressed x h).1
      · simp [testBit_bit small, eq_comm]
      · simp
    change (_ ||| _ : UInt8).toNat.testBit i = true ↔ ∃ y, (i, y) ∈ (place, x) :: lines ∧
      (y, false) ∈ (x, (pressed x h).1) :: (ask pressed (lines.map Prod.snd) (pressed x h).2).1
    rw [UInt8.toNat_or, Nat.testBit_or, Bool.or_eq_true, first, later]
    constructor
    · rintro (⟨rfl, released⟩ | ⟨y, line, answer⟩)
      · exact ⟨x, .head _, by rw [released]; exact .head _⟩
      · exact ⟨y, .tail _ line, .tail _ answer⟩
    · rintro ⟨y, wired, answer⟩
      -- A button has one line, so its line and its answer are both the first or both further on.
      rcases List.mem_cons.1 wired with here | further
      · obtain ⟨rfl, rfl⟩ := Prod.mk.inj here
        rcases List.mem_cons.1 answer with now | later
        · exact .inl ⟨rfl, (Prod.mk.inj now).2.symm⟩
        · exact absurd (mem_of_mem_ask later) fresh
      · rcases List.mem_cons.1 answer with now | later
        · obtain ⟨rfl, -⟩ := Prod.mk.inj now
          exact absurd (List.mem_map_of_mem (f := Prod.snd) further) fresh
        · exact .inr ⟨y, further, later⟩

end Released

theorem nodup_lines (select : Bool) : ((lines select).map Prod.snd).Nodup := by
  cases select <;> decide

theorem lt_of_mem_lines (select : Bool) : ∀ line ∈ lines select, line.1 < 8 := by
  cases select <;> decide

/-- No two connected lines reach the same bit. -/
theorem line_unique (select : Bool) :
    ∀ line ∈ lines select, ∀ other ∈ lines select, line.1 = other.1 → line.2 = other.2 := by
  cases select <;> decide

/-- A read of the data register leaves a bit set if the register holds it or if it belongs to a
connected line whose button is answered to be released. -/
theorem exists_read_eq (pad : Pad) (pressed : Button → η → Bool × η) (h : η) :
    let wires := lines (pad.data.toNat.testBit 6)
    let asked := ask pressed (wires.map Prod.snd) h
    ∃ byte : UInt8,
      (∀ i, byte.toNat.testBit i = true ↔ ∃ x, (i, x) ∈ wires ∧ (x, false) ∈ asked.1) ∧
      pad.read pressed h =
        (⟨pad.data ||| byte, [.padRead pad.data pad.control byte]⟩, asked.2) := by
  intro wires asked
  have connected : pad.asked = wires.map fun line => (line.2, bit line.1) := by
    have select : (pad.data &&& 0x40 != 0) = pad.data.toNat.testBit 6 :=
      and_bit_ne_zero (i := 6) (by decide) pad.data
    rw [Pad.asked, half_eq, select]
  refine ⟨(released pressed pad.asked h).1, fun i => ?_, ?_⟩
  · rw [connected]
    exact testBit_released pressed wires h (nodup_lines _) (lt_of_mem_lines _) i
  · have host : (released pressed pad.asked h).2 = asked.2 := by
      rw [connected]
      exact released_snd pressed wires h
    rw [← host]
    rfl

end Pad
end Genesis
