import Genesis.Text.Blank

/-!
# Control pad buttons

The eight buttons and the sets of held buttons, one bit for each button.
-/

namespace Genesis

inductive Button where
  | up
  | down
  | left
  | right
  | a
  | b
  | c
  | start
deriving DecidableEq, Repr

namespace Button

def all : List Button := [up, down, left, right, a, b, c, start]

def name : Button → String
  | up => "Up"
  | down => "Down"
  | left => "Left"
  | right => "Right"
  | a => "A"
  | b => "B"
  | c => "C"
  | start => "Start"

def mask : Button → UInt8
  | up => 0x01
  | down => 0x02
  | left => 0x04
  | right => 0x08
  | a => 0x10
  | b => 0x20
  | c => 0x40
  | start => 0x80

def ofName? (name : List Char) : Option Button :=
  all.find? fun x => Text.lower x.name.toList == Text.lower name

theorem mem_all (x : Button) : x ∈ all := by cases x <;> decide

end Button

/-- A set of buttons, as the union of their bits. -/
structure HeldButtons where
  bits : UInt8 := 0
deriving DecidableEq

namespace HeldButtons

def none : HeldButtons := {}

def ofList (buttons : List Button) : HeldButtons :=
  ⟨buttons.foldl (fun bits x => bits ||| x.mask) 0⟩

def contains (held : HeldButtons) (x : Button) : Bool := held.bits &&& x.mask != 0

@[simp] theorem contains_none (x : Button) : none.contains x = false := by cases x <;> decide

end HeldButtons
end Genesis
