import Genesis.Text.Blank

/-!
# Categories of a log record

Each record belongs to the part of the console that it comes from. `PerCategory` keeps one value for
each category.
-/

namespace Genesis
namespace Log

inductive Category where
  | cpu
  | bus
  | video
  | pads
  | interrupts
deriving DecidableEq, Repr

namespace Category

def all : List Category := [cpu, bus, video, pads, interrupts]

def target : Category → String
  | cpu => "emu::cpu"
  | bus => "emu::bus"
  | video => "emu::vdp"
  | pads => "emu::io"
  | interrupts => "emu::interrupts"

def name : Category → String
  | cpu => "CPU"
  | bus => "Bus"
  | video => "VDP"
  | pads => "IO"
  | interrupts => "Interrupts"

def words : List (String × Category) :=
  [("cpu", cpu), ("bus", bus), ("vdp", video), ("io", pads), ("joypad", pads), ("int", interrupts),
   ("interrupts", interrupts)]

def ofWord? (word : List Char) : Option Category :=
  (words.find? fun w => w.1.toList == Text.lower word).map (·.2)

theorem mem_all (c : Category) : c ∈ all := by cases c <;> decide

end Category

structure PerCategory (α : Type) where
  cpu : α
  bus : α
  video : α
  pads : α
  interrupts : α
deriving DecidableEq

namespace PerCategory

variable {α : Type}

def replicate (x : α) : PerCategory α := ⟨x, x, x, x, x⟩

def get (p : PerCategory α) : Category → α
  | .cpu => p.cpu
  | .bus => p.bus
  | .video => p.video
  | .pads => p.pads
  | .interrupts => p.interrupts

def set (p : PerCategory α) (c : Category) (x : α) : PerCategory α :=
  match c with
  | .cpu => { p with cpu := x }
  | .bus => { p with bus := x }
  | .video => { p with video := x }
  | .pads => { p with pads := x }
  | .interrupts => { p with interrupts := x }

theorem get_set (p : PerCategory α) (c d : Category) (x : α) :
    (p.set c x).get d = if c = d then x else p.get d := by
  cases c <;> cases d <;> rfl

theorem ext_get {p q : PerCategory α} (h : ∀ c, p.get c = q.get c) : p = q := by
  obtain ⟨a, b, c, d, e⟩ := p
  obtain ⟨a', b', c', d', e'⟩ := q
  have h1 := h .cpu
  have h2 := h .bus
  have h3 := h .video
  have h4 := h .pads
  have h5 := h .interrupts
  simp only [get] at h1 h2 h3 h4 h5
  simp [h1, h2, h3, h4, h5]

end PerCategory
end Log
end Genesis
