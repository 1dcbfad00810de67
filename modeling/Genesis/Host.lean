import Genesis.Button
import Genesis.Notice
import Genesis.Scanline
import Genesis.VideoUnit

/-!
# The host of the console

Everything that enters or leaves the console passes through its host: the buttons that the game asks
for, the lines that are rendered and the notices. The host keeps a state of its own, of any type.
-/

namespace Genesis

structure Host (η : Type) where
  /-- Whether a button is pressed at the moment it is asked for. -/
  pressed : Button → η → Bool × η
  scanline : Scanline → η → η
  notice : Notice → η → η

namespace Host

variable {η : Type}

/-- A host that presses no button and keeps nothing. -/
def idle : Host Unit where
  pressed _ h := (false, h)
  scanline _ h := h
  notice _ h := h

def report (host : Host η) (notices : List Notice) (h : η) : η :=
  notices.foldl (fun h n => host.notice n h) h

/-- Pass on what rendering a line gives out. -/
def display (host : Host η) (outputs : List VideoOutput) (h : η) : η :=
  outputs.foldl
    (fun h o => match o with
      | .scanline s => host.scanline s h
      | .note n => host.notice n h)
    h

def released (host : Host η) : Host η := { host with pressed := fun _ h => (false, h) }

def holding (host : Host η) (held : HeldButtons) : Host η :=
  { host with pressed := fun x h => (held.contains x, h) }

@[simp] theorem report_nil (host : Host η) (h : η) : host.report [] h = h := rfl

@[simp] theorem report_cons (host : Host η) (n : Notice) (ns : List Notice) (h : η) :
    host.report (n :: ns) h = host.report ns (host.notice n h) := rfl

theorem report_append (host : Host η) (ns ms : List Notice) (h : η) :
    host.report (ns ++ ms) h = host.report ms (host.report ns h) := by
  simp [report, List.foldl_append]

end Host
end Genesis
